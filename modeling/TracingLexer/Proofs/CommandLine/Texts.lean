import TracingLexer.Proofs.Drawing
import TracingLexer.Report

namespace TracingLexer.Report

variable (tokens : List Token)

def listingText : String :=
  String.join (tokens.map fun token => "(" ++ token.literal ++ ", " ++ token.kind.name ++ ")\n")

def baseText (source : String) : String :=
  let ruled := String.ofList (List.replicate 40 '─') ++ "\n"
  "Source Code:\n" ++ ruled ++ source ++ "\n\nTokens:\n" ++ ruled ++
    String.join (tokens.map fun token => token.display ++ "\n")

def automataText : String :=
  "\n=== Complete Lexical Analysis Automata ===\n" ++
    String.join ((tokens.zipIdx.filter fun entry => entry.1.IsFirst tokens entry.2).map
      fun entry => entry.1.automataListing)

def tableText : String :=
  let ruled := String.ofList (List.replicate 51 '-') ++ "\n"
  "\nSymbol Table:\n" ++ ruled ++ "| Name       | Type       | Scope    | Value      |\n" ++ ruled ++
    String.join ((SymbolTable.ofTokens tokens).entries.map fun entry =>
      SymbolTable.row entry ++ "\n") ++ ruled

def text (style : ReportStyle) (source : String) : String :=
  if style.json then (tokensToJson tokens).pretty ++ "\n"
  else
    baseText tokens source ++ (if style.automata then automataText tokens else "") ++
      (if style.symbolTable then tableText tokens else "")

theorem tokenFile_eq : tokenFile tokens = listingText tokens := by
  simp only [tokenFile, Text.lines_map, listingText, tokenLine, String.append_assoc]
  rfl

theorem base_eq (source : String) : base source tokens = baseText tokens source := by
  have title : "Source Code:\n" = "Source Code:" ++ "\n" := rfl
  have heading : "\n\nTokens:\n" = "\n" ++ "\n" ++ "Tokens:" ++ "\n" := rfl
  unfold base baseText
  rw [title, heading]
  simp only [Text.lines_append, Text.lines_cons, Text.lines_nil, Text.lines_map, rule, Text.rule,
    String.append_assoc, String.empty_append]

theorem automata_eq : Listing.automata tokens = automataText tokens := by
  unfold Listing.automata automataText Listing.drawn
  rw [List.map_map, Listing.drawnPlaces_eq, Function.comp_def]

theorem table_eq : (SymbolTable.ofTokens tokens).render = tableText tokens := by
  have title : "\nSymbol Table:\n" = "\n" ++ "Symbol Table:" ++ "\n" := rfl
  have header : "| Name       | Type       | Scope    | Value      |\n" =
      SymbolTable.header ++ "\n" := rfl
  unfold SymbolTable.render tableText
  rw [title, header]
  simp only [Text.lines_append, Text.lines_cons, Text.lines_nil, Text.lines_map,
    SymbolTable.border, Text.rule, String.append_assoc, String.empty_append, String.append_empty]

theorem render_eq (style : ReportStyle) (source : String) :
    render style source tokens = text tokens style source := by
  rw [render, text, base_eq, automata_eq, table_eq]
  rfl

example : text [Token.eof] ⟨true, true, true⟩ "" = "\n".intercalate [
    "[",
    "  \x7b",
    "    \"kind\": \"Eof\",",
    "    \"literal\": \"EOF\",",
    "    \"trace\": []",
    "  \x7d",
    "]",
    ""] := by
  decide +kernel

end TracingLexer.Report
