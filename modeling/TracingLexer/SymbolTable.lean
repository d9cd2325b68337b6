import TracingLexer.Text.Layout
import TracingLexer.TokenData

namespace TracingLexer

structure Entry where
  name : String
  category : String
  scope : String
  value : String
  deriving DecidableEq, Repr

def Entry.ofToken? (token : Token) : Option Entry :=
  let name := token.literal
  match token.kind with
  | .datatype => some ⟨name, "DATATYPE", "Global", "-"⟩
  | .keyword => some ⟨name, "Keyword", "Global", "-"⟩
  | .identifier => some ⟨name, "Identifier", (token.scope.getD .nested).name, "-"⟩
  | .integer => some ⟨name, "Integer", "Constant", name⟩
  | .decimal => some ⟨name, "Decimal", "Constant", name⟩
  | .boolean => some ⟨name, "Boolean", "Constant", name⟩
  | .string => some ⟨name, "String", "Global", name⟩
  | .operator => some ⟨name, "Operator", "Global", "-"⟩
  | .character => some ⟨name, "CHARACTER", "Local", "-"⟩
  | .punctuator => some ⟨name, "Punctuator", "Global", "-"⟩
  | .output => some ⟨name, "OUTPUT", "Global", "-"⟩
  | .input => some ⟨name, "INPUT", "Global", "-"⟩
  | .eof => none

structure SymbolTable where
  entries : List Entry := []
  deriving DecidableEq, Repr

namespace SymbolTable

def add (table : SymbolTable) (entry : Entry) : SymbolTable := ⟨table.entries ++ [entry]⟩

def addTokens (table : SymbolTable) (tokens : List Token) : SymbolTable :=
  ⟨table.entries ++ tokens.filterMap Entry.ofToken?⟩

def ofTokens (tokens : List Token) : SymbolTable := ({} : SymbolTable).addTokens tokens

def border : String := Text.rule '-' 51

def header : String := "| Name       | Type       | Scope    | Value      |"

def row (entry : Entry) : String :=
  "| " ++ Text.padRight 10 entry.name ++ " | " ++ Text.padRight 10 entry.category ++ " | " ++
    Text.padRight 8 entry.scope ++ " | " ++ Text.padRight 10 entry.value ++ " |"

def render (table : SymbolTable) : String :=
  Text.lines (["", "Symbol Table:", border, header, border] ++ table.entries.map row ++ [border])

def entryToJson (entry : Entry) : Json :=
  .record [("name", .text entry.name), ("category", .text entry.category),
    ("scope", .text entry.scope), ("value", .text entry.value)]

def toJson (table : SymbolTable) : Json :=
  .record [("table", .list (table.entries.map entryToJson))]

end SymbolTable
end TracingLexer
