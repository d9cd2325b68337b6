import TracingLexer.Automaton.Listing
import TracingLexer.Proofs.Drawing
import TracingLexer.Proofs.Lists
import TracingLexer.Proofs.Views

namespace TracingLexer

namespace Automaton

open Listing (arrowLine finalMark)

def stateLines (automaton : Automaton) (line name : Nat → String) : List String :=
  automaton.states.flatMap fun state =>
    (line state ++ finalMark (automaton.accepting.getD state false)) ::
      (automaton.arrows state).map fun arrow => arrowLine arrow.symbol (name arrow.target)

/-- States in a row, line by line: the last one alone is final, and an arrow with the symbol at its
place leads to the next state from each of the others. -/
def rowText (line name : Nat → String) (symbols : List Symbol) : String :=
  String.join ((List.range (symbols.length + 1)).map fun index =>
    line index ++ (if index = symbols.length then " (Final)" else "") ++ "\n" ++
      match symbols[index]? with
      | some symbol => "│── -" ++ symbol.display ++ "→ " ++ name (index + 1) ++ "\n"
      | none => "")

variable {automaton : Automaton} {symbols : List Symbol}

theorem Chained.getD_accepting (chained : automaton.Chained symbols) {index : Nat}
    (inside : index ≤ symbols.length) :
    automaton.accepting.getD index false = decide (index = symbols.length) := by
  rw [chained.accepting, List.getD_eq_getElem?_getD, List.getElem?_append, List.length_replicate]
  split
  next before =>
    rw [List.getElem?_replicate, if_pos before, decide_eq_false before.ne]
    rfl
  next behind =>
    have last : index = symbols.length := Nat.le_antisymm inside (Nat.le_of_not_lt behind)
    rw [last, Nat.sub_self, decide_eq_true rfl]
    rfl

theorem Chained.lines_stateLines (chained : automaton.Chained symbols) (line name : Nat → String) :
    Text.lines (automaton.stateLines line name) = rowText line name symbols := by
  rw [stateLines, states, chained.size, rowText, Text.lines_flatMap]
  congr 1
  apply List.map_congr_left
  intro index member
  have inside : index ≤ symbols.length := Nat.le_of_lt_succ (List.mem_range.mp member)
  rw [chained.getD_accepting inside, chained.arrows, Text.lines_cons]
  cases symbols[index]? <;> simp [finalMark, arrowLine, Text.lines]

example :
    rowText (fun index => s!"D{index}") (fun index => s!"D{index}") [.char 'a', .char '\n'] =
      "D0\n│── -a→ D1\nD1\n│── -\\n→ D2\nD2 (Final)\n" := by
  decide

theorem rowText_congr {line other name rename : Nat → String}
    (sameLine : ∀ index ≤ symbols.length, line index = other index)
    (sameName : ∀ index ≤ symbols.length, name index = rename index) :
    rowText line name symbols = rowText other rename symbols := by
  rw [rowText, rowText]
  congr 1
  apply List.map_congr_left
  intro index member
  have inside : index ≤ symbols.length := Nat.le_of_lt_succ (List.mem_range.mp member)
  rw [sameLine index inside]
  cases found : symbols[index]? with
  | none => rfl
  | some symbol =>
      have below : index < symbols.length := (List.getElem?_eq_some_iff.mp found).1
      rw [sameName (index + 1) below]

end Automaton

namespace Listing

open Automaton (rowText)

def entryMark (symbol : Symbol) : String := if symbol = .epsilon then "-" else symbol.display

def ofShape (literal : String) (kind : Kind) (shape : List Symbol) (first : Nat) : String :=
  let ruled := String.ofList (List.replicate 50 '─') ++ "\n"
  "\n=== Token: " ++ literal ++ " (" ++ kind.name ++ ") ===\n\n" ++
    "NFA States and Transitions:\n" ++ ruled ++
    rowText (fun index => s!"q{first + index} [" ++ entryMark (shape.getD index .epsilon) ++ "]")
      (fun index => s!"q{first + index}") shape.tail ++
    "\nDFA States and Transitions:\n" ++ ruled ++
    rowText (fun index => s!"D{index}") (fun index => s!"D{index}")
      (shape.filter (· ≠ .epsilon))

theorem flatMap_eq_flatMap_range {α β : Type} {items : List α} {view : α → List β}
    {place : Nat → List β}
    (same : ∀ (index : Nat) (item : α), items[index]? = some item → view item = place index) :
    items.flatMap view = (List.range items.length).flatMap place := by
  rw [List.flatMap_def, List.flatMap_def, map_eq_map_range same]

theorem enteredBy_eq (symbol : Symbol) : enteredBy symbol = entryMark symbol := by
  cases symbol <;> rfl

theorem nfaLines_eq (nfa : Nfa) :
    nfaLines nfa =
      ["NFA States and Transitions:", rule] ++
        nfa.automaton.stateLines
          (fun index => s!"q{idAt nfa index} [" ++
            enteredBy ((nfa.positions[index]?.map Position.symbol).getD .epsilon) ++ "]")
          (fun index => s!"q{idAt nfa index}") := by
  apply congrArg (["NFA States and Transitions:", rule] ++ ·)
  apply flatMap_eq_flatMap_range
  intro index position present
  simp [positionLines, idAt, present, Nfa.automaton]

theorem dfaLines_eq {dfa : Dfa} (found : dfa.reachable = List.range dfa.blocks.length) :
    dfaLines dfa =
      ["DFA States and Transitions:", rule] ++
        dfa.automaton.stateLines Dfa.label Dfa.label := by
  have lines_eq : blockLines dfa = fun index =>
      (Dfa.label index ++ finalMark (dfa.automaton.accepting.getD index false)) ::
        (dfa.automaton.arrows index).map fun arrow =>
          arrowLine arrow.symbol (Dfa.label arrow.target) := by
    funext index
    simp [blockLines, Dfa.isAccepting, Dfa.automaton]
  rw [dfaLines, found, lines_eq]
  rfl

theorem idAt_ofTrace (trace : List State) (index : Nat) :
    idAt (.ofTrace trace) index = (trace.map State.id)[index]?.getD 0 := by
  rw [idAt, Nfa.ofTrace, Nfa.getElem?_positionsFrom, Option.map_map, List.getElem?_map]
  rfl

theorem symbol_ofTrace (trace : List State) (index : Nat) :
    ((Nfa.ofTrace trace).positions[index]?.map Position.symbol).getD .epsilon =
      (trace.map State.symbol).getD index .epsilon := by
  rw [Nfa.ofTrace, Nfa.getElem?_positionsFrom, Option.map_map, List.getD_eq_getElem?_getD,
    List.getElem?_map]
  rfl

end Listing

open Listing Automaton

theorem Symbol.map_char_characters (symbols : List Symbol) :
    (Symbol.characters symbols).map .char = symbols.filter (· ≠ .epsilon) := by
  induction symbols with
  | nil => rfl
  | cons symbol symbols ih =>
      cases symbol with
      | epsilon =>
          rw [List.filter_cons_of_neg (by simp)]
          exact ih
      | char c =>
          rw [List.filter_cons_of_pos (by simp)]
          exact congrArg (Symbol.char c :: ·) ih

variable {text : String} {tokens : List Token} {token : Token}

theorem nfaLines_of_tokenize (scanned : tokenize text = .ok tokens) (member : token ∈ tokens)
    (notEnd : token.kind ≠ .eof) :
    Text.lines (nfaLines (Nfa.ofTrace token.trace)) =
      "NFA States and Transitions:" ++ "\n" ++ (rule ++ "\n" ++
        rowText
          (fun index => s!"q{token.firstId + index} [" ++
            entryMark (token.shape.getD index .epsilon) ++ "]")
          (fun index => s!"q{token.firstId + index}") token.shape.tail) := by
  have orderly := orderly_of_tokenize scanned member notEnd
  have ids : ∀ index ≤ token.shape.tail.length,
      idAt (.ofTrace token.trace) index = token.firstId + index := by
    intro index inside
    have positive : 0 < token.shape.length := by
      rw [Token.shape, List.length_map]
      exact List.length_pos_iff.mpr orderly.marked.ne_nil
    rw [List.length_tail] at inside
    rw [idAt_ofTrace, map_id_of_tokenize scanned member notEnd,
      List.getElem?_range' (by omega), Option.getD_some, Nat.one_mul]
  rw [nfaLines_eq, List.cons_append, List.cons_append, List.nil_append, Text.lines_cons,
    Text.lines_cons, (Nfa.chained_ofTrace orderly).lines_stateLines]
  apply congrArg fun shown => "NFA States and Transitions:" ++ "\n" ++ (rule ++ "\n" ++ shown)
  apply rowText_congr
  · intro index inside
    rw [ids index inside, symbol_ofTrace, enteredBy_eq, Token.shape]
  · intro index inside
    rw [ids index inside]

theorem dfaLines_of_tokenize (scanned : tokenize text = .ok tokens) (member : token ∈ tokens)
    (notEnd : token.kind ≠ .eof) :
    Text.lines (dfaLines (Dfa.ofTrace token.trace)) =
      "DFA States and Transitions:" ++ "\n" ++ (rule ++ "\n" ++
        rowText (fun index => s!"D{index}") (fun index => s!"D{index}")
          (token.shape.filter (· ≠ .epsilon))) := by
  have orderly := orderly_of_tokenize scanned member notEnd
  have chained := Dfa.chained_ofTrace orderly.distinct orderly.marked
  have found := chained.breadthFirst_eq
  rw [← chained.size] at found
  rw [dfaLines_eq found, List.cons_append, List.cons_append, List.nil_append, Text.lines_cons,
    Text.lines_cons, chained.lines_stateLines, ← Symbol.map_char_characters]
  rfl

theorem automataListing_of_tokenize (scanned : tokenize text = .ok tokens)
    (member : token ∈ tokens) (notEnd : token.kind ≠ .eof) :
    token.automataListing = ofShape token.literal token.kind token.shape token.firstId := by
  have nonempty := (orderly_of_tokenize scanned member notEnd).marked.ne_nil
  -- The headings are cut where their lines end, since the listing joins single lines.
  have opening : "\n=== Token: " = "\n" ++ "=== Token: " := rfl
  have heading : ") ===\n\n" = ") ===" ++ "\n" ++ "\n" := rfl
  have title : "NFA States and Transitions:\n" = "NFA States and Transitions:" ++ "\n" := rfl
  have second : "\nDFA States and Transitions:\n" =
      "\n" ++ "DFA States and Transitions:" ++ "\n" := rfl
  unfold Token.automataListing ofShape
  rw [if_neg (by simpa using nonempty), opening, heading, title, second]
  simp only [Text.lines_append, Text.lines_cons, Text.lines_nil,
    nfaLines_of_tokenize scanned member notEnd, dfaLines_of_tokenize scanned member notEnd, rule,
    Text.rule, String.append_assoc, String.empty_append]

/-- Literal, kind, shape and first id decide the listing of a token. All automata together are the
listings of the first tokens of each kind and shape, below a title. -/
theorem listing_of_tokenize (scanned : tokenize text = .ok tokens) :
    (∀ token ∈ tokens, token.kind ≠ .eof → ∃ state rest, token.trace = state :: rest ∧
      token.automataListing = ofShape token.literal token.kind token.shape state.id) ∧
      Listing.automata tokens =
        "\n=== Complete Lexical Analysis Automata ===\n" ++
          String.join ((tokens.zipIdx.filter fun entry => entry.1.IsFirst tokens entry.2).map
            fun entry =>
              ofShape entry.1.literal entry.1.kind entry.1.shape entry.1.firstId) := by
  constructor
  · intro token member notEnd
    have nonempty := (orderly_of_tokenize scanned member notEnd).marked.ne_nil
    obtain ⟨state, rest, split⟩ := List.exists_cons_of_ne_nil nonempty
    have first : token.firstId = state.id := by
      rw [Token.firstId, split]
      rfl
    exact ⟨state, rest, split, first ▸ automataListing_of_tokenize scanned member notEnd⟩
  · have listed : (drawnPlaces tokens).map (Token.automataListing ∘ Prod.fst) =
        (drawnPlaces tokens).map fun entry =>
          ofShape entry.1.literal entry.1.kind entry.1.shape entry.1.firstId := by
      apply List.map_congr_left
      intro entry chosen
      rw [drawnPlaces_eq, List.mem_filter, List.mem_zipIdx_iff_getElem?, decide_eq_true_eq]
        at chosen
      exact automataListing_of_tokenize scanned (List.mem_of_getElem? chosen.1) chosen.2.1
    unfold Listing.automata drawn
    rw [List.map_map, listed, drawnPlaces_eq]

/-- Digits, some of which repeat, and a blank between two equal numbers. -/
theorem listing_of_tokenize_digits :
    let first : Token := ⟨.integer, "112", State.chain 0 [.char '1', .char '2', .epsilon], none⟩
    let token : Token := ⟨.integer, "12", State.chain 3 [.char '1', .char '2', .epsilon], none⟩
    let tokens := [first, token, Token.eof]
    tokenize "112 12" = .ok tokens ∧
      token.automataListing = "\n".intercalate [
        "",
        "=== Token: 12 (INTEGER) ===",
        "",
        "NFA States and Transitions:",
        "──────────────────────────────────────────────────",
        "q3 [1]",
        "│── -2→ q4",
        "q4 [2]",
        "│── -ε→ q5",
        "q5 [-] (Final)",
        "",
        "DFA States and Transitions:",
        "──────────────────────────────────────────────────",
        "D0",
        "│── -1→ D1",
        "D1",
        "│── -2→ D2",
        "D2 (Final)",
        ""] ∧
      Listing.automata tokens =
        "\n=== Complete Lexical Analysis Automata ===\n" ++
          String.join [ofShape "112" .integer [.char '1', .char '2', .epsilon] 0] := by
  intro first token tokens
  have scanned : tokenize "112 12" = .ok tokens := by decide +kernel
  have notEnd : token.kind ≠ .eof := by decide
  have firsts : (tokens.zipIdx.filter fun entry => entry.1.IsFirst tokens entry.2) =
      [(first, 0)] := by decide
  have listed := listing_of_tokenize scanned
  rw [firsts] at listed
  obtain ⟨state, rest, split, listing⟩ := listed.1 token (by decide) notEnd
  refine ⟨scanned, ?_, listed.2⟩
  cases split
  rw [listing]
  decide +kernel

end TracingLexer
