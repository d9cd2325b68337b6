import TracingLexer.Proofs.Scanner.Lexemes
import TracingLexer.Proofs.Source.Trace
import TracingLexer.Proofs.Text.Collapsing

namespace TracingLexer

/-- The symbols on the trace of a token, by its kind and the text gone over for it. -/
inductive Traced : Kind → List Char → List Symbol → Prop where
  | run {kind : Kind} {lexeme : List Char}
      (plain : kind ∈ [Kind.integer, .decimal, .keyword, .datatype, .boolean, .identifier]) :
      Traced kind lexeme ((lexeme.destutter (· ≠ ·)).map .char ++ [.epsilon])
  | string {content : List Char} (inside : '"' ∉ content) :
      Traced .string ('"' :: content ++ ['"'])
        ((('"' :: content).destutter (· ≠ ·)).map .char ++ [.char '"'])
  /-- The closing quote is on the trace, though the text lacks it. -/
  | openString {content : List Char} (inside : '"' ∉ content) :
      Traced .string ('"' :: content)
        ((('"' :: content).destutter (· ≠ ·)).map .char ++ [.char '"'])
  | call (function : Call) {content : List Char} (inside : ')' ∉ content) :
      Traced function.kind (function.name ++ '(' :: content ++ [')'])
        (((function.name ++ '(' :: content).destutter (· ≠ ·)).map .char ++ [.char ')'])
  | whole {kind : Kind} {lexeme : List Char}
      (short : kind ∈ [Kind.character, .operator, .punctuator]) :
      Traced kind lexeme (lexeme.map .char)

structure Token.WellTraced (token : Token) : Prop where
  accepting : ∀ (index : Nat) (state : State), token.trace[index]? = some state →
    (state.accepting = true ↔ index + 1 = token.trace.length)
  distinct : ¬ token.shape.IsChain (· ≠ ·) → token.kind = .string ∧ token.literal = ""
  unlinked : token.kind ≠ .character → ∀ state ∈ token.trace, ∀ arrow, ¬ arrow ∈ state.arrows
  linked : token.kind = .character → ∃ (first second third : State) (c : Char),
    token.literal = String.ofList [c] ∧ token.trace = [first, second, third] ∧
      (∀ arrow, arrow ∈ first.arrows ↔ arrow = ⟨.char c, second.id⟩) ∧
      (∀ arrow, arrow ∈ second.arrows ↔ arrow = ⟨.char '\'', third.id⟩) ∧
      ∀ arrow, ¬ arrow ∈ third.arrows

namespace Segment

theorem traced_symbols {segment : Segment} {tail : List Char} {kind : Kind} {literal : String}
    (fits : segment.Fits tail) (reads : Reads segment kind literal) :
    Traced kind segment.text segment.symbols := by
  cases reads with
  | integer plain =>
      rw [symbols, Text.collapse_eq_destutter]
      exact .run (by decide)
  | decimal point =>
      rw [symbols, Text.collapse_eq_destutter]
      exact .run (by decide)
  | word letters =>
      have listed := wordKind_mem (String.ofList letters)
      rw [symbols, Text.collapse_eq_destutter]
      exact .run (List.mem_append_right [Kind.integer, .decimal] listed)
  | string content closed =>
      rw [symbols, Text.collapse_eq_destutter]
      cases closed with
      | true => exact .string fits.1
      | false =>
          rw [text, if_neg (by decide), List.append_nil]
          exact .openString fits.1
  | call function kept =>
      rw [symbols, Text.collapse_eq_destutter]
      exact .call function fits
  | character value => exact .whole (by decide)
  | operator c => exact .whole (by decide)
  | punctuator c => exact .whole (by decide)

theorem isChain_collapse_append {run : List Char} {mark : Symbol}
    (apart : ∀ c, run.getLast? = some c → Symbol.char c ≠ mark) :
    ((Text.collapse run).map Symbol.char ++ [mark]).IsChain (· ≠ ·) := by
  rw [List.isChain_append]
  refine ⟨?_, List.isChain_singleton mark, ?_⟩
  · rw [List.isChain_map]
    apply (Text.isChain_collapse run).imp
    intro left right different same
    exact different (Symbol.char.inj same)
  · intro last present next isMark
    rw [List.getLast?_map, Text.getLast?_collapse] at present
    obtain ⟨c, isLast, rfl⟩ := Option.map_eq_some_iff.mp present
    obtain rfl : mark = next := Option.some.inj isMark
    exact apart c isLast

theorem eq_or_mem_of_getLast? {opening c : Char} {content : List Char}
    (isLast : (opening :: content).getLast? = some c) :
    c = opening ∧ content = [] ∨ c ∈ content := by
  cases content with
  | nil => simp_all
  | cons next rest =>
      rw [List.getLast?_cons_cons] at isLast
      exact .inr (List.mem_of_getLast? isLast)

theorem isChain_symbols {segment : Segment} {tail : List Char} (fits : segment.Fits tail)
    (nonempty : ∀ closed, segment ≠ string [] closed) : segment.symbols.IsChain (· ≠ ·) := by
  cases segment with
  | number run => exact isChain_collapse_append (by simp)
  | word letters => exact isChain_collapse_append (by simp)
  | character value =>
      have notQuote : value ≠ '\'' := fits
      simp [symbols, notQuote, notQuote.symm]
  | string content closed =>
      apply isChain_collapse_append
      intro c isLast same
      obtain rfl := Symbol.char.inj same
      -- The closing quote repeats its neighbour only where nothing stands between the quotes.
      rcases eq_or_mem_of_getLast? isLast with ⟨_, rfl⟩ | inside
      · exact nonempty closed rfl
      · exact fits.1 inside
  | call function content =>
      apply isChain_collapse_append
      intro c isLast same
      obtain rfl := Symbol.char.inj same
      rw [List.getLast?_append_cons] at isLast
      rcases eq_or_mem_of_getLast? isLast with ⟨opening, _⟩ | inside
      · exact absurd opening (by decide)
      · exact fits inside
  | _ => simp [symbols]

theorem mem_arrows_of_character (value : Char) (first : Nat) :
    ∃ start middle final : State, (character value).trace first = [start, middle, final] ∧
      (∀ arrow, arrow ∈ start.arrows ↔ arrow = ⟨.char value, middle.id⟩) ∧
      (∀ arrow, arrow ∈ middle.arrows ↔ arrow = ⟨.char '\'', final.id⟩) ∧
      ∀ arrow, ¬ arrow ∈ final.arrows := by
  refine ⟨_, _, _, rfl, ?_, ?_, ?_⟩
  · intro arrow
    simp [State.addArrow]
  · intro arrow
    simp [State.addArrow]
  · exact ArrowSet.not_mem_empty

theorem arrows_of_plain {segment : Segment} (plain : ∀ value, segment ≠ character value)
    {first : Nat} {state : State} (member : state ∈ segment.trace first) : state.arrows = ∅ := by
  cases segment with
  | character value => exact absurd rfl (plain value)
  | _ => exact State.arrows_of_mem_chain member

end Segment

open Scanner Segment

theorem wellTraced_of_tokenOf? {reader : Scanner} {segment : Segment} {tail : List Char}
    {token : Token} (fits : segment.Fits tail) (found : reader.tokenOf? segment = some token) :
    token.WellTraced := by
  have reads := reads_of_tokenOf? found
  have trace_eq := trace_of_tokenOf? found
  constructor
  case accepting =>
    intro index state present
    rw [trace_eq] at present ⊢
    exact (lastAccepts_trace reads.symbols_ne_nil reader.nextId).accepting_iff present
  case distinct =>
    intro repeated
    rw [Token.shape, trace_eq, map_symbol_trace] at repeated
    by_cases empty : ∃ closed, segment = .string [] closed
    · rcases empty with ⟨closed, rfl⟩
      exact reads.of_string
    · exact absurd (isChain_symbols fits (not_exists.mp empty)) repeated
  case unlinked =>
    intro plain state member arrow
    have notCharacter : ∀ value, segment ≠ .character value := by
      intro value same
      subst same
      exact plain reads.of_character
    rw [trace_eq] at member
    rw [arrows_of_plain notCharacter member]
    exact ArrowSet.not_mem_empty arrow
  case linked =>
    intro isCharacter
    obtain ⟨value, rfl, literal_eq⟩ := reads.eq_character isCharacter
    obtain ⟨first, second, third, states, links⟩ := mem_arrows_of_character value reader.nextId
    exact ⟨first, second, third, value, literal_eq, trace_eq.trans states, links⟩

theorem wellTraced_eof : Token.eof.WellTraced where
  accepting := by simp [Token.eof]
  distinct := by simp [Token.eof, Token.shape]
  unlinked := by simp [Token.eof]
  linked := by simp [Token.eof]

def lexemes (text : String) : List Lexed := (ofText text.toList).lexed

/-- The traces of the tokens of a text, by their lexemes. -/
theorem traced_of_tokenize {text : String} {tokens : List Token}
    (scanned : tokenize text = .ok tokens) :
    tokens = (lexemes text).map (·.token) ++ [Token.eof] ∧
      (∀ entry ∈ lexemes text, Traced entry.token.kind entry.lexeme entry.token.shape) ∧
      ∀ token ∈ tokens, (token.trace = [] ↔ token.kind = .eof) ∧ token.WellTraced := by
  obtain ⟨segments, covers, tile, tokens_eq⟩ := tokenize_eq_ok_iff.mp scanned
  have lexemes_eq : lexemes text = (ofText text.toList).lexedOf segments :=
    lexed_of_tile (inPlace_ofText text.toList) covers tile
  have tokens_map : tokens = (lexemes text).map (·.token) ++ [Token.eof] := by
    rw [lexemes_eq, map_token_lexedOf]
    exact tokens_eq
  refine ⟨tokens_map, ?_, ?_⟩
  · intro entry member
    rw [lexemes_eq] at member
    obtain ⟨segment, tail, reader, fits, found, same⟩ := exists_of_mem_lexedOf tile member
    rw [same, Token.shape, trace_of_tokenOf? found, map_symbol_trace]
    exact traced_symbols fits (reads_of_tokenOf? found)
  · intro token member
    rw [tokens_map, List.mem_append, List.mem_singleton] at member
    rcases member with inBody | rfl
    · obtain ⟨entry, listed, rfl⟩ := List.mem_map.mp inBody
      rw [lexemes_eq] at listed
      obtain ⟨segment, tail, reader, fits, found, _⟩ := exists_of_mem_lexedOf tile listed
      have reads := reads_of_tokenOf? found
      refine ⟨iff_of_false ?_ reads.kind_ne_eof, wellTraced_of_tokenOf? fits found⟩
      intro empty
      have nonempty : segment.symbols ≠ [] := reads.symbols_ne_nil
      rw [← map_symbol_trace segment reader.nextId, ← trace_of_tokenOf? found, empty] at nonempty
      exact nonempty rfl
    · exact ⟨iff_of_true rfl rfl, wellTraced_eof⟩

theorem traced_of_tokenize_character :
    ∃ tokens, tokenize "'a'112" = .ok tokens ∧
      tokens.map Token.shape =
        [[.char '\'', .char 'a', .char '\''], [.char '1', .char '2', .epsilon], []] ∧
      tokens = (lexemes "'a'112").map (·.token) ++ [Token.eof] ∧
      (∀ entry ∈ lexemes "'a'112", Traced entry.token.kind entry.lexeme entry.token.shape) ∧
      ∀ token ∈ tokens, (token.trace = [] ↔ token.kind = .eof) ∧ token.WellTraced := by
  have shapes : (tokenize "'a'112").map (·.map Token.shape) =
      .ok [[.char '\'', .char 'a', .char '\''], [.char '1', .char '2', .epsilon], []] := by
    decide +kernel
  cases scanned : tokenize "'a'112" with
  | error error =>
      rw [scanned] at shapes
      cases shapes
  | ok tokens =>
      rw [scanned] at shapes
      exact ⟨tokens, rfl, Except.ok.inj shapes, traced_of_tokenize scanned⟩

end TracingLexer
