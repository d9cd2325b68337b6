import Mathlib.Data.List.Nodup
import TracingLexer.Proofs.Automaton.Blocks
import TracingLexer.Proofs.Automaton.Chains
import TracingLexer.Proofs.Scanner.Traces

namespace TracingLexer

namespace Segment

variable {segment : Segment} {kind : Kind} {literal : String}

theorem characters_ne_nil_of_mem {symbols : List Symbol} {c : Char}
    (member : Symbol.char c ∈ symbols) : Symbol.characters symbols ≠ [] :=
  List.ne_nil_of_mem (List.mem_filterMap.mpr ⟨_, member, rfl⟩)

theorem characters_run_ne_nil {run : List Char} (nonempty : run ≠ []) :
    Symbol.characters ((Text.collapse run).map .char ++ [.epsilon]) ≠ [] := by
  have collapsed : Text.collapse run ≠ [] := nonempty ∘ Text.collapse_eq_nil_iff.mp
  rcases List.exists_cons_of_ne_nil collapsed with ⟨c, later, collapse_eq⟩
  apply @characters_ne_nil_of_mem _ c
  simp [collapse_eq]

theorem Reads.characters_ne_nil (reads : Reads segment kind literal) {tail : List Char}
    (fits : segment.Fits tail) : Symbol.characters segment.symbols ≠ [] := by
  cases reads with
  | integer plain =>
      rcases fits with ⟨⟨c, later, rfl, _⟩, _⟩
      exact characters_run_ne_nil (List.cons_ne_nil c later)
  | decimal point =>
      rcases fits with ⟨⟨c, later, rfl, _⟩, _⟩
      exact characters_run_ne_nil (List.cons_ne_nil c later)
  | word letters =>
      rcases fits.1.first with ⟨c, later, rfl, _⟩
      exact characters_run_ne_nil (List.cons_ne_nil c later)
  | character value => exact characters_ne_nil_of_mem List.mem_cons_self
  | string content closed =>
      exact characters_ne_nil_of_mem (List.mem_append_right _ (List.mem_singleton_self _))
  | call function kept =>
      exact characters_ne_nil_of_mem (List.mem_append_right _ (List.mem_singleton_self _))
  | operator c => exact characters_ne_nil_of_mem List.mem_cons_self
  | punctuator c => exact characters_ne_nil_of_mem List.mem_cons_self

end Segment

namespace Dfa

theorem insertId_perm {id : Nat} {ids : List Nat} (absent : id ∉ ids) :
    (insertId id ids).Perm (id :: ids) := by
  fun_induction insertId id ids with
  | case1 => rfl
  | case2 first rest before => rfl
  | case3 rest behind => exact absurd List.mem_cons_self absent
  | case4 first rest behind other ih =>
      rw [List.mem_cons, not_or] at absent
      exact ((ih absent.2).cons first).trans (.swap id first rest)

theorem length_blocksFrom (opened : Block) (index : Nat) (states : List State) :
    (blocksFrom opened index states).length =
      (Symbol.characters (states.map State.symbol)).length + 1 := by
  fun_induction blocksFrom opened index states with
  | case1 opened index => rfl
  | case2 opened index state rest silent ih =>
      rw [ih, List.map_cons, silent]
      rfl
  | case3 opened index state rest c reads ih =>
      rw [List.length_cons, ih, List.map_cons, reads]
      rfl

theorem arrows_blocksFrom {opened : Block} (unlinked : opened.arrows = ∅) (index : Nat)
    (states : List State) (place : Nat) :
    ((blocksFrom opened index states)[place]?.map (·.arrows.toList)).getD [] =
      ((Symbol.characters (states.map State.symbol))[place]?.map fun c =>
        ⟨.char c, index + place + 1⟩).toList := by
  fun_induction blocksFrom opened index states generalizing place with
  | case1 opened index =>
      cases place with
      | zero =>
          change opened.arrows.toList = []
          rw [unlinked]
          rfl
      | succ place => rfl
  | case2 opened index state rest silent ih =>
      rw [ih unlinked, List.map_cons, silent]
      rfl
  | case3 opened index state rest c reads ih =>
      rw [List.map_cons, reads]
      cases place with
      | zero =>
          rw [unlinked]
          rfl
      | succ place =>
          rw [List.getElem?_cons_succ, ih rfl]
          simp [Symbol.characters, Symbol.char?, Nat.add_right_comm, Nat.add_assoc]

theorem accepting_blocksFrom {opened : Block} (refusing : opened.accepting = false) (index : Nat)
    {states : List State} (marked : State.LastAccepts states) :
    (blocksFrom opened index states).map Block.accepting =
      List.replicate (Symbol.characters (states.map State.symbol)).length false ++ [true] := by
  fun_induction blocksFrom opened index states with
  | case1 opened index => simp [State.LastAccepts] at marked
  | case2 opened index state rest silent ih =>
      rw [List.map_cons, silent]
      cases rest with
      | nil =>
          have last := State.lastAccepts_singleton.mp marked
          simp [blocksFrom, last, Symbol.characters, Symbol.char?]
      | cons next rest =>
          rcases State.lastAccepts_cons_cons.mp marked with ⟨quiet, later⟩
          exact ih (by rw [refusing, quiet]; rfl) later
  | case3 opened index state rest c reads ih =>
      rw [List.map_cons, List.map_cons, reads]
      cases rest with
      | nil =>
          have last := State.lastAccepts_singleton.mp marked
          simp [blocksFrom, last, refusing, Symbol.characters, Symbol.char?]
      | cons next rest =>
          rcases State.lastAccepts_cons_cons.mp marked with ⟨quiet, later⟩
          rw [ih quiet later, refusing]
          rfl

theorem ids_blocksFrom {opened : Block} (index : Nat) {states : List State}
    (distinct : (opened.ids ++ states.map State.id).Nodup) :
    ((blocksFrom opened index states).flatMap Block.ids).Perm
      (opened.ids ++ states.map State.id) := by
  fun_induction blocksFrom opened index states with
  | case1 opened index => simp
  | case2 opened index state rest silent ih =>
      rw [List.map_cons] at distinct ⊢
      have absent : state.id ∉ opened.ids := fun member =>
        List.disjoint_of_nodup_append distinct member List.mem_cons_self
      have joined : (insertId state.id opened.ids ++ rest.map State.id).Perm
          (opened.ids ++ state.id :: rest.map State.id) := by
        calc
          List.Perm _ (state.id :: opened.ids ++ rest.map State.id) :=
            (insertId_perm absent).append_right _
          List.Perm _ (opened.ids ++ state.id :: rest.map State.id) := List.perm_middle.symm
      exact (ih (joined.nodup_iff.mpr distinct)).trans joined
  | case3 opened index state rest c reads ih =>
      rw [List.flatMap_cons]
      exact (ih (List.nodup_append.mp distinct).2.1).append_left opened.ids

structure Splits (dfa : Dfa) (ids : List Nat) : Prop where
  disjoint : dfa.blocks.Pairwise fun left right => left.ids.Disjoint right.ids
  covers : ∀ id, id ∈ ids ↔ ∃ block ∈ dfa.blocks, id ∈ block.ids

variable {trace : List State}

theorem splits_ofTrace (distinct : (trace.map State.id).Nodup) :
    (ofTrace trace).Splits (trace.map State.id) := by
  have perm := @ids_blocksFrom ⟨[], false, ∅⟩ 0 trace distinct
  rw [← blocks_ofTrace distinct] at perm
  constructor
  case disjoint => exact (List.nodup_flatMap.mp (perm.nodup_iff.mpr distinct)).2
  case covers =>
    intro id
    rw [← List.mem_flatMap]
    exact perm.mem_iff.symm

theorem chained_ofTrace (distinct : (trace.map State.id).Nodup)
    (marked : State.LastAccepts trace) :
    (ofTrace trace).automaton.Chained
      ((Symbol.characters (trace.map State.symbol)).map .char) := by
  constructor
  case size =>
    change (ofTrace trace).blocks.length = _
    rw [blocks_ofTrace distinct, length_blocksFrom, List.length_map]
  case start => rfl
  case arrows =>
    intro index
    change ((ofTrace trace).blocks[index]?.map (·.arrows.toList)).getD [] = _
    rw [blocks_ofTrace distinct, arrows_blocksFrom rfl, List.getElem?_map, Option.map_map,
      Nat.zero_add]
    rfl
  case accepting =>
    change (ofTrace trace).blocks.map Block.accepting = _
    rw [blocks_ofTrace distinct, accepting_blocksFrom rfl 0 marked, List.length_map]

end Dfa

theorem Nfa.chained_ofTrace {trace : List State} (orderly : State.Orderly trace) :
    (ofTrace trace).automaton.Chained (trace.map State.symbol).tail := by
  constructor
  case size =>
    have positive := List.length_pos_iff.mpr orderly.marked.ne_nil
    change (positionsFrom trace 0 trace).length = _
    rw [length_positionsFrom, List.length_tail, List.length_map]
    omega
  case start => rfl
  case arrows =>
    intro index
    rw [arrows_ofTrace orderly.distinct orderly.forward, List.getElem?_tail, List.getElem?_map,
      Option.map_map]
    rfl
  case accepting =>
    rw [accepting_ofTrace, List.length_tail, List.length_map]
    exact orderly.marked

theorem characters_ne_nil_of_tokenize {text : String} {tokens : List Token}
    (scanned : tokenize text = .ok tokens) {token : Token} (member : token ∈ tokens)
    (notEnd : token.kind ≠ .eof) : Symbol.characters token.shape ≠ [] := by
  rcases exists_segment_of_tokenize scanned member notEnd with ⟨segment, _, reader, fits, found⟩
  rw [Token.shape, Scanner.trace_of_tokenOf? found, Segment.map_symbol_trace]
  exact (Scanner.reads_of_tokenOf? found).characters_ne_nil fits

/-- Both automata of a token are rows of states. The deterministic one has a state before and
behind each character on the trace, and the word of these characters is all it accepts. -/
theorem chained_of_tokenize {text : String} {tokens : List Token}
    (scanned : tokenize text = .ok tokens) {token : Token} (member : token ∈ tokens)
    (notEnd : token.kind ≠ .eof) :
    let characters := Symbol.characters token.shape
    let dfa := Dfa.ofTrace token.trace
    1 ≤ characters.length ∧
      dfa.automaton.Chained (characters.map .char) ∧
      dfa.reachable = List.range (characters.length + 1) ∧
      dfa.automaton.language = {characters} ∧
      dfa.Splits (token.trace.map State.id) ∧
      (Nfa.ofTrace token.trace).automaton.Chained token.shape.tail := by
  intro characters dfa
  have orderly := orderly_of_tokenize scanned member notEnd
  have chained : dfa.automaton.Chained (characters.map .char) :=
    Dfa.chained_ofTrace orderly.distinct orderly.marked
  refine ⟨?_, chained, ?_, ?_, Dfa.splits_ofTrace orderly.distinct, Nfa.chained_ofTrace orderly⟩
  · exact List.length_pos_iff.mpr (characters_ne_nil_of_tokenize scanned member notEnd)
  · rw [← List.length_map Symbol.char]
    exact chained.breadthFirst_eq
  · rw [chained.language_eq, Symbol.characters_map_char]

/-- A run of digits, where two states stand for the digits and one reads nothing. -/
theorem chained_of_tokenize_digits :
    let token : Token := ⟨.integer, "112",
      [⟨0, false, .char '1', ∅⟩, ⟨1, false, .char '2', ∅⟩, ⟨2, true, .epsilon, ∅⟩], none⟩
    tokenize "112" = .ok [token, Token.eof] ∧ token.kind ≠ .eof ∧
      1 ≤ (Symbol.characters token.shape).length ∧
      (Dfa.ofTrace token.trace).automaton.Chained [.char '1', .char '2'] ∧
      (Dfa.ofTrace token.trace).reachable = [0, 1, 2] ∧
      (Dfa.ofTrace token.trace).automaton.language = {['1', '2']} ∧
      (Dfa.ofTrace token.trace).Splits [0, 1, 2] ∧
      (Nfa.ofTrace token.trace).automaton.Chained [.char '2', .epsilon] := by
  intro token
  have scanned : tokenize "112" = .ok [token, Token.eof] := by decide +kernel
  have notEnd : token.kind ≠ .eof := by decide
  exact ⟨scanned, notEnd, chained_of_tokenize scanned List.mem_cons_self notEnd⟩

end TracingLexer
