import TracingLexer.Proofs.Automaton.Positions
import TracingLexer.Proofs.Scanner.Run
import TracingLexer.Proofs.Source.Trace

namespace TracingLexer

namespace State

theorem exists_linkAll_cons (state : State) (rest : List State) :
    ∃ linked more, linkAll (state :: rest) = linked :: more ∧ linked.symbol = state.symbol ∧
      linked.id = state.id := by
  cases rest with
  | nil => exact ⟨state, [], rfl, rfl, rfl⟩
  | cons next rest => exact ⟨_, _, rfl, rfl, rfl⟩

theorem linksForward_of_bare {states : List State}
    (bare : ∀ state ∈ states, state.arrows = ∅) : LinksForward states := by
  intro index state present arrow member
  rw [bare state (List.mem_of_getElem? present)] at member
  exact absurd member (ArrowSet.not_mem_empty arrow)

theorem linksForward_linkAll {states : List State}
    (bare : ∀ state ∈ states, state.arrows = ∅) : LinksForward (linkAll states) := by
  induction states with
  | nil => exact linksForward_of_bare bare
  | cons state rest ih =>
      cases rest with
      | nil => exact linksForward_of_bare bare
      | cons next rest =>
          rw [List.forall_mem_cons] at bare
          have later := ih bare.2
          intro index linked present arrow member
          rw [linkAll] at present ⊢
          cases index with
          | succ index => exact later index linked present arrow member
          | zero =>
              rcases exists_linkAll_cons next rest with ⟨first, more, linked_eq, symbol_eq, id_eq⟩
              rw [List.getElem?_cons_zero, Option.some.injEq] at present
              rw [← present, addArrow, bare.1] at member
              have same : arrow = ⟨next.symbol, next.id⟩ := by simpa using member
              refine ⟨first, ?_, ?_⟩
              · rw [linked_eq]
                rfl
              · rw [same, symbol_eq, id_eq]

end State

namespace Segment

theorem nodup_ids_trace (segment : Segment) (first : Nat) :
    ((segment.trace first).map State.id).Nodup := by
  rw [map_id_trace]
  exact List.nodup_range'

theorem linksForward_trace (segment : Segment) (first : Nat) :
    State.LinksForward (segment.trace first) := by
  cases segment with
  | character value =>
      exact State.linksForward_linkAll fun state member => State.arrows_of_mem_chain member
  | _ => exact State.linksForward_of_bare fun state member => State.arrows_of_mem_chain member

theorem Tile.exists_fits {segments : List Segment} {tail : List Char} (tile : Tile segments tail)
    {segment : Segment} (member : segment ∈ segments) : ∃ rest, segment.Fits rest := by
  induction segments with
  | nil => exact absurd member List.not_mem_nil
  | cons first segments ih =>
      rcases List.mem_cons.mp member with rfl | later
      · exact ⟨_, tile.1⟩
      · exact ih tile.2 later

end Segment

/-- A trace that goes through its states once, in order, and accepts at its end. -/
structure State.Orderly (trace : List State) : Prop where
  distinct : (trace.map State.id).Nodup
  forward : State.LinksForward trace
  marked : State.LastAccepts trace

theorem exists_segment_of_tokenize {text : String} {tokens : List Token}
    (scanned : tokenize text = .ok tokens) {token : Token} (member : token ∈ tokens)
    (notEnd : token.kind ≠ .eof) :
    ∃ (segment : Segment) (rest : List Char) (reader : Scanner), segment.Fits rest ∧
      reader.tokenOf? segment = some token := by
  rcases tokenize_eq_ok_iff.mp scanned with ⟨segments, _, tile, rfl⟩
  rcases List.mem_append.mp member with inBody | last
  · rcases Scanner.exists_of_mem_tokensOf inBody with ⟨segment, listed, reader, found⟩
    rcases tile.exists_fits listed with ⟨rest, fits⟩
    exact ⟨segment, rest, reader, fits, found⟩
  · rw [List.mem_singleton.mp last] at notEnd
    exact absurd rfl notEnd

theorem orderly_of_tokenize {text : String} {tokens : List Token}
    (scanned : tokenize text = .ok tokens) {token : Token} (member : token ∈ tokens)
    (notEnd : token.kind ≠ .eof) : State.Orderly token.trace := by
  rcases exists_segment_of_tokenize scanned member notEnd with ⟨segment, _, reader, _, found⟩
  rw [Scanner.trace_of_tokenOf? found]
  exact {
    distinct := segment.nodup_ids_trace reader.nextId
    forward := segment.linksForward_trace reader.nextId
    marked := Segment.lastAccepts_trace (Scanner.reads_of_tokenOf? found).symbols_ne_nil _ }

end TracingLexer
