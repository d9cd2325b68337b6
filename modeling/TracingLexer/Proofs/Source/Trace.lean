import TracingLexer.Source.Segment

namespace TracingLexer

namespace State

theorem map_linkAll {β : Type} {view : State → β}
    (blind : ∀ state arrow, view (state.addArrow arrow) = view state) (states : List State) :
    (linkAll states).map view = states.map view := by
  induction states with
  | nil => rfl
  | cons state states ih =>
      cases states with
      | nil => rfl
      | cons next rest =>
          rw [linkAll, List.map_cons, ih, blind]
          rfl

def LastAccepts (states : List State) : Prop :=
  states.map State.accepting = List.replicate (states.length - 1) false ++ [true]

theorem lastAccepts_singleton {state : State} : LastAccepts [state] ↔ state.accepting = true := by
  simp [LastAccepts]

theorem lastAccepts_cons_cons {state next : State} {rest : List State} :
    LastAccepts (state :: next :: rest) ↔ state.accepting = false ∧ LastAccepts (next :: rest) := by
  simp [LastAccepts, List.replicate_succ]

theorem LastAccepts.ne_nil {states : List State} (marked : LastAccepts states) : states ≠ [] := by
  rintro rfl
  simp [LastAccepts] at marked

theorem LastAccepts.accepting_iff {states : List State} (marked : LastAccepts states) {index : Nat}
    {state : State} (present : states[index]? = some state) :
    state.accepting = true ↔ index + 1 = states.length := by
  have inside : index < states.length := (List.getElem?_eq_some_iff.mp present).1
  have flag : (states.map State.accepting)[index]? = some state.accepting := by
    rw [List.getElem?_map, present]
    rfl
  rw [marked, List.getElem?_append, List.getElem?_replicate, List.length_replicate] at flag
  by_cases before : index < states.length - 1
  · rw [if_pos before, if_pos before, Option.some.injEq] at flag
    rw [← flag]
    exact iff_of_false Bool.false_ne_true (by omega)
  · have last : index - (states.length - 1) = 0 := by omega
    rw [if_neg before, last, List.getElem?_cons_zero, Option.some.injEq] at flag
    exact iff_of_true flag.symm (by omega)

theorem lastAccepts_chain {first : Nat} {symbols : List Symbol} (nonempty : symbols ≠ []) :
    LastAccepts (chain first symbols) := by
  induction symbols generalizing first with
  | nil => exact absurd rfl nonempty
  | cons symbol symbols ih =>
      cases symbols with
      | nil => exact lastAccepts_singleton.mpr rfl
      | cons next rest =>
          apply lastAccepts_cons_cons.mpr
          exact ⟨rfl, ih (List.cons_ne_nil next rest)⟩

theorem arrows_of_mem_chain {first : Nat} {symbols : List Symbol} {state : State}
    (member : state ∈ chain first symbols) : state.arrows = ∅ := by
  induction symbols generalizing first with
  | nil => simp [chain] at member
  | cons symbol symbols ih =>
      rcases List.mem_cons.mp member with rfl | later
      · rfl
      · exact ih later

end State

namespace Segment

theorem map_trace {β : Type} {view : State → β}
    (blind : ∀ state arrow, view (state.addArrow arrow) = view state) (segment : Segment)
    (first : Nat) :
    (segment.trace first).map view = (State.chain first segment.symbols).map view := by
  cases segment with
  | character value => exact State.map_linkAll blind _
  | _ => rfl

theorem map_symbol_trace (segment : Segment) (first : Nat) :
    (segment.trace first).map State.symbol = segment.symbols := by
  rw [map_trace (fun _ _ => rfl), State.map_symbol_chain]

theorem map_id_trace (segment : Segment) (first : Nat) :
    (segment.trace first).map State.id = List.range' first segment.symbols.length := by
  rw [map_trace (fun _ _ => rfl), State.map_id_chain]

theorem length_trace (segment : Segment) (first : Nat) :
    (segment.trace first).length = segment.symbols.length := by
  rw [← map_symbol_trace segment first, List.length_map]

theorem lastAccepts_trace {segment : Segment} (nonempty : segment.symbols ≠ []) (first : Nat) :
    State.LastAccepts (segment.trace first) := by
  rw [State.LastAccepts, map_trace (fun _ _ => rfl), length_trace]
  have plain := @State.lastAccepts_chain first segment.symbols nonempty
  rwa [State.LastAccepts, State.length_chain] at plain

end Segment
end TracingLexer
