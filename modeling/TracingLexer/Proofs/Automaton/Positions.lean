import Mathlib.Data.List.Nodup
import TracingLexer.Automaton.Nfa

namespace TracingLexer

namespace State

/-- The arrows recorded on a state lead to the next one, under its symbol. -/
def LinksForward (states : List State) : Prop :=
  ∀ (index : Nat) (state : State), states[index]? = some state → ∀ arrow ∈ state.arrows,
    ∃ next, states[index + 1]? = some next ∧ arrow = ⟨next.symbol, next.id⟩

end State

namespace Nfa

theorem getElem?_positionsFrom (states rest : List State) (first index : Nat) :
    (positionsFrom states first rest)[index]? = rest[index]?.map fun state =>
      { id := state.id, symbol := state.symbol, accepting := state.accepting
        arrows := (ArrowSet.empty.insertAll (recordedArrows states state)).insertAll
          (rest[index + 1]?.toList.map fun next => ⟨next.symbol, first + index + 1⟩) } := by
  induction rest generalizing first index with
  | nil => rfl
  | cons state rest ih =>
      cases index with
      | zero => simp [positionsFrom, List.head?_eq_getElem?]
      | succ index =>
          rw [positionsFrom, List.getElem?_cons_succ, ih, List.getElem?_cons_succ,
            List.getElem?_cons_succ, Nat.add_right_comm first 1 index, Nat.add_assoc first index 1]

@[simp] theorem length_positionsFrom (states rest : List State) (first : Nat) :
    (positionsFrom states first rest).length = rest.length := by
  induction rest generalizing first with
  | nil => rfl
  | cons state rest ih => rw [positionsFrom, List.length_cons, ih, List.length_cons]

theorem map_positionsFrom {View : Type} (view : Position → View) (seen : State → View)
    (shows : ∀ state arrows, view ⟨state.id, state.symbol, state.accepting, arrows⟩ = seen state)
    (states rest : List State) (first : Nat) :
    (positionsFrom states first rest).map view = rest.map seen := by
  induction rest generalizing first with
  | nil => rfl
  | cons state rest ih => rw [positionsFrom, List.map_cons, ih, shows, List.map_cons]

theorem exists_of_lastWithId? {states : List State} {id index : Nat}
    (found : lastWithId? id states = some index) :
    ∃ state, states[index]? = some state ∧ state.id = id := by
  induction states generalizing index with
  | nil => simp [lastWithId?] at found
  | cons state rest ih =>
      rw [lastWithId?] at found
      cases later : lastWithId? id rest with
      | some place =>
          rw [later, Option.some.injEq] at found
          rw [← found, List.getElem?_cons_succ]
          exact ih later
      | none =>
          rw [later] at found
          by_cases here : state.id = id
          · rw [if_pos here, Option.some.injEq] at found
            exact ⟨state, by rw [← found, List.getElem?_cons_zero], here⟩
          · rw [if_neg here] at found
            cases found

theorem lastWithId?_of_getElem? {states : List State} {index : Nat} {state : State}
    (distinct : (states.map State.id).Nodup) (present : states[index]? = some state) :
    lastWithId? state.id states = some index := by
  induction states generalizing index with
  | nil => simp at present
  | cons first rest ih =>
      rw [List.map_cons, List.nodup_cons] at distinct
      cases index with
      | zero =>
          rw [List.getElem?_cons_zero, Option.some.injEq] at present
          subst present
          have nowhere : lastWithId? first.id rest = none := by
            rw [Option.eq_none_iff_forall_ne_some]
            intro place found
            rcases exists_of_lastWithId? found with ⟨other, inRest, same⟩
            exact distinct.1 (same ▸ List.mem_map_of_mem (List.mem_of_getElem? inRest))
          rw [lastWithId?, nowhere]
          exact if_pos rfl
      | succ index =>
          rw [List.getElem?_cons_succ] at present
          rw [lastWithId?, ih distinct.2 present]

variable {states : List State} {index : Nat} {state : State}

theorem eq_of_mem_recordedArrows (distinct : (states.map State.id).Nodup)
    (forward : State.LinksForward states) (present : states[index]? = some state) {arrow : Arrow}
    (member : arrow ∈ recordedArrows states state) :
    ∃ next, states[index + 1]? = some next ∧ arrow = ⟨next.symbol, index + 1⟩ := by
  rcases List.mem_filterMap.mp member with ⟨recorded, listed, led⟩
  rcases forward index state present recorded listed with ⟨next, nextPresent, rfl⟩
  rw [lastWithId?_of_getElem? distinct nextPresent, Option.map_some, Option.some.injEq] at led
  exact ⟨next, nextPresent, led.symm⟩

theorem insertAll_insertAll_of_subset {first second : List Arrow} (subset : first ⊆ second) :
    (ArrowSet.empty.insertAll first).insertAll second = ArrowSet.empty.insertAll second := by
  apply ArrowSet.ext
  intro arrow
  rw [ArrowSet.mem_insertAll, ArrowSet.mem_insertAll, ArrowSet.mem_insertAll]
  exact ⟨fun holds => holds.elim .inl (Or.imp_left fun member => subset member),
    Or.imp_right .inr⟩

theorem arrows_ofTrace (distinct : (states.map State.id).Nodup)
    (forward : State.LinksForward states) (index : Nat) :
    (ofTrace states).automaton.arrows index =
      (states[index + 1]?.map fun next => ⟨next.symbol, index + 1⟩).toList := by
  change ((positionsFrom states 0 states)[index]?.map (·.arrows.toList)).getD [] = _
  rw [getElem?_positionsFrom]
  cases present : states[index]? with
  | none =>
      have behind : states[index + 1]? = none :=
        List.getElem?_eq_none (Nat.le_succ_of_le (List.getElem?_eq_none_iff.mp present))
      rw [behind]
      rfl
  | some state =>
      have subset : recordedArrows states state ⊆
          states[index + 1]?.toList.map fun next => ⟨next.symbol, index + 1⟩ := by
        intro arrow member
        rcases eq_of_mem_recordedArrows distinct forward present member with ⟨next, inStates, rfl⟩
        rw [inStates]
        exact List.mem_singleton_self _
      rw [Option.map_some, Nat.zero_add, insertAll_insertAll_of_subset subset]
      cases states[index + 1]? <;> rfl

theorem accepting_ofTrace (states : List State) :
    (ofTrace states).automaton.accepting = states.map State.accepting :=
  map_positionsFrom Position.accepting State.accepting (fun _ _ => rfl) states states 0

end Nfa
end TracingLexer
