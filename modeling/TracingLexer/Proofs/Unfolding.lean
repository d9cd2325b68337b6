import Mathlib.Data.List.Nodup
import Mathlib.Order.Bounds.Basic
import TracingLexer.Proofs.Automaton.Tables

namespace TracingLexer.Nfa

def placesOf (states : List State) (id : Nat) : Set Nat :=
  {place | ∃ state, states[place]? = some state ∧ state.id = id}

structure Unfolds (nfa : Nfa) (states : List State) : Prop where
  size : nfa.automaton.size = states.length
  start : nfa.automaton.start = 0
  ids : nfa.positions.map Position.id = states.map State.id
  symbols : nfa.positions.map Position.symbol = states.map State.symbol
  nodup : ∀ place, (nfa.automaton.arrows place).Nodup
  /-- Arrows that are recorded to ids outside of the trace are left out. -/
  arrows : ∀ place arrow, arrow ∈ nfa.automaton.arrows place ↔
    ∃ state, states[place]? = some state ∧
      ((∃ next, states[place + 1]? = some next ∧ arrow = ⟨next.symbol, place + 1⟩) ∨
        ∃ recorded ∈ state.arrows, arrow.symbol = recorded.symbol ∧
          IsGreatest (placesOf states recorded.target) arrow.target)
  accepting : ∀ place, place ∈ nfa.automaton.acceptors ↔
    ∃ state, states[place]? = some state ∧ state.accepting = true

section Last

variable {states : List State} {id place : Nat}

theorem exists_lastWithId? {other : Nat} (carried : other ∈ placesOf states id) :
    ∃ place, lastWithId? id states = some place ∧ other ≤ place := by
  rcases carried with ⟨carrier, present, same⟩
  induction states generalizing other with
  | nil => cases present
  | cons state states ih =>
      rw [lastWithId?]
      cases other with
      | succ other =>
          rw [List.getElem?_cons_succ] at present
          rcases ih present with ⟨place, found, behind⟩
          rw [found]
          exact ⟨place + 1, rfl, Nat.succ_le_succ behind⟩
      | zero =>
          rw [List.getElem?_cons_zero, Option.some.injEq] at present
          subst present
          cases lastWithId? id states with
          | some place => exact ⟨place + 1, rfl, Nat.zero_le _⟩
          | none => exact ⟨0, if_pos same, Nat.le_refl 0⟩

theorem lastWithId?_eq_some_iff :
    lastWithId? id states = some place ↔ IsGreatest (placesOf states id) place := by
  constructor
  · intro found
    refine ⟨exists_of_lastWithId? found, ?_⟩
    intro other carried
    rcases exists_lastWithId? carried with ⟨last, foundLast, before⟩
    rw [found, Option.some.injEq] at foundLast
    exact foundLast ▸ before
  · intro last
    rcases last with ⟨carried, greatest⟩
    rcases exists_lastWithId? carried with ⟨last, found, before⟩
    have behind : last ≤ place := greatest (exists_of_lastWithId? found)
    rw [found, Nat.le_antisymm behind before]

end Last

variable {states : List State} {place : Nat} {state : State}

theorem mem_recordedArrows {arrow : Arrow} :
    arrow ∈ recordedArrows states state ↔
      ∃ recorded ∈ state.arrows, arrow.symbol = recorded.symbol ∧
        IsGreatest (placesOf states recorded.target) arrow.target := by
  rw [recordedArrows, List.mem_filterMap]
  refine exists_congr fun recorded => and_congr_right fun _ => ?_
  rw [Option.map_eq_some_iff]
  constructor
  · intro led
    rcases led with ⟨last, found, rfl⟩
    exact ⟨rfl, lastWithId?_eq_some_iff.mp found⟩
  · intro leads
    rcases leads with ⟨same, last⟩
    refine ⟨arrow.target, lastWithId?_eq_some_iff.mpr last, ?_⟩
    rw [← same]

theorem arrows_eq_of_getElem? (present : states[place]? = some state) :
    (ofTrace states).automaton.arrows place =
      ((ArrowSet.empty.insertAll (recordedArrows states state)).insertAll
        (states[place + 1]?.toList.map fun next => ⟨next.symbol, place + 1⟩)).toList := by
  change ((positionsFrom states 0 states)[place]?.map (·.arrows.toList)).getD [] = _
  rw [getElem?_positionsFrom, present, Nat.zero_add]
  rfl

theorem arrows_eq_nil (outside : states[place]? = none) :
    (ofTrace states).automaton.arrows place = [] := by
  change ((positionsFrom states 0 states)[place]?.map (·.arrows.toList)).getD [] = _
  rw [getElem?_positionsFrom, outside]
  rfl

theorem mem_arrows_ofTrace (present : states[place]? = some state) {arrow : Arrow} :
    arrow ∈ (ofTrace states).automaton.arrows place ↔
      (∃ next, states[place + 1]? = some next ∧ arrow = ⟨next.symbol, place + 1⟩) ∨
        ∃ recorded ∈ state.arrows, arrow.symbol = recorded.symbol ∧
          IsGreatest (placesOf states recorded.target) arrow.target := by
  have path :
      (∃ next, states[place + 1]? = some next ∧ (⟨next.symbol, place + 1⟩ : Arrow) = arrow) ↔
        ∃ next, states[place + 1]? = some next ∧ arrow = ⟨next.symbol, place + 1⟩ :=
    exists_congr fun next => and_congr_right fun _ => eq_comm
  rw [arrows_eq_of_getElem? present, ← ArrowSet.mem_def, ArrowSet.mem_insertAll,
    ArrowSet.mem_insertAll, mem_recordedArrows, List.mem_map]
  simp only [Option.mem_toList, path]
  exact or_congr_right (or_iff_left (ArrowSet.not_mem_empty arrow))

theorem nodup_arrows_ofTrace (states : List State) (place : Nat) :
    ((ofTrace states).automaton.arrows place).Nodup := by
  cases present : states[place]? with
  | none =>
      rw [arrows_eq_nil present]
      exact List.nodup_nil
  | some state =>
      rw [arrows_eq_of_getElem? present]
      exact ArrowSet.nodup_toList _

/-- Whatever the trace, also one in which ids come again or are named that none of its states
carries. -/
theorem unfolds_ofTrace (states : List State) :
    NfaTables.ofTrace states = .ok (ofTrace states).tables ∧ (ofTrace states).Unfolds states := by
  refine ⟨NfaTables.ofTrace_eq states,
    { size := size_ofTrace states
      start := rfl
      ids := map_positionsFrom Position.id State.id (fun _ _ => rfl) states states 0
      symbols := map_positionsFrom Position.symbol State.symbol (fun _ _ => rfl) states states 0
      nodup := nodup_arrows_ofTrace states
      arrows := ?_
      accepting := ?_ }⟩
  · intro place arrow
    cases present : states[place]? with
    | none => simp [arrows_eq_nil present]
    | some state => simp only [mem_arrows_ofTrace present, Option.some.injEq, exists_eq_left']
  · intro place
    rw [Automaton.mem_acceptors, accepting_ofTrace, List.getD_eq_getElem?_getD, List.getElem?_map]
    cases states[place]? <;> simp

example :
    let states : List State :=
      [⟨1, false, .char 'a', .insertAll ∅ [⟨.char 'b', 1⟩, ⟨.epsilon, 1⟩, ⟨.char 'c', 9⟩]⟩,
        ⟨1, true, .char 'b', ∅⟩]
    (ofTrace states).automaton.arrows 0 = [⟨.epsilon, 1⟩, ⟨.char 'b', 1⟩] := by
  decide

end TracingLexer.Nfa
