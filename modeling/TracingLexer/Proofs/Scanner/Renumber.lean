import TracingLexer.Source.Segment

namespace TracingLexer

def Arrow.raise (count : Nat) (arrow : Arrow) : Arrow :=
  { arrow with target := arrow.target + count }

theorem Arrow.raise_before {count : Nat} {left right : Arrow} (before : left.Before right) :
    (left.raise count).Before (right.raise count) := by
  simp only [Arrow.Before, Arrow.raise] at before ⊢
  omega

namespace ArrowSet

def raise (count : Nat) (arrows : ArrowSet) : ArrowSet :=
  ⟨arrows.toList.map (Arrow.raise count),
    List.pairwise_map.mpr (arrows.ordered.imp Arrow.raise_before)⟩

theorem mem_raise {count : Nat} {arrows : ArrowSet} {arrow : Arrow} :
    arrow ∈ arrows.raise count ↔ ∃ member ∈ arrows, member.raise count = arrow :=
  List.mem_map

theorem raise_zero (arrows : ArrowSet) : arrows.raise 0 = arrows := by
  apply ext
  intro arrow
  simp [mem_raise, Arrow.raise]

theorem raise_insert (count : Nat) (arrows : ArrowSet) (arrow : Arrow) :
    (arrows.insert arrow).raise count = (arrows.raise count).insert (arrow.raise count) := by
  apply ext
  intro member
  rw [mem_insert, mem_raise, mem_raise]
  constructor
  · intro holds
    rcases holds with ⟨old, present, rfl⟩
    rcases mem_insert.mp present with rfl | before
    · exact .inl rfl
    · exact .inr ⟨old, before, rfl⟩
  · intro holds
    rcases holds with rfl | ⟨old, present, rfl⟩
    · exact ⟨arrow, mem_insert.mpr (.inl rfl), rfl⟩
    · exact ⟨old, mem_insert.mpr (.inr present), rfl⟩

end ArrowSet

namespace State

def raise (count : Nat) (state : State) : State :=
  { state with id := state.id + count, arrows := state.arrows.raise count }

theorem raise_zero (state : State) : state.raise 0 = state := by
  rw [raise, ArrowSet.raise_zero, Nat.add_zero]

theorem chain_add (first count : Nat) (symbols : List Symbol) :
    chain (first + count) symbols = (chain first symbols).map (raise count) := by
  induction symbols generalizing first with
  | nil => rfl
  | cons symbol symbols ih =>
      rw [chain, chain, List.map_cons, ← ih (first + 1), Nat.add_right_comm]
      rfl

theorem linkAll_map_raise (count : Nat) (states : List State) :
    linkAll (states.map (raise count)) = (linkAll states).map (raise count) := by
  induction states with
  | nil => rfl
  | cons state states ih =>
      cases states with
      | nil => rfl
      | cons next rest =>
          have linked : (state.addArrow ⟨next.symbol, next.id⟩).raise count =
              (state.raise count).addArrow ⟨next.symbol, next.id + count⟩ := by
            simp only [addArrow, raise, ArrowSet.raise_insert, Arrow.raise]
          simp only [List.map_cons] at ih ⊢
          rw [linkAll, linkAll, ih, List.map_cons, linked]
          rfl

end State

theorem Segment.trace_add (segment : Segment) (first count : Nat) :
    segment.trace (first + count) = (segment.trace first).map (State.raise count) := by
  cases segment with
  | character value =>
      simp only [Segment.trace, State.chain_add, State.linkAll_map_raise]
  | _ => exact State.chain_add first count _

def Token.raise (count : Nat) (token : Token) : Token :=
  { token with trace := token.trace.map (State.raise count) }

theorem Token.raise_zero (token : Token) : token.raise 0 = token := by
  have same : token.trace.map (State.raise 0) = token.trace := by
    rw [funext State.raise_zero, List.map_id']
  rw [raise, same]

end TracingLexer
