import Mathlib.Data.List.Forall2

namespace TracingLexer

variable {α : Type}

theorem getElem?_concat_eq_some {items : List α} {last found : α} {place : Nat} :
    (items ++ [last])[place]? = some found ↔
      items[place]? = some found ∨ place = items.length ∧ found = last := by
  rw [List.getElem?_append]
  split
  next inside => simp [Nat.ne_of_lt inside]
  next outside =>
    rw [List.getElem?_eq_none (Nat.le_of_not_lt outside), List.getElem?_singleton]
    have behind : place - items.length = 0 ↔ place = items.length := by omega
    simp [behind, eq_comm]

theorem map_eq_map_range {β : Type} {items : List α} {view : α → β} {place : Nat → β}
    (same : ∀ (index : Nat) (item : α), items[index]? = some item → view item = place index) :
    items.map view = (List.range items.length).map place := by
  apply List.ext_getElem (by simp)
  intro index below _
  rw [List.length_map] at below
  rw [List.getElem_map, List.getElem_map, List.getElem_range]
  exact same index _ (List.getElem?_eq_getElem below)

theorem eq_of_map_eq_map {β : Type} {print : α → β} {good : α → Prop}
    (inj : ∀ {left right}, good left → good right → print left = print right → left = right)
    {left right : List α} (leftGood : ∀ item ∈ left, good item)
    (rightGood : ∀ item ∈ right, good item) (same : left.map print = right.map print) :
    left = right := by
  induction left generalizing right with
  | nil => exact (List.map_eq_nil_iff.mp same.symm).symm
  | cons first left ih =>
      cases right with
      | nil => exact absurd same (List.cons_ne_nil _ _)
      | cons second right =>
          rw [List.forall_mem_cons] at leftGood rightGood
          have heads := inj leftGood.1 rightGood.1 (List.head_eq_of_cons_eq same)
          have tails := ih leftGood.2 rightGood.2 (List.tail_eq_of_cons_eq same)
          rw [heads, tails]

theorem map_eq_map_iff {β : Type} {view : α → β} {related : α → α → Prop}
    (same : ∀ {left right}, view left = view right ↔ related left right) {left right : List α} :
    left.map view = right.map view ↔ List.Forall₂ related left right := by
  rw [← List.forall₂_eq_eq_eq, List.forall₂_map_left_iff, List.forall₂_map_right_iff]
  simp only [same]

theorem mapM_eq_ok {β Problem : Type} {items : List α} {attempt : α → Except Problem β}
    {view : α → β} (succeeds : ∀ item ∈ items, attempt item = .ok (view item)) :
    items.mapM attempt = .ok (items.map view) := by
  induction items with
  | nil => rfl
  | cons item items ih =>
      rw [List.forall_mem_cons] at succeeds
      rw [List.mapM_cons, succeeds.1, ih succeeds.2]
      rfl

variable [DecidableEq α]

theorem eraseDups_concat (items : List α) (last : α) :
    (items ++ [last]).eraseDups =
      if last ∈ items then items.eraseDups else items.eraseDups ++ [last] := by
  rw [List.eraseDups_append]
  by_cases seen : last ∈ items
  · simp [List.removeAll, seen]
  · simp [List.removeAll, List.eraseDups_cons, seen]

theorem filter_eraseDups (items : List α) (item : α) :
    items.eraseDups.filter (· = item) = if item ∈ items then [item] else [] := by
  cases items with
  | nil => rfl
  | cons first rest =>
      have later := filter_eraseDups (rest.filter fun other => !other == first) item
      rw [List.eraseDups_cons, List.filter_cons, later]
      by_cases same : first = item
      · simp [same]
      · simp [same, Ne.symm same]
termination_by items.length
decreasing_by
  have shorter := List.length_filter_le (fun other => !other == first) rest
  simp only [List.length_cons]
  omega

theorem idxOf?_of_mem {item : α} {items : List α} (member : item ∈ items) :
    items.idxOf? item = some (items.idxOf item) :=
  List.findIdx?_eq_some_iff_findIdx_eq.mpr ⟨List.idxOf_lt_length_of_mem member, rfl⟩

end TracingLexer
