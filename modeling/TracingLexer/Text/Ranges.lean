namespace TracingLexer.Text

/-- The ranges are not empty, do not meet, and ascend from the bound on. -/
def ascendFrom : Nat → List (Nat × Nat) → Bool
  | _, [] => true
  | bound, (first, last) :: ranges =>
      bound ≤ first && first ≤ last && ascendFrom (last + 1) ranges

structure Ranges where
  toList : List (Nat × Nat)
  ascending : ascendFrom 0 toList = true

namespace Ranges

/-- Whether a code point lies in one of the ranges; the search stops at the first range above it. -/
def search : List (Nat × Nat) → Nat → Bool
  | [], _ => false
  | (first, last) :: ranges, point =>
      if point < first then false else point ≤ last || search ranges point

def has (ranges : Ranges) (point : Nat) : Bool := search ranges.toList point

theorem le_of_ascendFrom {bound : Nat} {ranges : List (Nat × Nat)} {range : Nat × Nat}
    (ascending : ascendFrom bound ranges = true) (present : range ∈ ranges) : bound ≤ range.1 := by
  induction ranges generalizing bound with
  | nil => simp at present
  | cons head ranges ih =>
      simp only [ascendFrom, Bool.and_eq_true, decide_eq_true_eq] at ascending
      rcases List.mem_cons.mp present with rfl | later
      · exact ascending.1.1
      · have above := ih ascending.2 later
        omega

theorem search_iff {bound : Nat} {ranges : List (Nat × Nat)}
    (ascending : ascendFrom bound ranges = true) (point : Nat) :
    search ranges point = true ↔ ∃ range ∈ ranges, range.1 ≤ point ∧ point ≤ range.2 := by
  induction ranges generalizing bound with
  | nil => simp [search]
  | cons head ranges ih =>
      obtain ⟨first, last⟩ := head
      simp only [ascendFrom, Bool.and_eq_true, decide_eq_true_eq] at ascending
      simp only [search, List.mem_cons, exists_eq_or_imp]
      split
      next below =>
        have none_above : ¬ ∃ range ∈ ranges, range.1 ≤ point ∧ point ≤ range.2 := by
          rintro ⟨range, present, low, _⟩
          have above := le_of_ascendFrom ascending.2 present
          omega
        simp only [Bool.false_eq_true, false_iff, not_or]
        exact ⟨by omega, none_above⟩
      next reached =>
        simp only [Bool.or_eq_true, decide_eq_true_eq, ih ascending.2]
        constructor
        · rintro (low | later)
          · exact .inl ⟨by omega, low⟩
          · exact .inr later
        · rintro (⟨_, low⟩ | later)
          · exact .inl low
          · exact .inr later

theorem has_iff (ranges : Ranges) (point : Nat) :
    ranges.has point = true ↔ ∃ range ∈ ranges.toList, range.1 ≤ point ∧ point ≤ range.2 :=
  search_iff ranges.ascending point

end Ranges
end TracingLexer.Text
