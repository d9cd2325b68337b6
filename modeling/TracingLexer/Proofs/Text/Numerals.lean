import Mathlib.Data.Nat.Digits.Lemmas
import TracingLexer.Proofs.Text.Rounding

namespace TracingLexer.Text.Decimal

def digitValue (c : Char) : Nat := c.toNat - '0'.toNat

/-- Digits as they are written, with a zero in front only where it stands alone. -/
structure IsNumeral (digits : List Char) : Prop where
  nonempty : digits ≠ []
  all : ∀ c ∈ digits, c.isDigit = true
  first : digits.head? = some '0' → digits = ['0']

theorem digitValue_lt {c : Char} (digit : c.isDigit = true) : digitValue c < 10 := by
  have bounds := bounds_of_isDigit digit
  change c.toNat - 48 < 10
  omega

theorem digitChar_digitValue {c : Char} (digit : c.isDigit = true) :
    Nat.digitChar (digitValue c) = c := by
  have bounds := bounds_of_isDigit digit
  apply Char.toNat_inj.mp
  rw [Nat.toNat_digitChar_of_lt_ten (digitValue_lt digit)]
  change 48 + (c.toNat - 48) = c.toNat
  omega

theorem value_singleton (c : Char) : value [c] = digitValue c := by
  rw [value, Nat.ofDigitChars_cons, Nat.mul_zero, Nat.zero_add]
  rfl

theorem value_append_singleton (front : List Char) (c : Char) :
    value (front ++ [c]) = 10 * value front + digitValue c := by
  rw [value_append, value_singleton, Nat.mul_comm]
  rfl

/-- The value in the library's terms, which lists the lowest digit first. -/
theorem value_eq_ofDigits (digits : List Char) :
    value digits = Nat.ofDigits 10 (digits.map digitValue).reverse := by
  induction digits using List.reverseRecOn with
  | nil => rfl
  | append_singleton front c ih =>
      rw [value_append_singleton, List.map_append, List.reverse_append, List.map_singleton,
        List.reverse_singleton, List.singleton_append, Nat.ofDigits_cons, ih, Nat.add_comm]

theorem value_lt_scale {digits : List Char} (all : ∀ c ∈ digits, c.isDigit = true) :
    value digits < scale digits.length := by
  have below : ∀ digit ∈ (digits.map digitValue).reverse, digit < 10 := by
    intro digit member
    rcases List.mem_map.mp (List.mem_reverse.mp member) with ⟨c, present, rfl⟩
    exact digitValue_lt (all c present)
  have bound := Nat.ofDigits_lt_base_pow_length (by decide) below
  rwa [← value_eq_ofDigits, List.length_reverse, List.length_map] at bound

theorem eq_of_value_eq {left right : List Char} (leftDigits : ∀ c ∈ left, c.isDigit = true)
    (rightDigits : ∀ c ∈ right, c.isDigit = true) (lengths : left.length = right.length)
    (values : value left = value right) : left = right := by
  induction left using List.reverseRecOn generalizing right with
  | nil => exact (List.length_eq_zero_iff.mp lengths.symm).symm
  | append_singleton front c ih =>
      rcases List.eq_nil_or_concat' right with rfl | ⟨other, d, rfl⟩
      · simp at lengths
      · rw [List.forall_mem_append, List.forall_mem_singleton] at leftDigits rightDigits
        rw [value_append_singleton, value_append_singleton] at values
        have low := digitValue_lt leftDigits.2
        have high := digitValue_lt rightDigits.2
        have lasts : digitValue c = digitValue d := by omega
        have fronts : front = other := by
          apply ih leftDigits.1 rightDigits.1
          · simpa using lengths
          · omega
        rw [fronts, ← digitChar_digitValue leftDigits.2, lasts, digitChar_digitValue rightDigits.2]

theorem toDigits_value {digits : List Char} (numeral : IsNumeral digits) :
    Nat.toDigits 10 (value digits) = digits := by
  induction digits using List.reverseRecOn with
  | nil => exact absurd rfl numeral.nonempty
  | append_singleton front c ih =>
      have digit : c.isDigit = true := numeral.all c (by simp)
      have last : Nat.toDigits 10 (digitValue c) = [c] := by
        rw [Nat.toDigits_of_lt_base (digitValue_lt digit), digitChar_digitValue digit]
      rcases List.eq_nil_or_concat' front with rfl | ⟨_, _, _⟩
      · rw [List.nil_append, value_singleton, last]
      · have nonempty : front ≠ [] := by simp_all
        have notZero : front.head? ≠ some '0' := by
          intro zero
          have whole := numeral.first (by rw [List.head?_append, zero]; rfl)
          have lengths := congrArg List.length whole
          rw [List.length_append, List.length_singleton, List.length_singleton] at lengths
          exact nonempty (List.length_eq_zero_iff.mp (by omega))
        have written : Nat.toDigits 10 (value front) = front :=
          ih ⟨nonempty, fun d member => numeral.all d (List.mem_append_left [c] member),
            fun zero => absurd zero notZero⟩
        have positive : 0 < value front := by
          apply Nat.pos_of_ne_zero
          intro zero
          rw [zero] at written
          exact notZero (by rw [← written]; rfl)
        rw [value_append_singleton,
          ← Nat.toDigits_append_toDigits (by decide) positive (digitValue_lt digit), written, last]

theorem padded_value {digits : List Char} (all : ∀ c ∈ digits, c.isDigit = true)
    (nonempty : digits ≠ []) : padded digits.length (value digits) = digits := by
  have width : (padded digits.length (value digits)).length = digits.length :=
    length_padded (List.length_pos_iff.mpr nonempty) (value_lt_scale all)
  exact eq_of_value_eq (fun _ => isDigit_of_mem_padded) all width (value_padded _ _)

theorem render_value {whole fraction : List Char} (numeral : IsNumeral whole)
    (all : ∀ c ∈ fraction, c.isDigit = true) (width : fraction.length = places) :
    render (value (whole ++ fraction)) = whole ++ '.' :: fraction := by
  have below : value fraction < scale places := width ▸ value_lt_scale all
  have nonempty : fraction ≠ [] := by
    rintro rfl
    cases width
  have quotient : value (whole ++ fraction) / scale places = value whole := by
    rw [value_append, width, Nat.mul_comm, Nat.mul_add_div (scale_pos places),
      Nat.div_eq_of_lt below, Nat.add_zero]
  have remainder : value (whole ++ fraction) % scale places = value fraction := by
    rw [value_append, width, Nat.mul_comm, Nat.mul_add_mod, Nat.mod_eq_of_lt below]
  rw [render, quotient, remainder, toDigits_value numeral, ← width, padded_value all nonempty]

theorem isNumeral_toDigits (number : Nat) : IsNumeral (Nat.toDigits 10 number) where
  nonempty := Nat.toDigits_ne_nil
  all _ := isDigit_of_mem_toDigits
  first zero := by
    rcases List.head?_eq_some_iff.mp zero with ⟨rest, digits⟩
    rw [digits]
    by_contra longer
    have positive : 0 < rest.length := by
      apply List.length_pos_iff.mpr
      rintro rfl
      exact longer rfl
    have all : ∀ c ∈ rest, c.isDigit = true := by
      intro c member
      exact isDigit_of_mem_toDigits (digits ▸ List.mem_cons_of_mem '0' member)
    -- The zero adds nothing to the value, for which the other digits would do.
    have restValue : value rest = number := by
      rw [← value_toDigits number, digits, ← List.singleton_append, value_append, value_singleton]
      exact (by simp [digitValue])
    have short : (Nat.toDigits 10 number).length ≤ rest.length :=
      (Nat.length_toDigits_le_iff (by decide) positive).mpr (restValue ▸ value_lt_scale all)
    rw [digits, List.length_cons] at short
    omega

theorem parts?_eq_some_iff {text whole fraction : List Char} :
    parts? text = some (whole, fraction) ↔
      text = whole ++ '.' :: fraction ∧ (∀ c ∈ whole, c.isDigit = true) ∧
        ∀ c ∈ fraction, c.isDigit = true := by
  constructor
  · intro found
    have joined := List.takeWhile_append_dropWhile (p := Char.isDigit) (l := text)
    unfold parts? at found
    split at found
    next behind point =>
      split at found
      next all =>
        rw [Option.some.injEq, Prod.mk.injEq] at found
        rcases found with ⟨rfl, rfl⟩
        rw [point] at joined
        exact ⟨joined.symm, fun c => List.mem_takeWhile_imp, List.all_eq_true.mp all⟩
      next => cases found
    next => cases found
  · rintro ⟨rfl, wholeDigits, fractionDigits⟩
    exact parts?_append wholeDigits fractionDigits

end TracingLexer.Text.Decimal
