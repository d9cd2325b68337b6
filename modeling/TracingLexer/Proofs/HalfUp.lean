import Mathlib.Data.Rat.Floor
import Mathlib.Tactic.FieldSimp
import Mathlib.Tactic.Ring
import TracingLexer.Proofs.Text.Carrying

namespace TracingLexer.Text.Decimal

/-- Digits and a single point among them; there may be none before it or none behind it. -/
structure IsDecimal (text : List Char) : Prop where
  all : ∀ c ∈ text, c.isDigit = true ∨ c = '.'
  single : text.count '.' = 1

/-- A whole part without superfluous zeros, a point, and all the places that are kept. -/
def IsRounded (text : List Char) : Prop :=
  ∃ whole fraction, text = whole ++ '.' :: fraction ∧ IsNumeral whole ∧
    (∀ c ∈ fraction, c.isDigit = true) ∧ fraction.length = 5

/-- The number that a decimal stands for: what is before the point, and what is behind it in units
of its last place. -/
def exactValue (text : List Char) : ℚ :=
  let fraction := (text.dropWhile (· ≠ '.')).tail
  value (text.takeWhile (· ≠ '.')) + value fraction / 10 ^ fraction.length

theorem isDecimal_iff {text : List Char} :
    IsDecimal text ↔ ∃ whole fraction, text = whole ++ '.' :: fraction ∧
      (∀ c ∈ whole, c.isDigit = true) ∧ ∀ c ∈ fraction, c.isDigit = true := by
  constructor
  · rintro ⟨all, single⟩
    have point : '.' ∈ text := List.count_pos_iff.mp (by omega)
    rcases List.append_of_mem point with ⟨whole, fraction, rfl⟩
    rw [List.count_append, List.count_cons_self] at single
    have noneBefore : '.' ∉ whole := List.count_eq_zero.mp (by omega)
    have noneBehind : '.' ∉ fraction := List.count_eq_zero.mp (by omega)
    rw [List.forall_mem_append, List.forall_mem_cons] at all
    refine ⟨whole, fraction, rfl, ?_, ?_⟩
    · exact fun c member => (all.1 c member).resolve_right fun same => noneBefore (same ▸ member)
    · exact fun c member => (all.2.2 c member).resolve_right fun same => noneBehind (same ▸ member)
  · rintro ⟨whole, fraction, rfl, wholeDigits, fractionDigits⟩
    constructor
    · rw [List.forall_mem_append, List.forall_mem_cons]
      exact ⟨fun c member => .inl (wholeDigits c member), .inr rfl,
        fun c member => .inl (fractionDigits c member)⟩
    · rw [List.count_append, List.count_cons_self,
        List.count_eq_zero.mpr (ByDigits.point_notMem wholeDigits),
        List.count_eq_zero.mpr (ByDigits.point_notMem fractionDigits)]

theorem exists_round?_iff {text : List Char} :
    (∃ rounded, round? text = some rounded) ↔ IsDecimal text := by
  simp only [isDecimal_iff, ← parts?_eq_some_iff, round?, Option.map_eq_some_iff, Prod.exists]
  constructor
  · rintro ⟨rounded, whole, fraction, found, _⟩
    exact ⟨whole, fraction, found⟩
  · rintro ⟨whole, fraction, found⟩
    exact ⟨_, whole, fraction, found, rfl⟩

theorem cast_scale (count : Nat) : ((scale count : ℕ) : ℚ) = 10 ^ count := by
  rw [scale, Nat.pow_eq, Nat.cast_pow, Nat.cast_ofNat]

theorem exactValue_append {whole : List Char} (wholeDigits : ∀ c ∈ whole, c.isDigit = true)
    (fraction : List Char) :
    exactValue (whole ++ '.' :: fraction) =
      (value (whole ++ fraction) : ℚ) / (scale fraction.length : ℕ) := by
  have absent := ByDigits.point_notMem wholeDigits
  have positive : ((scale fraction.length : ℕ) : ℚ) ≠ 0 :=
    Nat.cast_ne_zero.mpr (scale_pos fraction.length).ne'
  calc
    exactValue (whole ++ '.' :: fraction)
      = value whole + value fraction / (scale fraction.length : ℕ) := by
        rw [exactValue, takeWhile_ne_append absent, dropWhile_ne_append absent, List.tail_cons,
          cast_scale]
    _ = (value whole * (scale fraction.length : ℕ) + value fraction) /
          (scale fraction.length : ℕ) := by
        rw [add_div, mul_div_cancel_right₀ _ positive]
    _ = (value (whole ++ fraction) : ℚ) / (scale fraction.length : ℕ) := by
        rw [value_append, Nat.cast_add, Nat.cast_mul]

theorem exactValue_render (units : Nat) : exactValue (render units) * 10 ^ 5 = units := by
  rw [render, exactValue_append fun _ => isDigit_of_mem_toDigits, value_toDigits_append_padded,
    length_places, cast_scale]
  exact div_mul_cancel₀ _ (by norm_num)

theorem isRounded_render (units : Nat) : IsRounded (render units) :=
  ⟨_, _, rfl, isNumeral_toDigits _, fun _ => isDigit_of_mem_padded,
    length_places units⟩

theorem floor_add_half (numerator : Nat) {denominator : Nat} (positive : 0 < denominator) :
    ⌊(numerator : ℚ) / denominator + 1 / 2⌋ = (divHalfUp numerator denominator : ℤ) := by
  have doubled : (numerator : ℚ) / denominator + 1 / 2 =
      ((2 * numerator + denominator : ℕ) : ℚ) / ((2 * denominator : ℕ) : ℚ) := by
    have nonzero : (denominator : ℚ) ≠ 0 := Nat.cast_ne_zero.mpr (by omega)
    push_cast
    field_simp
  rw [doubled, Rat.floor_natCast_div_natCast, divHalfUp, Int.natCast_div]

/-- The decimals are what is rounded: each to the nearest number of units in the fifth place, a half
to the higher one. The digits that this takes are all there. -/
theorem round?_half_up (text : List Char) :
    ByDigits.round text = .ok (round? text) ∧
      ((∃ rounded, round? text = some rounded) ↔ IsDecimal text) ∧
      ∀ rounded, round? text = some rounded →
        IsRounded rounded ∧
          exactValue rounded * 10 ^ 5 = ⌊exactValue text * 10 ^ 5 + 1 / 2⌋ := by
  refine ⟨ByDigits.round_eq text, exists_round?_iff, ?_⟩
  intro rounded found
  rcases Option.map_eq_some_iff.mp found with ⟨⟨whole, fraction⟩, parts, rfl⟩
  rcases parts?_eq_some_iff.mp parts with ⟨rfl, wholeDigits, _⟩
  refine ⟨isRounded_render _, ?_⟩
  calc
    exactValue (render (units whole fraction)) * 10 ^ 5
      = ((units whole fraction : ℤ) : ℚ) := by rw [exactValue_render, Int.cast_natCast]
    _ = ⌊((value (whole ++ fraction) * scale places : ℕ) : ℚ) / (scale fraction.length : ℕ) +
          1 / 2⌋ := by rw [floor_add_half _ (scale_pos fraction.length), units]
    _ = ⌊exactValue (whole ++ '.' :: fraction) * 10 ^ 5 + 1 / 2⌋ := by
        rw [exactValue_append wholeDigits, Nat.cast_mul, cast_scale, mul_div_right_comm]
        rfl

/-- The carry runs through the point, before which there is no digit. -/
theorem round?_half_up_carry :
    let text := ['.', '9', '9', '9', '9', '9', '5']
    let rounded := ['1', '.', '0', '0', '0', '0', '0']
    round? text = some rounded ∧ ByDigits.round text = .ok (some rounded) ∧ IsDecimal text ∧
      IsRounded rounded ∧
      exactValue rounded * 10 ^ 5 = ⌊exactValue text * 10 ^ 5 + 1 / 2⌋ := by
  intro text rounded
  have found : round? text = some rounded := by decide
  have rounds := round?_half_up text
  exact ⟨found, found ▸ rounds.1, rounds.2.1.mp ⟨rounded, found⟩, rounds.2.2 rounded found⟩

end TracingLexer.Text.Decimal
