import TracingLexer.Proofs.Text.Runs
import TracingLexer.Text.Decimal

namespace TracingLexer.Text.Decimal

theorem scale_pos (count : Nat) : 0 < scale count := Nat.pow_pos (by decide)

theorem value_append (first second : List Char) :
    value (first ++ second) = value first * scale second.length + value second := by
  rw [value, Nat.ofDigitChars_append, Nat.ofDigitChars_eq_ofDigitChars_zero, Nat.mul_comm]
  rfl

theorem value_toDigits (number : Nat) : value (Nat.toDigits 10 number) = number :=
  Nat.ofDigitChars_ten_toDigits

theorem value_replicate_zero (count : Nat) : value (List.replicate count '0') = 0 := by
  rw [value, Nat.ofDigitChars_replicate_zero, Nat.mul_zero]

theorem value_padded (width number : Nat) : value (padded width number) = number := by
  rw [padded, value_append, value_replicate_zero, value_toDigits, Nat.zero_mul, Nat.zero_add]

theorem length_padded {width number : Nat} (positive : 0 < width) (fits : number < scale width) :
    (padded width number).length = width := by
  have short : (Nat.toDigits 10 number).length ≤ width :=
    (Nat.length_toDigits_le_iff (by decide) positive).mpr fits
  rw [padded, List.length_append, List.length_replicate]
  omega

theorem isDigit_of_mem_toDigits {c : Char} {number : Nat} (member : c ∈ Nat.toDigits 10 number) :
    c.isDigit = true :=
  Nat.isDigit_of_mem_toDigits (by decide) (by decide) member

theorem isDigit_of_mem_padded {c : Char} {width number : Nat}
    (member : c ∈ padded width number) : c.isDigit = true := by
  rcases List.mem_append.mp member with zero | digit
  · rw [List.eq_of_mem_replicate zero]
    decide
  · exact isDigit_of_mem_toDigits digit

theorem parts?_append {whole fraction : List Char} (wholeDigits : ∀ c ∈ whole, c.isDigit = true)
    (fractionDigits : ∀ c ∈ fraction, c.isDigit = true) :
    parts? (whole ++ '.' :: fraction) = some (whole, fraction) := by
  have ends : Ends Char.isDigit ('.' :: fraction) := ends_cons.mpr (by decide)
  rw [parts?, dropWhile_append_of_ends wholeDigits ends, takeWhile_append_of_ends wholeDigits ends]
  exact if_pos (List.all_eq_true.mpr fractionDigits)

theorem parts?_render (units : Nat) :
    parts? (render units) =
      some (Nat.toDigits 10 (units / scale places), padded places (units % scale places)) := by
  apply parts?_append
  · intro c member
    exact isDigit_of_mem_toDigits member
  · intro c member
    exact isDigit_of_mem_padded member

theorem divHalfUp_mul (number : Nat) {denominator : Nat} (positive : 0 < denominator) :
    divHalfUp (number * denominator) denominator = number := by
  have half : denominator / (2 * denominator) = 0 := Nat.div_eq_of_lt (by omega)
  calc
    divHalfUp (number * denominator) denominator
      = (2 * denominator * number + denominator) / (2 * denominator) := by
        rw [divHalfUp, Nat.mul_comm number, Nat.mul_assoc]
    _ = number + denominator / (2 * denominator) := Nat.mul_add_div (by omega) _ _
    _ = number := by rw [half, Nat.add_zero]

theorem length_places (number : Nat) :
    (padded places (number % scale places)).length = places :=
  length_padded (by decide) (Nat.mod_lt number (scale_pos places))

theorem value_toDigits_append_padded (number : Nat) :
    value (Nat.toDigits 10 (number / scale places) ++ padded places (number % scale places)) =
      number := by
  calc
    value (Nat.toDigits 10 (number / scale places) ++ padded places (number % scale places))
      = number / scale places * scale places + number % scale places := by
        rw [value_append, value_toDigits, value_padded, length_places]
    _ = number := Nat.div_add_mod' number (scale places)

theorem units_render (number : Nat) :
    units (Nat.toDigits 10 (number / scale places)) (padded places (number % scale places)) =
      number := by
  -- The fraction has all the places that are kept, so there is nothing to round off.
  rw [units, value_toDigits_append_padded, length_places, divHalfUp_mul number (scale_pos places)]

theorem round?_render (number : Nat) : round? (render number) = some (render number) := by
  rw [round?, parts?_render]
  exact congrArg (fun restored => some (render restored)) (units_render number)

theorem exists_render_of_round? {text rounded : List Char} (found : round? text = some rounded) :
    ∃ number, rounded = render number := by
  obtain ⟨⟨whole, fraction⟩, _, rfl⟩ := Option.map_eq_some_iff.mp found
  exact ⟨units whole fraction, rfl⟩

theorem round?_of_round? {text rounded : List Char} (found : round? text = some rounded) :
    round? rounded = some rounded := by
  obtain ⟨number, rfl⟩ := exists_render_of_round? found
  exact round?_render number

theorem point_mem_render (units : Nat) : '.' ∈ render units :=
  List.mem_append_right _ List.mem_cons_self

theorem isDigit_or_of_mem_render {c : Char} {units : Nat} (member : c ∈ render units) :
    c.isDigit = true ∨ c = '.' := by
  rcases List.mem_append.mp member with whole | later
  · exact .inl (isDigit_of_mem_toDigits whole)
  · rcases List.mem_cons.mp later with point | fraction
    · exact .inr point
    · exact .inl (isDigit_of_mem_padded fraction)

theorem exists_digit_render (units : Nat) :
    ∃ c tail, render units = c :: tail ∧ c.isDigit = true := by
  obtain ⟨c, tail, digits⟩ :=
    List.exists_cons_of_ne_nil (@Nat.toDigits_ne_nil (units / scale places) 10)
  have first : c ∈ Nat.toDigits 10 (units / scale places) := digits ▸ List.mem_cons_self
  refine ⟨c, tail ++ '.' :: padded places (units % scale places), ?_,
    isDigit_of_mem_toDigits first⟩
  rw [render, digits, List.cons_append]

end TracingLexer.Text.Decimal
