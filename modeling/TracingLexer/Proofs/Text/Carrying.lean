import TracingLexer.Proofs.Lists
import TracingLexer.Proofs.Text.Numerals
import TracingLexer.Text.Decimal.ByDigits

namespace TracingLexer.Text.Decimal

theorem divHalfUp_mul_mul (numerator denominator : Nat) {factor : Nat} (positive : 0 < factor) :
    divHalfUp (numerator * factor) (denominator * factor) = divHalfUp numerator denominator := by
  calc
    divHalfUp (numerator * factor) (denominator * factor)
      = (2 * numerator + denominator) * factor / (2 * denominator * factor) := by
        rw [divHalfUp, Nat.add_mul, Nat.mul_assoc, Nat.mul_assoc]
    _ = divHalfUp numerator denominator := Nat.mul_div_mul_right _ _ positive

theorem divHalfUp_mul_add (number rest : Nat) {denominator : Nat} (positive : 0 < denominator) :
    divHalfUp (number * denominator + rest) denominator = number + divHalfUp rest denominator := by
  calc
    divHalfUp (number * denominator + rest) denominator
      = (2 * denominator * number + (2 * rest + denominator)) / (2 * denominator) := by
        rw [divHalfUp, Nat.mul_add, Nat.mul_comm number, Nat.mul_assoc, Nat.add_assoc]
    _ = number + divHalfUp rest denominator := Nat.mul_add_div (by omega) _ _

/-- Of the digits that are dropped the first one decides. -/
theorem divHalfUp_of_digit {digit rest unit : Nat} (below : digit < 10) (small : rest < unit) :
    divHalfUp (digit * unit + rest) (10 * unit) = if 5 ≤ digit then 1 else 0 := by
  have high : digit * unit ≤ 9 * unit := Nat.mul_le_mul_right unit (by omega)
  rw [divHalfUp]
  split
  next up =>
    have low : 5 * unit ≤ digit * unit := Nat.mul_le_mul_right unit up
    exact Nat.div_eq_of_lt_le (by omega) (by omega)
  next down =>
    have low : digit * unit ≤ 4 * unit := Nat.mul_le_mul_right unit (by omega)
    exact Nat.div_eq_of_lt (by omega)

namespace ByDigits

def number (digits : List Nat) : Nat := Nat.ofDigits 10 digits.reverse

def AreDigits (digits : List Nat) : Prop := ∀ digit ∈ digits, digit < 10

theorem number_append (front back : List Nat) :
    number (front ++ back) = number front * scale back.length + number back := by
  rw [number, List.reverse_append, Nat.ofDigits_append, List.length_reverse, Nat.add_comm,
    Nat.mul_comm]
  rfl

theorem number_cons (digit : Nat) (rest : List Nat) :
    number (digit :: rest) = digit * scale rest.length + number rest := by
  have single : number [digit] = digit := Nat.ofDigits_singleton
  rw [← List.singleton_append, number_append, single]

theorem number_lt_scale {digits : List Nat} (areDigits : AreDigits digits) :
    number digits < scale digits.length := by
  have below : ∀ digit ∈ digits.reverse, digit < 10 :=
    fun digit member => areDigits digit (List.mem_reverse.mp member)
  have bound := Nat.ofDigits_lt_base_pow_length (by decide) below
  rwa [List.length_reverse] at bound

theorem number_replicate_zero (count : Nat) : number (List.replicate count 0) = 0 := by
  rw [number, List.reverse_replicate]
  exact Nat.ofDigits_replicate_zero

theorem number_map_digitValue (text : List Char) : number (text.map digitValue) = value text :=
  (value_eq_ofDigits text).symm

theorem areDigits_map_digitValue {text : List Char} (all : ∀ c ∈ text, c.isDigit = true) :
    AreDigits (text.map digitValue) := by
  intro digit member
  rcases List.mem_map.mp member with ⟨c, present, rfl⟩
  exact digitValue_lt (all c present)

theorem charOf_eq_digitChar {digit : Nat} (below : digit < 10) :
    charOf digit = Nat.digitChar digit := by
  have each : ∀ small < 10, charOf small = Nat.digitChar small := by decide
  exact each digit below

theorem isDigit_charOf {digit : Nat} (below : digit < 10) : (charOf digit).isDigit = true := by
  rw [charOf_eq_digitChar below, Nat.isDigit_digitChar]
  exact decide_eq_true below

theorem digitValue_charOf {digit : Nat} (below : digit < 10) :
    digitValue (charOf digit) = digit := by
  rw [digitValue, charOf_eq_digitChar below, Nat.toNat_digitChar_of_lt_ten below]
  exact Nat.add_sub_cancel_left 48 digit

theorem value_map_charOf {digits : List Nat} (areDigits : AreDigits digits) :
    value (digits.map charOf) = number digits := by
  have restored : (digits.map charOf).map digitValue = digits := by
    rw [List.map_map]
    calc
      digits.map (digitValue ∘ charOf) = digits.map id :=
        List.map_congr_left fun digit member => digitValue_charOf (areDigits digit member)
      _ = digits := List.map_id digits
  rw [value_eq_ofDigits, restored]
  rfl

theorem length_carry (digits : List Nat) : (carry digits).1.length = digits.length := by
  fun_induction carry digits with
  | case1 => rfl
  | case2 rest carried ih => exact congrArg (· + 1) ih
  | case3 digit rest other => rfl

theorem areDigits_carry {digits : List Nat} (areDigits : AreDigits digits) :
    AreDigits (carry digits).1 := by
  fun_induction carry digits with
  | case1 => exact areDigits
  | case2 rest carried ih =>
      rw [AreDigits, List.forall_mem_cons] at areDigits ⊢
      exact ⟨by decide, ih areDigits.2⟩
  | case3 digit rest other =>
      rw [AreDigits, List.forall_mem_cons] at areDigits ⊢
      exact ⟨by omega, areDigits.2⟩

/-- The lowest digit comes first here, and a carry past the end counts for what it is worth. -/
theorem ofDigits_carry (digits : List Nat) :
    Nat.ofDigits 10 (carry digits).1 + (if (carry digits).2 then 10 ^ digits.length else 0) =
      Nat.ofDigits 10 digits + 1 := by
  induction digits with
  | nil => rfl
  | cons digit rest ih =>
      rw [carry]
      split
      next nine =>
        have passed : (if (carry rest).2 then 10 ^ (digit :: rest).length else 0) =
            10 * if (carry rest).2 then 10 ^ rest.length else 0 := by
          rw [List.length_cons, Nat.pow_succ, Nat.mul_comm, mul_ite, Nat.mul_zero]
        rw [Nat.ofDigits_cons, Nat.ofDigits_cons, passed, nine]
        omega
      next other =>
        rw [if_neg Bool.false_ne_true, Nat.ofDigits_cons, Nat.ofDigits_cons]
        omega

theorem number_increment (digits : List Nat) : number (increment digits) = number digits + 1 := by
  have raised := ofDigits_carry digits.reverse
  rw [increment]
  cases passed : (carry digits.reverse).2 with
  | true =>
      rw [passed, if_pos rfl, ← length_carry digits.reverse] at raised
      rw [if_pos rfl, number, List.reverse_cons, List.reverse_reverse, Nat.ofDigits_append,
        Nat.ofDigits_singleton, Nat.mul_one, raised]
      rfl
  | false =>
      rw [passed, if_neg Bool.false_ne_true] at raised
      rw [if_neg Bool.false_ne_true, number, List.reverse_reverse]
      exact raised

theorem areDigits_increment {digits : List Nat} (areDigits : AreDigits digits) :
    AreDigits (increment digits) := by
  have backwards : AreDigits digits.reverse :=
    fun digit member => areDigits digit (List.mem_reverse.mp member)
  have raised : AreDigits (carry digits.reverse).1.reverse :=
    fun digit member => areDigits_carry backwards digit (List.mem_reverse.mp member)
  rw [increment]
  split
  · rw [AreDigits, List.forall_mem_cons]
    exact ⟨by decide, raised⟩
  · exact raised

theorem length_le_length_increment (digits : List Nat) :
    digits.length ≤ (increment digits).length := by
  have same := length_carry digits.reverse
  rw [List.length_reverse] at same
  rw [increment]
  split
  · rw [List.length_cons, List.length_reverse]
    omega
  · rw [List.length_reverse]
    omega

variable {whole fraction : List Char} {digits : List Nat}

theorem mapM_digitOf {text : List Char} (all : ∀ c ∈ text, c.isDigit = true) :
    text.mapM digitOf = .ok (text.map digitValue) :=
  mapM_eq_ok fun c member => if_pos (bounds_of_isDigit (all c member)).1

theorem exists_extended_eq (digits : List Nat) :
    ∃ kept dropped rest, extended digits = kept ++ dropped :: rest ∧ kept.length = places := by
  have long : places < (extended digits).length := by
    rw [extended, List.length_append, List.length_replicate]
    omega
  refine ⟨(extended digits).take places, (extended digits)[places],
    (extended digits).drop (places + 1), ?_, ?_⟩
  · rw [← List.drop_eq_getElem_cons long, List.take_append_drop]
  · rw [List.length_take]
    omega

theorem areDigits_extended (areDigits : AreDigits digits) : AreDigits (extended digits) := by
  rw [extended, AreDigits, List.forall_mem_append]
  refine ⟨areDigits, ?_⟩
  intro digit member
  rw [List.eq_of_mem_replicate member]
  decide

theorem number_extended (digits : List Nat) :
    ∃ zeros, (extended digits).length = digits.length + zeros ∧
      number (extended digits) = number digits * scale zeros := by
  refine ⟨max digits.length (places + 1) - digits.length, ?_, ?_⟩
  · rw [extended, List.length_append, List.length_replicate]
  · rw [extended, number_append, number_replicate_zero, List.length_replicate, Nat.add_zero]

theorem units_eq_of_extended (whole : List Char) {fraction : List Char} {kept rest : List Nat}
    {dropped : Nat} (split : extended (fraction.map digitValue) = kept ++ dropped :: rest)
    (width : kept.length = places) (droppedDigit : dropped < 10) (restDigits : AreDigits rest) :
    units whole fraction =
      number (whole.map digitValue ++ kept) + if 5 ≤ dropped then 1 else 0 := by
  rcases number_extended (fraction.map digitValue) with ⟨zeros, length_eq, number_eq⟩
  have below : number rest < scale rest.length := number_lt_scale restDigits
  have unit : scale fraction.length * scale zeros = 10 * scale rest.length * scale places := by
    rw [split, List.length_append, List.length_cons, width, List.length_map] at length_eq
    calc
      scale fraction.length * scale zeros = 10 ^ (fraction.length + zeros) := (pow_add _ _ _).symm
      _ = 10 ^ (1 + rest.length + places) := by rw [← length_eq]; congr 1; omega
      _ = 10 * scale rest.length * scale places := by rw [pow_add, pow_add, pow_one]; rfl
  have amount : value (whole ++ fraction) * scale zeros =
      number (whole.map digitValue ++ kept) * (10 * scale rest.length) +
        (dropped * scale rest.length + number rest) := by
    have tenfold : scale (dropped :: rest).length = 10 * scale rest.length := pow_succ' 10 _
    rw [split, number_append, number_cons, tenfold, number_map_digitValue] at number_eq
    rw [value_append, number_append, number_map_digitValue, width, Nat.add_mul, ← number_eq,
      Nat.mul_assoc, unit]
    ring
  calc
    units whole fraction
      = divHalfUp (value (whole ++ fraction) * scale zeros * scale places)
          (10 * scale rest.length * scale places) := by
        rw [units, ← divHalfUp_mul_mul _ _ (scale_pos zeros), unit, Nat.mul_right_comm]
    _ = divHalfUp (number (whole.map digitValue ++ kept) * (10 * scale rest.length) +
          (dropped * scale rest.length + number rest)) (10 * scale rest.length) := by
        rw [divHalfUp_mul_mul _ _ (scale_pos places), amount]
    _ = number (whole.map digitValue ++ kept) + if 5 ≤ dropped then 1 else 0 := by
        rw [divHalfUp_mul_add _ _ (Nat.mul_pos (by decide) (scale_pos rest.length)),
          divHalfUp_of_digit droppedDigit below]

theorem roundedDigits_eq (wholeDigits : ∀ c ∈ whole, c.isDigit = true)
    (fractionDigits : ∀ c ∈ fraction, c.isDigit = true) :
    ∃ digits, roundedDigits whole fraction = .ok digits ∧ AreDigits digits ∧
      places ≤ digits.length ∧ number digits = units whole fraction := by
  rcases exists_extended_eq (fraction.map digitValue) with ⟨kept, dropped, rest, split, width⟩
  have areDigits := areDigits_extended (areDigits_map_digitValue fractionDigits)
  rw [split, AreDigits, List.forall_mem_append, List.forall_mem_cons] at areDigits
  rcases areDigits with ⟨keptDigits, droppedDigit, restDigits⟩
  have digitsBefore : AreDigits (whole.map digitValue ++ kept) :=
    List.forall_mem_append.mpr ⟨areDigits_map_digitValue wholeDigits, keptDigits⟩
  have asked : digitAt (kept ++ dropped :: rest) places = .ok dropped := by
    rw [digitAt, List.getElem?_append_right (Nat.le_of_eq width), width, Nat.sub_self]
    rfl
  have taken : part (kept ++ dropped :: rest) 0 places = .ok kept := by
    rw [part, if_pos ⟨Nat.zero_le _, by rw [List.length_append]; omega⟩, ← width, List.take_left]
    rfl
  have unitsEq := units_eq_of_extended whole split width droppedDigit restDigits
  have wide : places ≤ (whole.map digitValue ++ kept).length := by
    rw [List.length_append]
    omega
  refine ⟨if 5 ≤ dropped then increment (whole.map digitValue ++ kept)
    else whole.map digitValue ++ kept, ?_, ?_, ?_, ?_⟩
  · simp only [roundedDigits, bind, Except.bind, mapM_digitOf fractionDigits,
      mapM_digitOf wholeDigits, split, asked, taken]
    rfl
  · split
    · exact areDigits_increment digitsBefore
    · exact digitsBefore
  · split
    · exact Nat.le_trans wide (length_le_length_increment _)
    · exact wide
  · rw [unitsEq]
    split
    · exact number_increment _
    · rfl

theorem part_of_le {start stop : Nat} (ordered : start ≤ stop) (inside : stop ≤ digits.length) :
    part digits start stop = .ok ((digits.take stop).drop start) := if_pos ⟨ordered, inside⟩

theorem exists_first_written (nonempty : digits ≠ []) :
    ∃ zeros first rest, digits = List.replicate zeros 0 ++ first :: rest ∧
      (first = 0 → rest = []) ∧
      (digits.findIdx? (· ≠ 0)).getD (digits.length - 1) = zeros := by
  induction digits with
  | nil => exact absurd rfl nonempty
  | cons digit digits ih =>
      rw [List.findIdx?_cons]
      by_cases zero : digit = 0
      · subst zero
        cases digits with
        | nil => exact ⟨0, 0, [], rfl, fun _ => rfl, rfl⟩
        | cons next digits =>
            rcases ih (List.cons_ne_nil next digits) with ⟨zeros, first, rest, split, alone, found⟩
            refine ⟨zeros + 1, first, rest, ?_, alone, ?_⟩
            · rw [split, List.replicate_succ, List.cons_append]
            · rw [← found]
              cases (next :: digits).findIdx? (· ≠ 0) <;> rfl
      · refine ⟨0, digit, digits, rfl, fun same => absurd same zero, ?_⟩
        rw [if_pos (decide_eq_true zero)]
        rfl

theorem isDigit_of_mem_map_charOf (areDigits : AreDigits digits) {c : Char}
    (member : c ∈ digits.map charOf) : c.isDigit = true := by
  rcases List.mem_map.mp member with ⟨digit, present, rfl⟩
  exact isDigit_charOf (areDigits digit present)

theorem isNumeral_map_charOf {first : Nat} {rest : List Nat} (areDigits : AreDigits (first :: rest))
    (alone : first = 0 → rest = []) : IsNumeral ((first :: rest).map charOf) where
  nonempty := List.cons_ne_nil _ _
  all _ := isDigit_of_mem_map_charOf areDigits
  first zero := by
    have below : first < 10 := areDigits first List.mem_cons_self
    have isZero : first = 0 := by
      rw [← digitValue_charOf below, Option.some.inj zero]
      rfl
    rw [alone isZero, isZero]
    rfl

theorem exists_significant (areDigits : AreDigits digits) :
    ∃ significant,
      part digits ((digits.findIdx? (· ≠ 0)).getD (digits.length - 1)) digits.length =
        .ok significant ∧
      IsNumeral ((if digits.isEmpty then ['0'] else []) ++ significant.map charOf) ∧
      value ((if digits.isEmpty then ['0'] else []) ++ significant.map charOf) =
        number digits := by
  by_cases empty : digits = []
  · subst empty
    have zero : IsNumeral ['0'] :=
      ⟨List.cons_ne_nil _ _, List.forall_mem_singleton.mpr rfl, fun _ => rfl⟩
    exact ⟨[], rfl, zero, rfl⟩
  · rcases exists_first_written empty with ⟨zeros, first, rest, split, alone, found⟩
    have dropped : (digits.take digits.length).drop zeros = first :: rest := by
      rw [List.take_length, split, List.drop_left' List.length_replicate]
    have inside : zeros ≤ digits.length := by
      rw [split, List.length_append, List.length_replicate]
      omega
    have restDigits : AreDigits (first :: rest) := by
      intro digit member
      exact areDigits digit (split ▸ List.mem_append_right _ member)
    refine ⟨first :: rest, ?_, ?_, ?_⟩
    · rw [found, part_of_le inside (Nat.le_refl _), dropped]
    · rw [List.isEmpty_eq_false_iff.mpr empty]
      exact isNumeral_map_charOf restDigits alone
    · rw [List.isEmpty_eq_false_iff.mpr empty, split, number_append, number_replicate_zero,
        Nat.zero_mul, Nat.zero_add, ← value_map_charOf restDigits]
      rfl

theorem written_eq (areDigits : AreDigits digits) (wide : places ≤ digits.length) :
    written digits = .ok (render (number digits)) := by
  have point : minus digits.length places = .ok (digits.length - places) := if_pos wide
  have front : part digits 0 (digits.length - places) =
      .ok (digits.take (digits.length - places)) := part_of_le (Nat.zero_le _) (Nat.sub_le _ _)
  have back : part digits (digits.length - places) digits.length =
      .ok (digits.drop (digits.length - places)) := by
    rw [part_of_le (Nat.sub_le _ _) (Nat.le_refl _), List.take_length]
  have frontDigits : AreDigits (digits.take (digits.length - places)) :=
    fun digit member => areDigits digit (List.mem_of_mem_take member)
  have backDigits : AreDigits (digits.drop (digits.length - places)) :=
    fun digit member => areDigits digit (List.mem_of_mem_drop member)
  have width : ((digits.drop (digits.length - places)).map charOf).length = places := by
    rw [List.length_map, List.length_drop]
    omega
  rcases exists_significant frontDigits with ⟨significant, found, numeral, wholeValue⟩
  have total : value ((if (digits.take (digits.length - places)).isEmpty then ['0'] else []) ++
      significant.map charOf ++ (digits.drop (digits.length - places)).map charOf) =
      number digits := by
    rw [value_append, wholeValue, value_map_charOf backDigits, List.length_map, ← number_append,
      List.take_append_drop]
  rw [← total, render_value numeral (fun _ => isDigit_of_mem_map_charOf backDigits) width]
  simp only [written, bind, Except.bind, point, front, found, back]
  rfl

theorem splitAtPoint?_append {front back : List Char} (absent : '.' ∉ front) :
    splitAtPoint? (front ++ '.' :: back) = some (front, back) := by
  rw [splitAtPoint?, dropWhile_ne_append absent, takeWhile_ne_append absent]

theorem splitAtPoint?_of_absent {text : List Char} (absent : '.' ∉ text) :
    splitAtPoint? text = none := by
  have gone : text.dropWhile (· ≠ '.') = [] := by
    rw [List.dropWhile_eq_nil_iff]
    exact fun c member => decide_eq_true fun same => absent (same ▸ member)
  rw [splitAtPoint?, gone]

theorem point_notMem {digits : List Char} (all : ∀ c ∈ digits, c.isDigit = true) :
    '.' ∉ digits := fun member => absurd (all '.' member) (by decide)

/-- The method finds all that it asks for, and it rounds as exact arithmetic does. -/
theorem round_eq (text : List Char) : round text = .ok (round? text) := by
  rw [round]
  by_cases point : '.' ∈ text
  · rcases List.eq_append_cons_of_mem point with ⟨front, back, rfl, absent⟩
    rw [splitAtPoint?_append absent]
    by_cases digits : (∀ c ∈ front, c.isDigit = true) ∧ ∀ c ∈ back, c.isDigit = true
    · rcases digits with ⟨frontDigits, backDigits⟩
      rcases roundedDigits_eq frontDigits backDigits with
        ⟨rounded, roundedEq, areDigits, wide, unitsEq⟩
      have passes : ¬ ('.' ∈ back ∨ ¬ front.all Char.isDigit ∨ ¬ back.all Char.isDigit) := by
        rw [List.all_eq_true.mpr frontDigits, List.all_eq_true.mpr backDigits]
        simpa using point_notMem backDigits
      simp only [if_neg passes, bind, Except.bind, roundedEq, written_eq areDigits wide, unitsEq,
        round?, parts?_append frontDigits backDigits]
      rfl
    · have refused : '.' ∈ back ∨ ¬ front.all Char.isDigit ∨ ¬ back.all Char.isDigit := by
        rw [List.all_eq_true, List.all_eq_true]
        exact .inr (not_and_or.mp digits)
      have nothing : parts? (front ++ '.' :: back) = none := by
        rw [Option.eq_none_iff_forall_ne_some]
        rintro ⟨whole, fraction⟩ found
        rcases parts?_eq_some_iff.mp found with ⟨split, wholeDigits, fractionDigits⟩
        have same := @splitAtPoint?_append whole fraction (point_notMem wholeDigits)
        rw [← split, splitAtPoint?_append absent, Option.some.injEq, Prod.mk.injEq] at same
        exact digits ⟨same.1 ▸ wholeDigits, same.2 ▸ fractionDigits⟩
      rw [round?, nothing]
      exact if_pos refused
  · have nothing : parts? text = none := by
      rw [Option.eq_none_iff_forall_ne_some]
      rintro ⟨whole, fraction⟩ found
      rw [(parts?_eq_some_iff.mp found).1] at point
      exact point (List.mem_append_right whole List.mem_cons_self)
    rw [splitAtPoint?_of_absent point, round?, nothing]
    rfl

end ByDigits
end TracingLexer.Text.Decimal
