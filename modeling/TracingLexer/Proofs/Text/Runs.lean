import Mathlib.Data.List.TakeWhile
import TracingLexer.Text.Alphabetic
import TracingLexer.Text.Blank

namespace TracingLexer.Text

def Ends (inClass : Char → Bool) (rest : List Char) : Prop :=
  ∀ c, rest.head? = some c → inClass c = false

@[simp] theorem ends_nil (inClass : Char → Bool) : Ends inClass [] := by
  simp [Ends]

@[simp] theorem ends_cons {inClass : Char → Bool} {c : Char} {rest : List Char} :
    Ends inClass (c :: rest) ↔ inClass c = false := by
  simp [Ends]

theorem Ends.append {inClass : Char → Bool} {front old new : List Char}
    (ends : Ends inClass (front ++ old)) (newEnds : Ends inClass new) :
    Ends inClass (front ++ new) := by
  cases front with
  | nil => exact newEnds
  | cons c front => exact ends

theorem Ends.of_append {inClass : Char → Bool} {front old : List Char}
    (ends : Ends inClass (front ++ old)) : Ends inClass front := by
  cases front with
  | nil => exact ends_nil inClass
  | cons c front => exact ends

theorem ends_dropWhile (inClass : Char → Bool) (text : List Char) :
    Ends inClass (text.dropWhile inClass) := by
  intro c head
  have stopped := List.head?_dropWhile_not inClass text
  simpa [head] using stopped

theorem takeWhile_append_of_ends {inClass : Char → Bool} {run rest : List Char}
    (inside : ∀ c ∈ run, inClass c = true) (ends : Ends inClass rest) :
    (run ++ rest).takeWhile inClass = run := by
  rw [List.takeWhile_append_of_pos inside]
  cases rest with
  | nil => simp
  | cons c rest => simp [ends_cons.mp ends]

theorem dropWhile_append_of_ends {inClass : Char → Bool} {run rest : List Char}
    (inside : ∀ c ∈ run, inClass c = true) (ends : Ends inClass rest) :
    (run ++ rest).dropWhile inClass = rest := by
  rw [List.dropWhile_append_of_pos inside]
  cases rest with
  | nil => rfl
  | cons c rest => simp [ends_cons.mp ends]

theorem forall_ne_of_absent {mark : Char} {run : List Char} (absent : mark ∉ run) :
    ∀ c ∈ run, decide (c ≠ mark) = true := by
  intro c member
  simpa using fun same : c = mark => absent (same ▸ member)

theorem takeWhile_ne_append {mark : Char} {run rest : List Char} (absent : mark ∉ run) :
    (run ++ mark :: rest).takeWhile (· ≠ mark) = run :=
  takeWhile_append_of_ends (forall_ne_of_absent absent) (by simp)

theorem dropWhile_ne_append {mark : Char} {run rest : List Char} (absent : mark ∉ run) :
    (run ++ mark :: rest).dropWhile (· ≠ mark) = mark :: rest :=
  dropWhile_append_of_ends (forall_ne_of_absent absent) (by simp)

theorem append_mark_inj {mark : Char} {front back otherFront otherBack : List Char}
    (absent : mark ∉ back) (otherAbsent : mark ∉ otherBack)
    (same : front ++ mark :: back = otherFront ++ mark :: otherBack) :
    front = otherFront ∧ back = otherBack := by
  have backwards : back.reverse ++ mark :: front.reverse =
      otherBack.reverse ++ mark :: otherFront.reverse := by
    simpa using congrArg List.reverse same
  have back_eq : back.reverse = otherBack.reverse := by
    rw [← takeWhile_ne_append (mt List.mem_reverse.mp absent), backwards,
      takeWhile_ne_append (mt List.mem_reverse.mp otherAbsent)]
  have front_eq : mark :: front.reverse = mark :: otherFront.reverse := by
    rw [back_eq] at backwards
    exact List.append_cancel_left backwards
  exact ⟨List.reverse_inj.mp (List.tail_eq_of_cons_eq front_eq), List.reverse_inj.mp back_eq⟩

theorem takeWhile_ne_of_absent {mark : Char} {run : List Char} (absent : mark ∉ run) :
    run.takeWhile (· ≠ mark) = run :=
  List.takeWhile_eq_self_iff.mpr (forall_ne_of_absent absent)

theorem notMem_takeWhile_ne (mark : Char) (text : List Char) :
    mark ∉ text.takeWhile (· ≠ mark) := by
  intro member
  have continued := List.mem_takeWhile_imp member
  simp at continued

namespace Ranges

def apart (first second : Ranges) : Bool :=
  first.toList.all fun (low, high) =>
    (List.range' low (high + 1 - low)).all fun point => !second.has point

theorem not_has_of_apart {first second : Ranges} (separate : apart first second = true)
    {point : Nat} (inFirst : first.has point = true) : second.has point = false := by
  obtain ⟨range, member, low, high⟩ := (first.has_iff point).mp inFirst
  have outside := List.all_eq_true.mp separate range member
  have reached : point ∈ List.range' range.1 (range.2 + 1 - range.1) := by
    rw [List.mem_range'_1]
    omega
  simpa using List.all_eq_true.mp outside point reached

end Ranges

theorem bounds_of_isDigit {c : Char} (digit : c.isDigit = true) : 48 ≤ c.toNat ∧ c.toNat ≤ 57 := by
  simp only [Char.isDigit, Bool.and_eq_true, decide_eq_true_eq] at digit
  exact digit

def digitRanges : Ranges := ⟨[(48, 57)], by decide⟩

theorem digitRanges_has {c : Char} (digit : c.isDigit = true) :
    digitRanges.has c.toNat = true :=
  (digitRanges.has_iff c.toNat).mpr ⟨_, List.mem_singleton_self _, bounds_of_isDigit digit⟩

theorem isAlphabetic_eq_false_of_isBlank {c : Char} (blank : isBlank c = true) :
    isAlphabetic c = false :=
  Ranges.not_has_of_apart (by decide +kernel) blank

theorem isAlphabetic_eq_false_of_isDigit {c : Char} (digit : c.isDigit = true) :
    isAlphabetic c = false :=
  Ranges.not_has_of_apart (by decide +kernel) (digitRanges_has digit)

theorem isBlank_eq_false_of_isDigit {c : Char} (digit : c.isDigit = true) : isBlank c = false :=
  Ranges.not_has_of_apart (by decide +kernel) (digitRanges_has digit)

end TracingLexer.Text
