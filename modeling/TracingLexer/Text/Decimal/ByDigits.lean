import TracingLexer.Text.Decimal

/-!
Rounding digit by digit, as on paper: the first digit that is dropped decides, and a carry runs from
the last place to the front. A digit, a part or a difference that the method asks for need not be
there, and where it is not the method stops.
-/

namespace TracingLexer.Text.Decimal

/-- What the method asks for and does not find. -/
inductive Lack where
  | digit (index : Nat)
  | part (start stop : Nat)
  | difference (minuend subtrahend : Nat)
  deriving DecidableEq, Repr

namespace ByDigits

def minus (minuend subtrahend : Nat) : Except Lack Nat :=
  if subtrahend ≤ minuend then .ok (minuend - subtrahend)
  else .error (.difference minuend subtrahend)

def digitAt (digits : List Nat) (index : Nat) : Except Lack Nat :=
  match digits[index]? with
  | some digit => .ok digit
  | none => .error (.digit index)

def part (digits : List Nat) (start stop : Nat) : Except Lack (List Nat) :=
  if start ≤ stop ∧ stop ≤ digits.length then .ok ((digits.take stop).drop start)
  else .error (.part start stop)

def digitOf (c : Char) : Except Lack Nat := minus c.toNat '0'.toNat

def charOf (digit : Nat) : Char := Char.ofNat ('0'.toNat + digit)

/-- One more in the first place of digits that are written backwards. Nines turn into zeros; the
flag tells that the carry has run through all of the digits. -/
def carry : List Nat → List Nat × Bool
  | [] => ([], true)
  | digit :: rest =>
      if digit = 9 then
        let carried := carry rest
        (0 :: carried.1, carried.2)
      else ((digit + 1) :: rest, false)

def increment (digits : List Nat) : List Nat :=
  let carried := carry digits.reverse
  if carried.2 then 1 :: carried.1.reverse else carried.1.reverse

/-- Zeros behind the digits, up to one place more than are kept. -/
def extended (fraction : List Nat) : List Nat :=
  fraction ++ List.replicate (max fraction.length (places + 1) - fraction.length) 0

def roundedDigits (whole fraction : List Char) : Except Lack (List Nat) := do
  let fraction := extended (← fraction.mapM digitOf)
  let dropped ← digitAt fraction places
  let whole ← whole.mapM digitOf
  let digits := whole ++ (← part fraction 0 places)
  return if 5 ≤ dropped then increment digits else digits

def written (digits : List Nat) : Except Lack (List Char) := do
  let point ← minus digits.length places
  let whole ← part digits 0 point
  let first := (whole.findIdx? (· ≠ 0)).getD (whole.length - 1)
  let zero := if whole.isEmpty then ['0'] else []
  let significant ← part whole first whole.length
  let fraction ← part digits point digits.length
  return zero ++ significant.map charOf ++ '.' :: fraction.map charOf

def splitAtPoint? (text : List Char) : Option (List Char × List Char) :=
  match text.dropWhile (· ≠ '.') with
  | [] => none
  | _ :: fraction => some (text.takeWhile (· ≠ '.'), fraction)

def round (text : List Char) : Except Lack (Option (List Char)) :=
  match splitAtPoint? text with
  | none => .ok none
  | some (whole, fraction) =>
      if '.' ∈ fraction ∨ ¬ whole.all Char.isDigit ∨ ¬ fraction.all Char.isDigit then .ok none
      else return some (← written (← roundedDigits whole fraction))

end ByDigits
end TracingLexer.Text.Decimal
