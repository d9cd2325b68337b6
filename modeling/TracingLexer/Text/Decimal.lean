namespace TracingLexer.Text.Decimal

def places : Nat := 5

def scale (count : Nat) : Nat := Nat.pow 10 count

def value (digits : List Char) : Nat := Nat.ofDigitChars 10 digits 0

/-- The quotient rounded to the nearest integer; a half goes up. -/
def divHalfUp (numerator denominator : Nat) : Nat :=
  (2 * numerator + denominator) / (2 * denominator)

def padded (width number : Nat) : List Char :=
  let digits := Nat.toDigits 10 number
  List.replicate (width - digits.length) '0' ++ digits

def render (units : Nat) : List Char :=
  Nat.toDigits 10 (units / scale places) ++ '.' :: padded places (units % scale places)

/-- The digits before and after the point of a text that is one decimal number; either side may be
empty. -/
def parts? (text : List Char) : Option (List Char × List Char) :=
  match text.dropWhile Char.isDigit with
  | '.' :: fraction =>
      if fraction.all Char.isDigit then some (text.takeWhile Char.isDigit, fraction) else none
  | _ => none

def units (whole fraction : List Char) : Nat :=
  divHalfUp (value (whole ++ fraction) * scale places) (scale fraction.length)

/-- The text rounded to the places kept, if it is one decimal number. -/
def round? (text : List Char) : Option (List Char) :=
  (parts? text).map fun (whole, fraction) => render (units whole fraction)

end TracingLexer.Text.Decimal
