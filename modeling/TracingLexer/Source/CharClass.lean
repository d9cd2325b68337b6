import TracingLexer.Text.Alphabetic
import TracingLexer.Text.Blank

namespace TracingLexer

inductive CharClass where
  | openBrace | closeBrace | blank | digit | charQuote | stringQuote | letter
  | lineComment | blockComment | operator | punctuator | unknown
  deriving DecidableEq, Repr, Inhabited

namespace CharClass

def operators : List Char := ['=', '+', '-', '*', '/', '%', '^']

def punctuators : List Char := ['(', ')', '{', '}', ';', ',']

/-- The class of a character that has no class of its own; the first rule that fits decides. -/
def ofOther (c : Char) : CharClass :=
  if Text.isBlank c then blank
  else if c.isDigit then digit
  else if Text.isAlphabetic c then letter
  else if c ∈ operators then operator
  else if c ∈ punctuators then punctuator
  else unknown

def of (c : Char) (next : Option Char) : CharClass :=
  match c with
  | '{' => openBrace
  | '}' => closeBrace
  | '\'' => charQuote
  | '"' => stringQuote
  | '/' =>
      match next with
      | some '/' => lineComment
      | some '*' => blockComment
      | _ => operator
  | _ => ofOther c

theorem ofOther_eq (c : Char) :
    ofOther c = blank ∨ ofOther c = digit ∨ ofOther c = letter ∨ ofOther c = operator ∨
      ofOther c = punctuator ∨ ofOther c = unknown := by
  unfold ofOther
  repeat' split
  all_goals simp

theorem eq_of_charQuote {c : Char} {next : Option Char} (found : of c next = charQuote) :
    c = '\'' := by
  have other := ofOther_eq c
  unfold of at found
  split at found <;> grind

theorem eq_of_stringQuote {c : Char} {next : Option Char} (found : of c next = stringQuote) :
    c = '"' := by
  have other := ofOther_eq c
  unfold of at found
  split at found <;> grind

theorem eq_of_lineComment {c : Char} {next : Option Char} (found : of c next = lineComment) :
    c = '/' ∧ next = some '/' := by
  have other := ofOther_eq c
  unfold of at found
  split at found <;> grind

theorem eq_of_blockComment {c : Char} {next : Option Char} (found : of c next = blockComment) :
    c = '/' ∧ next = some '*' := by
  have other := ofOther_eq c
  unfold of at found
  split at found <;> grind

theorem isDigit_of_digit {c : Char} {next : Option Char} (found : of c next = digit) :
    c.isDigit = true := by
  unfold of ofOther at found
  split at found <;> grind

theorem isAlphabetic_of_letter {c : Char} {next : Option Char} (found : of c next = letter) :
    Text.isAlphabetic c = true := by
  unfold of ofOther at found
  split at found <;> grind

end CharClass
end TracingLexer
