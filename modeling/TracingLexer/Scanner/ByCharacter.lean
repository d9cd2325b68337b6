import TracingLexer.Scanner
import TracingLexer.Text.Decimal.ByDigits

/-!
Scanning character by character. The scanner looks at the text from its offset on, moves over one
character at a time and enters a state for it where the character before was another one. What a token
says is cut out of the text between two offsets; a part that is not there ends the scan.
-/

namespace TracingLexer
namespace Scanner

/-- What a scanner asks for and does not find. -/
inductive Missing where
  | part (start stop : Nat)
  | inDecimal (lack : Text.Decimal.Lack)
  deriving DecidableEq, Repr

def peekNth (scanner : Scanner) (places : Nat) : Option Char :=
  scanner.text[scanner.offset + places]?

def peek (scanner : Scanner) : Option Char := scanner.peekNth 0

def bump (scanner : Scanner) : Scanner :=
  match scanner.peek with
  | some c => scanner.skip [c]
  | none => scanner

/-- The part of the text between two offsets, if they are in order and within the text. -/
def cut (scanner : Scanner) (start stop : Nat) : Except Missing (List Char) :=
  if start ≤ stop ∧ stop ≤ scanner.text.length then .ok ((scanner.text.take stop).drop start)
  else .error (.part start stop)

theorem left_bump_lt {scanner : Scanner} {c : Char} (here : scanner.peek = some c) :
    scanner.bump.text.length - scanner.bump.offset < scanner.text.length - scanner.offset := by
  have inside : scanner.offset < scanner.text.length := (List.getElem?_eq_some_iff.mp here).1
  simp only [bump, here, skip, List.length_singleton]
  omega

def skipWhile (inClass : Char → Bool) (scanner : Scanner) : Scanner :=
  match _here : scanner.peek with
  | some c => if inClass c then skipWhile inClass scanner.bump else scanner
  | none => scanner
termination_by scanner.text.length - scanner.offset
decreasing_by exact left_bump_lt _here

def seekCommentEnd (scanner : Scanner) : Bool × Scanner :=
  match _here : scanner.peek, scanner.peekNth 1 with
  | some '*', some '/' => (true, scanner.bump.bump)
  | some _, _ => seekCommentEnd scanner.bump
  | none, _ => (false, scanner)
termination_by scanner.text.length - scanner.offset
decreasing_by exact left_bump_lt _here

structure Walk where
  scanner : Scanner
  trace : List State := []

namespace Walk

def enter (walk : Walk) (accepting : Bool) (symbol : Symbol) : Walk where
  scanner := { walk.scanner with nextId := walk.scanner.nextId + 1 }
  trace := walk.trace ++ [{ id := walk.scanner.nextId, accepting, symbol }]

/-- Enters a state for the character, unless the last state is one for the same character. -/
def push (walk : Walk) (c : Char) : Walk :=
  if walk.trace.getLast?.map State.symbol = some (.char c) then walk
  else walk.enter false (.char c)

def bump (walk : Walk) : Walk := { walk with scanner := walk.scanner.bump }

theorem text_push (walk : Walk) (c : Char) : (walk.push c).scanner.text = walk.scanner.text := by
  rw [push]
  split <;> rfl

theorem offset_push (walk : Walk) (c : Char) :
    (walk.push c).scanner.offset = walk.scanner.offset := by
  rw [push]
  split <;> rfl

def follow (inClass : Char → Bool) (walk : Walk) : Walk :=
  match _here : walk.scanner.peek with
  | some c => if inClass c then follow inClass (walk.push c).bump else walk
  | none => walk
termination_by walk.scanner.text.length - walk.scanner.offset
decreasing_by
  have here : (walk.push c).scanner.peek = some c := by
    rwa [peek, peekNth, text_push, offset_push]
  have less := left_bump_lt here
  rwa [text_push, offset_push] at less

end Walk

abbrev Reading := Except ScanError (Option Token) × Scanner

def readSingle (scanner : Scanner) (kind : Kind) (c : Char) : Reading :=
  let walk := Walk.enter ⟨scanner.bump, []⟩ true (.char c)
  (.ok (some { kind, literal := String.ofList [c], trace := walk.trace }), walk.scanner)

def readNumber (scanner : Scanner) : Except Missing Reading := do
  let walk := (Walk.follow Segment.isNumberChar ⟨scanner, []⟩).enter true .epsilon
  let run ← walk.scanner.cut scanner.offset walk.scanner.offset
  if '.' ∈ run then
    let rounded ← (Text.Decimal.ByDigits.round run).mapError .inDecimal
    let literal := String.ofList (rounded.getD run)
    return (.ok (some { kind := .decimal, literal, trace := walk.trace }), walk.scanner)
  else
    let literal := String.ofList run
    return (.ok (some { kind := .integer, literal, trace := walk.trace }), walk.scanner)

/-- Without one character and a closing quote behind it, the opening quote stands alone. -/
def readCharacter (scanner : Scanner) : Reading :=
  let opened := scanner.bump
  match opened.peek, opened.peekNth 1 with
  | some value, some '\'' =>
      if value = '\'' then (.ok none, opened)
      else
        let start := Walk.enter ⟨opened, []⟩ false (.char '\'')
        let walk := (start.enter false (.char value)).enter true (.char '\'')
        let literal := String.ofList [value]
        (.ok (some { kind := .character, literal, trace := State.linkAll walk.trace }),
          walk.scanner.bump.bump)
  | _, _ => (.ok none, opened)

def warn (scanner : Scanner) (line : Nat) : Scanner :=
  { scanner with warnings := scanner.warnings ++ [⟨line⟩] }

def readString (scanner : Scanner) : Except Missing Reading := do
  let opened := (Walk.enter ⟨scanner, []⟩ false (.char '"')).bump
  let walk := opened.follow (· ≠ '"')
  let content ← walk.scanner.cut (scanner.offset + 1) walk.scanner.offset
  let behind :=
    if walk.scanner.peek = none then walk.scanner.warn scanner.line else walk.scanner.bump
  let closed := Walk.enter ⟨behind, walk.trace⟩ true (.char '"')
  let literal := String.ofList content
  return (.ok (some { kind := .string, literal, trace := closed.trace }), closed.scanner)

/-- The call of a function the name of which the walk has gone through. An error names the line and
the offset of that name. -/
def readCall (function : Call) (line offset : Nat) (walk : Walk) : Except Missing Reading := do
  let opened := (walk.push '(').bump
  let walk := opened.follow (· ≠ ')')
  let start := opened.scanner.offset
  if walk.scanner.peek = none then
    return (.error ⟨.openCall function (walk.scanner.text.drop start), line, offset⟩,
      walk.scanner)
  else
    let inner := Text.trim (← walk.scanner.cut start walk.scanner.offset)
    let closed := walk.bump.enter true (.char ')')
    if function = .output ∧ inner = [] then return (.ok none, closed.scanner)
    else
      let literal := String.ofList (function.name ++ '(' :: inner ++ [')'])
      return (.ok (some { kind := function.kind, literal, trace := closed.trace }),
        closed.scanner)

def noteName (scanner : Scanner) (name : String) : Scanner :=
  if scanner.peek = some '=' ∧ scanner.depth = 0 then
    { scanner with globals := scanner.globals.insert name }
  else scanner

def closeWord (letters : List Char) (walk : Walk) : Reading :=
  let done := walk.enter true .epsilon
  let literal := String.ofList letters
  let kind := Segment.wordKind literal
  if kind = .identifier then
    let scope := some done.scanner.scope
    (.ok (some { kind, literal, trace := done.trace, scope }), done.scanner.noteName literal)
  else (.ok (some { kind, literal, trace := done.trace }), done.scanner)

def readWord (scanner : Scanner) : Except Missing Reading := do
  let walk := Walk.follow Text.isAlphanumeric ⟨scanner, []⟩
  let letters ← walk.scanner.cut scanner.offset walk.scanner.offset
  if letters.any Text.isUppercase then
    return (.error ⟨.uppercaseWord letters, scanner.line, scanner.offset⟩, walk.scanner)
  else match Call.ofName? letters, walk.scanner.peek with
    | some function, some '(' => readCall function scanner.line scanner.offset walk
    | _, _ => return closeWord letters walk

def readBlockComment (scanner : Scanner) : Reading :=
  let inside := scanner.bump.bump
  let sought := inside.seekCommentEnd
  if sought.1 then (.ok none, sought.2)
  else
    (.error ⟨.openComment (inside.text.drop inside.offset), scanner.line, scanner.offset⟩,
      sought.2)

def readNext (scanner : Scanner) (c : Char) : Except Missing Reading :=
  match CharClass.of c (scanner.peekNth 1) with
  | .openBrace =>
      let (token, next) := scanner.readSingle .punctuator c
      return (token, { next with depth := next.depth + 1 })
  | .closeBrace =>
      let (token, next) := scanner.readSingle .punctuator c
      return (token, { next with depth := next.depth - 1 })
  | .blank | .unknown => return (.ok none, scanner.bump)
  | .digit => scanner.readNumber
  | .charQuote => return scanner.readCharacter
  | .stringQuote => scanner.readString
  | .letter => scanner.readWord
  | .lineComment => return (.ok none, scanner.skipWhile (· ≠ '\n'))
  | .blockComment => return scanner.readBlockComment
  | .operator => return scanner.readSingle .operator c
  | .punctuator => return scanner.readSingle .punctuator c

/-- Reads on to the end of the text or to an error, in so many turns at most. If these are not
enough, there is no answer. -/
def readOn (scanner : Scanner) (tokens : List Token) (turns : Nat) :
    Except Missing (Option (Except ScanError (List Token) × Scanner)) :=
  match scanner.peek, turns with
  | none, _ => return some (.ok (tokens ++ [Token.eof]), scanner)
  | some _, 0 => return none
  | some c, turns + 1 => do
      match ← scanner.readNext c with
      | (.ok token, next) => next.readOn (tokens ++ token.toList) turns
      | (.error error, next) => return some (.error error, next)

end Scanner
end TracingLexer
