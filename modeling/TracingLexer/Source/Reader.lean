import TracingLexer.Source.CharClass
import TracingLexer.Source.Segment
import TracingLexer.Text.Alphanumeric
import TracingLexer.Text.Uppercase

namespace TracingLexer.Segment

def isNumberChar (c : Char) : Bool := c.isDigit || c == '.'

/-- The text before the first star that a slash follows. -/
def commentBody? : List Char → Option (List Char)
  | [] => none
  | c :: rest =>
      if c = '*' ∧ rest.head? = some '/' then some []
      else (commentBody? rest).map (c :: ·)

/-- A character literal is one character between quotes; any other quote stands alone. -/
def readCharacter : List Char → Segment
  | value :: close :: _ =>
      if value ≠ '\'' ∧ close = '\'' then character value else stray '\''
  | _ => stray '\''

def readBlockComment (rest : List Char) : Except Fault Segment :=
  match commentBody? rest with
  | some body => .ok (blockComment body)
  | none => .error (.openComment rest)

/-- A call extends through the first closing parenthesis. -/
def readCall (function : Call) (rest : List Char) : Except Fault Segment :=
  if ')' ∈ rest then .ok (call function (rest.takeWhile (· ≠ ')')))
  else .error (.openCall function rest)

/-- A word of lowercase letters; the name of a function right before a parenthesis is a call. -/
def readWord (letters rest : List Char) : Except Fault Segment :=
  if letters.any Text.isUppercase then .error (.uppercaseWord letters)
  else match Call.ofName? letters, rest with
    | some function, '(' :: inner => readCall function inner
    | _, _ => .ok (word letters)

def read (c : Char) (rest : List Char) : Except Fault Segment :=
  match CharClass.of c rest.head? with
  | .blank => .ok (blank c)
  | .digit => .ok (number (c :: rest.takeWhile isNumberChar))
  | .charQuote => .ok (readCharacter rest)
  | .stringQuote => .ok (string (rest.takeWhile (· ≠ '"')) (rest.contains '"'))
  | .letter =>
      readWord (c :: rest.takeWhile Text.isAlphanumeric) (rest.dropWhile Text.isAlphanumeric)
  | .lineComment => .ok (lineComment (rest.tail.takeWhile (· ≠ '\n')))
  | .blockComment => readBlockComment rest.tail
  | .operator => .ok (operator c)
  | .openBrace | .closeBrace | .punctuator => .ok (punctuator c)
  | .unknown => .ok (stray c)

def consumed : Except Fault Segment → List Char
  | .ok segment => segment.text
  | .error fault => fault.text

theorem commentBody?_eq_some {rest body : List Char} (found : commentBody? rest = some body) :
    body ++ ['*', '/'] <+: rest := by
  induction rest generalizing body with
  | nil => simp [commentBody?] at found
  | cons c rest ih =>
      simp only [commentBody?] at found
      split at found
      next close =>
        obtain ⟨rfl, slash⟩ := close
        cases rest with
        | nil => simp at slash
        | cons next rest =>
            simp_all only [List.head?_cons, Option.some.injEq]
            subst found
            simp
      next =>
        obtain ⟨inner, innerFound, rfl⟩ := Option.map_eq_some_iff.mp found
        simpa using ih innerFound

theorem takeWhile_ne_append_stop {stop : Char} {rest : List Char} (present : stop ∈ rest) :
    rest.takeWhile (· ≠ stop) ++ [stop] <+: rest := by
  induction rest with
  | nil => simp at present
  | cons c rest ih =>
      by_cases same : c = stop
      · simp [same]
      · have later : stop ∈ rest := by
          rcases List.mem_cons.mp present with equal | later
          · exact absurd equal.symm same
          · exact later
        simpa [same] using ih later

theorem Call.name_of_ofName? {word : List Char} {function : Call}
    (found : Call.ofName? word = some function) : function.name = word := by
  simp only [Call.ofName?] at found
  split at found
  · simp_all
  · split at found <;> simp_all

theorem consumed_readCharacter (rest : List Char) :
    (readCharacter rest).text <+: '\'' :: rest := by
  unfold readCharacter
  split
  · split
    next closed => simp [text, closed.2]
    next => simp [text]
  · simp [text]

theorem consumed_readBlockComment (rest : List Char) :
    consumed (readBlockComment rest) <+: '/' :: '*' :: rest := by
  unfold readBlockComment
  split
  next found => simpa [consumed, text] using commentBody?_eq_some found
  next => simp [consumed, Fault.text]

theorem consumed_readCall (function : Call) (rest : List Char) :
    consumed (readCall function rest) <+: function.name ++ '(' :: rest := by
  unfold readCall
  split
  next present =>
    simpa [consumed, text, List.prefix_append_right_inj] using takeWhile_ne_append_stop present
  next => simp [consumed, Fault.text]

theorem consumed_readWord (letters rest : List Char) :
    consumed (readWord letters rest) <+: letters ++ rest := by
  unfold readWord
  split
  · simp [consumed, Fault.text]
  · split
    next found =>
      rw [← Call.name_of_ofName? found]
      exact consumed_readCall _ _
    next => simp [consumed, text]

theorem consumed_string (rest : List Char) :
    (string (rest.takeWhile (· ≠ '"')) (rest.contains '"')).text <+: '"' :: rest := by
  by_cases closed : '"' ∈ rest
  · simpa [text, closed] using takeWhile_ne_append_stop closed
  · simpa [text, closed] using List.takeWhile_prefix _

theorem consumed_read (c : Char) (rest : List Char) : consumed (read c rest) <+: c :: rest := by
  unfold read
  split
  · simp [consumed, text]
  · simpa [consumed, text] using List.takeWhile_prefix _
  next quote => exact CharClass.eq_of_charQuote quote ▸ consumed_readCharacter rest
  next quote => exact CharClass.eq_of_stringQuote quote ▸ consumed_string rest
  · simpa [List.takeWhile_append_dropWhile] using
      consumed_readWord (c :: rest.takeWhile Text.isAlphanumeric)
        (rest.dropWhile Text.isAlphanumeric)
  next slashes =>
    obtain ⟨rfl, second⟩ := CharClass.eq_of_lineComment slashes
    obtain ⟨tail, rfl⟩ := List.head?_eq_some_iff.mp second
    simpa [consumed, text] using List.takeWhile_prefix _
  next opening =>
    obtain ⟨rfl, second⟩ := CharClass.eq_of_blockComment opening
    obtain ⟨tail, rfl⟩ := List.head?_eq_some_iff.mp second
    exact consumed_readBlockComment tail
  all_goals simp [consumed, text]

theorem consumed_read_ne_nil (c : Char) (rest : List Char) : consumed (read c rest) ≠ [] := by
  unfold read
  split
  case h_3 =>
    unfold readCharacter
    split
    · split <;> simp [consumed, text]
    · simp [consumed, text]
  case h_5 =>
    unfold readWord
    split
    · simp [consumed, Fault.text]
    · split
      · unfold readCall
        split <;> simp [consumed, text, Fault.text]
      · simp [consumed, text]
  case h_7 =>
    unfold readBlockComment
    split <;> simp [consumed, text, Fault.text]
  all_goals simp [consumed, text]

end TracingLexer.Segment
