import TracingLexer.Text.Collapse
import TracingLexer.Text.Decimal
import TracingLexer.Text.Trim
import TracingLexer.Token

namespace TracingLexer

inductive Call where
  | input
  | output
  deriving DecidableEq, Repr, Inhabited

namespace Call

def name : Call → List Char
  | input => ['i', 'n', 'p', 'u', 't']
  | output => ['o', 'u', 't', 'p', 'u', 't']

def kind : Call → Kind
  | input => .input
  | output => .output

def ofName? (word : List Char) : Option Call :=
  if word = input.name then some input
  else if word = output.name then some output
  else none

end Call

inductive Segment where
  | blank (c : Char)
  /-- A character that begins nothing, or a quote that opens no character literal. -/
  | stray (c : Char)
  | lineComment (body : List Char)
  | blockComment (body : List Char)
  | number (run : List Char)
  | character (value : Char)
  /-- A quoted text; one that is not closed runs to the end of the source. -/
  | string (content : List Char) (closed : Bool)
  | word (letters : List Char)
  | call (function : Call) (content : List Char)
  | operator (c : Char)
  | punctuator (c : Char)
  deriving DecidableEq, Repr, Inhabited

inductive Fault where
  | uppercaseWord (word : List Char)
  | openComment (body : List Char)
  | openCall (function : Call) (content : List Char)
  deriving DecidableEq, Repr, Inhabited

def Fault.text : Fault → List Char
  | uppercaseWord word => word
  | openComment body => '/' :: '*' :: body
  | openCall function content => function.name ++ '(' :: content

namespace Segment

def text : Segment → List Char
  | blank c | stray c | operator c | punctuator c => [c]
  | lineComment body => '/' :: '/' :: body
  | blockComment body => '/' :: '*' :: body ++ ['*', '/']
  | number run => run
  | character value => ['\'', value, '\'']
  | string content closed => '"' :: content ++ if closed then ['"'] else []
  | word letters => letters
  | call function content => function.name ++ '(' :: content ++ [')']

def keywords : List String := ["read", "write", "if", "else", "loop", "end"]
def datatypes : List String := ["num", "bool", "char", "dec"]
def booleans : List String := ["true", "false"]

def wordKind (word : String) : Kind :=
  if word ∈ booleans then .boolean
  else if word ∈ keywords then .keyword
  else if word ∈ datatypes then .datatype
  else .identifier

/-- The kind and literal of the token read off; layout gives none, nor does an empty output call. -/
def reading? : Segment → Option (Kind × String)
  | number run =>
      if '.' ∈ run then
        some (.decimal, String.ofList ((Text.Decimal.round? run).getD run))
      else some (.integer, String.ofList run)
  | character value => some (.character, String.ofList [value])
  | string content _ => some (.string, String.ofList content)
  | word letters =>
      let word := String.ofList letters
      some (wordKind word, word)
  | call function content =>
      let inner := Text.trim content
      if function = .output ∧ inner = [] then none
      else some (function.kind, String.ofList (function.name ++ '(' :: inner ++ [')']))
  | operator c => some (.operator, String.ofList [c])
  | punctuator c => some (.punctuator, String.ofList [c])
  | blank _ | stray _ | lineComment _ | blockComment _ => none

/-- The symbols of the states walked through; runs of one character take a single state. -/
def symbols : Segment → List Symbol
  | number run | word run => (Text.collapse run).map .char ++ [.epsilon]
  | character value => [.char '\'', .char value, .char '\'']
  | string content _ => (Text.collapse ('"' :: content)).map .char ++ [.char '"']
  | call function content =>
      (Text.collapse (function.name ++ '(' :: content)).map .char ++ [.char ')']
  | operator c | punctuator c => [.char c]
  | blank _ | stray _ | lineComment _ | blockComment _ => []

/-- The states of the segment, numbered from the first id. Those of a character literal name
their successors. -/
def trace (segment : Segment) (first : Nat) : List State :=
  let states := State.chain first segment.symbols
  match segment with
  | character _ => State.linkAll states
  | _ => states

end Segment
end TracingLexer
