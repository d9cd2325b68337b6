namespace TracingLexer

inductive Json where
  | null
  | bool (value : Bool)
  | nat (value : Nat)
  | text (value : String)
  | list (items : List Json)
  | record (fields : List (String × Json))
  deriving Inhabited

namespace Json

def hexDigit (value : Nat) : Char :=
  if value < 10 then Char.ofNat (48 + value) else Char.ofNat (87 + value)

/-- One character inside a quoted text. Only the quote, the backslash and the control characters
below the blank are escaped. -/
def escape (c : Char) : List Char :=
  if c = '"' then ['\\', '"']
  else if c = '\\' then ['\\', '\\']
  else if c = '\n' then ['\\', 'n']
  else if c = '\t' then ['\\', 't']
  else if c = '\r' then ['\\', 'r']
  else if c = Char.ofNat 8 then ['\\', 'b']
  else if c = Char.ofNat 12 then ['\\', 'f']
  else if c.toNat < 32 then ['\\', 'u', '0', '0', hexDigit (c.toNat / 16), hexDigit (c.toNat % 16)]
  else [c]

def quote (text : String) : String :=
  "\"" ++ String.ofList (text.toList.flatMap escape) ++ "\""

mutual

def compact : Json → String
  | null => "null"
  | bool value => if value then "true" else "false"
  | nat value => Nat.repr value
  | text value => quote value
  | list items => "[" ++ ",".intercalate (compactItems items) ++ "]"
  | record fields => "\x7b" ++ ",".intercalate (compactFields fields) ++ "\x7d"

def compactItems : List Json → List String
  | [] => []
  | item :: items => compact item :: compactItems items

def compactFields : List (String × Json) → List String
  | [] => []
  | (name, value) :: fields => (quote name ++ ":" ++ compact value) :: compactFields fields

end

/-- Items between brackets, each on a line of its own; an empty list stays on one line. -/
def bracketed (indent start close : String) (items : List String) : String :=
  if items.isEmpty then start ++ close
  else
    let inner := "\n" ++ indent ++ "  "
    start ++ inner ++ ("," ++ inner).intercalate items ++ "\n" ++ indent ++ close

mutual

def indented (indent : String) : Json → String
  | null => "null"
  | bool value => if value then "true" else "false"
  | nat value => Nat.repr value
  | text value => quote value
  | list items => bracketed indent "[" "]" (indentedItems (indent ++ "  ") items)
  | record fields => bracketed indent "\x7b" "\x7d" (indentedFields (indent ++ "  ") fields)

def indentedItems (indent : String) : List Json → List String
  | [] => []
  | item :: items => indented indent item :: indentedItems indent items

def indentedFields (indent : String) : List (String × Json) → List String
  | [] => []
  | (name, value) :: fields =>
      (quote name ++ ": " ++ indented indent value) :: indentedFields indent fields

end

def pretty (value : Json) : String := value.indented ""

end Json
end TracingLexer
