import TracingLexer.State

namespace TracingLexer

inductive Kind where
  | keyword | datatype | identifier | integer | decimal | character | string | boolean
  | operator | punctuator | input | output | eof
  deriving DecidableEq, Repr, Inhabited

namespace Kind

def name : Kind → String
  | keyword => "KEYWORD"
  | datatype => "DATATYPE"
  | identifier => "IDENTIFIER"
  | integer => "INTEGER"
  | decimal => "DECIMAL"
  | character => "CHARACTER"
  | string => "STRING"
  | boolean => "BOOLEAN"
  | operator => "OPERATOR"
  | punctuator => "PUNCTUATOR"
  | input => "INPUT"
  | output => "OUTPUT"
  | eof => "EOF"

def title : Kind → String
  | keyword => "Keyword"
  | datatype => "Datatype"
  | identifier => "Identifier"
  | integer => "Integer"
  | decimal => "Decimal"
  | character => "Character"
  | string => "String"
  | boolean => "Boolean"
  | operator => "Operator"
  | punctuator => "Punctuator"
  | input => "Input"
  | output => "Output"
  | eof => "Eof"

end Kind

inductive Scope where
  | global
  | nested
  deriving DecidableEq, Repr, Inhabited

def Scope.name : Scope → String
  | .global => "Global"
  | .nested => "Local"

structure Token where
  kind : Kind
  literal : String
  trace : List State
  scope : Option Scope := none
  deriving DecidableEq, Inhabited

namespace Token

def eof : Token := { kind := .eof, literal := "EOF", trace := [] }

/-- The symbols along the trace. Tokens of one shape were matched by automata that look alike. -/
def shape (token : Token) : List Symbol := token.trace.map State.symbol

def display (token : Token) : String :=
  let path := token.trace.map fun state =>
    "(State " ++ toString state.id ++ " -> '" ++ state.symbol.display ++ "')"
  let scope := match token.scope with
    | some scope => " [" ++ scope.name ++ "]"
    | none => ""
  "Token\x7b" ++ token.kind.name ++ ", value='" ++ token.literal ++ "', states=[ (Start)" ++
    ", ".intercalate path ++ "](Final)" ++ scope ++ "\x7d"

end Token
end TracingLexer
