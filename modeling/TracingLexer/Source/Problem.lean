import TracingLexer.Source.Segment

namespace TracingLexer

structure ScanError where
  fault : Fault
  line : Nat
  offset : Nat
  deriving DecidableEq, Repr

def ScanError.message (error : ScanError) : String :=
  let place := s!"line number: {error.line} on index: {error.offset}"
  match error.fault with
  | .uppercaseWord word => s!"Error: At {place} Uppercase word '" ++ String.ofList word ++ "'"
  | .openComment _ => s!"Error: Multiline comment is not closed at {place}"
  | .openCall function _ =>
      s!"Error: At {place} Missing closing ')' for " ++ String.ofList function.name

/-- A quoted text that is not closed; the line is that of its opening quote. -/
structure Warning where
  line : Nat
  deriving DecidableEq, Repr

def Warning.message (warning : Warning) : String :=
  s!"String literal starting at line {warning.line} is not closed and runs to the end of input"

end TracingLexer
