import TracingLexer.CommandLine.Run

/-!
The program. Its host is the system it runs on; drawing programs are not started from here, so a
drawing ends with its dot file.
-/

namespace TracingLexer

def SystemError.ofFailure : IO.Error → SystemError
  | .noFileOrDirectory _ _ _ => .notFound
  | .inappropriateType _ 20 _ | .resourceVanished 20 _ => .notDirectory
  | .inappropriateType _ 21 _ | .resourceVanished 21 _ => .isDirectory
  | error => .other (toString error)

def attempt {Result : Type} (action : IO Result) : IO (Except SystemError Result) := do
  match ← action.toBaseIO with
  | .ok result => return .ok result
  | .error error => return .error (.ofFailure error)

instance : Host IO where
  readBytes path := attempt <| IO.FS.readBinFile path
  writeText path text := attempt <| IO.FS.writeFile path text
  draw _ := return .error .notFound
  print := IO.print
  warn := IO.eprintln

end TracingLexer

def main (arguments : List String) : IO UInt32 := do
  let ending : TracingLexer.Ending ← TracingLexer.Ending.ofArguments arguments
  for message in ending.errors do
    IO.eprintln message
  return ending.exit.toUInt32
