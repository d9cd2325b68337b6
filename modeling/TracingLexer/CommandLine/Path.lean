namespace TracingLexer.Path

/-- The parts between slashes; doubled slashes count once, and a dot alone names no further
place. -/
def components (path : String) : List String :=
  ((path.toList.splitOn '/').map String.ofList).filter fun part => part ≠ "" ∧ part ≠ "."

def fileName? (path : String) : Option String :=
  (components path).getLast?.filter (· ≠ "..")

/-- What follows the last point of a name, if something precedes that point. -/
def extensionOf? (name : List Char) : Option (List Char) :=
  let reversed := name.reverse
  match reversed.dropWhile (· ≠ '.') with
  | '.' :: _ :: _ => some (reversed.takeWhile (· ≠ '.')).reverse
  | _ => none

def extension? (path : String) : Option String :=
  (fileName? path).bind fun name => (extensionOf? name.toList).map String.ofList

end TracingLexer.Path
