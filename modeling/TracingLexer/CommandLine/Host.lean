namespace TracingLexer

inductive SystemError where
  | notFound
  | notDirectory
  | isDirectory
  | invalidText
  | other (text : String)
  deriving DecidableEq, Repr

def SystemError.message : SystemError → String
  | notFound => "No such file or directory (os error 2)"
  | notDirectory => "Not a directory (os error 20)"
  | isDirectory => "Is a directory (os error 21)"
  | invalidText => "stream did not contain valid UTF-8"
  | other text => text

inductive DrawOutcome where
  | drawn
  | complained (text : String)
  deriving DecidableEq, Repr

class Host (m : Type → Type) where
  readBytes (path : String) : m (Except SystemError ByteArray)
  writeText (path text : String) : m (Except SystemError Unit)
  draw (arguments : List String) : m (Except SystemError DrawOutcome)
  print (text : String) : m Unit
  warn (line : String) : m Unit

inductive Effect where
  | read (path : String)
  | write (path text : String)
  | draw (arguments : List String)
  | print (text : String)
  | warn (line : String)
  deriving DecidableEq, Repr

/-- How files are read and written, and what the drawing program makes of them. A write or a drawing
that fails may leave other files behind, such as half of a text. -/
structure System (Files : Type) where
  read : Files → String → Except SystemError ByteArray
  write : Files → String → ByteArray → Except SystemError Unit × Files
  draw : Files → List String → Except SystemError DrawOutcome × Files

structure World (Files : Type) where
  system : System Files
  files : Files
  journal : List Effect := []

namespace World

variable {Files : Type}

def note (world : World Files) (effect : Effect) : World Files :=
  { world with journal := world.journal ++ [effect] }

def printed (world : World Files) : String :=
  String.join (world.journal.filterMap fun
    | .print text => some text
    | _ => none)

def warnings (world : World Files) : List String :=
  world.journal.filterMap fun
    | .warn line => some line
    | _ => none

instance : Host (StateM (World Files)) where
  readBytes path := fun world => (world.system.read world.files path, world.note (.read path))
  writeText path text := fun world =>
    let (outcome, files) := world.system.write world.files path text.toUTF8
    (outcome, { world.note (.write path text) with files })
  draw arguments := fun world =>
    let (outcome, files) := world.system.draw world.files arguments
    (outcome, { world.note (.draw arguments) with files })
  print text := fun world => ((), world.note (.print text))
  warn line := fun world => ((), world.note (.warn line))

end World
end TracingLexer
