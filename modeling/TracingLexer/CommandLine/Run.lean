import TracingLexer.Automaton.Dfa
import TracingLexer.Automaton.Dot
import TracingLexer.Automaton.Nfa
import TracingLexer.CommandLine.Host
import TracingLexer.CommandLine.Options
import TracingLexer.CommandLine.Path
import TracingLexer.Scanner

namespace TracingLexer

inductive Failure where
  | unknownView
  | wrongExtension (path : String)
  | unreadable (path : String) (cause : SystemError)
  | scan (error : ScanError)
  | tokenFile (cause : SystemError)
  | noToken (selector : Selector)
  | undrawable (error : DrawingError)
  | dotFile (cause : SystemError)
  | drawing (reason : String)
  | noDisplay
  deriving DecidableEq, Repr

/-- The messages of a failure, outermost first. -/
def Failure.messages : Failure → List String
  | unknownView => ["visualize should be one of NFA | DFA"]
  | wrongExtension path => ["Error: File must have a .sa extension: " ++ path]
  | unreadable path cause => ["Error: Failed to read the source file " ++ path, cause.message]
  | scan error => [error.message]
  | tokenFile cause => [cause.message]
  | noToken selector => [selector.notFoundMessage]
  | undrawable (.unlabelled state) => [s!"state {state} has no label"]
  | undrawable (.noState number) => [s!"there is no state {number}"]
  | dotFile cause => ["Error: Failed to write the dot file! " ++ cause.message]
  | drawing reason => ["Error: Failed to execute Graphviz! " ++ reason]
  | noDisplay => ["no display is available"]

inductive View where
  | nfa
  | dfa
  deriving DecidableEq, Repr

def View.ofName? (name : String) : Option View :=
  if Text.equalIgnoringCase name "nfa" then some .nfa
  else if Text.equalIgnoringCase name "dfa" then some .dfa
  else none

namespace Run

variable {m : Type → Type} [Monad m] [Host m]

abbrev Steps (m : Type → Type) (Result : Type) : Type := ExceptT Failure m Result

def request {Result : Type} (cause : SystemError → Failure)
    (answer : m (Except SystemError Result)) : Steps m Result := do
  match ← ExceptT.lift answer with
  | .ok result => return result
  | .error error => throw (cause error)

def require {Result Problem : Type} (cause : Problem → Failure) :
    Except Problem Result → Steps m Result
  | .ok result => return result
  | .error problem => throw (cause problem)

def viewOf (name : Option String) : Except Failure (Option View) :=
  match name with
  | none => .ok none
  | some name => match View.ofName? name with
    | some view => .ok (some view)
    | none => .error .unknownView

def checkExtension (path : String) : Except Failure Unit :=
  if Path.extension? path = some "sa" then .ok () else .error (.wrongExtension path)

def decode (bytes : ByteArray) : Except SystemError String :=
  match String.fromUTF8? bytes with
  | some text => .ok text
  | none => .error .invalidText

def readSource (path : String) : Steps m String := do
  let bytes ← request (.unreadable path) (Host.readBytes path)
  require (.unreadable path) (decode bytes)

def saveDrawing (name : String) (automaton : Automaton) : Steps m Unit := do
  let graph ← require .undrawable automaton.digraph
  request .dotFile (Host.writeText (name ++ ".dot") graph.dot)
  let outcome ← request (fun error => .drawing error.message)
    (Host.draw ["-Tjpg", name ++ ".dot", "-o", name ++ ".jpg"])
  match outcome with
  | .drawn =>
      ExceptT.lift (Host.print ("Automaton visualization saved as " ++ name ++ ".jpg\n"))
  | .complained text => throw (.drawing text)

def select (selector : Selector) (tokens : List Token) : Except Failure Token :=
  match selector.find? tokens with
  | some token => .ok token
  | none => .error (.noToken selector)

/-- The steps that a chosen token asks for. A window needs a display, and none is at hand. -/
def showToken (options : Options) (view : Option View) (selector : Selector)
    (tokens : List Token) : Steps m Unit := do
  let token ← require id (select selector tokens)
  if options.save then
    saveDrawing "token_nfa" (Nfa.ofTrace token.trace).automaton
    saveDrawing "token_dfa" (Dfa.ofTrace token.trace).automaton
  if view.isSome then
    throw .noDisplay

def execute (options : Options) : Steps m Unit := do
  let view ← require id (viewOf options.visualize)
  require id (checkExtension options.file)
  let source ← readSource options.file
  let scan := scanText source
  let tokens ← require .scan scan.tokens
  for warning in scan.final.warnings do
    ExceptT.lift (Host.warn ("Warning: " ++ warning.message))
  if let some path := options.output then
    request .tokenFile (Host.writeText path (Report.tokenFile tokens))
  ExceptT.lift (Host.print (Report.render options.style source tokens))
  if let some selector := options.selector then
    showToken options view selector tokens

end Run

structure Ending where
  exit : Nat
  errors : List String
  deriving DecidableEq, Repr

namespace Ending

def versionText : String := "salex 0.1.0\n"

def helpText : String :=
  Text.lines [
    "Usage: salex [OPTIONS] <FILE>",
    "",
    "  -o, --output <FILE>     write the tokens to a file",
    "  -j, --json              print the tokens as JSON",
    "      --no-automata       leave the automata out",
    "      --no-symbol-table   leave the symbol table out",
    "  -t, --token <LITERAL>   choose a token",
    "  -k, --kind <KIND>       choose it among the tokens of a kind",
    "  -s, --save              draw the automata of the token",
    "  -v, --visualize <NFA, DFA>",
    "  -h, --help",
    "  -V, --version"]

variable {m : Type → Type} [Monad m] [Host m]

def ofResult : Except Failure Unit → Ending
  | .ok () => ⟨0, []⟩
  | .error failure => ⟨1, failure.messages⟩

def ofArguments (arguments : List String) : m Ending := do
  match Invocation.ofArguments arguments with
  | .run options => return ofResult (← (Run.execute options).run)
  | .version => Host.print versionText; return ⟨0, []⟩
  | .help => Host.print helpText; return ⟨0, []⟩
  | .refused refusal => return ⟨2, [refusal.message]⟩

end Ending
end TracingLexer
