import TracingLexer.Report
import TracingLexer.Selection

/-!
The arguments of the command line. They are read from left to right; the first that does not fit
refuses the whole line, and a request for the version or for help ends the reading.
-/

namespace TracingLexer

inductive Switch where
  | json | noAutomata | noSymbolTable | save
  deriving DecidableEq, Repr

inductive Setting where
  | output | token | kind | visualize
  deriving DecidableEq, Repr

inductive OptionName where
  | switch (switch : Switch)
  | setting (setting : Setting)
  | help
  | version
  deriving DecidableEq, Repr

namespace OptionName

def ofLetter? : Char → Option OptionName
  | 'j' => some (switch .json)
  | 's' => some (switch .save)
  | 'o' => some (setting .output)
  | 't' => some (setting .token)
  | 'k' => some (setting .kind)
  | 'v' => some (setting .visualize)
  | 'h' => some help
  | 'V' => some version
  | _ => none

def ofWord? (word : List Char) : Option OptionName :=
  match String.ofList word with
  | "json" => some (switch .json)
  | "no-automata" => some (switch .noAutomata)
  | "no-symbol-table" => some (switch .noSymbolTable)
  | "save" => some (switch .save)
  | "output" => some (setting .output)
  | "token" => some (setting .token)
  | "kind" => some (setting .kind)
  | "visualize" => some (setting .visualize)
  | "help" => some help
  | "version" => some version
  | _ => none

end OptionName

inductive Refusal where
  | noFile
  | secondFile (argument : String)
  | unknownOption (argument : String)
  | missingValue (setting : Setting)
  | unwantedValue (argument : String)
  | repeatedSwitch (switch : Switch)
  | repeatedSetting (setting : Setting)
  | emptyName
  | needsToken
  deriving DecidableEq, Repr

def Refusal.message : Refusal → String
  | noFile => "a source file is required"
  | secondFile argument => "unexpected argument: " ++ argument
  | unknownOption argument => "unknown option: " ++ argument
  | missingValue _ => "an option lacks its value"
  | unwantedValue argument => "an option takes no value: " ++ argument
  | repeatedSwitch _ | repeatedSetting _ => "an option is given twice"
  | emptyName => "a file name is empty"
  | needsToken => "options that choose or show a token require --token"

structure Draft where
  file : Option String := none
  switches : List Switch := []
  settings : List (Setting × String) := []
  deriving DecidableEq, Repr

namespace Draft

def value? (draft : Draft) (setting : Setting) : Option String :=
  List.lookup setting draft.settings

def addFile (draft : Draft) (name : String) : Except Refusal Draft :=
  if draft.file.isSome then .error (.secondFile name)
  else if name = "" then .error .emptyName
  else .ok { draft with file := some name }

def addSwitch (draft : Draft) (switch : Switch) : Except Refusal Draft :=
  if switch ∈ draft.switches then .error (.repeatedSwitch switch)
  else .ok { draft with switches := switch :: draft.switches }

/-- Only a file name may not be empty. -/
def addSetting (draft : Draft) (setting : Setting) (value : String) : Except Refusal Draft :=
  if (draft.value? setting).isSome then .error (.repeatedSetting setting)
  else if setting = .output ∧ value = "" then .error .emptyName
  else .ok { draft with settings := (setting, value) :: draft.settings }

end Draft

structure Options where
  file : String
  output : Option String
  style : ReportStyle
  selector : Option Selector
  save : Bool
  visualize : Option String
  deriving DecidableEq, Repr

/-- The options of a complete draft. A kind, an export or a window needs a token. -/
def Draft.finish (draft : Draft) : Except Refusal Options :=
  let given (switch : Switch) : Bool := switch ∈ draft.switches
  match draft.file with
  | none => .error .noFile
  | some file =>
      let dependent := given .save || (draft.value? .kind).isSome || (draft.value? .visualize).isSome
      if dependent && (draft.value? .token).isNone then .error .needsToken
      else .ok {
        file
        output := draft.value? .output
        style := ⟨given .json, !given .noAutomata, !given .noSymbolTable⟩
        selector := (draft.value? .token).map fun literal => ⟨literal, draft.value? .kind⟩
        save := given .save
        visualize := draft.value? .visualize }

inductive Invocation where
  | run (options : Options)
  | help
  | version
  | refused (refusal : Refusal)
  deriving DecidableEq, Repr

namespace Invocation

/-- Where the reading of one argument leads: on with a draft, on with the value of a setting still
to come, or to its end. -/
inductive Progress where
  | more (draft : Draft)
  | awaiting (draft : Draft) (setting : Setting)
  | done (invocation : Invocation)

def Progress.ofDraft : Except Refusal Draft → Progress
  | .ok draft => .more draft
  | .error refusal => .done (.refused refusal)

/-- The letters behind one dash. The letters after a setting are its value, which may follow an
equals sign. -/
def readLetters (argument : String) (draft : Draft) : List Char → Progress
  | [] => .more draft
  | letter :: rest =>
      match OptionName.ofLetter? letter with
      | none => .done (.refused (.unknownOption argument))
      | some .help => .done .help
      | some .version => .done .version
      | some (.switch switch) =>
          match draft.addSwitch switch with
          | .ok draft => readLetters argument draft rest
          | .error refusal => .done (.refused refusal)
      | some (.setting setting) =>
          match rest with
          | [] => .awaiting draft setting
          | '=' :: value => .ofDraft (draft.addSetting setting (String.ofList value))
          | value => .ofDraft (draft.addSetting setting (String.ofList value))

def readWord (argument : String) (draft : Draft) (text : List Char) : Progress :=
  let value := match text.dropWhile (· ≠ '=') with
    | [] => none
    | _ :: value => some (String.ofList value)
  match OptionName.ofWord? (text.takeWhile (· ≠ '=')), value with
  | none, _ => .done (.refused (.unknownOption argument))
  | some (.setting setting), some value => .ofDraft (draft.addSetting setting value)
  | some (.setting setting), none => .awaiting draft setting
  | some _, some _ => .done (.refused (.unwantedValue argument))
  | some (.switch switch), none => .ofDraft (draft.addSwitch switch)
  | some .help, none => .done .help
  | some .version, none => .done .version

/-- A dash alone is a name and no option. -/
def readArgument (draft : Draft) (argument : String) : Progress :=
  match argument.toList with
  | '-' :: '-' :: word => readWord argument draft word
  | '-' :: letter :: letters => readLetters argument draft (letter :: letters)
  | _ => .ofDraft (draft.addFile argument)

def looksLikeOption (argument : String) : Bool :=
  match argument.toList with
  | '-' :: _ :: _ => true
  | _ => false

def ofDraft (draft : Draft) : Invocation :=
  match draft.finish with
  | .ok options => .run options
  | .error refusal => .refused refusal

/-- Behind two dashes alone every argument is a file. -/
def readFiles (draft : Draft) (files : List String) : Invocation :=
  match files.foldlM Draft.addFile draft with
  | .ok draft => ofDraft draft
  | .error refusal => .refused refusal

def readAll (draft : Draft) : List String → Invocation
  | [] => ofDraft draft
  | argument :: rest =>
      if argument = "--" then readFiles draft rest
      else match readArgument draft argument with
        | .more draft => readAll draft rest
        | .done invocation => invocation
        | .awaiting draft setting =>
            match rest with
            | [] => .refused (.missingValue setting)
            | value :: rest =>
                if looksLikeOption value then .refused (.missingValue setting)
                else match draft.addSetting setting value with
                  | .ok draft => readAll draft rest
                  | .error refusal => .refused refusal

def ofArguments (arguments : List String) : Invocation := readAll {} arguments

end Invocation
end TracingLexer
