import TracingLexer.Proofs.CommandLine.Accepted
import TracingLexer.Proofs.CommandLine.Stages

namespace TracingLexer

variable {Files : Type}

def Ending.inWorld (world : World Files) (arguments : List String) : Ending × World Files :=
  (Ending.ofArguments arguments : StateM (World Files) Ending) world

namespace Run

def runIn {Result : Type} (world : World Files) (action : Steps (StateM (World Files)) Result) :
    Except Failure Result × World Files := action.run world

section

variable {First Second Problem : Type} (world : World Files)

theorem runIn_bind (action : Steps (StateM (World Files)) First)
    (next : First → Steps (StateM (World Files)) Second) :
    runIn world (action >>= next) =
      match runIn world action with
      | (.ok value, after) => runIn after (next value)
      | (.error failure, after) => (.error failure, after) := by
  rw [runIn, runIn, ExceptT.run_bind]
  simp only [bind, StateT.bind]
  rcases action.run world with ⟨_ | _, after⟩ <;> rfl

theorem runIn_bind_eq_error_iff {action : Steps (StateM (World Files)) First}
    {next : First → Steps (StateM (World Files)) Second} {failure : Failure} {after : World Files} :
    runIn world (action >>= next) = (.error failure, after) ↔
      runIn world action = (.error failure, after) ∨
        ∃ value between, runIn world action = (.ok value, between) ∧
          runIn between (next value) = (.error failure, after) := by
  rw [runIn_bind]
  rcases runIn world action with ⟨stopped | value, between⟩ <;> simp

theorem runIn_lift (action : StateM (World Files) First) :
    runIn world (ExceptT.lift action) = (.ok (action world).1, (action world).2) := rfl

theorem runIn_require (cause : Problem → Failure) (result : Except Problem First) :
    runIn world (require cause result) = (result.mapError cause, world) := by
  cases result <;> rfl

theorem runIn_request (cause : SystemError → Failure)
    (answer : StateM (World Files) (Except SystemError First)) :
    runIn world (request cause answer) = ((answer world).1.mapError cause, (answer world).2) := by
  rw [request, runIn_bind, runIn_lift]
  cases (answer world).1 <;> rfl

theorem runIn_request_ne {cause : SystemError → Failure} {failure : Failure}
    (other : ∀ error, cause error ≠ failure) (answer : StateM (World Files) (Except SystemError First))
    (after : World Files) : runIn world (request cause answer) ≠ (.error failure, after) := by
  rw [runIn_request]
  cases (answer world).1 with
  | ok value => simp [Except.mapError]
  | error error => simp [Except.mapError, other]

theorem runIn_write (cause : SystemError → Failure) (path text : String) :
    runIn world (request cause (Host.writeText path text)) =
      ((world.system.write world.files path text.toUTF8).1.mapError cause,
        world.perform (.write path text)) :=
  runIn_request world cause (Host.writeText path text)

theorem runIn_forIn_warn (warnings : List Warning) (world : World Files) :
    runIn world (forIn warnings PUnit.unit fun warning _ => do
        ExceptT.lift (Host.warn ("Warning: " ++ warning.message))
        pure (ForInStep.yield PUnit.unit)) =
      (.ok (), world.performAll
        (warnings.map fun warning => .warn ("Warning: " ++ warning.message))) := by
  induction warnings generalizing world with
  | nil => rfl
  | cons warning warnings ih =>
      rw [List.forIn_cons]
      exact ih (world.perform (.warn ("Warning: " ++ warning.message)))

end

def Follows (action : Steps (StateM (World Files)) Unit) (stages : List Stage) (stand : Stand Files) : Prop :=
  runIn stand.world action = ((walk stand stages).1, (walk stand stages).2.world)

theorem follows_nil (stand : Stand Files) : Follows (pure ()) [] stand := rfl

theorem Follows.bind {action : Steps (StateM (World Files)) Unit}
    {next : Unit → Steps (StateM (World Files)) Unit} {first second : List Stage} {stand : Stand Files}
    (here : Follows action first stand)
    (onward : Passes stand first → Follows (next ()) second (stand.through first)) :
    Follows (action >>= next) (first ++ second) stand := by
  rw [Follows, runIn_bind, here]
  rcases passes_or_fails stand first with
    passes | ⟨passed, stage, later, failure, rfl, passes, fails⟩
  · rw [walk_append passes, walk_of_passes passes]
    exact onward passes
  · rw [List.append_assoc, List.cons_append, walk_of_fails passes fails, walk_of_fails passes fails]

namespace Stage

def answer {Result : Type} (stand : Stand Files) (value : Result) (stage : Stage) :
    Except Failure Result × World Files :=
  (match stage.failure? stand with
    | none => .ok value
    | some failure => .error failure,
  (stage.after stand).world)

theorem follows {Result : Type} {stage : Stage} {stand : Stand Files} {value : Result}
    {action : Steps (StateM (World Files)) Result} {next : Result → Steps (StateM (World Files)) Unit}
    {later : List Stage} (here : runIn stand.world action = stage.answer stand value)
    (onward : stage.failure? stand = none → Follows (next value) later (stage.after stand)) :
    Follows (action >>= next) (stage :: later) stand := by
  rw [Follows, runIn_bind, here, answer, walk]
  cases outcome : stage.failure? stand with
  | none => exact onward outcome
  | some failure => rfl

variable (stand : Stand Files)

theorem runIn_checkView (name : Option String) :
    runIn stand.world (require id (viewOf name)) =
      (checkView name).answer stand (name.bind View.ofName?) := by
  rw [runIn_require, answer]
  cases name with
  | none => rfl
  | some name =>
      simp only [failure?, viewOf, Option.bind_some]
      cases View.ofName? name <;> rfl

theorem runIn_checkExtension (path : String) :
    runIn stand.world (require id (Run.checkExtension path)) =
      (checkExtension path).answer stand () := by
  rw [runIn_require, Run.checkExtension, answer, failure?]
  split <;> rfl

theorem runIn_readSource (path : String) :
    runIn stand.world (Run.readSource path) =
      (readSource path).answer stand ((readSource path).after stand).source := by
  rw [Run.readSource, runIn_bind, runIn_request, answer]
  simp only [failure?, after, learn, readText, Host.readBytes]
  cases stand.world.system.read stand.world.files path with
  | error error => rfl
  | ok bytes =>
      simp only [Except.bind, Except.mapError, runIn_require]
      cases decode bytes <;> rfl

theorem runIn_scan :
    runIn stand.world (require .scan (tokenize stand.source)) =
      scan.answer stand (scan.after stand).tokens := by
  rw [runIn_require, answer]
  simp only [failure?, after, learn]
  cases tokenize stand.source <;> rfl

theorem runIn_warn :
    runIn stand.world (forIn stand.warnings PUnit.unit fun warning _ => do
        ExceptT.lift (Host.warn ("Warning: " ++ warning.message))
        pure (ForInStep.yield PUnit.unit)) =
      warn.answer stand () :=
  runIn_forIn_warn stand.warnings stand.world

theorem runIn_writeTokens (path : String) :
    runIn stand.world (request .tokenFile (Host.writeText path (Report.tokenFile stand.tokens))) =
      (writeTokens path).answer stand () := by
  rw [Report.tokenFile_eq, runIn_write, answer, failure?]
  cases (stand.world.system.write stand.world.files path
    (Report.listingText stand.tokens).toUTF8).1 <;> rfl

theorem runIn_report (style : ReportStyle) :
    runIn stand.world
        (ExceptT.lift (Host.print (Report.render style stand.source stand.tokens))) =
      (report style).answer stand () := by
  rw [Report.render_eq]
  rfl

theorem runIn_select (selector : Selector) :
    runIn stand.world (require id (Run.select selector stand.tokens)) =
      (select selector).answer stand ((selector.find? stand.tokens).getD default) := by
  rw [runIn_require, Run.select, answer, failure?]
  cases selector.find? stand.tokens <;> rfl

theorem runIn_writeDot (view : View) :
    runIn stand.world
        (request .dotFile (Host.writeText (view.fileName ++ ".dot") (view.dotText stand.path))) =
      (writeDot view).answer stand () := by
  rw [runIn_write, answer, failure?]
  cases (stand.world.system.write stand.world.files (view.fileName ++ ".dot")
    (view.dotText stand.path).toUTF8).1 <;> rfl

end Stage

theorem follows_saveDrawing (stand : Stand Files) (view : View) :
    Follows (saveDrawing view.fileName (view.automaton stand.path)) (saving view) stand := by
  obtain ⟨graph, found, dot_eq⟩ := View.exists_digraph stand.path view
  rw [saveDrawing, found]
  simp only [require, pure_bind, dot_eq]
  apply Stage.follows (Stage.runIn_writeDot stand view)
  intro _
  generalize (Stage.writeDot view).after stand = written
  have drawn : runIn written.world
      (request (fun error => .drawing error.message) (Host.draw view.drawArguments)) =
        ((written.world.system.draw written.world.files view.drawArguments).1.mapError
          fun error => .drawing error.message, ((Stage.draw view).after written).world) := by
    rw [runIn_request]
    rfl
  change Follows (request _ (Host.draw view.drawArguments) >>= _) _ written
  rw [Follows, runIn_bind, drawn]
  simp only [walk, Stage.failure?]
  rcases (written.world.system.draw written.world.files view.drawArguments).1 with
    error | text | text <;> rfl

section

variable {options : Options} (stand : Stand Files)

theorem follows_showToken (selector : Selector) :
    Follows (showToken options none selector stand.tokens)
      (.select selector :: if options.save then saving .nfa ++ saving .dfa else []) stand := by
  rw [showToken]
  apply Stage.follows (Stage.runIn_select stand selector)
  intro _
  generalize selected : (Stage.select selector).after stand = chosen
  have path : ((selector.find? stand.tokens).getD default).trace = chosen.path := by
    rw [← selected]
    simp only [Stage.after, Stage.learn]
    cases selector.find? stand.tokens <;> rfl
  rw [path]
  cases options.save with
  | false => exact follows_nil chosen
  | true =>
      apply (follows_saveDrawing chosen .nfa).bind
      intro _
      -- The second drawing is the last step, as no window is asked for.
      exact (follows_saveDrawing (chosen.through (saving .nfa)) .dfa).bind fun _ => follows_nil _

theorem follows_showing (plain : options.selector = none → options.save = false) :
    Follows
      (match options.selector with
        | some selector => showToken options none selector stand.tokens
        | _ => pure ())
      (showing options) stand := by
  rw [showing]
  cases selected : options.selector with
  | some selector => exact follows_showToken stand selector
  | none =>
      rw [plain selected]
      exact follows_nil stand

theorem follows_report (plain : options.selector = none → options.save = false) :
    Follows
      (do
        ExceptT.lift (Host.print (Report.render options.style stand.source stand.tokens))
        match options.selector with
          | some selector => showToken options none selector stand.tokens
          | _ => pure ())
      (.report options.style :: showing options) stand := by
  apply Stage.follows (Stage.runIn_report stand options.style)
  intro _
  exact follows_showing _ plain

theorem follows_execute (noWindow : options.visualize.bind View.ofName? = none)
    (plain : options.selector = none → options.save = false) :
    Follows (execute options) (stages options) stand := by
  simp only [execute, stages, opening, reporting, List.append_assoc, List.cons_append,
    List.nil_append]
  apply Stage.follows (Stage.runIn_checkView stand options.visualize)
  intro _
  apply Stage.follows (Stage.runIn_checkExtension _ options.file)
  intro _
  apply Stage.follows (Stage.runIn_readSource _ options.file)
  intro _
  apply Stage.follows (Stage.runIn_scan _)
  intro _
  rw [noWindow]
  generalize (Stage.readSource options.file).after _ = stand
  apply Stage.follows (Stage.runIn_warn (Stage.scan.after stand))
  intro _
  have quiet := follows_report (Stage.warn.after (Stage.scan.after stand)) plain
  cases options.output with
  | none => exact quiet
  | some path =>
      apply Stage.follows (Stage.runIn_writeTokens (Stage.warn.after (Stage.scan.after stand)) path)
      intro _
      exact follows_report _ plain

end

theorem inWorld_eq_walk {arguments : List String} {options : Options}
    (accepted : Invocation.ofArguments arguments = .run options)
    (noWindow : options.visualize.bind View.ofName? = none) (world : World Files) :
    Ending.inWorld world arguments =
      (Ending.ofResult (walk { world } (stages options)).1,
        (walk { world } (stages options)).2.world) := by
  have plain : options.selector = none → options.save = false :=
    fun noToken => (plain_of_accepted accepted noToken).1
  have follows : runIn world (execute options) = _ := follows_execute { world } noWindow plain
  rw [Ending.inWorld, Ending.ofArguments, accepted]
  change (Ending.ofResult (runIn world (execute options)).1, (runIn world (execute options)).2) = _
  rw [follows]

end Run
end TracingLexer
