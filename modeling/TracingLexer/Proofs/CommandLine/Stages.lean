import Mathlib.Data.List.Infix
import TracingLexer.CommandLine.Run
import TracingLexer.Proofs.Automaton.Bounds
import TracingLexer.Proofs.CommandLine.Texts

namespace TracingLexer

variable {Files : Type}

def Effect.printed? : Effect → Option String
  | .print text => some text
  | .read _ | .write _ _ | .draw _ | .warn _ => none

theorem World.printed_eq_join (world : World Files) :
    world.printed = String.join (world.journal.filterMap Effect.printed?) := by
  rw [printed]
  congr 2
  funext effect
  cases effect <;> rfl

theorem World.warnings_eq_nil {world : World Files}
    (silent : ∀ effect ∈ world.journal, ∀ line, effect ≠ .warn line) : world.warnings = [] := by
  apply List.filterMap_eq_nil_iff.mpr
  intro effect member
  cases effect with
  | warn line => exact absurd rfl (silent _ member line)
  | _ => rfl

def Effect.Still : Effect → Prop
  | .write _ _ | .draw _ => False
  | .read _ | .print _ | .warn _ => True

namespace World

def perform (world : World Files) (effect : Effect) : World Files :=
  let noted := world.note effect
  match effect with
  | .write path text =>
      { noted with files := (world.system.write world.files path text.toUTF8).2 }
  | .draw arguments => { noted with files := (world.system.draw world.files arguments).2 }
  | .read _ | .print _ | .warn _ => noted

def performAll (world : World Files) (effects : List Effect) : World Files :=
  effects.foldl perform world

theorem journal_perform (world : World Files) (effect : Effect) :
    (world.perform effect).journal = world.journal ++ [effect] := by
  cases effect <;> rfl

theorem system_perform (world : World Files) (effect : Effect) :
    (world.perform effect).system = world.system := by
  cases effect <;> rfl

@[simp] theorem performAll_append (world : World Files) (first second : List Effect) :
    world.performAll (first ++ second) = (world.performAll first).performAll second :=
  List.foldl_append

@[simp] theorem journal_performAll (world : World Files) (effects : List Effect) :
    (world.performAll effects).journal = world.journal ++ effects := by
  induction effects generalizing world with
  | nil => exact (List.append_nil _).symm
  | cons effect effects ih =>
      have onward := ih (world.perform effect)
      rwa [journal_perform, List.append_assoc] at onward

@[simp] theorem system_performAll (world : World Files) (effects : List Effect) :
    (world.performAll effects).system = world.system := by
  induction effects generalizing world with
  | nil => rfl
  | cons effect effects ih => exact (ih (world.perform effect)).trans (system_perform world effect)

theorem files_performAll_of_still (world : World Files) {effects : List Effect}
    (still : ∀ effect ∈ effects, effect.Still) :
    (world.performAll effects).files = world.files := by
  induction effects generalizing world with
  | nil => rfl
  | cons effect effects ih =>
      rw [List.forall_mem_cons] at still
      have here : (world.perform effect).files = world.files := by
        cases effect with
        | write path text => exact still.1.elim
        | draw arguments => exact still.1.elim
        | _ => rfl
      exact (ih (world.perform effect) still.2).trans here

end World

namespace View

def fileName : View → String
  | nfa => "token_nfa"
  | dfa => "token_dfa"

def automaton (trace : List State) : View → Automaton
  | nfa => (Nfa.ofTrace trace).automaton
  | dfa => (Dfa.ofTrace trace).automaton

theorem drawable_automaton (trace : List State) (view : View) :
    (view.automaton trace).Drawable := by
  cases view with
  | nfa => exact Nfa.drawable_ofTrace trace
  | dfa => exact Dfa.drawable_ofTrace trace

def dotText (trace : List State) (view : View) : String :=
  ((view.automaton trace).digraph.toOption.map Digraph.dot).getD ""

theorem exists_digraph (trace : List State) (view : View) :
    ∃ graph, (view.automaton trace).digraph = .ok graph ∧ graph.dot = view.dotText trace := by
  have drawable := drawable_automaton trace view
  obtain ⟨labels, found, _⟩ := Automaton.exists_labels drawable.labelled
  refine ⟨_, drawable.digraph_eq found, ?_⟩
  rw [dotText, drawable.digraph_eq found]
  rfl

def drawArguments (view : View) : List String :=
  ["-Tjpg", view.fileName ++ ".dot", "-o", view.fileName ++ ".jpg"]

def confirmation (view : View) : String :=
  "Automaton visualization saved as " ++ view.fileName ++ ".jpg\n"

end View

namespace Run

inductive Stage where
  | checkView (name : Option String)
  | checkExtension (path : String)
  | readSource (path : String)
  | scan
  | warn
  | writeTokens (path : String)
  | report (style : ReportStyle)
  | select (selector : Selector)
  | writeDot (view : View)
  | draw (view : View)
  | confirm (view : View)
  deriving DecidableEq

def saving (view : View) : List Stage := [.writeDot view, .draw view, .confirm view]

def opening (options : Options) : List Stage :=
  [.checkView options.visualize, .checkExtension options.file, .readSource options.file, .scan]

def reporting (options : Options) : List Stage :=
  .warn :: options.output.toList.map .writeTokens ++ [.report options.style]

def showing (options : Options) : List Stage :=
  options.selector.toList.map .select ++
    if options.save then saving .nfa ++ saving .dfa else []

def stages (options : Options) : List Stage :=
  opening options ++ reporting options ++ showing options

structure Stand (Files : Type) where
  world : World Files
  source : String := ""
  tokens : List Token := []
  warnings : List Warning := []
  path : List State := []

def readText (system : System Files) (files : Files) (path : String) :
    Except SystemError String :=
  (system.read files path).bind decode

def problem? {Problem Result : Type} : Except Problem Result → Option Problem
  | .ok _ => none
  | .error problem => some problem

theorem exists_ok_of_problem? {Problem Result : Type} {result : Except Problem Result}
    (fine : problem? result = none) : ∃ value, result = .ok value := by
  cases result with
  | ok value => exact ⟨value, rfl⟩
  | error problem => cases fine

namespace Stage

def requests (stand : Stand Files) : Stage → List Effect
  | checkView _ | checkExtension _ | scan | select _ => []
  | readSource path => [.read path]
  | warn => stand.warnings.map fun warning => .warn ("Warning: " ++ warning.message)
  | writeTokens path => [.write path (Report.listingText stand.tokens)]
  | report style => [.print (Report.text stand.tokens style stand.source)]
  | writeDot view => [.write (view.fileName ++ ".dot") (view.dotText stand.path)]
  | draw view => [.draw view.drawArguments]
  | confirm view => [.print view.confirmation]

def learn (stand : Stand Files) : Stage → Stand Files
  | readSource path =>
      { stand with
        source := (readText stand.world.system stand.world.files path).toOption.getD "" }
  | scan =>
      { stand with
        tokens := (tokenize stand.source).toOption.getD []
        warnings := (scanText stand.source).final.warnings }
  | select selector =>
      { stand with path := ((selector.find? stand.tokens).map (·.trace)).getD [] }
  | _ => stand

def failure? (stand : Stand Files) : Stage → Option Failure
  | checkView none => none
  | checkView (some name) => if (View.ofName? name).isSome then none else some .unknownView
  | checkExtension path =>
      if Path.extension? path = some "sa" then none else some (.wrongExtension path)
  | readSource path =>
      (problem? (readText stand.world.system stand.world.files path)).map (.unreadable path)
  | scan => (problem? (tokenize stand.source)).map .scan
  | writeTokens path =>
      (problem? (stand.world.system.write stand.world.files path
        (Report.listingText stand.tokens).toUTF8).1).map .tokenFile
  | select selector =>
      if (selector.find? stand.tokens).isSome then none else some (.noToken selector)
  | writeDot view =>
      (problem? (stand.world.system.write stand.world.files (view.fileName ++ ".dot")
        (view.dotText stand.path).toUTF8).1).map .dotFile
  | draw view =>
      match (stand.world.system.draw stand.world.files view.drawArguments).1 with
      | .ok .drawn => none
      | .ok (.complained text) => some (.drawing text)
      | .error error => some (.drawing error.message)
  | warn | report _ | confirm _ => none

/-- Where the run stands after the stage, also after one that failed. -/
def after (stand : Stand Files) (stage : Stage) : Stand Files :=
  { stage.learn stand with world := stand.world.performAll (stage.requests stand) }

theorem files_after_of_still {stage : Stage} {stand : Stand Files}
    (still : ∀ effect ∈ stage.requests stand, effect.Still) :
    (stage.after stand).world.files = stand.world.files :=
  World.files_performAll_of_still _ still

theorem journal_after (stage : Stage) (stand : Stand Files) :
    (stage.after stand).world.journal = stand.world.journal ++ stage.requests stand :=
  World.journal_performAll _ _

theorem drawn_of_passes {stand : Stand Files} {view : View}
    (passes : (draw view).failure? stand = none) :
    (stand.world.system.draw stand.world.files view.drawArguments).1 = .ok .drawn := by
  rw [failure?] at passes
  split at passes
  next drawn => exact drawn
  next => cases passes
  next => cases passes

theorem files_after_draw (view : View) (stand : Stand Files) :
    ((draw view).after stand).world.files =
      (stand.world.system.draw stand.world.files view.drawArguments).2 := rfl

end Stage

def Stand.prints (stand : Stand Files) : List String :=
  stand.world.journal.filterMap Effect.printed?

theorem Stand.printed_eq_join (stand : Stand Files) :
    stand.world.printed = String.join stand.prints :=
  stand.world.printed_eq_join

theorem Stage.prints_after (stage : Stage) (stand : Stand Files) :
    (stage.after stand).prints =
      stand.prints ++ (stage.requests stand).filterMap Effect.printed? := by
  rw [Stand.prints, journal_after, List.filterMap_append]
  rfl

def Stand.through (stand : Stand Files) (plan : List Stage) : Stand Files :=
  plan.foldl Stage.after stand

@[simp] theorem Stand.through_append (stand : Stand Files) (first second : List Stage) :
    stand.through (first ++ second) = (stand.through first).through second :=
  List.foldl_append

def Stand.requests : Stand Files → List Stage → List Effect
  | _, [] => []
  | stand, stage :: later => stage.requests stand ++ (stage.after stand).requests later

theorem Stand.world_through (stand : Stand Files) (plan : List Stage) :
    (stand.through plan).world = stand.world.performAll (stand.requests plan) := by
  induction plan generalizing stand with
  | nil => rfl
  | cons stage plan ih =>
      rw [requests, World.performAll_append]
      exact ih (stage.after stand)

theorem Stand.journal_through (stand : Stand Files) (plan : List Stage) :
    (stand.through plan).world.journal = stand.world.journal ++ stand.requests plan := by
  rw [world_through, World.journal_performAll]

theorem Stand.system_through (stand : Stand Files) (plan : List Stage) :
    (stand.through plan).world.system = stand.world.system := by
  rw [world_through, World.system_performAll]

theorem Stand.prints_through_of_silent {plan : List Stage}
    (silent : ∀ stage ∈ plan, ∀ reached : Stand Files,
      (stage.requests reached).filterMap Effect.printed? = []) (stand : Stand Files) :
    (stand.through plan).prints = stand.prints := by
  induction plan generalizing stand with
  | nil => rfl
  | cons stage plan ih =>
      rw [List.forall_mem_cons] at silent
      have here : (stage.after stand).prints = stand.prints := by
        rw [Stage.prints_after, silent.1, List.append_nil]
      exact (ih silent.2 (stage.after stand)).trans here

theorem Stand.exists_of_mem_requests {stand : Stand Files} {plan : List Stage} {effect : Effect}
    (member : effect ∈ stand.requests plan) :
    ∃ stage ∈ plan, ∃ reached : Stand Files, effect ∈ stage.requests reached := by
  induction plan generalizing stand with
  | nil => exact absurd member List.not_mem_nil
  | cons stage plan ih =>
      rcases List.mem_append.mp member with here | later
      · exact ⟨stage, List.mem_cons_self, stand, here⟩
      · obtain ⟨other, listed, found⟩ := ih later
        exact ⟨other, List.mem_cons_of_mem _ listed, found⟩

def Passes : Stand Files → List Stage → Prop
  | _, [] => True
  | stand, stage :: later => stage.failure? stand = none ∧ Passes (stage.after stand) later

theorem passes_append {stand : Stand Files} {first second : List Stage} :
    Passes stand (first ++ second) ↔
      Passes stand first ∧ Passes (stand.through first) second := by
  induction first generalizing stand with
  | nil => exact (and_iff_right trivial).symm
  | cons stage first ih =>
      rw [List.cons_append, Passes, Passes, ih, and_assoc]
      rfl

/-- A run goes over the planned stages as far as they pass. It has taken all of them, or those up to
the one that failed, that one included. -/
inductive Course (plan : List Stage) (start : Stand Files) :
    List Stage → Ending → World Files → Prop where
  | finished (passes : Passes start plan) :
      Course plan start plan ⟨0, []⟩ (start.through plan).world
  | stopped {passed later : List Stage} {stage : Stage} {failure : Failure}
      (split : plan = passed ++ stage :: later) (passes : Passes start passed)
      (fails : stage.failure? (start.through passed) = some failure) :
      Course plan start (passed ++ [stage]) ⟨1, failure.messages⟩
        (start.through (passed ++ [stage])).world

def walk : Stand Files → List Stage → Except Failure Unit × Stand Files
  | stand, [] => (.ok (), stand)
  | stand, stage :: later =>
      match stage.failure? stand with
      | some failure => (.error failure, stage.after stand)
      | none => walk (stage.after stand) later

theorem walk_append {stand : Stand Files} {first : List Stage} (passes : Passes stand first)
    (second : List Stage) : walk stand (first ++ second) = walk (stand.through first) second := by
  induction first generalizing stand with
  | nil => rfl
  | cons stage first ih =>
      rcases passes with ⟨here, onward⟩
      rw [List.cons_append, walk, here]
      exact ih onward

theorem walk_of_passes {stand : Stand Files} {plan : List Stage} (passes : Passes stand plan) :
    walk stand plan = (.ok (), stand.through plan) := by
  have whole := walk_append passes []
  rwa [List.append_nil] at whole

theorem walk_of_fails {stand : Stand Files} {passed later : List Stage} {stage : Stage}
    {failure : Failure} (passes : Passes stand passed)
    (fails : stage.failure? (stand.through passed) = some failure) :
    walk stand (passed ++ stage :: later) =
      (.error failure, stand.through (passed ++ [stage])) := by
  rw [walk_append passes, walk, fails, Stand.through, Stand.through, List.foldl_append]
  rfl

theorem passes_or_fails (stand : Stand Files) (plan : List Stage) :
    Passes stand plan ∨
      ∃ (passed : List Stage) (stage : Stage) (later : List Stage) (failure : Failure),
        plan = passed ++ stage :: later ∧ Passes stand passed ∧
          stage.failure? (stand.through passed) = some failure := by
  induction plan generalizing stand with
  | nil => exact .inl trivial
  | cons stage later ih =>
      cases outcome : stage.failure? stand with
      | some failure => exact .inr ⟨[], stage, later, failure, rfl, trivial, outcome⟩
      | none =>
          rcases ih (stage.after stand) with passes | ⟨passed, other, rest, failure, rfl, found⟩
          · exact .inl ⟨outcome, passes⟩
          · exact .inr ⟨stage :: passed, other, rest, failure, rfl, ⟨outcome, found.1⟩, found.2⟩

theorem course_walk (stand : Stand Files) (plan : List Stage) :
    ∃ taken, Course plan stand taken (Ending.ofResult (walk stand plan).1)
      (walk stand plan).2.world := by
  rcases passes_or_fails stand plan with
    passes | ⟨passed, stage, later, failure, split, passes, fails⟩
  · rw [walk_of_passes passes]
    exact ⟨plan, .finished passes⟩
  · rw [split, walk_of_fails passes fails, ← split]
    exact ⟨passed ++ [stage], .stopped split passes fails⟩

section

variable {plan taken : List Stage} {start : Stand Files} {ending : Ending} {final : World Files}

theorem Course.taken_prefix (course : Course plan start taken ending final) :
    taken <+: plan := by
  cases course with
  | finished passes => exact List.prefix_rfl
  | @stopped passed later stage failure split passes fails =>
      exact ⟨later, by rw [split, List.append_assoc, List.singleton_append]⟩

theorem Course.final_eq (course : Course plan start taken ending final) :
    final = start.world.performAll (start.requests taken) := by
  cases course with
  | finished passes => exact start.world_through plan
  | @stopped passed later stage failure split passes fails => exact start.world_through _

theorem Course.exit_eq_one (course : Course plan start taken ending final)
    (blocked : ¬ Passes start plan) : ending.exit = 1 := by
  cases course with
  | finished passes => exact absurd passes blocked
  | stopped split passes fails => rfl

theorem Course.passes_of_append (course : Course plan start taken ending final)
    {front back : List Stage} (split : taken = front ++ back) (more : back ≠ []) :
    Passes start front := by
  cases course with
  | finished passes => exact (passes_append.mp (split ▸ passes)).1
  | @stopped passed later stage failure _ passes fails =>
      have begun : passed = front ++ back.dropLast := by
        rw [← List.dropLast_append_of_ne_nil more, ← split, List.dropLast_concat]
      exact (passes_append.mp (begun ▸ passes)).1

/-- A course ends within the first part of its plan, or this part passes and it goes on. -/
theorem Course.within_or_beyond (course : Course plan start taken ending final)
    {first second : List Stage} (split : plan = first ++ second) :
    taken <+: first ∨ Passes start first ∧
      ∃ next back, taken = first ++ next :: back ∧ next :: back <+: second := by
  have known : first <+: plan := split ▸ List.prefix_append first second
  rcases List.prefix_or_prefix_of_prefix course.taken_prefix known with short | ⟨back, rfl⟩
  · exact .inl short
  · cases back with
    | nil => exact .inl (by rw [List.append_nil])
    | cons next back =>
        have onward := course.taken_prefix
        rw [split, List.prefix_append_right_inj] at onward
        exact .inr ⟨course.passes_of_append rfl (List.cons_ne_nil next back), next, back, rfl,
          onward⟩

end

end Run
end TracingLexer
