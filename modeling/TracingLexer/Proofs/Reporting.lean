import TracingLexer.Proofs.Progression

namespace TracingLexer

variable {Files : Type}

/-- A run: its command line, the system and the files it finds, and the files behind the writing of
its tokens. -/
structure Occasion (Files : Type) where
  arguments : List String
  options : Options
  system : System Files
  files : Files
  written : Files

namespace Occasion

structure Reports (occasion : Occasion Files) (source : String) (tokens : List Token) : Prop
    extends Run.Reports occasion.options occasion.system occasion.files source tokens
      occasion.written where
  accepted : Invocation.ofArguments occasion.arguments = .run occasion.options

def final (occasion : Occasion Files) : World Files :=
  (Ending.inWorld (.fresh occasion.system occasion.files) occasion.arguments).2

end Occasion

namespace Run

def Draws (system : System Files) (path : List State) (view : View) (files after : Files) : Prop :=
  ∃ written, system.write files (view.fileName ++ ".dot") (view.dotText path).toUTF8 =
      (.ok (), written) ∧
    system.draw written view.drawArguments = (.ok .drawn, after)

structure DrawsUpTo (system : System Files) (path : List State) (files : Files)
    (shown : List View) : Prop where
  ordered : shown <+: [.nfa, .dfa]
  nfa : .nfa ∈ shown ↔ ∃ after, Draws system path .nfa files after
  dfa : .dfa ∈ shown ↔ ∃ between after, Draws system path .nfa files between ∧
    Draws system path .dfa between after

theorem Draws.unique {system : System Files} {path : List State} {view : View}
    {files after other : Files} (draws : Draws system path view files after)
    (otherDraws : Draws system path view files other) : after = other := by
  rcases draws with ⟨written, wrote, drawn⟩
  rcases otherDraws with ⟨otherWritten, otherWrote, otherDrawn⟩
  obtain rfl : written = otherWritten := congrArg Prod.snd (wrote.symm.trans otherWrote)
  exact congrArg Prod.snd (drawn.symm.trans otherDrawn)

def imaging (view : View) : List Stage := [.writeDot view, .draw view]

theorem saving_eq (view : View) : saving view = imaging view ++ [.confirm view] := rfl

theorem silent_of_mem_imaging {view : View} {stage : Stage} (member : stage ∈ imaging view)
    (reached : Stand Files) : (stage.requests reached).filterMap Effect.printed? = [] := by
  rw [imaging, List.mem_pair] at member
  rcases member with rfl | rfl <;> rfl

theorem draws_iff_passes {stand : Stand Files} {view : View} {after : Files} :
    Draws stand.world.system stand.path view stand.world.files after ↔
      Passes stand (imaging view) ∧ (stand.through (imaging view)).world.files = after := by
  have system : ((Stage.writeDot view).after stand).world.system = stand.world.system :=
    stand.system_through [.writeDot view]
  constructor
  · intro draws
    rcases draws with ⟨written, wrote, drawn⟩
    have files : ((Stage.writeDot view).after stand).world.files = written :=
      congrArg Prod.snd wrote
    refine ⟨⟨?_, ?_, trivial⟩, ?_⟩
    · exact congrArg (fun result => (problem? result.1).map Failure.dotFile) wrote
    · simp only [Stage.failure?, files, system, drawn]
    · change ((Stage.draw view).after ((Stage.writeDot view).after stand)).world.files = after
      rw [Stage.files_after_draw, files, system, drawn]
  · intro passes
    rcases passes with ⟨⟨writes, draws, _⟩, rfl⟩
    obtain ⟨done, wrote⟩ := exists_ok_of_problem? (Option.map_eq_none_iff.mp writes)
    have drawn := Stage.drawn_of_passes draws
    -- The program is still the one that was there before the dot file was written.
    rw [system] at drawn
    refine ⟨((Stage.writeDot view).after stand).world.files, Prod.ext wrote rfl, Prod.ext drawn ?_⟩
    change _ = ((Stage.draw view).after ((Stage.writeDot view).after stand)).world.files
    rw [Stage.files_after_draw, system]

theorem walk_saving (stand : Stand Files) (view : View) (later : List Stage) :
    (Draws stand.world.system stand.path view stand.world.files
        (stand.through (saving view)).world.files ∧
      (stand.through (saving view)).prints = stand.prints ++ [view.confirmation] ∧
      walk stand (saving view ++ later) = walk (stand.through (saving view)) later) ∨
    (∀ after, ¬ Draws stand.world.system stand.path view stand.world.files after) ∧
      (walk stand (saving view ++ later)).2.prints = stand.prints := by
  rcases passes_or_fails stand (imaging view) with
    passes | ⟨passed, stage, rest, failure, split, passes, fails⟩
  · have confirmed : Passes stand (imaging view ++ [.confirm view]) :=
      passes_append.mpr ⟨passes, rfl, trivial⟩
    refine .inl ⟨draws_iff_passes.mpr ⟨passes, rfl⟩, ?_, walk_append confirmed later⟩
    rw [saving_eq, Stand.through_append]
    change ((Stage.confirm view).after (stand.through (imaging view))).prints = _
    rw [Stage.prints_after,
      Stand.prints_through_of_silent fun _ member => silent_of_mem_imaging member]
    rfl
  · refine .inr ⟨fun after draws => ?_, ?_⟩
    · have whole := (draws_iff_passes.mp draws).1
      rw [split] at whole
      exact absurd ((passes_append.mp whole).2.1.symm.trans fails) (by simp)
    · rw [saving_eq, split, List.append_assoc, List.append_assoc, List.cons_append,
        walk_of_fails passes fails]
      apply Stand.prints_through_of_silent
      intro other member
      apply silent_of_mem_imaging
      rw [split, List.append_cons]
      exact List.mem_append_left rest member

theorem exists_drawsUpTo (stand : Stand Files) :
    ∃ shown, DrawsUpTo stand.world.system stand.path stand.world.files shown ∧
      (walk stand (saving .nfa ++ saving .dfa)).2.prints =
        stand.prints ++ shown.map View.confirmation := by
  have system := stand.system_through (saving .nfa)
  have path : (stand.through (saving .nfa)).path = stand.path := rfl
  rcases walk_saving stand .nfa (saving .dfa) with ⟨draws, printed, onward⟩ | ⟨undrawn, printed⟩
  · rcases walk_saving (stand.through (saving .nfa)) .dfa [] with
      ⟨second, printedSecond, ended⟩ | ⟨undrawn, printedSecond⟩
    · rw [system, path] at second
      refine ⟨[.nfa, .dfa], ⟨List.prefix_rfl, iff_of_true (by simp) ⟨_, draws⟩,
        iff_of_true (by simp) ⟨_, _, draws, second⟩⟩, ?_⟩
      rw [List.append_nil] at ended
      rw [onward, ended, walk, printedSecond, printed, List.append_assoc]
      rfl
    · rw [system, path] at undrawn
      refine ⟨[.nfa], ⟨⟨[.dfa], rfl⟩, iff_of_true (by simp) ⟨_, draws⟩,
        iff_of_false (by simp) ?_⟩, ?_⟩
      · intro both
        rcases both with ⟨between, after, first, drawn⟩
        rw [first.unique draws] at drawn
        exact undrawn after drawn
      · rw [List.append_nil] at printedSecond
        rw [onward, printedSecond, printed]
        rfl
  · refine ⟨[], ⟨List.nil_prefix, iff_of_false List.not_mem_nil ?_,
      iff_of_false List.not_mem_nil ?_⟩, ?_⟩
    · intro drawn
      rcases drawn with ⟨after, drawn⟩
      exact undrawn after drawn
    · intro both
      rcases both with ⟨between, _, first, _⟩
      exact undrawn between first
    · rw [printed, List.map_nil, List.append_nil]

section

variable {options : Options} {tokens : List Token} {system : System Files} {files : Files}

/-- The images that a run confirms: none unless they are asked for and there is the token, and then
each that is drawn when those before it are. -/
structure Confirms (options : Options) (tokens : List Token) (system : System Files)
    (files : Files) (shown : List View) : Prop where
  ordered : shown <+: [.nfa, .dfa]
  nfa : .nfa ∈ shown ↔ options.save = true ∧
    ∃ token, options.selector.bind (·.find? tokens) = some token ∧
      ∃ after, Draws system token.trace .nfa files after
  dfa : .dfa ∈ shown ↔ options.save = true ∧
    ∃ token, options.selector.bind (·.find? tokens) = some token ∧
      ∃ between after, Draws system token.trace .nfa files between ∧
        Draws system token.trace .dfa between after

theorem confirms_nil
    (unasked : options.save = true → options.selector.bind (·.find? tokens) = none) :
    Confirms options tokens system files [] := by
  refine ⟨List.nil_prefix, iff_of_false List.not_mem_nil ?_, iff_of_false List.not_mem_nil ?_⟩
  · intro asked
    rcases asked with ⟨saves, token, found, _⟩
    cases (unasked saves).symm.trans found
  · intro asked
    rcases asked with ⟨saves, token, found, _⟩
    cases (unasked saves).symm.trans found

theorem Confirms.eq_nil {shown : List View} (confirms : Confirms options tokens system files shown)
    (absent : .nfa ∉ shown) : shown = [] := by
  have ordered := confirms.ordered
  rw [List.prefix_cons_iff] at ordered
  rcases ordered with rfl | ⟨_, rfl, _⟩
  · rfl
  · exact absurd List.mem_cons_self absent

theorem DrawsUpTo.confirms {token : Token} {shown : List View}
    (drawsUpTo : DrawsUpTo system token.trace files shown) (saves : options.save = true)
    (found : options.selector.bind (·.find? tokens) = some token) :
    Confirms options tokens system files shown where
  ordered := drawsUpTo.ordered
  nfa := by rw [drawsUpTo.nfa, found]; simp [saves]
  dfa := by rw [drawsUpTo.dfa, found]; simp [saves]

theorem exists_confirms (stand : Stand Files)
    (plain : options.selector = none → options.save = false) :
    ∃ shown, Confirms options stand.tokens stand.world.system stand.world.files shown ∧
      (walk stand (showing options)).2.prints = stand.prints ++ shown.map View.confirmation := by
  rw [showing]
  cases asked : options.selector with
  | none =>
      refine ⟨[], confirms_nil fun _ => by rw [asked]; rfl, ?_⟩
      rw [plain asked]
      exact (List.append_nil _).symm
  | some selector =>
      have chosen : options.selector.bind (·.find? stand.tokens) = selector.find? stand.tokens := by
        rw [asked, Option.bind_some]
      have world : ((Stage.select selector).after stand).world = stand.world := rfl
      rw [Option.toList_some, List.map_singleton, List.singleton_append, walk, Stage.failure?]
      cases found : selector.find? stand.tokens with
      | none =>
          refine ⟨[], confirms_nil fun _ => chosen.trans found, ?_⟩
          exact (List.append_nil _).symm
      | some token =>
          have path : ((Stage.select selector).after stand).path = token.trace := by
            simp only [Stage.after, Stage.learn, found, Option.map_some, Option.getD_some]
          cases saves : options.save with
          | false =>
              refine ⟨[], confirms_nil fun saved => ?_, (List.append_nil _).symm⟩
              rw [saves] at saved
              cases saved
          | true =>
              obtain ⟨shown, drawsUpTo, printed⟩ :=
                exists_drawsUpTo ((Stage.select selector).after stand)
              rw [world, path] at drawsUpTo
              exact ⟨shown, drawsUpTo.confirms saves (chosen.trans found), printed⟩

end

theorem exists_journal_walk (stand : Stand Files) (plan : List Stage) :
    ∃ later, (walk stand plan).2.world.journal = stand.world.journal ++ later := by
  rcases passes_or_fails stand plan with
    passes | ⟨passed, stage, rest, failure, rfl, passes, fails⟩
  · rw [walk_of_passes passes]
    exact ⟨_, stand.journal_through plan⟩
  · rw [walk_of_fails passes fails]
    exact ⟨_, stand.journal_through _⟩

end Run

namespace Occasion

open Run

variable {occasion : Occasion Files} {source : String} {tokens : List Token}

/-- What a run puts out: the report, and behind it the confirmations. -/
structure PutsOut (occasion : Occasion Files) (source : String) (tokens : List Token)
    (report : String) (shown : List View) : Prop where
  printed : occasion.final.printed = report ++ String.join (shown.map View.confirmation)
  confirms : Confirms occasion.options tokens occasion.system occasion.written shown
  asked : ∃ later,
    occasion.final.journal =
      preface occasion.options source tokens ++ .print report :: later

theorem Reports.exists_putsOut (reports : occasion.Reports source tokens) :
    ∃ shown, occasion.PutsOut source tokens
      (Report.text tokens occasion.options.style source) shown := by
  let options := occasion.options
  let start : Stand Files := { world := .fresh occasion.system occasion.files }
  obtain ⟨passes, reported⟩ := @Run.Reports.reported Files options start _ _ _ reports.toReports
  have noWindow : options.visualize.bind View.ofName? = none := by
    rw [show options.visualize = none from reports.view, Option.bind_none]
  have final_eq : occasion.final =
      (walk (start.through (opening options ++ reporting options)) (showing options)).2.world := by
    rw [final, inWorld_eq_walk reports.accepted noWindow, stages, walk_append passes]
  obtain ⟨shown, confirms, prints⟩ :=
    exists_confirms (start.through (opening options ++ reporting options))
      fun noToken => (plain_of_accepted reports.accepted noToken).1
  obtain ⟨later, journal⟩ :=
    exists_journal_walk (start.through (opening options ++ reporting options)) (showing options)
  rw [reported.found, reported.system, reported.files] at confirms
  refine ⟨shown, ?_, confirms, later, ?_⟩
  · rw [final_eq, Stand.printed_eq_join, prints, reported.prints rfl, List.singleton_append,
      String.join_cons]
  · rw [final_eq, journal, reported.journal]
    simp [start, World.fresh, options]

end Occasion

end TracingLexer
