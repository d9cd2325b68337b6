import TracingLexer.Proofs.CommandLine.Execution

namespace TracingLexer

variable {Files : Type}

def World.fresh (system : System Files) (files : Files) : World Files := { system, files }

namespace Run

def Scans (system : System Files) (files : Files) (path : String) : Prop :=
  ∃ source tokens, readText system files path = .ok source ∧ tokenize source = .ok tokens

/-- All goes well until the report is out. The tokens are written to their file, if one is named,
and these are the files then. -/
structure Reports (options : Options) (system : System Files) (files : Files) (source : String)
    (tokens : List Token) (written : Files) : Prop where
  view : options.visualize = none
  extension : Path.extension? options.file = some "sa"
  text : readText system files options.file = .ok source
  scanned : tokenize source = .ok tokens
  output : match options.output with
    | none => written = files
    | some path => system.write files path (Report.listingText tokens).toUTF8 = (.ok (), written)

structure LacksToken (options : Options) (system : System Files) (files : Files) (source : String)
    (tokens : List Token) (written : Files) (selector : Selector) : Prop
    extends Reports options system files source tokens written where
  asked : options.selector = some selector
  absent : selector.find? tokens = none

section

variable {options : Options} {start : Stand Files} {taken : List Stage} {ending : Ending}
  {final : World Files}

theorem scans_of_passes (passes : Passes start (opening options)) :
    Scans start.world.system start.world.files options.file := by
  obtain ⟨_, _, readable, scannable, _⟩ := passes
  obtain ⟨source, text⟩ := exists_ok_of_problem? (Option.map_eq_none_iff.mp readable)
  obtain ⟨tokens, scanned⟩ := exists_ok_of_problem? (Option.map_eq_none_iff.mp scannable)
  have text : readText start.world.system start.world.files options.file = .ok source := text
  refine ⟨source, tokens, text, ?_⟩
  simpa [Stage.after, Stage.learn, Stage.requests, World.performAll, text, Except.toOption]
    using scanned

theorem Course.taken_opening (course : Course (stages options) start taken ending final)
    (unusable : ¬ Scans start.world.system start.world.files options.file) :
    taken <+: opening options := by
  rcases course.within_or_beyond (List.append_assoc _ _ _) with within | ⟨passes, _⟩
  · exact within
  · exact absurd (scans_of_passes passes) unusable

theorem eq_read_of_mem_opening {stage : Stage} (early : stage ∈ opening options)
    {reached : Stand Files} {effect : Effect} (asked : effect ∈ stage.requests reached) : effect = .read options.file := by
  simp only [opening, List.mem_cons, List.not_mem_nil, or_false] at early
  rcases early with rfl | rfl | rfl | rfl
  · exact absurd asked List.not_mem_nil
  · exact absurd asked List.not_mem_nil
  · exact List.mem_singleton.mp asked
  · exact absurd asked List.not_mem_nil

theorem Course.untouched (course : Course (stages options) start taken ending final)
    (fresh : start.world.journal = [])
    (unusable : ¬ Scans start.world.system start.world.files options.file) :
    ending.exit = 1 ∧ final.printed = "" ∧ final.warnings = [] ∧
      final.files = start.world.files ∧ ∀ asked, .draw asked ∉ final.journal := by
  have only : ∀ effect ∈ start.requests taken, effect = .read options.file := by
    intro effect member
    obtain ⟨stage, begun, reached, asked⟩ := Stand.exists_of_mem_requests member
    exact eq_read_of_mem_opening ((course.taken_opening unusable).subset begun) asked
  have journal : ∀ effect ∈ final.journal, effect = .read options.file := by
    rw [course.final_eq, World.journal_performAll, fresh]
    exact only
  refine ⟨?_, ?_, ?_, ?_, ?_⟩
  · apply course.exit_eq_one
    intro passes
    rw [stages, List.append_assoc, passes_append] at passes
    exact unusable (scans_of_passes passes.1)
  · have nothing : final.journal.filterMap Effect.printed? = [] := by
      apply List.filterMap_eq_nil_iff.mpr
      intro effect member
      rw [journal effect member, Effect.printed?]
    rw [World.printed_eq_join, nothing]
    rfl
  · apply World.warnings_eq_nil
    intro effect member line warned
    rw [journal effect member] at warned
    cases warned
  · rw [course.final_eq, World.files_performAll_of_still]
    intro effect member
    rw [only effect member]
    trivial
  · intro asked member
    cases journal _ member

theorem passes_opening {source : String} {tokens : List Token} (view : options.visualize = none)
    (extension : Path.extension? options.file = some "sa")
    (text : readText start.world.system start.world.files options.file = .ok source)
    (scanned : tokenize source = .ok tokens) :
    Passes start (opening options) ∧
      start.through (opening options) =
        { start with
          world := start.world.perform (.read options.file), source, tokens
          warnings := (scanText source).final.warnings } := by
  have read : (Stage.readSource options.file).after ((Stage.checkExtension options.file).after
      ((Stage.checkView options.visualize).after start)) =
        { start with world := start.world.perform (.read options.file), source } := by
    simp [Stage.after, Stage.learn, Stage.requests, World.performAll, text, Except.toOption]
  refine ⟨⟨?_, if_pos extension, ?_, ?_, trivial⟩, ?_⟩
  · rw [view]
    rfl
  · exact congrArg (fun found => (problem? found).map (Failure.unreadable options.file)) text
  · rw [read, Stage.failure?, scanned]
    rfl
  · rw [opening, Stand.through, List.foldl_cons, List.foldl_cons, List.foldl_cons,
      List.foldl_cons, List.foldl_nil, read]
    simp [Stage.after, Stage.learn, Stage.requests, World.performAll, scanned, Except.toOption]

theorem files_after_warn (stand : Stand Files) :
    (Stage.warn.after stand).world.files = stand.world.files := by
  apply Stage.files_after_of_still
  intro effect member
  obtain ⟨warning, _, rfl⟩ := List.mem_map.mp member
  trivial

theorem passes_reporting {stand : Stand Files} {written : Files}
    (output : match options.output with
      | none => written = stand.world.files
      | some path => stand.world.system.write stand.world.files path
          (Report.listingText stand.tokens).toUTF8 = (.ok (), written)) :
    Passes stand (reporting options) ∧
      (stand.through (reporting options)).tokens = stand.tokens ∧
      (stand.through (reporting options)).world.files = written := by
  -- The warnings go elsewhere, so the listing is written over the files that the scan has left.
  have files := files_after_warn stand
  have system : (Stage.warn.after stand).world.system = stand.world.system :=
    stand.system_through [.warn]
  rw [reporting]
  cases named : options.output with
  | none =>
      rw [named] at output
      obtain rfl : written = stand.world.files := output
      exact ⟨⟨rfl, rfl, trivial⟩, rfl, files⟩
  | some path =>
      rw [named] at output
      have wrote : (Stage.warn.after stand).world.system.write (Stage.warn.after stand).world.files
          path (Report.listingText stand.tokens).toUTF8 = (.ok (), written) := by
        rw [system, files]
        exact output
      refine ⟨⟨rfl, ?_, rfl, trivial⟩, rfl, congrArg Prod.snd wrote⟩
      exact congrArg (fun result => (problem? result.1).map Failure.tokenFile) wrote

theorem requests_opening (stand : Stand Files) (options : Options) :
    stand.requests (opening options) = [.read options.file] := rfl

theorem requests_reporting (stand : Stand Files) (options : Options) :
    stand.requests (reporting options) =
      Stage.warn.requests stand ++
        options.output.toList.map (.write · (Report.listingText stand.tokens)) ++
          [.print (Report.text stand.tokens options.style stand.source)] := by
  rw [reporting]
  cases options.output <;> simp [Stand.requests, Stage.requests, Stage.after, Stage.learn]

/-- What a run asks for before it prints anything but warnings: the source, and then that the
listing of the tokens goes to the file that is named for it. -/
def preface (options : Options) (source : String) (tokens : List Token) : List Effect :=
  .read options.file ::
    (scanText source).final.warnings.map (fun warning => .warn ("Warning: " ++ warning.message)) ++
      options.output.toList.map (.write · (Report.listingText tokens))

theorem printed_preface (options : Options) (source : String) (tokens : List Token) :
    (preface options source tokens).filterMap Effect.printed? = [] := by
  apply List.filterMap_eq_nil_iff.mpr
  intro effect member
  simp only [preface, List.mem_cons, List.mem_append, List.mem_map] at member
  rcases member with (rfl | ⟨_, _, rfl⟩) | ⟨_, _, rfl⟩ <;> rfl

structure Reported (options : Options) (start : Stand Files) (source : String)
    (tokens : List Token) (written : Files) (reached : Stand Files) : Prop where
  found : reached.tokens = tokens
  files : reached.world.files = written
  system : reached.world.system = start.world.system
  journal : reached.world.journal = start.world.journal ++ preface options source tokens ++
    [.print (Report.text tokens options.style source)]

theorem Reported.prints {source : String} {tokens : List Token} {written : Files}
    {reached : Stand Files} (reported : Reported options start source tokens written reached)
    (fresh : start.world.journal = []) :
    reached.prints = [Report.text tokens options.style source] := by
  rw [Stand.prints, reported.journal, fresh, List.nil_append, List.filterMap_append,
    printed_preface]
  rfl

theorem Reports.reported {source : String} {tokens : List Token} {written : Files}
    (reports : Reports options start.world.system start.world.files source tokens written) :
    Passes start (opening options ++ reporting options) ∧
      Reported options start source tokens written
        (start.through (opening options ++ reporting options)) := by
  obtain ⟨opens, opened⟩ := passes_opening reports.view reports.extension reports.text
    reports.scanned
  obtain ⟨goesOn, sameTokens, files⟩ :=
    @passes_reporting Files options (start.through (opening options)) written
      (by rw [opened]; exact reports.output)
  refine ⟨passes_append.mpr ⟨opens, goesOn⟩, ?_⟩
  rw [Stand.through_append]
  constructor
  case found => rw [sameTokens, opened]
  case files => exact files
  case system => rw [Stand.system_through, Stand.system_through]
  case journal =>
    rw [Stand.journal_through, Stand.journal_through, requests_opening, requests_reporting, opened]
    simp [preface, Stage.requests]

theorem walk_of_lacksToken {source : String} {tokens : List Token} {written : Files}
    {selector : Selector} (fresh : start.world.journal = [])
    (lacks : LacksToken options start.world.system start.world.files source tokens written
      selector) :
    (walk start (stages options)).1 = .error (.noToken selector) ∧
      (walk start (stages options)).2.world.printed = Report.text tokens options.style source ∧
      (walk start (stages options)).2.world.files = written := by
  obtain ⟨passes, reported⟩ := lacks.toReports.reported
  obtain ⟨later, split⟩ : ∃ later, stages options =
      (opening options ++ reporting options) ++ .select selector :: later := by
    rw [stages, showing, lacks.asked]
    exact ⟨_, rfl⟩
  have fails : (Stage.select selector).failure?
      (start.through (opening options ++ reporting options)) = some (.noToken selector) := by
    rw [Stage.failure?, reported.found, lacks.absent]
    rfl
  rw [split, walk_of_fails passes fails, Stand.through_append]
  refine ⟨rfl, ?_, reported.files⟩
  calc
    _ = String.join (start.through (opening options ++ reporting options)).prints :=
      Stand.printed_eq_join _
    _ = Report.text tokens options.style source := by
      rw [reported.prints fresh]
      simp [String.join]

theorem writeDot_dfa_not_mem : .writeDot .dfa ∉
    (opening options ++ reporting options ++ options.selector.toList.map .select) ++
      saving .nfa := by
  simp [opening, reporting, saving]

theorem Course.drawn_before_dfa (course : Course (stages options) start taken ending final)
    (begun : .writeDot .dfa ∈ taken) :
    ∃ front back, taken = front ++ .draw .nfa :: .confirm .nfa :: .writeDot .dfa :: back ∧
      (start.world.system.draw (start.through front).world.files View.nfa.drawArguments).1 =
        .ok .drawn := by
  have absent := @writeDot_dfa_not_mem options
  generalize before : opening options ++ reporting options ++
    options.selector.toList.map Stage.select = early at absent
  have split : stages options = (early ++ saving .nfa) ++ saving .dfa := by
    have saves : options.save = true := by
      by_contra plain
      have listed := course.taken_prefix.subset begun
      rw [stages, showing, if_neg plain, List.append_nil, before] at listed
      exact absent (List.mem_append_left _ listed)
    rw [stages, showing, if_pos saves, ← before]
    simp only [List.append_assoc]
  rcases course.within_or_beyond split with within | ⟨passes, next, back, rfl, onward⟩
  · exact absurd (within.subset begun) absent
  obtain rfl : next = .writeDot .dfa := (List.cons_prefix_cons.mp onward).1
  refine ⟨early ++ [.writeDot .nfa], back, by simp [saving], ?_⟩
  -- No stage changes how the drawing program behaves.
  have behaves := start.system_through (early ++ [.writeDot .nfa])
  rw [← behaves, Stand.through_append]
  exact Stage.drawn_of_passes (passes_append.mp passes).2.2.1

end

end Run

/-- Files by their names, the newest first, and a drawing program that always ends the same way. -/
def System.named (outcome : Except SystemError DrawOutcome) :
    System (List (String × ByteArray)) where
  read files path :=
    match files.lookup path with
    | some content => .ok content
    | none => .error .notFound
  write files path content := (.ok (), (path, content) :: files)
  draw files _ := (outcome, files)

namespace Run

end Run
end TracingLexer
