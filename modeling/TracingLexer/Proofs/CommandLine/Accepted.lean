import TracingLexer.CommandLine.Options

namespace TracingLexer

namespace Invocation

/-- Where the reading of one argument can lead: on, or to an end at which nothing is run. -/
inductive Progress.Undecided : Progress → Prop where
  | more (draft : Draft) : Undecided (.more draft)
  | awaiting (draft : Draft) (setting : Setting) : Undecided (.awaiting draft setting)
  | help : Undecided (.done .help)
  | version : Undecided (.done .version)
  | refused (refusal : Refusal) : Undecided (.done (.refused refusal))

theorem Progress.Undecided.ne_run {progress : Progress} (undecided : progress.Undecided)
    (options : Options) : progress ≠ .done (.run options) := by
  intro same
  subst same
  cases undecided

theorem undecided_ofDraft (result : Except Refusal Draft) :
    (Progress.ofDraft result).Undecided := by
  cases result with
  | ok draft => exact .more draft
  | error refusal => exact .refused refusal

theorem undecided_readLetters (argument : String) (draft : Draft) (letters : List Char) :
    (readLetters argument draft letters).Undecided := by
  induction letters generalizing draft with
  | nil => exact .more draft
  | cons letter rest ih =>
      rw [readLetters]
      cases OptionName.ofLetter? letter with
      | none => exact .refused _
      | some name =>
          cases name with
          | help => exact .help
          | version => exact .version
          | switch switch =>
              cases added : draft.addSwitch switch with
              | ok next => simpa only [added] using ih next
              | error refusal => simpa only [added] using .refused refusal
          | setting setting =>
              simp only
              split
              next => exact .awaiting draft setting
              next => exact undecided_ofDraft _
              next => exact undecided_ofDraft _

theorem undecided_readWord (argument : String) (draft : Draft) (text : List Char) :
    (readWord argument draft text).Undecided := by
  rw [readWord]
  split
  next => exact .refused _
  next => exact undecided_ofDraft _
  next => exact .awaiting _ _
  next => exact .refused _
  next => exact undecided_ofDraft _
  next => exact .help
  next => exact .version

theorem undecided_readArgument (draft : Draft) (argument : String) :
    (readArgument draft argument).Undecided := by
  rw [readArgument]
  split
  · exact undecided_readWord argument draft _
  · exact undecided_readLetters argument draft _
  · exact undecided_ofDraft _

theorem finish_of_ofDraft {draft : Draft} {options : Options}
    (accepted : ofDraft draft = .run options) : draft.finish = .ok options := by
  rw [ofDraft] at accepted
  split at accepted
  next found same =>
    rw [Invocation.run.injEq] at accepted
    rw [same, accepted]
  next => cases accepted

theorem exists_finish_of_readFiles {draft : Draft} {files : List String} {options : Options}
    (accepted : readFiles draft files = .run options) :
    ∃ complete : Draft, complete.finish = .ok options := by
  rw [readFiles] at accepted
  split at accepted
  next complete _ => exact ⟨complete, finish_of_ofDraft accepted⟩
  next => cases accepted

theorem exists_finish_of_readAll {draft : Draft} {arguments : List String} {options : Options}
    (accepted : readAll draft arguments = .run options) :
    ∃ complete : Draft, complete.finish = .ok options := by
  fun_induction readAll draft arguments with
  | case1 draft => exact ⟨draft, finish_of_ofDraft accepted⟩
  | case2 draft rest => exact exists_finish_of_readFiles accepted
  | case3 draft argument rest notDashes next same ih => exact ih accepted
  | case4 draft argument rest notDashes invocation same =>
      exact absurd (accepted ▸ same) ((undecided_readArgument draft argument).ne_run options)
  | case5 => cases accepted
  | case6 => cases accepted
  | case7 draft argument notDashes waiting setting same value rest plain next added ih =>
      exact ih accepted
  | case8 => cases accepted

end Invocation

theorem Draft.plain_of_finish {draft : Draft} {options : Options}
    (finished : draft.finish = .ok options) (noToken : options.selector = none) :
    options.save = false ∧ options.visualize = none := by
  unfold Draft.finish at finished
  cases file : draft.file with
  | none => simp [file] at finished
  | some path =>
      simp only [file] at finished
      split at finished
      next => cases finished
      next independent =>
        obtain rfl := Except.ok.inj finished
        have absent : draft.value? .token = none := Option.map_eq_none_iff.mp noToken
        have nothing : (Switch.save ∉ draft.switches ∧ draft.value? .kind = none) ∧
            draft.value? .visualize = none := by
          simpa [absent] using independent
        exact ⟨decide_eq_false nothing.1.1, nothing.2⟩

theorem plain_of_accepted {arguments : List String} {options : Options}
    (accepted : Invocation.ofArguments arguments = .run options)
    (noToken : options.selector = none) : options.save = false ∧ options.visualize = none := by
  obtain ⟨draft, finished⟩ := Invocation.exists_finish_of_readAll accepted
  exact draft.plain_of_finish finished noToken

end TracingLexer
