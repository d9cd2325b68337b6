import TracingLexer.Proofs.Automaton.Lookups
import TracingLexer.Proofs.CommandLine.Execution
import TracingLexer.Proofs.Depiction

namespace TracingLexer

variable {Files : Type}

open Run (runIn saveDrawing)

namespace Automaton

def LeadsAstray (automaton : Automaton) : Prop :=
  ∃ state < automaton.size, ∃ arrow ∈ automaton.arrows state, automaton.size ≤ arrow.target

def AcceptsAstray (automaton : Automaton) : Prop :=
  ∃ number, automaton.accepting[number]? = some true ∧ automaton.size ≤ number

/-- The states are labelled, and a window has words for them and for all targets. -/
structure Presentable (automaton : Automaton) : Prop where
  size : automaton.size < windowLimit
  targets : ∀ state < automaton.size, ∀ arrow ∈ automaton.arrows state,
    arrow.target < windowLimit
  labelled : ∀ state < automaton.size, ∃ label, automaton.label? state = some label

variable {automaton : Automaton}

theorem requireStates_eq_error_iff {numbers : List Nat} :
    (∃ problem, automaton.requireStates numbers = .error problem) ↔
      ∃ number ∈ numbers, automaton.size ≤ number := by
  have passes := @requireStates_eq_ok_iff automaton numbers
  cases outcome : automaton.requireStates numbers with
  | ok =>
      have inside := passes.mp outcome
      simpa using inside
  | error problem =>
      simp only [outcome, reduceCtorEq, false_iff, not_forall, Nat.not_lt] at passes
      rcases passes with ⟨number, listed, outside⟩
      exact iff_of_true ⟨problem, rfl⟩ ⟨number, listed, outside⟩

theorem leadsAstray_iff_edgeTargets :
    automaton.LeadsAstray ↔
      ∃ number ∈ automaton.edges.map Edge.target, automaton.size ≤ number := by
  constructor
  · intro led
    rcases led with ⟨state, below, arrow, leaves, outside⟩
    exact ⟨arrow.target, mem_edgeTargets.mpr ⟨state, below, arrow, leaves, rfl⟩, outside⟩
  · intro led
    rcases led with ⟨number, drawn, outside⟩
    rcases mem_edgeTargets.mp drawn with ⟨state, below, arrow, leaves, rfl⟩
    exact ⟨state, below, arrow, leaves, outside⟩

theorem Presentable.leadsAstray_iff_windowTargets (presentable : automaton.Presentable) :
    automaton.LeadsAstray ↔
      ∃ number ∈ (automaton.states.flatMap automaton.windowEdges).map Edge.target,
        automaton.size ≤ number := by
  constructor
  · intro led
    rcases led with ⟨state, below, arrow, leaves, outside⟩
    have same := windowIndex_eq (presentable.targets state below arrow leaves)
    exact ⟨arrow.target, mem_windowTargets.mpr ⟨state, below, arrow, leaves, same⟩, outside⟩
  · intro led
    rcases led with ⟨number, drawn, outside⟩
    rcases mem_windowTargets.mp drawn with ⟨state, below, arrow, leaves, rfl⟩
    exact ⟨state, below, arrow, leaves, outside.trans (windowIndex_le _)⟩

theorem acceptsAstray_iff_acceptors :
    automaton.AcceptsAstray ↔ ∃ number ∈ automaton.acceptors, automaton.size ≤ number := by
  simp only [AcceptsAstray, mem_acceptors, List.getD_eq_getElem?_getD, Option.getD_eq_iff]
  simp

theorem Presentable.digraph_eq_error_iff (presentable : automaton.Presentable) :
    (∃ problem, automaton.digraph = .error problem) ↔
      automaton.LeadsAstray ∨ automaton.AcceptsAstray := by
  rcases exists_labels presentable.labelled with ⟨labels, found, _⟩
  rw [leadsAstray_iff_edgeTargets, acceptsAstray_iff_acceptors, ← requireStates_eq_error_iff,
    ← requireStates_eq_error_iff, digraph, found]
  cases automaton.requireStates (automaton.edges.map Edge.target) <;>
    cases automaton.requireStates automaton.acceptors <;>
      simp [bind, Except.bind, pure, Except.pure]

theorem Presentable.windowGraph_eq_error_iff (presentable : automaton.Presentable) :
    (∃ problem, automaton.windowGraph = .error problem) ↔ automaton.LeadsAstray := by
  rcases exists_labels presentable.labelled with ⟨labels, found, _⟩
  rw [presentable.leadsAstray_iff_windowTargets, ← requireStates_eq_error_iff, windowGraph, found]
  cases automaton.requireStates
    ((automaton.states.flatMap automaton.windowEdges).map Edge.target) <;>
      simp [bind, Except.bind, pure, Except.pure]

theorem runIn_saveDrawing_undrawable_iff {world after : World Files} {name : String}
    {problem : DrawingError} :
    runIn world (saveDrawing name automaton) = (.error (.undrawable problem), after) ↔
      automaton.digraph = .error problem ∧ after = world := by
  rw [saveDrawing, Run.runIn_bind_eq_error_iff, Run.runIn_require]
  constructor
  · intro failed
    rcases failed with missing | ⟨graph, between, _, later⟩
    · cases found : automaton.digraph with
      | ok graph => simp [found, Except.mapError] at missing
      | error _ => simpa [found, Except.mapError, eq_comm] using missing
    · -- Once the graph is there, the file, the program and its words are all that can fail.
      rcases (Run.runIn_bind_eq_error_iff _).mp later with unwritten | ⟨_, written, _, drawn⟩
      · exact absurd unwritten (Run.runIn_request_ne _ (by simp) _ _)
      · rcases (Run.runIn_bind_eq_error_iff _).mp drawn with undrawn | ⟨outcome, _, _, told⟩
        · exact absurd undrawn (Run.runIn_request_ne _ (by simp) _ _)
        · cases outcome with
          | drawn => simp [Run.runIn_lift] at told
          | complained text =>
              cases told
  · intro holds
    rcases holds with ⟨missing, rfl⟩
    rw [missing]
    exact .inl rfl

theorem Presentable.saving_fails_iff (presentable : automaton.Presentable)
    (world : World Files) (name : String) :
    (∃ problem, (runIn world (saveDrawing name automaton)).1 = .error (.undrawable problem)) ↔
      automaton.LeadsAstray ∨ automaton.AcceptsAstray := by
  rw [← presentable.digraph_eq_error_iff]
  constructor
  · intro failure
    rcases failure with ⟨problem, failed⟩
    exact ⟨problem, (runIn_saveDrawing_undrawable_iff.mp (Prod.ext failed rfl)).1⟩
  · intro failure
    rcases failure with ⟨problem, missing⟩
    have failed := @runIn_saveDrawing_undrawable_iff Files automaton world world name problem
    exact ⟨problem, congrArg Prod.fst (failed.mpr ⟨missing, rfl⟩)⟩

theorem Presentable.startAt (presentable : automaton.Presentable) (start : Nat) :
    ({ automaton with start } : Automaton).Presentable :=
  ⟨presentable.size, presentable.targets, presentable.labelled⟩

/-- What keeps an automaton from being saved or shown, wherever it starts. If it cannot be saved,
the host is asked for nothing. -/
structure FailsAstray (automaton : Automaton) : Prop where
  saved : ∀ {Files : Type} (world : World Files) name,
    (∃ problem, (runIn world (saveDrawing name automaton)).1 = .error (.undrawable problem)) ↔
      automaton.LeadsAstray ∨ automaton.AcceptsAstray
  unasked : ∀ {Files : Type} (world : World Files) name problem after,
    runIn world (saveDrawing name automaton) = (.error (.undrawable problem), after) →
      after = world
  shown : (∃ problem, automaton.windowGraph = .error problem) ↔ automaton.LeadsAstray
  savedFrom : ∀ {Files : Type} start (world : World Files) name,
    (∃ problem, (runIn world (saveDrawing name { automaton with start })).1 =
        .error (.undrawable problem)) ↔
      ∃ problem, (runIn world (saveDrawing name automaton)).1 = .error (.undrawable problem)
  shownFrom : ∀ start,
    (∃ problem, ({ automaton with start } : Automaton).windowGraph = .error problem) ↔
      ∃ problem, automaton.windowGraph = .error problem

theorem Presentable.failsAstray (presentable : automaton.Presentable) : automaton.FailsAstray where
  saved := presentable.saving_fails_iff
  unasked _ _ _ _ failed := (runIn_saveDrawing_undrawable_iff.mp failed).2
  shown := presentable.windowGraph_eq_error_iff
  -- No arrow and no acceptor depends on the start.
  savedFrom start world name :=
    ((presentable.startAt start).saving_fails_iff world name).trans
      (presentable.saving_fails_iff world name).symm
  shownFrom start :=
    (presentable.startAt start).windowGraph_eq_error_iff.trans
      presentable.windowGraph_eq_error_iff.symm

end Automaton

structure Supplied (states : List State) : Prop where
  positions : NfaTables.ofTrace states = .ok (Nfa.ofTrace states).tables
  positionRows : ∀ place < (View.nfa.automaton states).size, ∃ label,
    (View.nfa.automaton states).label? place = some label ∧
      (Nfa.ofTrace states).tables.row place =
        .ok ((View.nfa.automaton states).arrows place, label)
  blocks : DfaTables.ofTrace states = .ok (Dfa.ofTrace states).tables
  blockRows : ∀ number < (View.dfa.automaton states).size, ∃ label,
    (View.dfa.automaton states).label? number = some label ∧
      (Dfa.ofTrace states).tables.row number =
        .ok ((View.dfa.automaton states).arrows number, label)
  search : (Dfa.ofTrace states).tables.reachable = .ok (Dfa.ofTrace states).reachable
  saved : ∀ {Files : Type} view (world : World Files) name problem,
    (runIn world (saveDrawing name (View.automaton states view))).1 ≠ .error (.undrawable problem)
  shown : ∀ view, ∃ window, (View.automaton states view).windowGraph = .ok window

theorem supplied (states : List State) : Supplied states where
  positions := NfaTables.ofTrace_eq states
  positionRows place below := by
    have present := List.getElem?_eq_getElem below
    refine ⟨_, congrArg (Option.map _) present, ?_⟩
    rw [NfaTables.row_eq present]
    simp [View.automaton, Nfa.automaton, present]
  blocks := DfaTables.ofTrace_eq states
  blockRows number below :=
    ⟨_, rfl, DfaTables.row_eq (List.getElem?_eq_getElem below)⟩
  search := DfaTables.reachable_eq states
  saved view world name problem failed := by
    obtain ⟨graph, found, _⟩ := View.exists_digraph states view
    have missing := (Automaton.runIn_saveDrawing_undrawable_iff.mp (Prod.ext failed rfl)).1
    simp [found] at missing
  shown view := by
    have drawable := View.drawable_automaton states view
    obtain ⟨labels, found, _⟩ := Automaton.exists_labels drawable.labelled
    exact ⟨_, Automaton.windowGraph_eq drawable found⟩

/-- What cannot be saved or shown has a number astray. In the automata of a trace and in the listing
of a token there is none. -/
theorem views_fail_iff_astray :
    (∀ automaton : Automaton, automaton.Presentable → automaton.FailsAstray) ∧
      (∀ states, Supplied states) ∧
      ∀ token : Token, token.tabulate = .ok token.automataListing :=
  ⟨fun _ presentable => presentable.failsAstray, supplied, Token.tabulate_eq⟩

/-- The start and an acceptor are astray, and only the acceptor matters, and only to the drawing. -/
theorem views_fail_iff_astray_acceptor :
    let automaton : Automaton := ⟨1, 7, [true, false, true], fun _ => [], fun _ => some "A"⟩
    automaton.Presentable ∧ automaton.FailsAstray ∧
      automaton.AcceptsAstray ∧ automaton.digraph = .error (.noState 2) ∧
      ¬ automaton.LeadsAstray ∧ automaton.windowGraph = .ok ⟨[⟨"A", some .accept⟩], []⟩ := by
  intro automaton
  have presentable : automaton.Presentable := {
    size := by decide
    targets := by decide
    labelled := fun state _ => ⟨"A", rfl⟩ }
  have astray : automaton.AcceptsAstray := ⟨2, rfl, by decide⟩
  have kept : ¬ automaton.LeadsAstray := by
    intro led
    rcases led with ⟨state, _, arrow, leaves, _⟩
    exact absurd leaves List.not_mem_nil
  exact ⟨presentable, views_fail_iff_astray.1 automaton presentable, astray, by cbv, kept, by cbv⟩

end TracingLexer
