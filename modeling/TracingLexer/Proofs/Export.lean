import Mathlib.Data.List.GetD
import TracingLexer.Proofs.Automaton.Bounds
import TracingLexer.Proofs.Automaton.DotText
import TracingLexer.Proofs.Canonical

namespace TracingLexer

namespace Automaton

variable {automaton other : Automaton}

def shownArrows (automaton : Automaton) (state : Nat) : List (String × Nat) :=
  (automaton.sortedArrows state).map fun arrow => (arrow.symbol.display, arrow.target)

/-- All that a drawing shows is the same. -/
structure DrawnAlike (automaton other : Automaton) : Prop where
  size : automaton.size = other.size
  label? : ∀ state < automaton.size, automaton.label? state = other.label? state
  accepting : ∀ state < automaton.size,
    automaton.accepting.getD state false = other.accepting.getD state false
  shownArrows : ∀ state < automaton.size, automaton.shownArrows state = other.shownArrows state

theorem shownArrows_eq_of_edges (size_eq : automaton.size = other.size)
    (edges_eq : automaton.edges = other.edges) {state : Nat} (below : state < automaton.size) :
    automaton.shownArrows state = other.shownArrows state := by
  have drawn (drawing : Automaton) (inside : state < drawing.size) :
      (drawing.edges.filter (·.source = state)).map (fun edge => (edge.label, edge.target)) =
        drawing.shownArrows state := by
    rw [filter_edges_of_source fun edge kept => of_decide_eq_true kept, if_pos inside,
      List.filter_map, List.map_map]
    simp [Automaton.shownArrows, Function.comp_def]
  rw [← drawn automaton below, edges_eq, drawn other (size_eq ▸ below)]

theorem edges_eq_of_shownArrows (size_eq : automaton.size = other.size)
    (same : ∀ state < automaton.size, automaton.shownArrows state = other.shownArrows state) :
    automaton.edges = other.edges := by
  have drawn (drawing : Automaton) : drawing.edges = drawing.states.flatMap fun state =>
      (drawing.shownArrows state).map fun shown => ⟨state, shown.2, shown.1⟩ := by
    simp only [edges, Automaton.shownArrows, List.map_map]
    rfl
  rw [drawn automaton, drawn other, states, states, ← size_eq]
  apply List.flatMap_congr
  intro state member
  rw [same state (List.mem_range.mp member)]

def Unmarked (label : String) : Prop := label.toList.head? ≠ some 'A'

theorem head?_nodeLabel {state : Nat} {label : String} (unmarked : Unmarked label) :
    (automaton.nodeLabel state label).toList.head? = some 'A' ↔
      automaton.accepting.getD state false = true := by
  rw [nodeLabel]
  by_cases accepts : automaton.accepting.getD state false = true
  · rw [if_pos accepts]
    exact iff_of_true (by simp) accepts
  · rw [if_neg accepts]
    refine iff_of_false ?_ accepts
    split
    · simp
    · exact unmarked

theorem nodeLabel_inj (start_eq : automaton.start = other.start) {state : Nat}
    {label otherLabel : String} (unmarked : Unmarked label) (otherUnmarked : Unmarked otherLabel)
    (same : automaton.nodeLabel state label = other.nodeLabel state otherLabel) :
    automaton.accepting.getD state false = other.accepting.getD state false ∧
      label = otherLabel := by
  have accepting_eq : automaton.accepting.getD state false = other.accepting.getD state false := by
    rw [Bool.eq_iff_iff, ← head?_nodeLabel unmarked, ← head?_nodeLabel otherUnmarked, same]
  refine ⟨accepting_eq, ?_⟩
  rw [nodeLabel, nodeLabel, accepting_eq, start_eq] at same
  split at same
  · exact (String.append_right_inj _).mp same
  · split at same
    · exact (String.append_right_inj _).mp same
    · exact same

theorem digraph_eq_iff_drawnAlike (drawable : automaton.Drawable) (otherDrawable : other.Drawable)
    (start_eq : automaton.start = other.start)
    (unmarked : ∀ state label, automaton.label? state = some label → Unmarked label)
    (otherUnmarked : ∀ state label, other.label? state = some label → Unmarked label) :
    ∃ graph otherGraph, automaton.digraph = .ok graph ∧ other.digraph = .ok otherGraph ∧
      (graph = otherGraph ↔ automaton.DrawnAlike other) := by
  rcases Automaton.exists_labels drawable.labelled with ⟨labels, found, length_eq, label_eq⟩
  rcases Automaton.exists_labels otherDrawable.labelled with
    ⟨otherLabels, otherFound, otherLength, otherLabel⟩
  refine ⟨_, _, drawable.digraph_eq found, otherDrawable.digraph_eq otherFound, ?_⟩
  rw [Digraph.mk.injEq]
  constructor
  · rintro ⟨nodes_eq, edges_eq⟩
    have size_eq : automaton.size = other.size := by
      have lengths := congrArg List.length nodes_eq
      rwa [List.length_mapIdx, List.length_mapIdx, length_eq, otherLength] at lengths
    have told : ∀ state < automaton.size,
        automaton.accepting.getD state false = other.accepting.getD state false ∧
          automaton.label? state = other.label? state := by
      intro state below
      rcases drawable.labelled state below with ⟨label, labelled⟩
      rcases otherDrawable.labelled state (size_eq ▸ below) with ⟨second, secondLabelled⟩
      have node := congrArg (·[state]?) nodes_eq
      simp only [List.getElem?_mapIdx] at node
      rw [label_eq state below, otherLabel state (size_eq ▸ below), labelled, secondLabelled,
        Option.map_some, Option.map_some, Option.some.injEq] at node
      rcases nodeLabel_inj start_eq (unmarked state label labelled)
        (otherUnmarked state second secondLabelled) node with ⟨accepting_eq, same⟩
      rw [labelled, secondLabelled, same]
      exact ⟨accepting_eq, rfl⟩
    exact {
      size := size_eq
      label? := fun state below => (told state below).2
      accepting := fun state below => (told state below).1
      shownArrows := fun state below => shownArrows_eq_of_edges size_eq edges_eq below }
  · intro alike
    refine ⟨?_, edges_eq_of_shownArrows alike.size alike.shownArrows⟩
    apply List.ext_getElem?
    intro state
    rw [List.getElem?_mapIdx, List.getElem?_mapIdx]
    rcases Nat.lt_or_ge state automaton.size with below | outside
    · rw [label_eq state below, otherLabel state (alike.size ▸ below), alike.label? state below]
      congr 1
      funext label
      rw [nodeLabel, nodeLabel, alike.accepting state below, start_eq]
    · rw [List.getElem?_eq_none (length_eq ▸ outside),
        List.getElem?_eq_none (otherLength ▸ alike.size ▸ outside)]
      rfl

theorem DrawnAlike.accepting_eq (alike : automaton.DrawnAlike other)
    (marked : automaton.accepting.length = automaton.size)
    (otherMarked : other.accepting.length = other.size) :
    automaton.accepting = other.accepting := by
  apply List.ext_getElem (by rw [marked, otherMarked, alike.size])
  intro state below otherBelow
  have same := alike.accepting state (marked ▸ below)
  rwa [List.getD_eq_getElem _ _ below, List.getD_eq_getElem _ _ otherBelow] at same

theorem DrawnAlike.shownArrows_eq (alike : automaton.DrawnAlike other)
    (bare : ∀ state, automaton.size ≤ state → automaton.arrows state = [])
    (otherBare : ∀ state, other.size ≤ state → other.arrows state = []) :
    automaton.shownArrows = other.shownArrows := by
  funext state
  rcases Nat.lt_or_ge state automaton.size with below | outside
  · exact alike.shownArrows state below
  · rw [Automaton.shownArrows, Automaton.shownArrows, sortedArrows, sortedArrows,
      bare state outside, otherBare state (alike.size ▸ outside)]

end Automaton

namespace Nfa

open Automaton (Unmarked)

variable {nfa other : Nfa}

theorem unmarked_label (index : Nat) (label : String)
    (labelled : nfa.automaton.label? index = some label) : Unmarked label := by
  rcases Option.map_eq_some_iff.mp labelled with ⟨position, _, rfl⟩
  simp [Unmarked, toString]

theorem arrows_eq_nil_of_size_le (index : Nat) (outside : nfa.automaton.size ≤ index) :
    nfa.automaton.arrows index = [] := by
  have absent : nfa.positions[index]? = none := List.getElem?_eq_none outside
  change (nfa.positions[index]?.map (·.arrows.toList)).getD [] = []
  rw [absent]
  rfl

theorem idLabel_injective : Function.Injective fun id : Nat => s!"q{id}" := by
  intro id other same
  have texts := congrArg String.toList same
  have digits : (Nat.repr id).toList ++ [] = (Nat.repr other).toList ++ [] := by
    simpa [toString] using texts
  exact (Json.decodes_repr id other [] [] (Text.ends_nil _) (Text.ends_nil _) digits).1

theorem label?_eq (index : Nat) :
    nfa.automaton.label? index = (nfa.positions.map Position.id)[index]?.map (s!"q{·}") := by
  rw [List.getElem?_map, Option.map_map]
  rfl

theorem drawnAlike_iff :
    nfa.automaton.DrawnAlike other.automaton ↔
      nfa.positions.map Position.id = other.positions.map Position.id ∧
        nfa.positions.map Position.accepting = other.positions.map Position.accepting ∧
        ∀ index, nfa.automaton.shownArrows index = other.automaton.shownArrows index := by
  constructor
  · intro alike
    have length_eq : nfa.positions.length = other.positions.length := alike.size
    refine ⟨?_, alike.accepting_eq (List.length_map _) (List.length_map _),
      congrFun (alike.shownArrows_eq arrows_eq_nil_of_size_le arrows_eq_nil_of_size_le)⟩
    apply List.ext_getElem?
    intro index
    rcases Nat.lt_or_ge index nfa.positions.length with below | outside
    · have labels := alike.label? index below
      rw [label?_eq, label?_eq] at labels
      exact Option.map_injective idLabel_injective labels
    · rw [List.getElem?_eq_none (by rwa [List.length_map]),
        List.getElem?_eq_none (by rwa [List.length_map, ← length_eq])]
  · rintro ⟨ids_eq, accepting_eq, arrows_eq⟩
    have length_eq := congrArg List.length ids_eq
    rw [List.length_map, List.length_map] at length_eq
    exact {
      size := length_eq
      label? := fun index _ => by rw [label?_eq, label?_eq, ids_eq]
      accepting := fun index _ => congrArg (·.getD index false) accepting_eq
      shownArrows := fun index _ => arrows_eq index }

end Nfa

namespace Dfa

open Automaton (Unmarked)

variable {dfa other : Dfa}

theorem unmarked_label (index : Nat) (label : String)
    (labelled : dfa.automaton.label? index = some label) : Unmarked label := by
  rw [← Option.some.inj labelled]
  simp [Unmarked, Dfa.label, toString]

theorem arrows_eq_nil_of_size_le (index : Nat) (outside : dfa.automaton.size ≤ index) :
    dfa.automaton.arrows index = [] := by
  have absent : dfa.blocks[index]? = none := List.getElem?_eq_none outside
  change (dfa.blocks[index]?.map (·.arrows.toList)).getD [] = []
  rw [absent]
  rfl

theorem isAccepting_eq (index : Nat) :
    dfa.isAccepting index = dfa.automaton.accepting.getD index false := by
  rw [isAccepting, List.getD_eq_getElem?_getD]
  change _ = (dfa.blocks.map Block.accepting)[index]?.getD false
  rw [List.getElem?_map]

theorem arrowsOf_eq_of_mem_iff {index : Nat}
    (same : ∀ arrow, arrow ∈ dfa.arrowsOf index ↔ arrow ∈ other.arrowsOf index) :
    dfa.arrowsOf index = other.arrowsOf index :=
  congrArg ArrowSet.toList (@ArrowSet.ext ⟨dfa.arrowsOf index, pairwise_arrowsOf dfa index⟩
    ⟨other.arrowsOf index, pairwise_arrowsOf other index⟩ same)

theorem mem_arrowsOf_iff_of_shownArrows {index : Nat}
    (reads : ∀ arrow ∈ dfa.arrowsOf index, arrow.symbol ≠ .epsilon)
    (otherReads : ∀ arrow ∈ other.arrowsOf index, arrow.symbol ≠ .epsilon)
    (same : dfa.automaton.shownArrows index = other.automaton.shownArrows index) (arrow : Arrow) :
    arrow ∈ dfa.arrowsOf index ↔ arrow ∈ other.arrowsOf index := by
  have sorted : Arrow.sort (dfa.arrowsOf index) = Arrow.sort (other.arrowsOf index) := by
    refine eq_of_map_eq_map ?_ (fun arrow member => reads arrow (Arrow.mem_sort.mp member))
      (fun arrow member => otherReads arrow (Arrow.mem_sort.mp member)) same
    intro left right leftReads rightReads shown
    rw [Prod.mk.injEq] at shown
    have symbols := Symbol.display_inj leftReads rightReads shown.1
    cases left
    cases right
    simp_all
  rw [← Arrow.mem_sort, sorted, Arrow.mem_sort]

theorem drawnAlike_iff
    (reads : ∀ index, ∀ arrow ∈ dfa.arrowsOf index, arrow.symbol ≠ .epsilon)
    (otherReads : ∀ index, ∀ arrow ∈ other.arrowsOf index, arrow.symbol ≠ .epsilon) :
    dfa.automaton.DrawnAlike other.automaton ↔
      dfa.blocks.length = other.blocks.length ∧
        (∀ index, dfa.isAccepting index = other.isAccepting index) ∧
        ∀ index arrow, arrow ∈ dfa.arrowsOf index ↔ arrow ∈ other.arrowsOf index := by
  constructor
  · intro alike
    refine ⟨alike.size, ?_, ?_⟩
    · intro index
      rw [isAccepting_eq, isAccepting_eq,
        alike.accepting_eq (List.length_map _) (List.length_map _)]
    · intro index
      have shown := alike.shownArrows_eq arrows_eq_nil_of_size_le arrows_eq_nil_of_size_le
      exact mem_arrowsOf_iff_of_shownArrows (reads index) (otherReads index) (congrFun shown index)
  · rintro ⟨length_eq, accepting_eq, arrows_eq⟩
    exact {
      size := length_eq
      label? := fun _ _ => rfl
      accepting := fun index _ => by rw [← isAccepting_eq, ← isAccepting_eq, accepting_eq]
      shownArrows := by
        intro index _
        have same := arrowsOf_eq_of_mem_iff (arrows_eq index)
        exact congrArg (fun arrows => (Arrow.sort arrows).map _) same }

end Dfa

/-- Two traces have the same dot text of their deterministic automata exactly if these have as many
states, accept in the same ones and have the same arrows; they have the same dot text of their
other automata exactly if these have the same ids, accept at the same positions and show the same
arrows out of each position, in ascending order. -/
theorem dot_eq_iff (trace other : List State) :
    (∃ graph otherGraph, (Dfa.ofTrace trace).automaton.digraph = .ok graph ∧
      (Dfa.ofTrace other).automaton.digraph = .ok otherGraph ∧
      (graph.dot = otherGraph.dot ↔
        (Dfa.ofTrace trace).blocks.length = (Dfa.ofTrace other).blocks.length ∧
          (∀ index, (Dfa.ofTrace trace).isAccepting index = (Dfa.ofTrace other).isAccepting index) ∧
          ∀ index arrow,
            arrow ∈ (Dfa.ofTrace trace).arrowsOf index ↔
              arrow ∈ (Dfa.ofTrace other).arrowsOf index)) ∧
    ∃ graph otherGraph, (Nfa.ofTrace trace).automaton.digraph = .ok graph ∧
      (Nfa.ofTrace other).automaton.digraph = .ok otherGraph ∧
      (graph.dot = otherGraph.dot ↔
        (Nfa.ofTrace trace).positions.map Position.id =
            (Nfa.ofTrace other).positions.map Position.id ∧
          (Nfa.ofTrace trace).positions.map Position.accepting =
            (Nfa.ofTrace other).positions.map Position.accepting ∧
          ∀ index,
            (Nfa.ofTrace trace).automaton.shownArrows index =
              (Nfa.ofTrace other).automaton.shownArrows index) := by
  constructor
  · rcases Automaton.digraph_eq_iff_drawnAlike (Dfa.drawable_ofTrace trace)
      (Dfa.drawable_ofTrace other) rfl Dfa.unmarked_label Dfa.unmarked_label with
      ⟨graph, otherGraph, found, otherFound, same_iff⟩
    refine ⟨graph, otherGraph, found, otherFound, ?_⟩
    rw [Digraph.dot_injective.eq_iff, same_iff]
    exact Dfa.drawnAlike_iff (fun _ _ member => (Dfa.leadsBelow_of_mem_arrowsOf member).1)
      (fun _ _ member => (Dfa.leadsBelow_of_mem_arrowsOf member).1)
  · rcases Automaton.digraph_eq_iff_drawnAlike (Nfa.drawable_ofTrace trace)
      (Nfa.drawable_ofTrace other) rfl Nfa.unmarked_label Nfa.unmarked_label with
      ⟨graph, otherGraph, found, otherFound, same_iff⟩
    refine ⟨graph, otherGraph, found, otherFound, ?_⟩
    rw [Digraph.dot_injective.eq_iff, same_iff, Nfa.drawnAlike_iff]

end TracingLexer
