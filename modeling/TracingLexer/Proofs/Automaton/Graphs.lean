import Mathlib.Data.List.Basic
import TracingLexer.Automaton.Window

namespace TracingLexer

namespace Arrow

theorem atMost_iff {left right : Arrow} : atMost left right = true ↔ ¬ right.Before left := by
  rw [atMost, Bool.not_eq_true', decide_eq_false_iff_not]

theorem atMost_trans (first second third : Arrow) (left : atMost first second = true)
    (right : atMost second third = true) : atMost first third = true := by
  rw [atMost_iff, Before] at *
  omega

theorem atMost_total (left right : Arrow) : (atMost left right || atMost right left) = true := by
  rw [Bool.or_eq_true, atMost_iff, atMost_iff, Before, Before]
  omega

theorem atMost_antisymm {left right : Arrow} (below : atMost left right = true)
    (above : atMost right left = true) : left = right := by
  rw [atMost_iff] at below above
  rcases before_or_eq_or_before left right with before | same | after
  · exact absurd before above
  · exact same
  · exact absurd after below

theorem sort_perm (arrows : List Arrow) : (sort arrows).Perm arrows :=
  List.mergeSort_perm arrows atMost

theorem mem_sort {arrow : Arrow} {arrows : List Arrow} : arrow ∈ sort arrows ↔ arrow ∈ arrows :=
  (sort_perm arrows).mem_iff

theorem sort_eq_of_perm {left right : List Arrow} (perm : left.Perm right) :
    sort left = sort right := by
  have ordered (arrows : List Arrow) := List.pairwise_mergeSort atMost_trans atMost_total arrows
  apply List.Perm.eq_of_pairwise _ (ordered left) (ordered right)
  · exact ((sort_perm left).trans perm).trans (sort_perm right).symm
  · intro first second _ _ below above
    exact atMost_antisymm below above

theorem sort_eq_self {arrows : List Arrow} (ascending : arrows.Pairwise Before) :
    sort arrows = arrows :=
  List.mergeSort_of_pairwise (ascending.imp fun before => atMost_iff.mpr before.asymm)

end Arrow

theorem Edge.filter_flatMap_range {view : Nat → List Edge} {keep : Edge → Bool} {source : Nat}
    (tagged : ∀ state, ∀ edge ∈ view state, edge.source = state)
    (fixes : ∀ edge, keep edge = true → edge.source = source) (size : Nat) :
    ((List.range size).flatMap view).filter keep =
      if source < size then (view source).filter keep else [] := by
  have elsewhere (state : Nat) (other : state ≠ source) : (view state).filter keep = [] := by
    rw [List.filter_eq_nil_iff]
    intro edge member kept
    exact other ((tagged state edge member).symm.trans (fixes edge kept))
  rw [List.filter_flatMap]
  induction size with
  | zero => rfl
  | succ size ih =>
      rw [List.range_succ, List.flatMap_append, ih, List.flatMap_singleton]
      rcases Nat.lt_trichotomy source size with below | rfl | above
      · rw [if_pos below, if_pos (Nat.lt_succ_of_lt below), elsewhere size (Nat.ne_of_gt below),
          List.append_nil]
      · rw [if_neg (Nat.lt_irrefl _), if_pos (Nat.lt_succ_self _), List.nil_append]
      · rw [if_neg (by omega), if_neg (by omega), elsewhere size (Nat.ne_of_lt above),
          List.append_nil]

namespace Automaton

variable {automaton other : Automaton}

/-- Arrows and acceptors name states, and each state has a label. -/
structure Drawable (automaton : Automaton) : Prop where
  targets : ∀ state < automaton.size, ∀ arrow ∈ automaton.arrows state,
    arrow.target < automaton.size
  acceptors : ∀ state ∈ automaton.acceptors, state < automaton.size
  labelled : ∀ state < automaton.size, ∃ label, automaton.label? state = some label

theorem mem_acceptors {state : Nat} :
    state ∈ automaton.acceptors ↔ automaton.accepting.getD state false = true := by
  rw [acceptors, List.mem_filterMap, List.getD_eq_getElem?_getD, Option.getD_eq_iff]
  constructor
  · intro found
    rcases found with ⟨⟨marked, index⟩, listed, chosen⟩
    cases marked with
    | false => simp at chosen
    | true =>
        obtain rfl : index = state := by simpa using chosen
        exact .inl (List.mem_zipIdx_iff_getElem?.mp listed)
  · intro found
    rcases found with present | absent
    · exact ⟨(true, state), List.mem_zipIdx_iff_getElem?.mpr present, rfl⟩
    · exact absurd absent.2 (by decide)

theorem requireStates_eq_ok_iff {numbers : List Nat} :
    automaton.requireStates numbers = .ok () ↔ ∀ number ∈ numbers, number < automaton.size := by
  rw [requireStates]
  cases found : numbers.find? (automaton.size ≤ ·) with
  | none => simpa using List.find?_eq_none.mp found
  | some number =>
      have outside : automaton.size ≤ number := by simpa using List.find?_some found
      have listed := List.mem_of_find?_eq_some found
      simp only [reduceCtorEq, false_iff]
      exact fun inside => absurd (inside number listed) (Nat.not_lt.mpr outside)

theorem mapM_label_eq_ok {states : List Nat}
    (labelled : ∀ state ∈ states, ∃ label, automaton.label? state = some label) :
    ∃ labels, states.mapM automaton.label = .ok labels ∧
      states.map automaton.label? = labels.map some := by
  induction states with
  | nil => exact ⟨[], rfl, rfl⟩
  | cons state states ih =>
      rw [List.forall_mem_cons] at labelled
      rcases labelled with ⟨⟨label, here⟩, later⟩
      rcases ih later with ⟨labels, mapped, labels_eq⟩
      have chosen : automaton.label state = .ok label := by rw [Automaton.label, here]
      refine ⟨label :: labels, ?_, ?_⟩
      · rw [List.mapM_cons, chosen, mapped]
        rfl
      · rw [List.map_cons, List.map_cons, here, labels_eq]

theorem exists_labels
    (labelled : ∀ state < automaton.size, ∃ label, automaton.label? state = some label) :
    ∃ labels, automaton.labels = .ok labels ∧ labels.length = automaton.size ∧
      ∀ state < automaton.size, labels[state]? = automaton.label? state := by
  have labelled : ∀ state ∈ automaton.states, ∃ label, automaton.label? state = some label :=
    fun state member => labelled state (List.mem_range.mp member)
  rcases mapM_label_eq_ok labelled with ⟨labels, found, labels_eq⟩
  refine ⟨labels, found, ?_, ?_⟩
  · have lengths := congrArg List.length labels_eq
    rw [List.length_map, List.length_map, states, List.length_range] at lengths
    exact lengths.symm
  · intro state below
    have place := congrArg (·[state]?) labels_eq
    simp only [List.getElem?_map, states, List.getElem?_range below, Option.map_some] at place
    cases listed : labels[state]? with
    | none => simp [listed] at place
    | some label => simpa [listed] using place.symm

theorem filter_edges_of_source {keep : Edge → Bool} {source : Nat}
    (fixes : ∀ edge, keep edge = true → edge.source = source) :
    automaton.edges.filter keep =
      if source < automaton.size then
        ((automaton.sortedArrows source).map fun arrow =>
          ⟨source, arrow.target, arrow.symbol.display⟩).filter keep
      else [] := by
  rw [edges, states, Edge.filter_flatMap_range _ fixes]
  intro state edge member
  rcases List.mem_map.mp member with ⟨arrow, _, rfl⟩
  rfl

theorem mem_edges {edge : Edge} :
    edge ∈ automaton.edges ↔ edge.source < automaton.size ∧
      ∃ arrow ∈ automaton.arrows edge.source,
        edge.target = arrow.target ∧ edge.label = arrow.symbol.display := by
  simp only [edges, states, List.mem_flatMap, List.mem_range, List.mem_map, sortedArrows,
    Arrow.mem_sort]
  constructor
  · intro drawn
    rcases drawn with ⟨state, below, arrow, member, rfl⟩
    exact ⟨below, arrow, member, rfl, rfl⟩
  · intro drawn
    rcases drawn with ⟨below, arrow, member, target_eq, label_eq⟩
    exact ⟨edge.source, below, arrow, member, by rw [← target_eq, ← label_eq]⟩

theorem mem_edgeTargets {number : Nat} :
    number ∈ automaton.edges.map Edge.target ↔
      ∃ state < automaton.size, ∃ arrow ∈ automaton.arrows state, arrow.target = number := by
  rw [List.mem_map]
  constructor
  · intro drawn
    rcases drawn with ⟨edge, drawn, rfl⟩
    rcases mem_edges.mp drawn with ⟨below, arrow, listed, target_eq, _⟩
    exact ⟨edge.source, below, arrow, listed, target_eq.symm⟩
  · intro led
    rcases led with ⟨state, below, arrow, listed, rfl⟩
    exact ⟨⟨state, arrow.target, arrow.symbol.display⟩,
      mem_edges.mpr ⟨below, arrow, listed, rfl, rfl⟩, rfl⟩

theorem mem_windowTargets {number : Nat} :
    number ∈ (automaton.states.flatMap automaton.windowEdges).map Edge.target ↔
      ∃ state < automaton.size, ∃ arrow ∈ automaton.arrows state,
        windowIndex arrow.target = number := by
  simp only [windowEdges, states, sortedArrows, List.map_flatMap, List.map_map, List.mem_flatMap,
    List.mem_range, List.mem_map, List.mem_eraseDups, Function.comp_apply, Arrow.mem_sort,
    exists_exists_and_eq_and]

theorem Drawable.digraph_eq (drawable : automaton.Drawable) {labels : List String}
    (found : automaton.labels = .ok labels) :
    automaton.digraph = .ok ⟨labels.mapIdx automaton.nodeLabel, automaton.edges⟩ := by
  have targets : automaton.requireStates (automaton.edges.map Edge.target) = .ok () := by
    rw [requireStates_eq_ok_iff]
    intro number member
    rcases mem_edgeTargets.mp member with ⟨state, below, arrow, listed, rfl⟩
    exact drawable.targets state below arrow listed
  have acceptors := requireStates_eq_ok_iff.mpr drawable.acceptors
  rw [digraph, found]
  simp only [bind, Except.bind, targets, acceptors]
  rfl

/-- The same automaton, whose arrows may be listed in another order. -/
structure Reordered (automaton other : Automaton) : Prop where
  size : other.size = automaton.size
  start : other.start = automaton.start
  accepting : other.accepting = automaton.accepting
  label? : other.label? = automaton.label?
  arrows : ∀ state < automaton.size, (other.arrows state).Perm (automaton.arrows state)

namespace Reordered

theorem sortedArrows_eq (reordered : automaton.Reordered other) {state : Nat}
    (below : state < automaton.size) : other.sortedArrows state = automaton.sortedArrows state :=
  Arrow.sort_eq_of_perm (reordered.arrows state below)

theorem edges_eq (reordered : automaton.Reordered other) : other.edges = automaton.edges := by
  rw [edges, edges, states, states, reordered.size]
  apply List.flatMap_congr
  intro state member
  rw [reordered.sortedArrows_eq (List.mem_range.mp member)]

theorem windowEdges_eq (reordered : automaton.Reordered other) :
    other.states.flatMap other.windowEdges = automaton.states.flatMap automaton.windowEdges := by
  rw [states, states, reordered.size]
  apply List.flatMap_congr
  intro state member
  rw [windowEdges, windowEdges, reordered.sortedArrows_eq (List.mem_range.mp member)]

theorem labels_eq (reordered : automaton.Reordered other) : other.labels = automaton.labels := by
  have label_eq : other.label = automaton.label := by
    funext state
    rw [label, label, reordered.label?]
  rw [labels, labels, label_eq, states, states, reordered.size]

theorem requireStates_eq (reordered : automaton.Reordered other) :
    other.requireStates = automaton.requireStates := by
  funext numbers
  rw [requireStates, requireStates, reordered.size]

theorem digraph_eq (reordered : automaton.Reordered other) : other.digraph = automaton.digraph := by
  have nodeLabel_eq : other.nodeLabel = automaton.nodeLabel := by
    funext state label
    rw [nodeLabel, nodeLabel, reordered.accepting, reordered.start]
  have acceptors_eq : other.acceptors = automaton.acceptors := by
    rw [acceptors, acceptors, reordered.accepting]
  simp only [digraph, reordered.labels_eq, reordered.requireStates_eq, reordered.edges_eq,
    nodeLabel_eq, acceptors_eq]

theorem windowGraph_eq (reordered : automaton.Reordered other) :
    other.windowGraph = automaton.windowGraph := by
  have nodeColor_eq : other.nodeColor = automaton.nodeColor := by
    funext state
    rw [nodeColor, nodeColor, reordered.accepting, reordered.start]
  simp only [windowGraph, reordered.labels_eq, reordered.requireStates_eq,
    reordered.windowEdges_eq, nodeColor_eq]

end Reordered
end Automaton
end TracingLexer
