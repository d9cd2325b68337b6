import Mathlib.Data.List.Permutation
import TracingLexer.Proofs.Automaton.Graphs
import TracingLexer.Proofs.Lists

namespace TracingLexer

namespace Edge

def joins (source target : Nat) (edge : Edge) : Bool :=
  edge.source = source ∧ edge.target = target

theorem joins_mk (source target number : Nat) (label : String) :
    joins source target ⟨source, number, label⟩ = decide (number = target) := by
  simp [joins]

def merged (source target : Nat) (parallel : List Edge) : List Edge :=
  if parallel = [] then []
  else [⟨source, target, ", ".intercalate (parallel.map Edge.label)⟩]

end Edge

namespace Automaton

open Edge (joins merged)

variable {automaton : Automaton}

/-- The bound below which the numbers of a window and of a dot graph are the same. -/
def windowLimit : Nat := 4294967295

theorem windowIndex_eq {number : Nat} (below : number < windowLimit) :
    windowIndex number = number := by
  rw [windowIndex]
  rw [windowLimit] at below
  omega

theorem filter_edges (source target : Nat) :
    automaton.edges.filter (joins source target) =
      if source < automaton.size then
        ((automaton.sortedArrows source).filter (·.target = target)).map fun arrow =>
          ⟨source, arrow.target, arrow.symbol.display⟩
      else [] := by
  rw [filter_edges_of_source fun edge joined => (of_decide_eq_true joined).1]
  split
  · simp only [List.filter_map, Function.comp_def, Edge.joins_mk]
  · rfl

theorem windowEdges_eq {state : Nat}
    (short : ∀ arrow ∈ automaton.arrows state, arrow.target < windowLimit) :
    automaton.windowEdges state =
      ((automaton.sortedArrows state).map Arrow.target).eraseDups.map fun target =>
        ⟨state, target, ", ".intercalate
          (((automaton.sortedArrows state).filter (·.target = target)).map
            (·.symbol.display))⟩ := by
  have unchanged : ((automaton.sortedArrows state).map fun arrow =>
      { arrow with target := windowIndex arrow.target }) = automaton.sortedArrows state := by
    calc
      _ = (automaton.sortedArrows state).map id := by
        apply List.map_congr_left
        intro arrow member
        rw [windowIndex_eq (short arrow (Arrow.mem_sort.mp member))]
        rfl
      _ = automaton.sortedArrows state := List.map_id _
  rw [windowEdges, unchanged]

theorem filter_windowEdges (drawable : automaton.Drawable) (short : automaton.size < windowLimit)
    (source target : Nat) :
    (automaton.states.flatMap automaton.windowEdges).filter (joins source target) =
      merged source target (automaton.edges.filter (joins source target)) := by
  have tagged : ∀ state, ∀ edge ∈ automaton.windowEdges state, edge.source = state := by
    intro state edge member
    rcases List.mem_map.mp member with ⟨number, _, rfl⟩
    rfl
  rw [states, filter_edges, Edge.filter_flatMap_range tagged
    fun edge joined => (of_decide_eq_true joined).1]
  by_cases below : source < automaton.size
  · have reached : ∀ arrow ∈ automaton.arrows source, arrow.target < windowLimit :=
      fun arrow member => Nat.lt_trans (drawable.targets source below arrow member) short
    rw [if_pos below, if_pos below, windowEdges_eq reached]
    -- The targets come once each, so at most one of them is the target at hand.
    simp only [List.filter_map, Function.comp_def, Edge.joins_mk, filter_eraseDups]
    by_cases led : target ∈ (automaton.sortedArrows source).map Arrow.target
    · rcases List.mem_map.mp led with ⟨arrow, listed, reaches⟩
      have parallel : (automaton.sortedArrows source).filter (·.target = target) ≠ [] :=
        List.ne_nil_of_mem (List.mem_filter.mpr ⟨listed, decide_eq_true reaches⟩)
      rw [if_pos led, merged, if_neg (by simpa using parallel), List.map_map]
      rfl
    · have none : (automaton.sortedArrows source).filter (·.target = target) = [] := by
        rw [List.filter_eq_nil_iff]
        exact fun arrow listed reaches =>
          led (List.mem_map.mpr ⟨arrow, listed, of_decide_eq_true reaches⟩)
      rw [if_neg led, none]
      rfl
  · rw [if_neg below, if_neg below]
    rfl

theorem windowIndex_le (number : Nat) : windowIndex number ≤ number := Nat.mod_le number _

theorem windowGraph_eq (drawable : automaton.Drawable) {labels : List String}
    (found : automaton.labels = .ok labels) :
    automaton.windowGraph =
      .ok ⟨labels.mapIdx fun state label => ⟨label, automaton.nodeColor state⟩,
        automaton.states.flatMap automaton.windowEdges⟩ := by
  have targets : automaton.requireStates
      ((automaton.states.flatMap automaton.windowEdges).map Edge.target) = .ok () := by
    rw [requireStates_eq_ok_iff]
    intro number member
    rcases mem_windowTargets.mp member with ⟨state, below, arrow, listed, rfl⟩
    exact Nat.lt_of_le_of_lt (windowIndex_le _) (drawable.targets state below arrow listed)
  rw [windowGraph, found]
  simp only [bind, Except.bind, targets]
  rfl

end Automaton

theorem append_ne_self {mark : String} (marked : mark ≠ "") (label : String) :
    mark ++ label ≠ label := by
  intro same
  have lengths := congrArg String.length same
  rw [String.length_append] at lengths
  exact marked (String.length_eq_zero_iff.mp (by omega))

theorem accept_append_ne (label : String) : "Accept\n" ++ label ≠ "Start\n" ++ label := by
  intro same
  have heads := congrArg (·.toList.head?) same
  simp at heads

/-- A node of the window for one of the dot graph: a colour stands for the mark before the label. -/
structure WindowNode.Shows (node : WindowNode) (label marked : String) : Prop where
  named : node.label = label
  accept : node.color = some .accept ↔ marked = "Accept\n" ++ label
  start : node.color = some .start ↔ marked = "Start\n" ++ label
  plain : node.color = none ↔ marked = label
  colored : node.color = some .accept ∨ node.color = some .start ∨ node.color = none

namespace Automaton

open Edge (joins merged)

variable {automaton : Automaton}

theorem shows_nodeLabel (short : automaton.start < windowLimit) (state : Nat) (label : String) :
    (⟨label, automaton.nodeColor state⟩ : WindowNode).Shows label
      (automaton.nodeLabel state label) := by
  have accept := @append_ne_self "Accept\n" (by decide) label
  have start := @append_ne_self "Start\n" (by decide) label
  have apart := accept_append_ne label
  rw [nodeColor, nodeLabel, windowIndex_eq short]
  by_cases accepts : automaton.accepting.getD state false = true
  · rw [if_pos accepts, if_pos accepts]
    exact ⟨rfl, by simp, by simp [apart, Color.accept, Color.start], by simp [accept], by simp⟩
  · rw [if_neg accepts, if_neg accepts]
    by_cases starts : state = automaton.start
    · rw [if_pos starts, if_pos starts.symm]
      exact ⟨rfl, by simp [apart.symm, Color.accept, Color.start], by simp, by simp [start],
        by simp⟩
    · rw [if_neg starts, if_neg (Ne.symm starts)]
      exact ⟨rfl, by simp [accept.symm], by simp [start.symm], by simp, by simp⟩

theorem color_eq_accept_iff {state : Nat} :
    automaton.nodeColor state = some .accept ↔ state ∈ automaton.acceptors := by
  have apart : Color.start ≠ Color.accept := by decide
  rw [mem_acceptors, nodeColor]
  by_cases accepts : automaton.accepting.getD state false = true
  · rw [if_pos accepts]
    exact iff_of_true rfl accepts
  · rw [if_neg accepts]
    refine iff_of_false ?_ accepts
    split <;> simp [apart]

theorem color_eq_start_iff (short : automaton.start < windowLimit) {state : Nat} :
    automaton.nodeColor state = some .start ↔
      state = automaton.start ∧ state ∉ automaton.acceptors := by
  have apart : Color.accept ≠ Color.start := by decide
  rw [mem_acceptors, nodeColor, windowIndex_eq short]
  by_cases accepts : automaton.accepting.getD state false = true
  · rw [if_pos accepts]
    exact iff_of_false (by simp [apart]) fun starts => starts.2 accepts
  · rw [if_neg accepts, and_iff_left accepts]
    split
    next starts => exact iff_of_true rfl starts.symm
    next other => exact iff_of_false (by simp) (Ne.symm other)

/-- Both graphs have the states for nodes, and the order in which the arrows out of a state are
listed leaves no mark. Between two nodes the window has one edge where the dot graph has some; a
colour of the window stands for a mark of the dot graph. -/
theorem window_shows_digraph (drawable : automaton.Drawable)
    (sizeShort : automaton.size < windowLimit) (startShort : automaton.start < windowLimit) :
    (∀ other, automaton.Reordered other →
      other.digraph = automaton.digraph ∧ other.windowGraph = automaton.windowGraph) ∧
    ∃ graph window, automaton.digraph = .ok graph ∧ automaton.windowGraph = .ok window ∧
      graph.nodes.length = automaton.size ∧ window.nodes.length = automaton.size ∧
      (∀ edge, edge ∈ graph.edges ↔ edge.source < automaton.size ∧
        ∃ arrow ∈ automaton.arrows edge.source,
          edge.target = arrow.target ∧ edge.label = arrow.symbol.display) ∧
      (∀ source target, window.edges.filter (joins source target) =
        merged source target (graph.edges.filter (joins source target))) ∧
      ∀ state < automaton.size, ∃ label marked node, automaton.label? state = some label ∧
        graph.nodes[state]? = some marked ∧ window.nodes[state]? = some node ∧
        node.Shows label marked ∧
        (node.color = some .accept ↔ state ∈ automaton.acceptors) ∧
        (node.color = some .start ↔ state = automaton.start ∧ state ∉ automaton.acceptors) := by
  refine ⟨fun other reordered => ⟨reordered.digraph_eq, reordered.windowGraph_eq⟩, ?_⟩
  rcases exists_labels drawable.labelled with ⟨labels, found, length_eq, label_eq⟩
  refine ⟨_, _, drawable.digraph_eq found, windowGraph_eq drawable found, ?_, ?_,
    fun edge => mem_edges, filter_windowEdges drawable sizeShort, ?_⟩
  · rw [List.length_mapIdx, length_eq]
  · rw [List.length_mapIdx, length_eq]
  · intro state below
    rcases drawable.labelled state below with ⟨label, labelled⟩
    have listed := (label_eq state below).trans labelled
    refine ⟨label, automaton.nodeLabel state label, ⟨label, automaton.nodeColor state⟩, labelled,
      ?_, ?_, shows_nodeLabel startShort state label, color_eq_accept_iff,
      color_eq_start_iff startShort⟩
    · rw [List.getElem?_mapIdx, listed]
      rfl
    · rw [List.getElem?_mapIdx, listed]
      rfl

/-- The start accepts; it has a loop, and three arrows to the other state. -/
theorem window_shows_digraph_loop :
    let arrows : Nat → List Arrow := fun state =>
      if state = 0 then [⟨.char 'b', 1⟩, ⟨.char 'a', 1⟩, ⟨.char 'a', 1⟩, ⟨.epsilon, 0⟩] else []
    let automaton : Automaton := ⟨2, 0, [true, false], arrows, fun state => ["A", "B"][state]?⟩
    let other : Automaton := { automaton with arrows := fun state => (arrows state).reverse }
    automaton.Drawable ∧ automaton.size < windowLimit ∧ automaton.start < windowLimit ∧
      automaton.Reordered other ∧
      other.digraph = .ok ⟨["Accept\nA", "B"],
        [⟨0, 0, "ε"⟩, ⟨0, 1, "a"⟩, ⟨0, 1, "a"⟩, ⟨0, 1, "b"⟩]⟩ ∧
      other.windowGraph = .ok ⟨[⟨"A", some .accept⟩, ⟨"B", none⟩],
        [⟨0, 0, "ε"⟩, ⟨0, 1, "a, a, b"⟩]⟩ := by
  intro arrows automaton other
  have drawable : automaton.Drawable := {
    targets := by decide
    acceptors := by decide
    labelled := fun state below => ⟨_, List.getElem?_eq_getElem below⟩ }
  have reordered : automaton.Reordered other :=
    ⟨rfl, rfl, rfl, rfl, fun state _ => List.reverse_perm (arrows state)⟩
  have shown := (window_shows_digraph drawable (by decide) (by decide)).1 other reordered
  exact ⟨drawable, by decide, by decide, reordered, shown.1.trans (by cbv),
    shown.2.trans (by cbv)⟩

end Automaton
end TracingLexer
