import Mathlib.Data.List.Basic
import TracingLexer.Automaton.Dot
import TracingLexer.Proofs.Decoding
import TracingLexer.Proofs.Text.Lines

namespace TracingLexer.Digraph

theorem escape_append_inj {c d : Char} {rest otherRest : List Char}
    (same : escape c ++ rest = escape d ++ otherRest) : c = d ∧ rest = otherRest := by
  unfold escape at same
  split at same <;> split at same <;> grind

theorem escape_ne_nil (c : Char) : escape c ≠ [] := by
  unfold escape
  split
  · exact List.cons_ne_nil _ _
  · split <;> exact List.cons_ne_nil _ _

theorem newline_notMem_escape (c : Char) : '\n' ∉ escape c := by
  unfold escape
  grind

theorem escaped_inj {label other : List Char}
    (same : label.flatMap escape = other.flatMap escape) : label = other := by
  induction label generalizing other with
  | nil =>
      cases other with
      | nil => rfl
      | cons d other =>
          rw [List.flatMap_cons] at same
          exact absurd same.symm (List.append_ne_nil_of_left_ne_nil (escape_ne_nil d) _)
  | cons c label ih =>
      cases other with
      | nil =>
          rw [List.flatMap_cons] at same
          exact absurd same (List.append_ne_nil_of_left_ne_nil (escape_ne_nil c) _)
      | cons d other =>
          rw [List.flatMap_cons, List.flatMap_cons] at same
          rcases escape_append_inj same with ⟨rfl, later⟩
          rw [ih later]

theorem toList_quotedLabel (label : String) :
    (quotedLabel label).toList =
      " [ label = \"".toList ++ (label.toList.flatMap escape ++ "\" ]".toList) := by
  simp [quotedLabel]

theorem quotedLabel_injective : Function.Injective quotedLabel := by
  intro label other same
  have texts := congrArg String.toList same
  rw [toList_quotedLabel, toList_quotedLabel] at texts
  exact String.toList_inj.mp
    (escaped_inj (List.append_cancel_right (List.append_cancel_left texts)))

theorem newline_notMem_quotedLabel (label : String) : '\n' ∉ (quotedLabel label).toList := by
  have escaped : '\n' ∉ label.toList.flatMap escape := by
    rw [List.mem_flatMap]
    rintro ⟨c, _, member⟩
    exact newline_notMem_escape c member
  rw [toList_quotedLabel, List.mem_append, List.mem_append]
  simp [escaped]

inductive Item where
  | node (index : Nat) (label : String)
  | link (edge : Edge)

namespace Item

def line : Item → String
  | node index label => nodeLine index label
  | link edge => edgeLine edge

def number : Item → Nat
  | node index _ => index
  | link edge => edge.source

def behind : Item → List Char
  | node _ label => (quotedLabel label).toList
  | link edge =>
      " -> ".toList ++ ((Nat.repr edge.target).toList ++ (quotedLabel edge.label).toList)

theorem toList_line (item : Item) :
    item.line.toList = "    ".toList ++ ((Nat.repr item.number).toList ++ item.behind) := by
  cases item <;> simp [line, nodeLine, edgeLine, number, behind, toString]

theorem ends_quotedLabel (label : String) :
    Text.Ends Char.isDigit (quotedLabel label).toList := by
  rw [toList_quotedLabel]
  exact Text.ends_cons.mpr (by decide)

theorem ends_behind (item : Item) : Text.Ends Char.isDigit item.behind := by
  cases item with
  | node index label => exact ends_quotedLabel label
  | link edge => exact Text.ends_cons.mpr (by decide)

theorem behind_node_ne_link (label : String) (rest : List Char) :
    (quotedLabel label).toList ≠ " -> ".toList ++ rest := by
  rw [toList_quotedLabel]
  intro same
  have marks := congrArg (·[1]?) same
  simp at marks

theorem line_injective : Function.Injective line := by
  intro item other same
  have texts := congrArg String.toList same
  rw [toList_line, toList_line] at texts
  rcases Json.decodes_repr _ _ _ _ (ends_behind item) (ends_behind other)
    (List.append_cancel_left texts) with ⟨number_eq, behind_eq⟩
  cases item with
  | node index label =>
      cases other with
      | node otherIndex otherLabel =>
          have label_eq := quotedLabel_injective (String.toList_inj.mp behind_eq)
          rw [label_eq, show index = otherIndex from number_eq]
      | link edge => exact absurd behind_eq (behind_node_ne_link label _)
  | link edge =>
      cases other with
      | node index label => exact absurd behind_eq.symm (behind_node_ne_link label _)
      | link otherEdge =>
          rcases Json.decodes_repr _ _ _ _ (ends_quotedLabel edge.label)
            (ends_quotedLabel otherEdge.label) (List.append_cancel_left behind_eq) with
            ⟨target_eq, label_eq⟩
          have labels := quotedLabel_injective (String.toList_inj.mp label_eq)
          cases edge
          cases otherEdge
          simp_all [number]

theorem newline_notMem_line (item : Item) : '\n' ∉ item.line.toList := by
  have digits (value : Nat) : '\n' ∉ Nat.toDigits 10 value := by
    intro member
    exact absurd (Nat.isDigit_of_mem_toDigits (by decide) (by decide) member) (by decide)
  rw [toList_line, List.mem_append, List.mem_append]
  cases item with
  | node index label => simp [digits, behind, newline_notMem_quotedLabel]
  | link edge => simp [digits, behind, newline_notMem_quotedLabel]

end Item

def items (graph : Digraph) : List Item :=
  graph.nodes.mapIdx Item.node ++ graph.edges.map Item.link

theorem dot_eq (graph : Digraph) :
    graph.dot = Text.lines (["digraph \x7b"] ++ graph.items.map Item.line ++ ["\x7d"]) := by
  simp only [dot, items, List.map_append, List.mapIdx_eq_zipIdx_map, List.map_map,
    List.append_assoc]
  rfl

theorem newline_notMem_lines (graph : Digraph) :
    ∀ line ∈ ["digraph \x7b"] ++ graph.items.map Item.line ++ ["\x7d"], '\n' ∉ line.toList := by
  intro line member
  simp only [List.mem_append, List.mem_singleton, List.mem_map] at member
  rcases member with (rfl | ⟨item, _, rfl⟩) | rfl
  · decide
  · exact item.newline_notMem_line
  · decide

theorem items_injective : Function.Injective items := by
  intro graph other same
  have nodes (graph : Digraph) : graph.items.filterMap (fun
      | .node _ label => some label
      | .link _ => none) = graph.nodes := by
    simp [items, List.mapIdx_eq_zipIdx_map]
  have edges (graph : Digraph) : graph.items.filterMap (fun
      | .node _ _ => none
      | .link edge => some edge) = graph.edges := by
    simp [items, List.mapIdx_eq_zipIdx_map]
  have nodes_eq : graph.nodes = other.nodes := by rw [← nodes graph, same, nodes other]
  have edges_eq : graph.edges = other.edges := by rw [← edges graph, same, edges other]
  cases graph
  cases other
  rw [mk.injEq]
  exact ⟨nodes_eq, edges_eq⟩

theorem dot_injective : Function.Injective dot := by
  intro graph other same
  rw [dot_eq, dot_eq] at same
  have lines_eq := Text.lines_inj graph.newline_notMem_lines other.newline_notMem_lines same
  have items_eq := List.append_cancel_left (List.append_cancel_right lines_eq)
  exact items_injective (List.map_injective_iff.mpr Item.line_injective items_eq)

end TracingLexer.Digraph
