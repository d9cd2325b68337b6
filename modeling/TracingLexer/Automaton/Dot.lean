import TracingLexer.Automaton
import TracingLexer.Text.Layout

namespace TracingLexer

structure Edge where
  source : Nat
  target : Nat
  label : String
  deriving DecidableEq, Repr

structure Digraph where
  nodes : List String
  edges : List Edge
  deriving DecidableEq, Repr

namespace Digraph

/-- One character inside a quoted label; a line break becomes the mark of a left-justified line. -/
def escape (c : Char) : List Char :=
  if c = '"' ∨ c = '\\' then ['\\', c]
  else if c = '\n' then ['\\', 'l']
  else [c]

def quotedLabel (label : String) : String :=
  " [ label = \"" ++ String.ofList (label.toList.flatMap escape) ++ "\" ]"

def nodeLine (index : Nat) (label : String) : String := s!"    {index}" ++ quotedLabel label

def edgeLine (edge : Edge) : String :=
  s!"    {edge.source} -> {edge.target}" ++ quotedLabel edge.label

def dot (graph : Digraph) : String :=
  Text.lines <|
    ["digraph \x7b"] ++ graph.nodes.mapIdx nodeLine ++ graph.edges.map edgeLine ++ ["\x7d"]

end Digraph

namespace Automaton

/-- The label of a node: accepting states are marked as such, and the start state if it does not
accept. -/
def nodeLabel (automaton : Automaton) (state : Nat) (label : String) : String :=
  if automaton.accepting.getD state false then "Accept\n" ++ label
  else if state = automaton.start then "Start\n" ++ label
  else label

def edges (automaton : Automaton) : List Edge :=
  automaton.states.flatMap fun state =>
    (automaton.sortedArrows state).map fun arrow => ⟨state, arrow.target, arrow.symbol.display⟩

def requireStates (automaton : Automaton) (numbers : List Nat) : Except DrawingError Unit :=
  match numbers.find? (automaton.size ≤ ·) with
  | some number => .error (.noState number)
  | none => .ok ()

/-- The graph of an automaton, all of whose targets and acceptors have to be states. A start that
is no state is not shown. -/
def digraph (automaton : Automaton) : Except DrawingError Digraph := do
  let labels ← automaton.labels
  automaton.requireStates (automaton.edges.map Edge.target)
  automaton.requireStates automaton.acceptors
  return ⟨labels.mapIdx automaton.nodeLabel, automaton.edges⟩

end Automaton
end TracingLexer
