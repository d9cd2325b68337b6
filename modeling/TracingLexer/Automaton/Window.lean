import TracingLexer.Automaton.Dot

namespace TracingLexer

structure Color where
  red : Nat
  green : Nat
  blue : Nat
  deriving DecidableEq, Repr

namespace Color

def start : Color := ⟨20, 67, 130⟩
def accept : Color := ⟨20, 130, 90⟩

end Color

structure WindowNode where
  label : String
  color : Option Color
  deriving DecidableEq, Repr

structure WindowGraph where
  nodes : List WindowNode
  edges : List Edge
  deriving DecidableEq, Repr

namespace Automaton

/-- The window numbers its nodes by words of 32 bits. -/
def windowIndex (number : Nat) : Nat := number % 4294967296

/-- The colour of a node; accepting wins over starting. -/
def nodeColor (automaton : Automaton) (state : Nat) : Option Color :=
  if automaton.accepting.getD state false then some .accept
  else if windowIndex automaton.start = state then some .start
  else none

def windowEdges (automaton : Automaton) (state : Nat) : List Edge :=
  let arrows := (automaton.sortedArrows state).map fun arrow =>
    { arrow with target := windowIndex arrow.target }
  (arrows.map Arrow.target).eraseDups.map fun target =>
    let symbols := (arrows.filter (·.target = target)).map (·.symbol.display)
    ⟨state, target, ", ".intercalate symbols⟩

/-- The window graph of an automaton, all of whose targets have to be states. A start or an
acceptor that is no state is not shown. -/
def windowGraph (automaton : Automaton) : Except DrawingError WindowGraph := do
  let edges := automaton.states.flatMap automaton.windowEdges
  automaton.requireStates (edges.map Edge.target)
  let labels ← automaton.labels
  return ⟨labels.mapIdx fun state label => ⟨label, automaton.nodeColor state⟩, edges⟩

end Automaton
end TracingLexer
