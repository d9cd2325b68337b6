import TracingLexer.Arrow

/-!
Finite automata as plain data, for drawing. Nothing here is promised to fit: a start state, an
accepting state or a target need not be a state, and a state need not have a label.
-/

namespace TracingLexer

structure Automaton where
  /-- The states are the numbers below the size. -/
  size : Nat
  start : Nat
  /-- Whether each number, from zero on, is an accepting state; the list may be longer or shorter
  than the size. -/
  accepting : List Bool
  /-- The arrows out of a state, in any order and perhaps repeated. -/
  arrows : Nat → List Arrow
  label? : Nat → Option String

namespace Automaton

def sortedArrows (automaton : Automaton) (state : Nat) : List Arrow :=
  Arrow.sort (automaton.arrows state)

def acceptors (automaton : Automaton) : List Nat :=
  automaton.accepting.zipIdx.filterMap fun (marked, state) => if marked then some state else none

def states (automaton : Automaton) : List Nat := List.range automaton.size

end Automaton

inductive DrawingError where
  | unlabelled (state : Nat)
  | noState (number : Nat)
  deriving DecidableEq, Repr

namespace Automaton

def label (automaton : Automaton) (state : Nat) : Except DrawingError String :=
  match automaton.label? state with
  | some label => .ok label
  | none => .error (.unlabelled state)

def labels (automaton : Automaton) : Except DrawingError (List String) :=
  automaton.states.mapM automaton.label

end Automaton
end TracingLexer
