import TracingLexer.Automaton
import TracingLexer.State

namespace TracingLexer

structure Position where
  id : Nat
  symbol : Symbol
  accepting : Bool
  arrows : ArrowSet
  deriving DecidableEq

structure Nfa where
  positions : List Position
  deriving DecidableEq

namespace Nfa

def lastWithId? (id : Nat) : List State → Option Nat
  | [] => none
  | state :: rest =>
      match lastWithId? id rest with
      | some index => some (index + 1)
      | none => if state.id = id then some 0 else none

/-- The arrows recorded on a state, led to positions; those to states outside of the trace are
dropped. -/
def recordedArrows (trace : List State) (state : State) : List Arrow :=
  state.arrows.toList.filterMap fun arrow =>
    (lastWithId? arrow.target trace).map fun index => ⟨arrow.symbol, index⟩

def positionsFrom (trace : List State) (index : Nat) : List State → List Position
  | [] => []
  | state :: rest =>
      let path := rest.head?.toList.map fun next => ⟨next.symbol, index + 1⟩
      { id := state.id, symbol := state.symbol, accepting := state.accepting
        arrows := (ArrowSet.empty.insertAll (recordedArrows trace state)).insertAll path }
      :: positionsFrom trace (index + 1) rest

def ofTrace (trace : List State) : Nfa := ⟨positionsFrom trace 0 trace⟩

def automaton (nfa : Nfa) : Automaton where
  size := nfa.positions.length
  start := 0
  accepting := nfa.positions.map Position.accepting
  arrows index := (nfa.positions[index]?.map (·.arrows.toList)).getD []
  label? index := nfa.positions[index]?.map fun position => s!"q{position.id}"

end Nfa
end TracingLexer
