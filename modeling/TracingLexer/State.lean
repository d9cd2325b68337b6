import TracingLexer.Arrow

namespace TracingLexer

structure State where
  id : Nat
  accepting : Bool
  symbol : Symbol
  arrows : ArrowSet := ∅
  deriving DecidableEq, Inhabited

namespace State

def addArrow (state : State) (arrow : Arrow) : State :=
  { state with arrows := state.arrows.insert arrow }

def chain (first : Nat) : List Symbol → List State
  | [] => []
  | symbol :: symbols =>
      { id := first, accepting := symbols.isEmpty, symbol } :: chain (first + 1) symbols

/-- The chain in which each state also records the arrow to its successor. -/
def linkAll : List State → List State
  | state :: next :: rest => state.addArrow ⟨next.symbol, next.id⟩ :: linkAll (next :: rest)
  | short => short

@[simp] theorem length_chain (first : Nat) (symbols : List Symbol) :
    (chain first symbols).length = symbols.length := by
  induction symbols generalizing first with
  | nil => rfl
  | cons symbol symbols ih => simp [chain, ih]

@[simp] theorem map_symbol_chain (first : Nat) (symbols : List Symbol) :
    (chain first symbols).map State.symbol = symbols := by
  induction symbols generalizing first with
  | nil => rfl
  | cons symbol symbols ih => simp [chain, ih]

@[simp] theorem map_id_chain (first : Nat) (symbols : List Symbol) :
    (chain first symbols).map State.id = List.range' first symbols.length := by
  induction symbols generalizing first with
  | nil => rfl
  | cons symbol symbols ih => simp [chain, ih, List.range'_succ]

end State
end TracingLexer
