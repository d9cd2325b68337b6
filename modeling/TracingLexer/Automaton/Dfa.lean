import TracingLexer.Automaton.Search
import TracingLexer.Automaton
import TracingLexer.State

/-!
The deterministic automaton of a trace. Walking along the trace, each state entered by a character
gets a block of its own, and a state entered by epsilon joins the block the walk is in.
-/

namespace TracingLexer

structure Block where
  ids : List Nat
  accepting : Bool
  arrows : ArrowSet
  deriving DecidableEq

/-- The first block is the start; it stands for what is there before anything is read. -/
structure Dfa where
  blocks : List Block
  deriving DecidableEq

namespace Dfa

def insertId (id : Nat) : List Nat → List Nat
  | [] => [id]
  | first :: rest =>
      if id < first then id :: first :: rest
      else if id = first then first :: rest
      else first :: insertId id rest

structure Walk where
  blocks : List Block
  /-- The ids that own a block, in the order of their blocks; the start is owned by none. -/
  owners : List Nat
  current : Nat
  deriving DecidableEq

namespace Walk

def start : Walk := ⟨[⟨[], false, ∅⟩], [], 0⟩

def blockOf (walk : Walk) (id : Nat) : Nat × Walk :=
  match walk.owners.idxOf? id with
  | some index => (index + 1, walk)
  | none =>
      (walk.owners.length + 1,
        { walk with
          blocks := walk.blocks ++ [⟨[id], false, ∅⟩]
          owners := walk.owners ++ [id] })

def update (walk : Walk) (change : Block → Block) : Walk :=
  { walk with blocks := walk.blocks.modify walk.current change }

def join (walk : Walk) (id : Nat) : Walk :=
  walk.update fun block => { block with ids := insertId id block.ids }

/-- Goes along a character to the block that the id owns. A later arrow of the same character
replaces the earlier one. -/
def follow (walk : Walk) (symbol : Symbol) (id : Nat) : Walk :=
  let (target, grown) := walk.blockOf id
  let linked := grown.update fun block =>
    { block with arrows := block.arrows.redirect ⟨symbol, target⟩ }
  { linked with current := target }

def accept (walk : Walk) : Walk := walk.update fun block => { block with accepting := true }

def step (walk : Walk) (state : State) : Walk :=
  let moved := match state.symbol with
    | .epsilon => walk.join state.id
    | symbol => walk.follow symbol state.id
  if state.accepting then moved.accept else moved

end Walk

def ofTrace (trace : List State) : Dfa := ⟨(trace.foldl Walk.step Walk.start).blocks⟩

def arrowsOf (dfa : Dfa) (index : Nat) : List Arrow :=
  (dfa.blocks[index]?.map (·.arrows.toList)).getD []

def isAccepting (dfa : Dfa) (index : Nat) : Bool :=
  (dfa.blocks[index]?.map (·.accepting)).getD false

def label (index : Nat) : String := s!"D{index}"

def reachable (dfa : Dfa) : List Nat :=
  Search.breadthFirst dfa.blocks.length 0 fun index => (dfa.arrowsOf index).map Arrow.target

def automaton (dfa : Dfa) : Automaton where
  size := dfa.blocks.length
  start := 0
  accepting := dfa.blocks.map Block.accepting
  arrows := dfa.arrowsOf
  label? index := some (label index)

end Dfa
end TracingLexer
