import TracingLexer.Automaton.Listing

/-!
The automata of a trace in tables. The states are numbers, each part of what is known about them has
a table of its own, and a number past the end of a table stops the work.
-/

namespace TracingLexer

structure OutOfRange where
  number : Nat
  size : Nat
  deriving DecidableEq, Repr

namespace Table

variable {Entry : Type}

def read (table : List Entry) (number : Nat) : Except OutOfRange Entry :=
  match table[number]? with
  | some entry => .ok entry
  | none => .error ⟨number, table.length⟩

def change (table : List Entry) (number : Nat) (update : Entry → Entry) :
    Except OutOfRange (List Entry) :=
  if number < table.length then .ok (table.modify number update)
  else .error ⟨number, table.length⟩

end Table

structure NfaTables where
  ids : List Nat
  symbols : List Symbol
  arrows : List ArrowSet
  accepting : List Bool
  deriving DecidableEq

namespace NfaTables

/-- The places of a trace under the ids of their states. A later place takes the id over from an
earlier one. -/
def placesById (trace : List State) : List (Nat × Nat) :=
  trace.zipIdx.foldl
    (fun places (state, place) => (state.id, place) :: places.filter (·.1 ≠ state.id)) []

def lead? (places : List (Nat × Nat)) (arrow : Arrow) : Option Arrow :=
  (places.lookup arrow.target).map fun place => ⟨arrow.symbol, place⟩

def addArrows (rows : List ArrowSet) (place : Nat) (arrows : List Arrow) :
    Except OutOfRange (List ArrowSet) :=
  arrows.foldlM (fun rows arrow => Table.change rows place (·.insert arrow)) rows

def enter (states : List State) (places : List (Nat × Nat)) :
    List ArrowSet × List Bool → State × Nat → Except OutOfRange (List ArrowSet × List Bool)
  | (rows, accepting), (state, place) => do
      let recorded ← addArrows rows place (state.arrows.toList.filterMap (lead? places))
      let path := states[place + 1]?.toList.map fun next => ⟨next.symbol, place + 1⟩
      let linked ← addArrows recorded place path
      return (linked, ← Table.change accepting place fun _ => state.accepting)

def ofTrace (trace : List State) : Except OutOfRange NfaTables := do
  let blank := (List.replicate trace.length ∅, List.replicate trace.length false)
  let (arrows, accepting) ← trace.zipIdx.foldlM (enter trace (placesById trace)) blank
  return ⟨trace.map State.id, trace.map State.symbol, arrows, accepting⟩

def row (tables : NfaTables) (state : Nat) : Except OutOfRange (List Arrow × String) := do
  let arrows ← Table.read tables.arrows state
  return (arrows.toList, s!"q{← Table.read tables.ids state}")

def lines (tables : NfaTables) (state : Nat) : Except OutOfRange (List String) := do
  let symbol ← Table.read tables.symbols state
  let accepting ← Table.read tables.accepting state
  let id ← Table.read tables.ids state
  let arrows ← Table.read tables.arrows state
  let leaving ← arrows.toList.mapM fun arrow => do
    return Listing.arrowLine arrow.symbol s!"q{← Table.read tables.ids arrow.target}"
  return (s!"q{id} [" ++ Listing.enteredBy symbol ++ "]" ++ Listing.finalMark accepting) ::
    leaving

end NfaTables

structure DfaTables where
  ids : List (List Nat)
  arrows : List ArrowSet
  accepting : List Bool
  deriving DecidableEq

namespace DfaTables

def add (tables : DfaTables) (ids : List Nat) : DfaTables :=
  ⟨tables.ids ++ [ids], tables.arrows ++ [∅], tables.accepting ++ [false]⟩

structure Draft where
  tables : DfaTables
  numbers : List (List Nat × Nat)
  current : Nat
  deriving DecidableEq

namespace Draft

def start : Draft := ⟨add ⟨[], [], []⟩ [], [([], 0)], 0⟩

def stateOf (draft : Draft) (ids : List Nat) : Nat × Draft :=
  match draft.numbers.lookup ids with
  | some number => (number, draft)
  | none =>
      let number := draft.tables.ids.length
      (number,
        { draft with
          tables := draft.tables.add ids
          numbers := draft.numbers ++ [(ids, number)] })

def join (draft : Draft) (id : Nat) : Except OutOfRange Draft := do
  let ids ← Table.change draft.tables.ids draft.current (Dfa.insertId id)
  return { draft with tables := { draft.tables with ids } }

def follow (draft : Draft) (symbol : Symbol) (id : Nat) : Except OutOfRange Draft := do
  let (number, grown) := draft.stateOf [id]
  let arrows ← Table.change grown.tables.arrows grown.current (·.redirect ⟨symbol, number⟩)
  return { grown with tables := { grown.tables with arrows }, current := number }

def accept (draft : Draft) : Except OutOfRange Draft := do
  let accepting ← Table.change draft.tables.accepting draft.current fun _ => true
  return { draft with tables := { draft.tables with accepting } }

def step (draft : Draft) (state : State) : Except OutOfRange Draft := do
  let moved ← match state.symbol with
    | .epsilon => draft.join state.id
    | symbol => draft.follow symbol state.id
  if state.accepting then moved.accept else return moved

end Draft

def ofTrace (trace : List State) : Except OutOfRange DfaTables := do
  return (← trace.foldlM Draft.step Draft.start).tables

theorem count_false_set_lt {visited : List Bool} {state : Nat}
    (unvisited : visited[state]? = some false) :
    (visited.set state true).count false < visited.count false := by
  obtain ⟨inside, here⟩ := List.getElem?_eq_some_iff.mp unvisited
  have present : 0 < visited.count false := List.count_pos_iff.mpr (here ▸ List.getElem_mem inside)
  rw [List.count_set inside, here, if_pos (beq_self_eq_true false), if_neg (by decide)]
  omega

def unvisited (visited : List Bool) : List Nat → Except OutOfRange (List Nat)
  | [] => .ok []
  | state :: states => do
      let known ← Table.read visited state
      let others ← unvisited visited states
      return if known then others else state :: others

def visit (rows : List ArrowSet) (visited : List Bool) :
    List Nat → Except OutOfRange (List Nat)
  | [] => .ok []
  | state :: queue =>
      match _entry : visited[state]? with
      | none => .error ⟨state, visited.length⟩
      | some true => visit rows visited queue
      | some false => do
          let marked := visited.set state true
          let arrows ← Table.read rows state
          let behind ← unvisited marked (arrows.toList.map Arrow.target)
          return state :: (← visit rows marked (queue ++ behind))
termination_by queue => (visited.count false, queue.length)
decreasing_by
  · exact Prod.Lex.right _ (Nat.lt_succ_self _)
  · exact Prod.Lex.left _ _ (count_false_set_lt _entry)

def reachable (tables : DfaTables) : Except OutOfRange (List Nat) :=
  if tables.ids.isEmpty then .ok []
  else visit tables.arrows (List.replicate tables.ids.length false) [0]

def row (tables : DfaTables) (state : Nat) : Except OutOfRange (List Arrow × String) := do
  let arrows ← Table.read tables.arrows state
  return (arrows.toList, Dfa.label state)

/-- A state without a mark of its own does not accept. -/
def lines (tables : DfaTables) (state : Nat) : Except OutOfRange (List String) := do
  let accepting := tables.accepting.getD state false
  let arrows ← Table.read tables.arrows state
  return (Dfa.label state ++ Listing.finalMark accepting) :: arrows.toList.map fun arrow =>
    Listing.arrowLine arrow.symbol (Dfa.label arrow.target)

end DfaTables

namespace Token

def tabulate (token : Token) : Except OutOfRange String :=
  if token.trace.isEmpty then .ok ""
  else do
    let nfa ← NfaTables.ofTrace token.trace
    let positions ← (List.range nfa.ids.length).mapM nfa.lines
    let dfa ← DfaTables.ofTrace token.trace
    let blocks ← (← dfa.reachable).mapM dfa.lines
    return Text.lines <|
      ["", "=== Token: " ++ token.literal ++ " (" ++ token.kind.name ++ ") ===", ""] ++
        (["NFA States and Transitions:", Listing.rule] ++ positions.flatten) ++ [""] ++
        (["DFA States and Transitions:", Listing.rule] ++ blocks.flatten)

end Token
end TracingLexer
