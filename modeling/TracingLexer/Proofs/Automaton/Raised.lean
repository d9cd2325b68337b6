import Mathlib.Data.List.Basic
import Mathlib.Tactic.SplitIfs
import TracingLexer.Automaton.Dfa
import TracingLexer.Automaton.Nfa
import TracingLexer.Proofs.Scanner.Renumber

namespace TracingLexer

def Position.raise (count : Nat) (position : Position) : Position :=
  { position with id := position.id + count }

def Nfa.raise (count : Nat) (nfa : Nfa) : Nfa := ⟨nfa.positions.map (Position.raise count)⟩

def Block.raise (count : Nat) (block : Block) : Block :=
  { block with ids := block.ids.map (· + count) }

def Dfa.raise (count : Nat) (dfa : Dfa) : Dfa := ⟨dfa.blocks.map (Block.raise count)⟩

namespace Nfa

theorem lastWithId?_map_raise (count id : Nat) (trace : List State) :
    lastWithId? (id + count) (trace.map (State.raise count)) = lastWithId? id trace := by
  induction trace with
  | nil => rfl
  | cons state rest ih =>
      simp only [List.map_cons, lastWithId?, ih, State.raise, Nat.add_right_cancel_iff]

theorem recordedArrows_map_raise (count : Nat) (trace : List State) (state : State) :
    recordedArrows (trace.map (State.raise count)) (state.raise count) =
      recordedArrows trace state := by
  have recorded : (state.raise count).arrows.toList =
      state.arrows.toList.map (Arrow.raise count) := rfl
  simp only [recordedArrows, recorded, List.filterMap_map, Function.comp_def, Arrow.raise,
    lastWithId?_map_raise]

theorem positionsFrom_map_raise (count : Nat) (trace rest : List State) (index : Nat) :
    positionsFrom (trace.map (State.raise count)) index (rest.map (State.raise count)) =
      (positionsFrom trace index rest).map (Position.raise count) := by
  induction rest generalizing index with
  | nil => rfl
  | cons state rest ih =>
      have path : (rest.map (State.raise count)).head?.toList.map
            (fun next => (⟨next.symbol, index + 1⟩ : Arrow)) =
          rest.head?.toList.map fun next => ⟨next.symbol, index + 1⟩ := by
        cases rest <;> rfl
      rw [List.map_cons, positionsFrom, positionsFrom, ih, recordedArrows_map_raise, List.map_cons]
      simp only [path]
      rfl

theorem ofTrace_map_raise (count : Nat) (trace : List State) :
    ofTrace (trace.map (State.raise count)) = (ofTrace trace).raise count :=
  congrArg Nfa.mk (positionsFrom_map_raise count trace trace 0)

end Nfa

namespace Dfa

theorem insertId_map_add (count id : Nat) (ids : List Nat) :
    insertId (id + count) (ids.map (· + count)) = (insertId id ids).map (· + count) := by
  induction ids with
  | nil => rfl
  | cons first rest ih =>
      simp only [List.map_cons, insertId, ih, Nat.add_lt_add_iff_right, Nat.add_right_cancel_iff]
      split_ifs <;> rfl

namespace Walk

def raise (count : Nat) (walk : Walk) : Walk :=
  ⟨walk.blocks.map (Block.raise count), walk.owners.map (· + count), walk.current⟩

theorem raise_start (count : Nat) : start.raise count = start := rfl

theorem raise_update {count : Nat} {change raised : Block → Block}
    (commutes : ∀ block, (change block).raise count = raised (block.raise count)) (walk : Walk) :
    (walk.update change).raise count = (walk.raise count).update raised := by
  have blocks_eq : (walk.blocks.modify walk.current change).map (Block.raise count) =
      (walk.blocks.map (Block.raise count)).modify walk.current raised := by
    apply List.ext_getElem?
    intro index
    rw [List.getElem?_map, List.getElem?_modify, List.getElem?_modify, List.getElem?_map]
    cases walk.blocks[index]? with
    | none => rfl
    | some block =>
        simp only [Option.map_eq_map, Option.map_some]
        split_ifs
        · rw [commutes]
        · rfl
  simp only [raise, update, blocks_eq]

theorem idxOf?_map_add (count id : Nat) (owners : List Nat) :
    (owners.map (· + count)).idxOf? (id + count) = owners.idxOf? id := by
  have same : ((· == id + count) ∘ (· + count)) = (· == id) := by
    funext owner
    rw [Function.comp_apply, Bool.eq_iff_iff, beq_iff_eq, beq_iff_eq, Nat.add_right_cancel_iff]
  rw [List.idxOf?, List.findIdx?_map, same]
  rfl

theorem blockOf_raise (count : Nat) (walk : Walk) (id : Nat) :
    (walk.raise count).blockOf (id + count) =
      ((walk.blockOf id).1, (walk.blockOf id).2.raise count) := by
  have owned : (walk.raise count).owners.idxOf? (id + count) = walk.owners.idxOf? id :=
    idxOf?_map_add count id walk.owners
  simp only [blockOf, owned]
  cases walk.owners.idxOf? id with
  | some index => rfl
  | none => simp [raise, Block.raise]

theorem join_raise (count : Nat) (walk : Walk) (id : Nat) :
    (walk.raise count).join (id + count) = (walk.join id).raise count := by
  symm
  apply raise_update
  intro block
  simp only [Block.raise, insertId_map_add]

theorem follow_raise (count : Nat) (walk : Walk) (symbol : Symbol) (id : Nat) :
    (walk.raise count).follow symbol (id + count) = (walk.follow symbol id).raise count := by
  have linked := @raise_update count
    (fun block => { block with arrows := block.arrows.redirect ⟨symbol, (walk.blockOf id).1⟩ })
    (fun block => { block with arrows := block.arrows.redirect ⟨symbol, (walk.blockOf id).1⟩ })
    (fun _ => rfl) (walk.blockOf id).2
  simp only [follow, blockOf_raise, ← linked]
  rfl

theorem accept_raise (count : Nat) (walk : Walk) :
    (walk.raise count).accept = walk.accept.raise count :=
  (@raise_update count (fun block => { block with accepting := true })
    (fun block => { block with accepting := true }) (fun _ => rfl) walk).symm

theorem step_raise (count : Nat) (walk : Walk) (state : State) :
    (walk.raise count).step (state.raise count) = (walk.step state).raise count := by
  simp only [step, State.raise]
  cases state.symbol with
  | epsilon =>
      simp only [join_raise, accept_raise]
      split_ifs <;> rfl
  | char c =>
      simp only [follow_raise, accept_raise]
      split_ifs <;> rfl

end Walk

theorem ofTrace_map_raise (count : Nat) (trace : List State) :
    ofTrace (trace.map (State.raise count)) = (ofTrace trace).raise count := by
  have walked : ∀ walk : Walk, (trace.map (State.raise count)).foldl Walk.step (walk.raise count) =
      (trace.foldl Walk.step walk).raise count := by
    induction trace with
    | nil => exact fun _ => rfl
    | cons state rest ih =>
        intro walk
        rw [List.map_cons, List.foldl_cons, Walk.step_raise, ih, List.foldl_cons]
  rw [ofTrace, ← Walk.raise_start count, walked]
  rfl

end Dfa
end TracingLexer
