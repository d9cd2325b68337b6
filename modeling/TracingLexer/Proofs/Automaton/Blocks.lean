import Mathlib.Data.List.Basic
import TracingLexer.Automaton.Dfa

namespace TracingLexer.Dfa

/-- The blocks from the one the walk is in, where each state entered by a character is new. -/
def blocksFrom (opened : Block) (index : Nat) : List State → List Block
  | [] => [opened]
  | state :: rest =>
      match state.symbol with
      | .epsilon =>
          blocksFrom
            { opened with
              ids := insertId state.id opened.ids, accepting := opened.accepting || state.accepting }
            index rest
      | .char c =>
          { opened with arrows := opened.arrows.redirect ⟨.char c, index + 1⟩ } ::
            blocksFrom ⟨[state.id], state.accepting, ∅⟩ (index + 1) rest

namespace Walk

structure EndsIn (walk : Walk) (done : List Block) (opened : Block) : Prop where
  blocks : walk.blocks = done ++ [opened]
  owners : walk.owners.length = done.length
  current : walk.current = done.length

variable {walk : Walk} {done : List Block} {opened : Block}

theorem endsIn_start : start.EndsIn [] ⟨[], false, ∅⟩ := ⟨rfl, rfl, rfl⟩

theorem blocks_update (endsIn : walk.EndsIn done opened) (change : Block → Block) :
    (walk.update change).blocks = done ++ [change opened] := by
  rw [update, endsIn.blocks, endsIn.current]
  simp [List.modify_eq_take_drop]

theorem EndsIn.update (endsIn : walk.EndsIn done opened) (change : Block → Block) :
    (walk.update change).EndsIn done (change opened) :=
  ⟨blocks_update endsIn change, endsIn.owners, endsIn.current⟩

theorem follow_of_fresh (endsIn : walk.EndsIn done opened) {id : Nat} (fresh : id ∉ walk.owners)
    (symbol : Symbol) :
    (walk.follow symbol id).EndsIn
        (done ++ [{ opened with arrows := opened.arrows.redirect ⟨symbol, done.length + 1⟩ }])
        ⟨[id], false, ∅⟩ ∧
      (walk.follow symbol id).owners = walk.owners ++ [id] := by
  have unowned : walk.owners.idxOf? id = none := List.idxOf?_eq_none_iff.mpr fresh
  refine ⟨⟨?_, ?_, ?_⟩, ?_⟩
  · simp [follow, blockOf, unowned, update, endsIn.blocks, endsIn.current, endsIn.owners,
      List.modify_eq_take_drop]
  · simp [follow, blockOf, unowned, update, endsIn.owners]
  · simp [follow, blockOf, unowned, endsIn.owners]
  · simp [follow, blockOf, unowned, update]

theorem step_of_epsilon (endsIn : walk.EndsIn done opened) {state : State}
    (silent : state.symbol = .epsilon) :
    (walk.step state).EndsIn done
        { opened with
          ids := insertId state.id opened.ids, accepting := opened.accepting || state.accepting } ∧
      (walk.step state).owners = walk.owners := by
  have joined := endsIn.update fun block => { block with ids := insertId state.id block.ids }
  cases accepts : state.accepting with
  | false =>
      rw [step, silent, accepts, Bool.or_false]
      exact ⟨joined, rfl⟩
  | true =>
      rw [step, silent, accepts, Bool.or_true]
      exact ⟨joined.update fun block => { block with accepting := true }, rfl⟩

theorem step_of_char (endsIn : walk.EndsIn done opened) {state : State} {c : Char}
    (reads : state.symbol = .char c) (fresh : state.id ∉ walk.owners) :
    (walk.step state).EndsIn
        (done ++ [{ opened with arrows := opened.arrows.redirect ⟨.char c, done.length + 1⟩ }])
        ⟨[state.id], state.accepting, ∅⟩ ∧
      (walk.step state).owners = walk.owners ++ [state.id] := by
  rcases follow_of_fresh endsIn fresh (.char c) with ⟨moved, owners_eq⟩
  cases accepts : state.accepting with
  | false =>
      rw [step, reads, accepts]
      exact ⟨moved, owners_eq⟩
  | true =>
      rw [step, reads, accepts]
      exact ⟨moved.update fun block => { block with accepting := true }, owners_eq⟩

theorem blocks_foldl_step {trace : List State} (endsIn : walk.EndsIn done opened)
    (fresh : ∀ state ∈ trace, state.id ∉ walk.owners) (distinct : (trace.map State.id).Nodup) :
    (trace.foldl step walk).blocks = done ++ blocksFrom opened done.length trace := by
  -- The owners are the ids the walk has entered; each is new, so the last block stays the open one.
  induction trace generalizing walk done opened with
  | nil => exact endsIn.blocks
  | cons state rest ih =>
      rw [List.forall_mem_cons] at fresh
      rw [List.map_cons, List.nodup_cons] at distinct
      cases entered : state.symbol with
      | epsilon =>
          rcases step_of_epsilon endsIn entered with ⟨stepped, owners_eq⟩
          rw [List.foldl_cons, blocksFrom, entered]
          exact ih stepped (owners_eq ▸ fresh.2) distinct.2
      | char c =>
          rcases step_of_char endsIn entered fresh.1 with ⟨stepped, owners_eq⟩
          have stillFresh : ∀ later ∈ rest, later.id ∉ (walk.step state).owners := by
            intro later member
            rw [owners_eq, List.mem_append, List.mem_singleton, not_or]
            exact ⟨fresh.2 later member,
              fun same => distinct.1 (same ▸ List.mem_map_of_mem member)⟩
          have blocks_eq := ih stepped stillFresh distinct.2
          rw [List.length_append, List.length_singleton] at blocks_eq
          rw [List.foldl_cons, blocks_eq, blocksFrom, entered, List.append_assoc]
          rfl

end Walk

theorem blocks_ofTrace {trace : List State} (distinct : (trace.map State.id).Nodup) :
    (ofTrace trace).blocks = blocksFrom ⟨[], false, ∅⟩ 0 trace :=
  Walk.blocks_foldl_step Walk.endsIn_start (fun _ _ => List.not_mem_nil) distinct

end TracingLexer.Dfa
