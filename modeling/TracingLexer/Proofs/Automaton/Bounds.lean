import TracingLexer.Automaton.Dfa
import TracingLexer.Proofs.Automaton.Graphs
import TracingLexer.Proofs.Automaton.Positions

namespace TracingLexer

theorem Automaton.lt_of_mem_acceptors {automaton : Automaton} {state : Nat}
    (member : state ∈ automaton.acceptors) : state < automaton.accepting.length := by
  rw [mem_acceptors, List.getD_eq_getElem?_getD] at member
  by_contra outside
  rw [List.getElem?_eq_none (Nat.le_of_not_lt outside)] at member
  exact absurd member (by decide)

namespace Nfa

variable {states : List State}

theorem size_ofTrace (states : List State) : (ofTrace states).automaton.size = states.length :=
  length_positionsFrom states states 0

theorem target_lt_of_mem_recordedArrows {state : State} {arrow : Arrow}
    (member : arrow ∈ recordedArrows states state) : arrow.target < states.length := by
  rcases List.mem_filterMap.mp member with ⟨recorded, _, led⟩
  rcases Option.map_eq_some_iff.mp led with ⟨index, found, rfl⟩
  rcases exists_of_lastWithId? found with ⟨_, present, _⟩
  exact (List.getElem?_eq_some_iff.mp present).1

theorem target_lt_of_mem_arrows {index : Nat} {arrow : Arrow}
    (member : arrow ∈ (ofTrace states).automaton.arrows index) : arrow.target < states.length := by
  change arrow ∈ ((positionsFrom states 0 states)[index]?.map (·.arrows.toList)).getD [] at member
  rw [getElem?_positionsFrom] at member
  cases present : states[index]? with
  | none =>
      rw [present] at member
      exact absurd member List.not_mem_nil
  | some state =>
      rw [present] at member
      rcases ArrowSet.mem_insertAll.mp member with onPath | earlier
      · rcases List.mem_map.mp onPath with ⟨next, follows, rfl⟩
        have inside := (List.getElem?_eq_some_iff.mp (Option.mem_toList.mp follows)).1
        simpa using inside
      · rcases ArrowSet.mem_insertAll.mp earlier with recorded | absent
        · exact target_lt_of_mem_recordedArrows recorded
        · exact absurd absent (ArrowSet.not_mem_empty arrow)

theorem drawable_ofTrace (states : List State) : (ofTrace states).automaton.Drawable where
  targets state _ arrow member := size_ofTrace states ▸ target_lt_of_mem_arrows member
  acceptors state member := by
    have inside := Automaton.lt_of_mem_acceptors member
    rwa [accepting_ofTrace, List.length_map, ← size_ofTrace] at inside
  labelled state below := by
    have present : (ofTrace states).positions[state]? = some (ofTrace states).positions[state] :=
      List.getElem?_eq_getElem below
    exact ⟨_, congrArg (Option.map _) present⟩

end Nfa

namespace Dfa

def LeadsBelow (count : Nat) (arrow : Arrow) : Prop :=
  arrow.symbol ≠ .epsilon ∧ arrow.target < count

namespace Walk

/-- What holds all along a walk: it is in one of its blocks, each of which is owned but the first,
and the arrows lead to blocks. -/
structure Sound (walk : Walk) : Prop where
  current : walk.current < walk.blocks.length
  owners : walk.blocks.length = walk.owners.length + 1
  arrows : ∀ block ∈ walk.blocks, ∀ arrow ∈ block.arrows, LeadsBelow walk.blocks.length arrow

variable {walk : Walk}

theorem sound_start : start.Sound where
  current := by decide
  owners := rfl
  arrows block member arrow leaves := by
    rw [List.mem_singleton.mp member] at leaves
    exact absurd leaves (ArrowSet.not_mem_empty arrow)

theorem length_blocks_update (walk : Walk) (change : Block → Block) :
    (walk.update change).blocks.length = walk.blocks.length :=
  List.length_modify change walk.blocks walk.current

theorem Sound.update (sound : walk.Sound) {change : Block → Block}
    (keeps : ∀ block ∈ walk.blocks, ∀ arrow ∈ (change block).arrows,
      LeadsBelow walk.blocks.length arrow) : (walk.update change).Sound where
  current := by
    rw [length_blocks_update]
    exact sound.current
  owners := by
    rw [length_blocks_update]
    exact sound.owners
  arrows block member arrow leaves := by
    rw [length_blocks_update]
    rcases List.mem_iff_getElem?.mp member with ⟨index, present⟩
    rw [Walk.update, List.getElem?_modify] at present
    rcases Option.map_eq_some_iff.mp present with ⟨old, listed, rfl⟩
    have inWalk := List.mem_of_getElem? listed
    split at leaves
    · exact keeps old inWalk arrow leaves
    · exact sound.arrows old inWalk arrow leaves

theorem idxOf?_lt {id index : Nat} (sound : walk.Sound)
    (found : walk.owners.idxOf? id = some index) : index + 1 < walk.blocks.length := by
  have inside : index < walk.owners.length := by
    rw [List.idxOf?_eq_some_iff] at found
    exact found.1
  rw [sound.owners]
  omega

theorem Sound.grow (sound : walk.Sound) (id : Nat) :
    ({ walk with
        blocks := walk.blocks ++ [⟨[id], false, ∅⟩]
        owners := walk.owners ++ [id] } : Walk).Sound where
  current := by
    rw [List.length_append]
    exact Nat.lt_add_right 1 sound.current
  owners := by
    rw [List.length_append, List.length_append, sound.owners]
    rfl
  arrows block member arrow leaves := by
    rw [List.length_append]
    rcases List.mem_append.mp member with old | new
    · have reads := sound.arrows block old arrow leaves
      exact ⟨reads.1, Nat.lt_add_right 1 reads.2⟩
    · rw [List.mem_singleton.mp new] at leaves
      exact absurd leaves (ArrowSet.not_mem_empty arrow)

theorem Sound.blockOf (sound : walk.Sound) (id : Nat) :
    (walk.blockOf id).2.Sound ∧ (walk.blockOf id).1 < (walk.blockOf id).2.blocks.length := by
  rw [Walk.blockOf]
  cases found : walk.owners.idxOf? id with
  | some index => exact ⟨sound, idxOf?_lt sound found⟩
  | none =>
      refine ⟨sound.grow id, ?_⟩
      rw [List.length_append, sound.owners]
      exact Nat.lt_succ_self _

theorem Sound.follow (sound : walk.Sound) {symbol : Symbol} (reads : symbol ≠ .epsilon)
    (id : Nat) : (walk.follow symbol id).Sound := by
  rcases sound.blockOf id with ⟨grown, inside⟩
  have linked : ((walk.blockOf id).2.update fun block =>
      { block with arrows := block.arrows.redirect ⟨symbol, (walk.blockOf id).1⟩ }).Sound := by
    apply grown.update
    intro block member arrow leaves
    rcases ArrowSet.mem_redirect.mp leaves with rfl | ⟨old, _⟩
    · exact ⟨reads, inside⟩
    · exact grown.arrows block member arrow old
  rw [← length_blocks_update] at inside
  exact ⟨inside, linked.owners, linked.arrows⟩

theorem Sound.step (sound : walk.Sound) (state : State) : (walk.step state).Sound := by
  obtain ⟨moved, movedSound, step_eq⟩ : ∃ moved : Walk, moved.Sound ∧
      walk.step state = if state.accepting then moved.accept else moved := by
    cases reads : state.symbol with
    | epsilon =>
        refine ⟨walk.join state.id, sound.update sound.arrows, ?_⟩
        rw [Walk.step, reads]
    | char c =>
        have other : Symbol.char c ≠ .epsilon := by simp
        refine ⟨walk.follow (.char c) state.id, sound.follow other state.id, ?_⟩
        rw [Walk.step, reads]
  rw [step_eq]
  split
  · exact movedSound.update movedSound.arrows
  · exact movedSound

theorem sound_foldl_step (sound : walk.Sound) (trace : List State) :
    (trace.foldl Walk.step walk).Sound := by
  induction trace generalizing walk with
  | nil => exact sound
  | cons state trace ih => exact ih (sound.step state)

end Walk

theorem pairwise_arrowsOf (dfa : Dfa) (index : Nat) : (dfa.arrowsOf index).Pairwise Arrow.Before := by
  rw [arrowsOf]
  cases dfa.blocks[index]? with
  | none => exact .nil
  | some block => exact block.arrows.ordered

theorem leadsBelow_of_mem_arrowsOf {trace : List State} {index : Nat} {arrow : Arrow}
    (member : arrow ∈ (ofTrace trace).arrowsOf index) :
    LeadsBelow (ofTrace trace).blocks.length arrow := by
  rw [arrowsOf] at member
  cases present : (ofTrace trace).blocks[index]? with
  | none =>
      rw [present] at member
      exact absurd member List.not_mem_nil
  | some block =>
      rw [present] at member
      exact (Walk.sound_foldl_step Walk.sound_start trace).arrows block
        (List.mem_of_getElem? present) arrow member

theorem drawable_ofTrace (trace : List State) : (ofTrace trace).automaton.Drawable where
  targets _ _ _ member := (leadsBelow_of_mem_arrowsOf member).2
  acceptors state member := by
    have inside := Automaton.lt_of_mem_acceptors member
    rwa [show (ofTrace trace).automaton.accepting = (ofTrace trace).blocks.map Block.accepting
      from rfl, List.length_map] at inside
  labelled state _ := ⟨label state, rfl⟩

end Dfa
end TracingLexer
