import TracingLexer.Proofs.Automaton.Bounds
import TracingLexer.Proofs.Lists

namespace TracingLexer

theorem ArrowSet.mem_redirect_iff {arrow member : Arrow} {arrows : ArrowSet} :
    member ∈ arrows.redirect arrow ↔
      if member.symbol = arrow.symbol then member.target = arrow.target else member ∈ arrows := by
  rw [mem_redirect]
  split
  next same =>
    constructor
    · rintro (rfl | ⟨_, other⟩)
      · rfl
      · exact absurd same other
    · intro target
      cases member
      cases arrow
      exact .inl (congr (congrArg Arrow.mk same) target)
  next other =>
    constructor
    · rintro (rfl | ⟨present, _⟩)
      · exact absurd rfl other
      · exact present
    · exact fun present => .inr ⟨present, other⟩

namespace Dfa

theorem mem_insertId {id member : Nat} {ids : List Nat} :
    member ∈ insertId id ids ↔ member = id ∨ member ∈ ids := by
  fun_induction insertId id ids with
  | case1 => simp
  | case2 first rest before => simp
  | case3 rest behind => simp
  | case4 first rest behind other ih =>
      rw [List.mem_cons, ih, List.mem_cons]
      exact or_left_comm

theorem pairwise_insertId {id : Nat} {ids : List Nat} (ascending : ids.Pairwise (· < ·)) :
    (insertId id ids).Pairwise (· < ·) := by
  fun_induction insertId id ids with
  | case1 => exact List.pairwise_singleton _ id
  | case2 first rest before =>
      rw [List.pairwise_cons]
      refine ⟨?_, ascending⟩
      intro member present
      rcases List.mem_cons.mp present with rfl | later
      · exact before
      · exact Nat.lt_trans before (List.rel_of_pairwise_cons ascending later)
  | case3 rest behind => exact ascending
  | case4 first rest behind other ih =>
      rw [List.pairwise_cons] at ascending ⊢
      refine ⟨?_, ih ascending.2⟩
      intro member present
      rcases mem_insertId.mp present with rfl | later
      · omega
      · exact ascending.1 member later

/-- A block that stands for nothing; so does a number that is no block. -/
def blank : Block := ⟨[], false, ∅⟩

def blockAt (dfa : Dfa) (index : Nat) : Block := dfa.blocks[index]?.getD blank

theorem mem_arrowsOf_iff {dfa : Dfa} {index : Nat} {arrow : Arrow} :
    arrow ∈ dfa.arrowsOf index ↔ arrow ∈ (dfa.blockAt index).arrows := by
  rw [arrowsOf, blockAt]
  cases dfa.blocks[index]? <;> rfl

theorem isAccepting_eq_blockAt (dfa : Dfa) (index : Nat) :
    dfa.isAccepting index = (dfa.blockAt index).accepting := by
  rw [isAccepting, blockAt]
  cases dfa.blocks[index]? <;> rfl

namespace Walk

def dfa (walk : Walk) : Dfa := ⟨walk.blocks⟩

def acceptIf (walk : Walk) (accepting : Bool) : Walk := if accepting then walk.accept else walk

variable {walk : Walk}

theorem blockAt_update (inside : walk.current < walk.blocks.length) (change : Block → Block)
    (index : Nat) :
    (walk.update change).dfa.blockAt index =
      if index = walk.current then change (walk.dfa.blockAt index) else walk.dfa.blockAt index := by
  change ((walk.blocks.modify walk.current change)[index]?).getD blank = _
  rw [List.getElem?_modify, blockAt, dfa]
  split
  next here =>
    subst here
    rw [List.getElem?_eq_getElem inside, if_pos rfl]
    rfl
  next elsewhere =>
    rw [if_neg fun same => elsewhere same.symm]
    cases walk.blocks[index]? <;> rfl

theorem step_of_silent {state : State} (silent : state.symbol = .epsilon) :
    walk.step state = (walk.join state.id).acceptIf state.accepting := by
  rw [step, silent]
  rfl

theorem step_of_reading {state : State} {c : Char} (reads : state.symbol = .char c) :
    walk.step state = (walk.follow (.char c) state.id).acceptIf state.accepting := by
  rw [step, reads]
  rfl

section AcceptIf

variable (accepting : Bool)

@[simp] theorem current_acceptIf : (walk.acceptIf accepting).current = walk.current := by
  cases accepting <;> rfl

@[simp] theorem owners_acceptIf : (walk.acceptIf accepting).owners = walk.owners := by
  cases accepting <;> rfl

theorem blockAt_acceptIf (inside : walk.current < walk.blocks.length) (index : Nat) :
    (walk.acceptIf accepting).dfa.blockAt index =
      { walk.dfa.blockAt index with
        accepting := (walk.dfa.blockAt index).accepting ||
          (accepting && decide (index = walk.current)) } := by
  cases accepting with
  | false => simp [acceptIf]
  | true =>
      change (walk.update fun block => { block with accepting := true }).dfa.blockAt index = _
      rw [blockAt_update inside]
      split <;> simp_all

end AcceptIf

def ownersWith (walk : Walk) (id : Nat) : List Nat :=
  if id ∈ walk.owners then walk.owners else walk.owners ++ [id]

def opened (walk : Walk) (id : Nat) : Walk :=
  { walk with
    blocks := if id ∈ walk.owners then walk.blocks else walk.blocks ++ [⟨[id], false, ∅⟩]
    owners := walk.ownersWith id }

theorem blockOf_eq (walk : Walk) (id : Nat) :
    walk.blockOf id = ((walk.ownersWith id).idxOf id + 1, walk.opened id) := by
  rw [blockOf, opened, ownersWith]
  by_cases known : id ∈ walk.owners
  · simp only [idxOf?_of_mem known, if_pos known]
  · simp only [List.idxOf?_eq_none_iff.mpr known, if_neg known, List.idxOf_append,
      List.idxOf_cons_self, Nat.zero_add]

theorem blockAt_opened (walk : Walk) (id index : Nat) :
    (walk.opened id).dfa.blockAt index =
      if id ∉ walk.owners ∧ index = walk.blocks.length then ⟨[id], false, ∅⟩
      else walk.dfa.blockAt index := by
  rw [blockAt, dfa, opened]
  by_cases known : id ∈ walk.owners
  · have notNew : ¬ (id ∉ walk.owners ∧ index = walk.blocks.length) := fun new => new.1 known
    rw [if_neg notNew]
    simp only [if_pos known]
    rfl
  · simp only [if_neg known]
    rcases Nat.lt_trichotomy index walk.blocks.length with before | rfl | behind
    · rw [if_neg fun new => Nat.ne_of_lt before new.2, List.getElem?_append_left before]
      rfl
    · rw [if_pos ⟨known, rfl⟩, List.getElem?_concat_length]
      rfl
    · have outside : (walk.blocks ++ [(⟨[id], false, ∅⟩ : Block)]).length ≤ index := by
        rw [List.length_append, List.length_singleton]
        omega
      rw [if_neg fun new => Nat.ne_of_gt behind new.2, blockAt, dfa,
        List.getElem?_eq_none outside, List.getElem?_eq_none (Nat.le_of_lt behind)]

theorem blockAt_of_le {index : Nat} (outside : walk.blocks.length ≤ index) :
    walk.dfa.blockAt index = blank := by
  rw [blockAt, dfa, List.getElem?_eq_none outside]
  rfl

theorem blockAt_opened_eq (walk : Walk) (id index : Nat) :
    (walk.opened id).dfa.blockAt index =
      { walk.dfa.blockAt index with
        ids := if id ∉ walk.owners ∧ index = walk.blocks.length then [id]
          else (walk.dfa.blockAt index).ids } := by
  rw [blockAt_opened]
  split
  next new =>
    rw [blockAt_of_le (Nat.le_of_eq new.2.symm)]
    rfl
  next old => rfl

theorem blockAt_join (inside : walk.current < walk.blocks.length) (id index : Nat) :
    (walk.join id).dfa.blockAt index =
      if index = walk.current then
        { walk.dfa.blockAt index with ids := insertId id (walk.dfa.blockAt index).ids }
      else walk.dfa.blockAt index :=
  blockAt_update inside _ index

theorem current_follow (walk : Walk) (symbol : Symbol) (id : Nat) :
    (walk.follow symbol id).current = (walk.ownersWith id).idxOf id + 1 := by
  rw [follow, blockOf_eq]

theorem owners_follow (walk : Walk) (symbol : Symbol) (id : Nat) :
    (walk.follow symbol id).owners = walk.ownersWith id := by
  rw [follow, blockOf_eq]
  rfl

theorem blockAt_follow (sound : walk.Sound) (symbol : Symbol) (id index : Nat) :
    (walk.follow symbol id).dfa.blockAt index =
      if index = walk.current then
        { (walk.opened id).dfa.blockAt index with
          arrows := ((walk.opened id).dfa.blockAt index).arrows.redirect
            ⟨symbol, (walk.follow symbol id).current⟩ }
      else (walk.opened id).dfa.blockAt index := by
  have inside : (walk.opened id).current < (walk.opened id).blocks.length := by
    have grown := (sound.blockOf id).1.current
    rwa [blockOf_eq] at grown
  have linked := blockAt_update inside (fun block =>
    { block with arrows := block.arrows.redirect ⟨symbol, (walk.ownersWith id).idxOf id + 1⟩ }) index
  rw [current_follow, follow, blockOf_eq]
  exact linked

theorem current_follow_of_new (sound : walk.Sound) {id : Nat} (new : id ∉ walk.owners)
    (symbol : Symbol) : (walk.follow symbol id).current = walk.blocks.length := by
  rw [current_follow, ownersWith, if_neg new, List.idxOf_append, if_neg new, List.idxOf_cons_self,
    Nat.zero_add, sound.owners]

section Step

variable (state : State)

theorem current_step :
    (walk.step state).current =
      if state.symbol = .epsilon then walk.current
      else (walk.ownersWith state.id).idxOf state.id + 1 := by
  cases reads : state.symbol with
  | epsilon =>
      rw [step_of_silent reads, current_acceptIf, if_pos rfl]
      rfl
  | char c => rw [step_of_reading reads, current_acceptIf, current_follow, if_neg (by simp)]

theorem owners_step :
    (walk.step state).owners =
      if state.symbol = .epsilon then walk.owners else walk.ownersWith state.id := by
  cases reads : state.symbol with
  | epsilon =>
      rw [step_of_silent reads, owners_acceptIf, if_pos rfl]
      rfl
  | char c => rw [step_of_reading reads, owners_acceptIf, owners_follow, if_neg (by simp)]

theorem blockAt_step_of_silent (sound : walk.Sound) {state : State}
    (silent : state.symbol = .epsilon) (index : Nat) :
    (walk.step state).dfa.blockAt index =
      { walk.dfa.blockAt index with
        ids := if index = walk.current then insertId state.id (walk.dfa.blockAt index).ids
          else (walk.dfa.blockAt index).ids
        accepting := (walk.dfa.blockAt index).accepting ||
          (state.accepting && decide (index = walk.current)) } := by
  have inside : (walk.join state.id).current < (walk.join state.id).blocks.length :=
    (sound.update sound.arrows : (walk.join state.id).Sound).current
  rw [step_of_silent silent, blockAt_acceptIf _ inside, blockAt_join sound.current]
  split
  · rfl
  · rfl

theorem blockAt_step_of_reading (sound : walk.Sound) {state : State} {c : Char}
    (reads : state.symbol = .char c) (index : Nat) :
    (walk.step state).dfa.blockAt index =
      { ids := if state.id ∉ walk.owners ∧ index = walk.blocks.length then [state.id]
          else (walk.dfa.blockAt index).ids
        arrows := if index = walk.current then
            (walk.dfa.blockAt index).arrows.redirect ⟨.char c, (walk.step state).current⟩
          else (walk.dfa.blockAt index).arrows
        accepting := (walk.dfa.blockAt index).accepting ||
          (state.accepting && decide (index = (walk.step state).current)) } := by
  have reading : Symbol.char c ≠ .epsilon := by simp
  have inside := (sound.follow reading state.id).current
  rw [step_of_reading reads, blockAt_acceptIf _ inside, blockAt_follow sound, blockAt_opened_eq,
    current_acceptIf]
  split
  · rfl
  · rfl

/-- The block an id joins is the one the walk is in afterwards; an id that owns a block already joins
none. -/
theorem mem_ids_step (sound : walk.Sound) {index id : Nat} :
    id ∈ ((walk.step state).dfa.blockAt index).ids ↔
      id ∈ (walk.dfa.blockAt index).ids ∨
        (state.symbol = .epsilon ∨ state.id ∉ walk.owners) ∧
          index = (walk.step state).current ∧ id = state.id := by
  cases reads : state.symbol with
  | epsilon =>
      rw [blockAt_step_of_silent sound reads, current_step, if_pos reads]
      dsimp only
      split
      next here => simp [here, mem_insertId, or_comm]
      next elsewhere => simp [elsewhere]
  | char c =>
      rw [blockAt_step_of_reading sound reads]
      dsimp only
      split
      next new =>
        have landed : (walk.step state).current = index := by
          rw [step_of_reading reads, current_acceptIf, current_follow_of_new sound new.1, new.2]
        simp [new.1, landed, blockAt_of_le (Nat.le_of_eq new.2.symm), blank]
      next old =>
        constructor
        · exact .inl
        · rintro (before | ⟨silent | new, rfl, _⟩)
          · exact before
          · cases silent
          · refine absurd ⟨new, ?_⟩ old
            rw [step_of_reading reads, current_acceptIf, current_follow_of_new sound new]

theorem pairwise_ids_step (sound : walk.Sound)
    (ascending : ∀ index, (walk.dfa.blockAt index).ids.Pairwise (· < ·)) (index : Nat) :
    ((walk.step state).dfa.blockAt index).ids.Pairwise (· < ·) := by
  cases reads : state.symbol with
  | epsilon =>
      rw [blockAt_step_of_silent sound reads]
      dsimp only
      split
      · exact pairwise_insertId (ascending index)
      · exact ascending index
  | char c =>
      rw [blockAt_step_of_reading sound reads]
      dsimp only
      split
      · exact List.pairwise_singleton _ _
      · exact ascending index

theorem accepting_step (sound : walk.Sound) (index : Nat) :
    ((walk.step state).dfa.blockAt index).accepting =
      ((walk.dfa.blockAt index).accepting ||
        (state.accepting && decide (index = (walk.step state).current))) := by
  cases reads : state.symbol with
  | epsilon => rw [blockAt_step_of_silent sound reads, current_step, if_pos reads]
  | char c => rw [blockAt_step_of_reading sound reads]

theorem mem_arrows_step (sound : walk.Sound) {index : Nat} {arrow : Arrow} :
    arrow ∈ ((walk.step state).dfa.blockAt index).arrows ↔
      if state.symbol ≠ .epsilon ∧ index = walk.current ∧ arrow.symbol = state.symbol then
        arrow.target = (walk.step state).current
      else arrow ∈ (walk.dfa.blockAt index).arrows := by
  cases reads : state.symbol with
  | epsilon =>
      have still : ¬ (Symbol.epsilon ≠ .epsilon ∧ index = walk.current ∧ arrow.symbol = .epsilon) :=
        fun leaving => leaving.1 rfl
      rw [blockAt_step_of_silent sound reads, if_neg still]
  | char c =>
      rw [blockAt_step_of_reading sound reads]
      dsimp only
      split
      next here =>
        rw [ArrowSet.mem_redirect_iff]
        simp only [ne_eq, reduceCtorEq, not_false_eq_true, here, true_and]
      next elsewhere => rw [if_neg fun leaving => elsewhere leaving.2.1]

end Step

end Walk
end Dfa
end TracingLexer
