import Mathlib.Data.List.Nodup
import Mathlib.Logic.Relation
import Mathlib.Order.Lattice.Nat
import TracingLexer.Automaton.Search
import TracingLexer.Proofs.Lists

namespace TracingLexer.Search

variable {successors : Nat → List Nat}

structure Loop where
  order : List Nat
  fresh : List Nat
  queue : List Nat

namespace Loop

/-- One turn takes the first state out of the queue; a loop without a queue stands still. -/
def turn (successors : Nat → List Nat) : Loop → Loop
  | ⟨order, fresh, []⟩ => ⟨order, fresh, []⟩
  | ⟨order, fresh, state :: queue⟩ =>
      if state ∈ fresh then
        ⟨order ++ [state], fresh.erase state,
          queue ++ (successors state).filter (· ∈ fresh.erase state)⟩
      else ⟨order, fresh, queue⟩

/-- The states that wait, and those that may be put behind them. -/
def pending (successors : Nat → List Nat) (loop : Loop) : Nat :=
  loop.queue.length + (loop.fresh.flatMap successors).length

theorem pending_turn_lt {order fresh queue : List Nat} {state : Nat} :
    pending successors (turn successors ⟨order, fresh, state :: queue⟩) <
      pending successors ⟨order, fresh, state :: queue⟩ := by
  rw [turn]
  split
  next isFresh =>
    have taken := ((List.perm_cons_erase isFresh).flatMap_right successors).length_eq
    have queued := List.length_filter_le (· ∈ fresh.erase state) (successors state)
    rw [List.flatMap_cons, List.length_append] at taken
    simp only [pending, List.length_append, List.length_cons]
    omega
  next visited => exact Nat.add_lt_add_right (Nat.lt_succ_self _) _

theorem iterate_turn (order fresh queue : List Nat) {turns : Nat}
    (enough : pending successors ⟨order, fresh, queue⟩ ≤ turns) :
    ∃ left, (turn successors)^[turns] ⟨order, fresh, queue⟩ =
      ⟨order ++ visit successors fresh queue, left, []⟩ := by
  induction turns generalizing order fresh queue with
  | zero =>
      have none : queue.length = 0 :=
        Nat.eq_zero_of_le_zero (Nat.le_trans (Nat.le_add_right _ _) enough)
      rw [List.eq_nil_of_length_eq_zero none, visit, List.append_nil]
      exact ⟨fresh, rfl⟩
  | succ turns ih =>
      rw [Function.iterate_succ_apply]
      cases queue with
      | nil =>
          rw [visit, List.append_nil]
          exact ⟨fresh, Function.iterate_fixed rfl turns⟩
      | cons state queue =>
          have fewer := Nat.le_of_lt_succ (Nat.lt_of_lt_of_le pending_turn_lt enough)
          rw [visit]
          rw [turn] at fewer ⊢
          split
          next isFresh =>
            rw [if_pos isFresh] at fewer
            rcases ih _ _ _ fewer with ⟨left, ended⟩
            refine ⟨left, ended.trans ?_⟩
            rw [← List.append_cons]
          next visited =>
            rw [if_neg visited] at fewer
            exact ih _ _ _ fewer

end Loop

structure Frontier where
  unmarked : List Nat
  waiting : List Nat

namespace Frontier

def enqueue (frontier : Frontier) (state : Nat) : Frontier :=
  if state ∈ frontier.unmarked then
    ⟨frontier.unmarked.erase state, frontier.waiting ++ [state]⟩
  else frontier

def size (frontier : Frontier) : Nat := frontier.unmarked.length + frontier.waiting.length

theorem size_enqueue (frontier : Frontier) (state : Nat) :
    (frontier.enqueue state).size = frontier.size := by
  rw [enqueue]
  split
  next isUnmarked =>
    have erased := List.length_erase_of_mem isUnmarked
    have present := List.length_pos_of_mem isUnmarked
    simp only [size, List.length_append, List.length_singleton]
    omega
  next => rfl

theorem size_foldl_enqueue (frontier : Frontier) (states : List Nat) :
    (states.foldl enqueue frontier).size = frontier.size := by
  induction states generalizing frontier with
  | nil => rfl
  | cons state states ih => exact (ih _).trans (size_enqueue frontier state)

end Frontier

def discover (successors : Nat → List Nat) : Frontier → List Nat
  | ⟨_, []⟩ => []
  | ⟨unmarked, state :: waiting⟩ =>
      state :: discover successors ((successors state).foldl Frontier.enqueue ⟨unmarked, waiting⟩)
termination_by frontier => frontier.size
decreasing_by
  rw [Frontier.size_foldl_enqueue]
  exact Nat.lt_succ_self _

/-- The search that marks a state when it is put into the queue. -/
def markingFirst (size start : Nat) (successors : Nat → List Nat) : List Nat :=
  discover successors (Frontier.enqueue ⟨List.range size, []⟩ start)

namespace Frontier

/-- What waits in the one search is what waits in the other for the first time and is not visited
yet, and it alone is marked of what is not visited. -/
structure Mirrors (frontier : Frontier) (fresh queue : List Nat) : Prop where
  waiting : frontier.waiting = (queue.filter (· ∈ fresh)).eraseDups
  unmarked : ∀ state, state ∈ frontier.unmarked ↔ state ∈ fresh ∧ state ∉ queue
  distinct : frontier.unmarked.Nodup

variable {frontier : Frontier} {fresh queue : List Nat} {state : Nat}

theorem Mirrors.enqueue (mirrors : frontier.Mirrors fresh queue) (isFresh : state ∈ fresh) :
    (frontier.enqueue state).Mirrors fresh (queue ++ [state]) := by
  have waiting : ((queue ++ [state]).filter (· ∈ fresh)).eraseDups =
      if state ∈ queue then frontier.waiting else frontier.waiting ++ [state] := by
    rw [mirrors.waiting, List.filter_append, List.filter_cons_of_pos (by simpa using isFresh),
      List.filter_nil, eraseDups_concat]
    simp only [List.mem_filter, isFresh, decide_true, and_true]
  by_cases queued : state ∈ queue
  · have marked : state ∉ frontier.unmarked := fun isUnmarked =>
      ((mirrors.unmarked state).mp isUnmarked).2 queued
    rw [Frontier.enqueue, if_neg marked]
    rw [if_pos queued] at waiting
    refine ⟨waiting.symm, fun other => ?_, mirrors.distinct⟩
    rw [mirrors.unmarked, List.mem_append, List.mem_singleton]
    refine and_congr_right fun _ => not_congr (or_iff_left_of_imp ?_).symm
    exact fun same => same ▸ queued
  · have isUnmarked : state ∈ frontier.unmarked := (mirrors.unmarked state).mpr ⟨isFresh, queued⟩
    rw [Frontier.enqueue, if_pos isUnmarked]
    rw [if_neg queued] at waiting
    refine ⟨waiting.symm, fun other => ?_, mirrors.distinct.erase state⟩
    rw [mirrors.distinct.mem_erase_iff, mirrors.unmarked, List.mem_append, List.mem_singleton,
      not_or, and_left_comm, and_comm (a := other ≠ state)]

theorem Mirrors.enqueue_of_visited (mirrors : frontier.Mirrors fresh queue)
    (visited : state ∉ fresh) : frontier.enqueue state = frontier :=
  if_neg fun isUnmarked => visited ((mirrors.unmarked state).mp isUnmarked).1

theorem Mirrors.foldl_enqueue (mirrors : frontier.Mirrors fresh queue) (states : List Nat) :
    (states.foldl Frontier.enqueue frontier).Mirrors fresh
      (queue ++ states.filter (· ∈ fresh)) := by
  induction states generalizing frontier queue with
  | nil =>
      rw [List.filter_nil, List.append_nil]
      exact mirrors
  | cons state states ih =>
      rw [List.foldl_cons]
      by_cases isFresh : state ∈ fresh
      · rw [List.filter_cons_of_pos (by simpa using isFresh), List.append_cons]
        exact ih (mirrors.enqueue isFresh)
      · rw [List.filter_cons_of_neg (by simpa using isFresh), mirrors.enqueue_of_visited isFresh]
        exact ih mirrors

theorem Mirrors.visit (mirrors : frontier.Mirrors fresh (state :: queue)) (distinct : fresh.Nodup)
    (isFresh : state ∈ fresh) :
    ∃ waiting, frontier = ⟨frontier.unmarked, state :: waiting⟩ ∧
      Mirrors ⟨frontier.unmarked, waiting⟩ (fresh.erase state) queue := by
  rcases frontier with ⟨unmarked, waiting⟩
  have later : ((queue.filter (· ∈ fresh)).filter fun other => !other == state) =
      queue.filter (· ∈ fresh.erase state) := by
    rw [List.filter_filter]
    refine List.filter_congr fun other _ => ?_
    simp [distinct.mem_erase_iff, beq_eq_decide]
  have taken := mirrors.waiting
  rw [List.filter_cons_of_pos (by simpa using isFresh), List.eraseDups_cons, later] at taken
  refine ⟨_, congrArg (Frontier.mk unmarked) taken, rfl, fun other => ?_, mirrors.distinct⟩
  rw [mirrors.unmarked, distinct.mem_erase_iff, List.mem_cons, not_or, and_left_comm, and_assoc]

theorem Mirrors.skip (mirrors : frontier.Mirrors fresh (state :: queue))
    (visited : state ∉ fresh) : frontier.Mirrors fresh queue := by
  refine ⟨?_, fun other => ?_, mirrors.distinct⟩
  · rw [mirrors.waiting, List.filter_cons_of_neg (by simpa using visited)]
  · rw [mirrors.unmarked, List.mem_cons]
    refine and_congr_right fun isFresh => not_congr (or_iff_right ?_)
    exact fun same => visited (same ▸ isFresh)

end Frontier

theorem visit_eq_discover {frontier : Frontier} {fresh queue : List Nat}
    (mirrors : frontier.Mirrors fresh queue) (distinct : fresh.Nodup) :
    visit successors fresh queue = discover successors frontier := by
  fun_induction visit successors fresh queue generalizing frontier with
  | case1 fresh =>
      rcases frontier with ⟨unmarked, waiting⟩
      have empty : waiting = [] := mirrors.waiting
      subst empty
      rw [discover]
  | case2 fresh state queue isFresh left =>
      rename_i ih
      rcases mirrors.visit distinct isFresh with ⟨waiting, taken, remaining⟩
      rw [taken, discover]
      have onward := remaining.foldl_enqueue (successors state)
      exact congrArg (state :: ·) (ih onward (distinct.erase state))
  | case3 fresh state queue visited ih => exact ih (mirrors.skip visited) distinct

theorem breadthFirst_eq_markingFirst {size start : Nat} (inside : start < size) :
    breadthFirst size start successors = markingFirst size start successors := by
  have empty : Frontier.Mirrors ⟨List.range size, []⟩ (List.range size) [] :=
    ⟨rfl, fun state => by simp, List.nodup_range⟩
  exact visit_eq_discover (empty.enqueue (List.mem_range.mpr inside)) List.nodup_range

end TracingLexer.Search
