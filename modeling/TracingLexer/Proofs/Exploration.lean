import TracingLexer.Proofs.Automaton.Bounds
import TracingLexer.Proofs.Automaton.Searching

namespace TracingLexer

namespace Search

variable {successors : Nat → List Nat} {start size : Nat}

inductive ReachedIn (successors : Nat → List Nat) (start : Nat) : Nat → Nat → Prop
  | start : ReachedIn successors start 0 start
  | step {count source target : Nat} : ReachedIn successors start count source →
      target ∈ successors source → ReachedIn successors start (count + 1) target

noncomputable def distance (successors : Nat → List Nat) (start state : Nat) : Nat :=
  sInf {count | ReachedIn successors start count state}

theorem reflTransGen_iff_reachedIn {state : Nat} :
    Relation.ReflTransGen (fun source target => target ∈ successors source) start state ↔
      ∃ count, ReachedIn successors start count state := by
  constructor
  · intro reachable
    induction reachable with
    | refl => exact ⟨0, .start⟩
    | tail _ led ih =>
        rcases ih with ⟨count, reached⟩
        exact ⟨count + 1, reached.step led⟩
  · rintro ⟨count, reached⟩
    induction reached with
    | start => exact .refl
    | step _ led ih => exact ih.tail led

theorem ReachedIn.distance_le {count state : Nat} (reached : ReachedIn successors start count state) :
    distance successors start state ≤ count :=
  Nat.sInf_le reached

theorem ReachedIn.shortest {count state : Nat} (reached : ReachedIn successors start count state) :
    ReachedIn successors start (distance successors start state) state :=
  @Nat.sInf_mem {count | ReachedIn successors start count state} ⟨count, reached⟩

namespace Frontier

structure Grows (frontier grown : Frontier) (targets found : List Nat) : Prop where
  waiting : grown.waiting = frontier.waiting ++ found
  unmarked : (found ++ grown.unmarked).Perm frontier.unmarked
  listed : ∀ state ∈ found, state ∈ targets
  marked : ∀ state ∈ targets, state ∉ grown.unmarked

theorem Grows.mem_unmarked {frontier grown : Frontier} {targets found : List Nat} {state : Nat}
    (grows : frontier.Grows grown targets found) (left : state ∈ grown.unmarked) :
    state ∈ frontier.unmarked :=
  grows.unmarked.subset (List.mem_append_right found left)

theorem exists_grows {frontier : Frontier} (distinct : frontier.unmarked.Nodup)
    (targets : List Nat) :
    ∃ found, frontier.Grows (targets.foldl enqueue frontier) targets found := by
  induction targets generalizing frontier with
  | nil => exact ⟨[], (List.append_nil _).symm, .refl _, by simp, by simp⟩
  | cons target targets ih =>
      rw [List.foldl_cons, enqueue]
      split
      next unmarked =>
        rcases @ih ⟨frontier.unmarked.erase target, frontier.waiting ++ [target]⟩
          (distinct.erase target) with ⟨found, grows⟩
        refine ⟨target :: found, ?_, ?_, ?_, ?_⟩
        · rw [grows.waiting, List.append_assoc]
          rfl
        · exact (grows.unmarked.cons target).trans (List.perm_cons_erase unmarked).symm
        · intro state member
          rcases List.mem_cons.mp member with rfl | later
          · exact List.mem_cons_self
          · exact List.mem_cons_of_mem _ (grows.listed state later)
        · intro state member left
          rcases List.mem_cons.mp member with rfl | later
          · exact distinct.not_mem_erase (grows.mem_unmarked left)
          · exact grows.marked state later left
      next marked =>
        rcases ih distinct with ⟨found, grows⟩
        refine ⟨found, grows.waiting, grows.unmarked, ?_, ?_⟩
        · exact fun state member => List.mem_cons_of_mem _ (grows.listed state member)
        · intro state member left
          rcases List.mem_cons.mp member with rfl | later
          · exact marked (grows.mem_unmarked left)
          · exact grows.marked state later left

end Frontier

/-- How far a search has come that has visited the states of the order: what waits is reached, lies
no more than one step apart and no nearer than what is visited, whose successors are all known. -/
structure Explores (size start : Nat) (successors : Nat → List Nat) (order : List Nat)
    (frontier : Frontier) : Prop where
  parts : (order ++ frontier.waiting ++ frontier.unmarked).Perm (List.range size)
  started : start ∈ order ++ frontier.waiting
  reached : ∀ state ∈ order ++ frontier.waiting, ∃ count, ReachedIn successors start count state
  closed : ∀ source ∈ order, ∀ target ∈ successors source, target ∈ order ++ frontier.waiting
  ascending : (order ++ frontier.waiting).Pairwise fun nearer farther =>
    distance successors start nearer ≤ distance successors start farther
  near : ∀ state ∈ frontier.waiting, ∀ other ∈ frontier.waiting,
    distance successors start other ≤ distance successors start state + 1

section Explores

variable {order : List Nat} {frontier : Frontier}

theorem Explores.distinct (explores : Explores size start successors order frontier) :
    (order ++ frontier.waiting ++ frontier.unmarked).Nodup :=
  explores.parts.nodup_iff.mpr List.nodup_range

theorem Explores.exists_waiting (explores : Explores size start successors order frontier)
    {count state : Nat} (reached : ReachedIn successors start count state)
    (unknown : state ∉ order ++ frontier.waiting) :
    ∃ waiter ∈ frontier.waiting, distance successors start waiter < count := by
  -- What is visited leads to known states only, so the way leaves them from a state that waits.
  induction reached with
  | start => exact absurd explores.started unknown
  | @step count source target reached led ih =>
      by_cases known : source ∈ order ++ frontier.waiting
      · rcases List.mem_append.mp known with visited | waits
        · exact absurd (explores.closed source visited target led) unknown
        · exact ⟨source, waits, Nat.lt_succ_of_le reached.distance_le⟩
      · rcases ih known with ⟨waiter, waits, nearer⟩
        exact ⟨waiter, waits, Nat.lt_succ_of_lt nearer⟩

theorem explores_enqueue (inside : start < size) :
    Explores size start successors [] (Frontier.enqueue ⟨List.range size, []⟩ start) := by
  have unmarked := List.mem_range.mpr inside
  rw [Frontier.enqueue, if_pos unmarked]
  refine
    { parts := (List.perm_cons_erase unmarked).symm
      started := List.mem_singleton_self start
      reached := ?_
      closed := by simp
      ascending := List.pairwise_singleton _ start
      near := ?_ }
  · intro state member
    rw [List.mem_singleton.mp member]
    exact ⟨0, .start⟩
  · intro state member other otherMember
    rw [List.mem_singleton.mp member, List.mem_singleton.mp otherMember]
    exact Nat.le_succ _

section Visit

variable {state : Nat} {unmarked waiting : List Nat}

theorem Explores.distance_le_of_visited
    (explores : Explores size start successors order ⟨unmarked, state :: waiting⟩) {other : Nat}
    (visited : other ∈ order) :
    distance successors start other ≤ distance successors start state :=
  (List.pairwise_append.mp explores.ascending).2.2 other visited state List.mem_cons_self

theorem Explores.distance_le_of_waiting
    (explores : Explores size start successors order ⟨unmarked, state :: waiting⟩) {other : Nat}
    (waits : other ∈ state :: waiting) :
    distance successors start state ≤ distance successors start other := by
  have ascending := (List.pairwise_append.mp explores.ascending).2.1
  rcases List.mem_cons.mp waits with rfl | later
  · exact Nat.le_refl _
  · exact List.rel_of_pairwise_cons ascending later

theorem Explores.distance_eq
    (explores : Explores size start successors order ⟨unmarked, state :: waiting⟩) {target : Nat}
    (led : target ∈ successors state) (unseen : target ∈ unmarked) :
    distance successors start target = distance successors start state + 1 := by
  have unknown : target ∉ order ++ state :: waiting := fun known =>
    (List.nodup_append.mp explores.distinct).2.2 target known target unseen rfl
  rcases explores.reached state (by simp) with ⟨count, reached⟩
  have farther := reached.shortest.step led
  rcases explores.exists_waiting farther.shortest unknown with ⟨waiter, waits, nearer⟩
  have least := explores.distance_le_of_waiting waits
  have most := farther.distance_le
  omega

theorem Explores.visit (explores : Explores size start successors order ⟨unmarked, state :: waiting⟩)
    (bounded : ∀ source < size, ∀ target ∈ successors source, target < size) :
    Explores size start successors (order ++ [state])
      ((successors state).foldl Frontier.enqueue ⟨unmarked, waiting⟩) := by
  have distinct : unmarked.Nodup := (List.nodup_append.mp explores.distinct).2.1
  rcases @Frontier.exists_grows ⟨unmarked, waiting⟩ distinct (successors state)
    with ⟨found, grows⟩
  generalize (successors state).foldl Frontier.enqueue ⟨unmarked, waiting⟩ = grown at grows ⊢
  have known_eq : order ++ [state] ++ grown.waiting = order ++ state :: waiting ++ found := by
    rw [grows.waiting]
    simp
  have fromState (target : Nat) (member : target ∈ found) :
      distance successors start target = distance successors start state + 1 :=
    explores.distance_eq (grows.listed target member)
      (grows.unmarked.subset (List.mem_append_left _ member))
  have stateKnown : state ∈ order ++ state :: waiting := by simp
  have near (waiter : Nat) (waits : waiter ∈ grown.waiting) :
      distance successors start state ≤ distance successors start waiter ∧
        distance successors start waiter ≤ distance successors start state + 1 := by
    rw [grows.waiting] at waits
    rcases List.mem_append.mp waits with old | new
    · have waited := List.mem_cons_of_mem state old
      exact ⟨explores.distance_le_of_waiting waited,
        explores.near state List.mem_cons_self waiter waited⟩
    · have behind := fromState waiter new
      omega
  refine
    { parts := ?_
      started := known_eq ▸ List.mem_append_left found explores.started
      reached := ?_
      closed := ?_
      ascending := ?_
      near := ?_ }
  · rw [known_eq, List.append_assoc]
    exact (grows.unmarked.append_left _).trans explores.parts
  · rw [known_eq]
    intro target member
    rcases List.mem_append.mp member with old | new
    · exact explores.reached target old
    · rcases explores.reached state stateKnown with ⟨count, reached⟩
      exact ⟨count + 1, reached.step (grows.listed target new)⟩
  · rw [known_eq]
    intro source visited target led
    rcases List.mem_append.mp visited with earlier | now
    · exact List.mem_append_left found (explores.closed source earlier target led)
    · rw [List.mem_singleton.mp now] at led
      have inside : state < size := List.mem_range.mp
        (explores.parts.subset (List.mem_append_left unmarked stateKnown))
      have listed := explores.parts.symm.subset (List.mem_range.mpr (bounded state inside target led))
      rcases List.mem_append.mp listed with old | unseen
      · exact List.mem_append_left found old
      · have moved := grows.unmarked.symm.subset unseen
        exact List.mem_append_right _
          ((List.mem_append.mp moved).resolve_right (grows.marked target led))
  · rw [known_eq, List.pairwise_append]
    refine ⟨explores.ascending, ?_, ?_⟩
    · apply List.pairwise_of_forall_mem_list
      intro first member second otherMember
      rw [fromState first member, fromState second otherMember]
    · intro old known new member
      rw [fromState new member]
      rcases List.mem_append.mp known with visited | waits
      · exact Nat.le_succ_of_le (explores.distance_le_of_visited visited)
      · exact explores.near state List.mem_cons_self old waits
  · intro waiter waits other otherWaits
    have low := (near waiter waits).1
    have high := (near other otherWaits).2
    omega

end Visit

theorem Explores.discover (explores : Explores size start successors order frontier)
    (bounded : ∀ source < size, ∀ target ∈ successors source, target < size) :
    ∃ left, Explores size start successors (order ++ discover successors frontier) ⟨left, []⟩ := by
  fun_induction Search.discover successors frontier generalizing order with
  | case1 unmarked =>
      rw [List.append_nil]
      exact ⟨unmarked, explores⟩
  | case2 unmarked state waiting ih =>
      rw [List.append_cons]
      exact ih (explores.visit bounded)

section Ended

variable {left : List Nat} (explores : Explores size start successors order ⟨left, []⟩)

include explores

theorem Explores.nodup : order.Nodup := by
  have distinct := (List.nodup_append.mp explores.distinct).1
  rwa [List.append_nil] at distinct

theorem Explores.mem_iff {state : Nat} :
    state ∈ order ↔ ∃ count, ReachedIn successors start count state := by
  constructor
  · exact fun visited => explores.reached state (List.mem_append_left _ visited)
  · rintro ⟨count, reached⟩
    by_contra unvisited
    rw [← List.append_nil order] at unvisited
    rcases explores.exists_waiting reached unvisited with ⟨waiter, waits, _⟩
    exact absurd waits List.not_mem_nil

theorem Explores.pairwise_distance :
    order.Pairwise fun nearer farther =>
      distance successors start nearer ≤ distance successors start farther := by
  have ascending := explores.ascending
  rwa [List.append_nil] at ascending

end Ended

end Explores

theorem explores_breadthFirst (inside : start < size)
    (bounded : ∀ source < size, ∀ target ∈ successors source, target < size) :
    ∃ left, Explores size start successors (breadthFirst size start successors) ⟨left, []⟩ := by
  rw [breadthFirst_eq_markingFirst inside]
  exact (explores_enqueue inside).discover bounded

theorem head?_breadthFirst (inside : start < size) :
    (breadthFirst size start successors).head? = some start := by
  rw [breadthFirst, visit, if_pos (List.mem_range.mpr inside)]
  rfl

end Search

namespace Dfa

def targets (dfa : Dfa) (block : Nat) : List Nat := (dfa.arrowsOf block).map Arrow.target

structure Explored (dfa : Dfa) : Prop where
  /-- There are no more turns than one and as many as there are arrows. -/
  ends : ∃ left,
    (Search.Loop.turn dfa.targets)^[1 + (dfa.automaton.states.flatMap dfa.arrowsOf).length]
      ⟨[], dfa.automaton.states, [dfa.automaton.start]⟩ = ⟨dfa.reachable, left, []⟩
  nodup : dfa.reachable.Nodup
  mem_iff : ∀ block, block ∈ dfa.reachable ↔
    Relation.ReflTransGen (fun source target => ∃ arrow ∈ dfa.arrowsOf source, arrow.target = target)
      dfa.automaton.start block
  head? : dfa.reachable.head? = some dfa.automaton.start
  ascending : dfa.reachable.Pairwise fun nearer farther =>
    Search.distance dfa.targets dfa.automaton.start nearer ≤
      Search.distance dfa.targets dfa.automaton.start farther
  eq_markingFirst : dfa.reachable =
    Search.markingFirst dfa.automaton.size dfa.automaton.start fun block =>
      (dfa.automaton.sortedArrows block).map Arrow.target

theorem sortedArrows_automaton (dfa : Dfa) (block : Nat) :
    dfa.automaton.sortedArrows block = dfa.arrowsOf block :=
  Arrow.sort_eq_self (pairwise_arrowsOf dfa block)

theorem length_flatMap_targets (dfa : Dfa) (blocks : List Nat) :
    (blocks.flatMap dfa.targets).length = (blocks.flatMap dfa.arrowsOf).length := by
  change (blocks.flatMap fun block => (dfa.arrowsOf block).map Arrow.target).length = _
  rw [← List.map_flatMap, List.length_map]

section OfTrace

variable {trace : List State}

theorem start_lt_size : (ofTrace trace).automaton.start < (ofTrace trace).automaton.size :=
  Nat.zero_lt_of_lt (Walk.sound_foldl_step Walk.sound_start trace).current

theorem lt_size_of_mem_targets {source target : Nat}
    (led : target ∈ (ofTrace trace).targets source) : target < (ofTrace trace).automaton.size := by
  rcases List.mem_map.mp led with ⟨arrow, leaves, rfl⟩
  exact (leadsBelow_of_mem_arrowsOf leaves).2

end OfTrace

/-- Whatever the trace, also one in which ids come again, so that the arrows lead round in circles or
some blocks cannot be reached. -/
theorem explored_ofTrace (trace : List State) : (ofTrace trace).Explored := by
  rcases Search.explores_breadthFirst start_lt_size
    fun _ _ _ => @lt_size_of_mem_targets trace _ _ with ⟨left, explores⟩
  refine
    { ends := ?_
      nodup := explores.nodup
      mem_iff := ?_
      head? := Search.head?_breadthFirst start_lt_size
      ascending := explores.pairwise_distance
      eq_markingFirst := ?_ }
  · apply Search.Loop.iterate_turn
    exact Nat.add_le_add_left (Nat.le_of_eq (length_flatMap_targets _ _)) 1
  · intro block
    rw [← funext₂ fun source target => propext List.mem_map, Search.reflTransGen_iff_reachedIn]
    exact explores.mem_iff
  · simp only [sortedArrows_automaton]
    exact Search.breadthFirst_eq_markingFirst start_lt_size

/-- The arrow to the second block is replaced, so that nothing leads there. -/
example :
    (ofTrace [⟨1, false, .char 'a', ∅⟩, ⟨2, false, .char 'b', ∅⟩, ⟨1, false, .char 'a', ∅⟩,
      ⟨3, true, .char 'b', ∅⟩]).reachable = [0, 1, 3] := by
  cbv

end Dfa
end TracingLexer
