import Mathlib.Data.List.Induction
import Mathlib.Order.Bounds.Basic
import TracingLexer.Proofs.Automaton.Steps

namespace TracingLexer.Dfa

def entered (states : List State) : List State := states.filter (·.symbol ≠ .epsilon)

def owners (states : List State) : List Nat := ((entered states).map State.id).eraseDups

/-- The block after so many states of the trace: the one owned by the last of them that is entered
by a character, or the start. -/
def blockAfter (states : List State) (count : Nat) : Nat :=
  match (entered (states.take count)).getLast? with
  | some state => (owners states).idxOf state.id + 1
  | none => 0

def Arrives (states : List State) (block place : Nat) (state : State) : Prop :=
  states[place]? = some state ∧ blockAfter states (place + 1) = block

def Leaves (states : List State) (block place : Nat) (state : State) : Prop :=
  states[place]? = some state ∧ blockAfter states place = block

def departures (states : List State) (block : Nat) (symbol : Symbol) : Set Nat :=
  {place | ∃ state, Leaves states block place state ∧ state.symbol = symbol}

structure Folds (dfa : Dfa) (states : List State) : Prop where
  size : dfa.automaton.size = (owners states).length + 1
  start : dfa.automaton.start = 0
  ids : ∀ block id, id ∈ (dfa.blockAt block).ids ↔
    (∃ index, (owners states)[index]? = some id ∧ block = index + 1) ∨
      ∃ place state, Arrives states block place state ∧ state.symbol = .epsilon ∧ state.id = id
  ascending : ∀ block, (dfa.blockAt block).ids.Pairwise (· < ·)
  accepting : ∀ block, dfa.isAccepting block = true ↔
    ∃ place state, Arrives states block place state ∧ state.accepting = true
  /-- Of the places at which a character leaves the block, the last one decides. -/
  arrows : ∀ block arrow, arrow ∈ dfa.arrowsOf block ↔
    arrow.symbol ≠ .epsilon ∧ ∃ place, IsGreatest (departures states block arrow.symbol) place ∧
      blockAfter states (place + 1) = arrow.target

section Append

variable {states : List State} {state : State}

theorem entered_append_of_silent (silent : state.symbol = .epsilon) :
    entered (states ++ [state]) = entered states := by
  rw [entered, List.filter_append, List.filter_cons_of_neg (by simp [silent])]
  exact List.append_nil _

theorem entered_append_of_reading (reads : state.symbol ≠ .epsilon) :
    entered (states ++ [state]) = entered states ++ [state] := by
  rw [entered, List.filter_append, List.filter_cons_of_pos (by simpa using reads)]
  rfl

theorem owners_append (states : List State) (state : State) :
    owners (states ++ [state]) =
      if state.symbol = .epsilon ∨ state.id ∈ owners states then owners states
      else owners states ++ [state.id] := by
  by_cases silent : state.symbol = .epsilon
  · rw [owners, entered_append_of_silent silent, if_pos (.inl silent)]
    rfl
  · rw [owners, entered_append_of_reading silent, List.map_append]
    simp only [List.map_singleton, eraseDups_concat, silent, false_or, owners, List.mem_eraseDups]

theorem id_mem_owners {member : State} (present : member ∈ states)
    (reads : member.symbol ≠ .epsilon) : member.id ∈ owners states :=
  List.mem_eraseDups.mpr
    (List.mem_map_of_mem (List.mem_filter.mpr ⟨present, decide_eq_true reads⟩))

theorem idxOf_owners_append {id : Nat} (owner : id ∈ owners states) :
    (owners (states ++ [state])).idxOf id = (owners states).idxOf id := by
  rw [owners_append]
  split
  · rfl
  · exact List.idxOf_append_of_mem owner

theorem blockAfter_append {count : Nat} (inside : count ≤ states.length) :
    blockAfter (states ++ [state]) count = blockAfter states count := by
  rw [blockAfter, blockAfter, List.take_append_of_le_length inside]
  cases last : (entered (states.take count)).getLast? with
  | none => rfl
  | some found =>
      have member := List.mem_filter.mp (List.mem_of_getLast? last)
      have owner : found.id ∈ owners states :=
        id_mem_owners (List.mem_of_mem_take member.1) (of_decide_eq_true member.2)
      exact congrArg (· + 1) (idxOf_owners_append owner)

theorem blockAfter_append_length (states : List State) (state : State) :
    blockAfter (states ++ [state]) (states.length + 1) =
      if state.symbol = .epsilon then blockAfter states states.length
      else (owners (states ++ [state])).idxOf state.id + 1 := by
  have all : (states ++ [state]).take (states.length + 1) = states ++ [state] :=
    List.take_of_length_le (Nat.le_of_eq List.length_append)
  by_cases silent : state.symbol = .epsilon
  · rw [if_pos silent, ← @blockAfter_append states state _ (Nat.le_refl _), blockAfter, blockAfter,
      all, List.take_left, entered_append_of_silent silent]
  · rw [if_neg silent, blockAfter, all, entered_append_of_reading silent, List.getLast?_concat]

theorem arrives_append {block place : Nat} {found : State} :
    Arrives (states ++ [state]) block place found ↔
      Arrives states block place found ∨
        place = states.length ∧ found = state ∧
          blockAfter (states ++ [state]) (states.length + 1) = block := by
  rw [Arrives, Arrives, getElem?_concat_eq_some]
  constructor
  · rintro ⟨present | ⟨rfl, rfl⟩, walked⟩
    · have inside := (List.getElem?_eq_some_iff.mp present).1
      rw [blockAfter_append inside] at walked
      exact .inl ⟨present, walked⟩
    · exact .inr ⟨rfl, rfl, walked⟩
  · rintro (⟨present, walked⟩ | ⟨rfl, rfl, walked⟩)
    · have inside := (List.getElem?_eq_some_iff.mp present).1
      exact ⟨.inl present, by rwa [blockAfter_append inside]⟩
    · exact ⟨.inr ⟨rfl, rfl⟩, walked⟩

theorem leaves_append {block place : Nat} {found : State} :
    Leaves (states ++ [state]) block place found ↔
      Leaves states block place found ∨
        place = states.length ∧ found = state ∧ blockAfter states states.length = block := by
  rw [Leaves, Leaves, getElem?_concat_eq_some]
  constructor
  · rintro ⟨present | ⟨rfl, rfl⟩, walked⟩
    · have inside := (List.getElem?_eq_some_iff.mp present).1
      rw [blockAfter_append (Nat.le_of_lt inside)] at walked
      exact .inl ⟨present, walked⟩
    · rw [blockAfter_append (Nat.le_refl _)] at walked
      exact .inr ⟨rfl, rfl, walked⟩
  · rintro (⟨present, walked⟩ | ⟨rfl, rfl, walked⟩)
    · have inside := (List.getElem?_eq_some_iff.mp present).1
      exact ⟨.inl present, by rwa [blockAfter_append (Nat.le_of_lt inside)]⟩
    · exact ⟨.inr ⟨rfl, rfl⟩, by rwa [blockAfter_append (Nat.le_refl _)]⟩

theorem getElem?_owners_append {index id : Nat} :
    (owners (states ++ [state]))[index]? = some id ↔
      (owners states)[index]? = some id ∨
        (state.symbol ≠ .epsilon ∧ state.id ∉ owners states) ∧
          index = (owners states).length ∧ id = state.id := by
  rw [owners_append]
  split
  next kept => simp [not_and_of_not_or_not, kept]
  next new =>
    rw [getElem?_concat_eq_some]
    simp only [ne_eq, not_or.mp new, not_false_eq_true, and_self, true_and]

theorem lt_of_mem_departures {block place : Nat} {symbol : Symbol}
    (departs : place ∈ departures states block symbol) : place < states.length := by
  rcases departs with ⟨found, ⟨present, _⟩, _⟩
  exact (List.getElem?_eq_some_iff.mp present).1

theorem mem_departures_append {block place : Nat} {symbol : Symbol} :
    place ∈ departures (states ++ [state]) block symbol ↔
      place ∈ departures states block symbol ∨
        place = states.length ∧ blockAfter states states.length = block ∧
          state.symbol = symbol := by
  constructor
  · rintro ⟨found, leaves, led⟩
    rcases leaves_append.mp leaves with before | ⟨here, rfl, walked⟩
    · exact .inl ⟨found, before, led⟩
    · exact .inr ⟨here, walked, led⟩
  · rintro (⟨found, before, led⟩ | ⟨here, walked, led⟩)
    · exact ⟨found, leaves_append.mpr (.inl before), led⟩
    · exact ⟨state, leaves_append.mpr (.inr ⟨here, rfl, walked⟩), led⟩

end Append

namespace Walk

structure Follows (walk : Walk) (states : List State) : Prop where
  owners : walk.owners = Dfa.owners states
  current : walk.current = blockAfter states states.length
  folds : walk.dfa.Folds states

theorem blockAt_start (index : Nat) : start.dfa.blockAt index = blank := by
  cases index with
  | zero => rfl
  | succ index => rfl

theorem folds_start : start.dfa.Folds [] where
  size := rfl
  start := rfl
  ids block id := by
    simp [blockAt_start, blank, Dfa.owners, entered, Arrives]
  ascending block := by
    rw [blockAt_start]
    exact List.Pairwise.nil
  accepting block := by
    simp [isAccepting_eq_blockAt, blockAt_start, blank, Arrives]
  arrows block arrow := by
    rw [mem_arrowsOf_iff, blockAt_start]
    constructor
    · exact fun leaves => absurd leaves (ArrowSet.not_mem_empty arrow)
    · rintro ⟨_, place, last, _⟩
      exact absurd (lt_of_mem_departures last.1) (Nat.not_lt_zero place)

theorem follows_start : start.Follows [] := ⟨rfl, rfl, folds_start⟩

section Step

variable {walk : Walk} {states : List State}

theorem Follows.owners_step (follows : walk.Follows states) (state : State) :
    (walk.step state).owners = Dfa.owners (states ++ [state]) := by
  rw [Walk.owners_step, owners_append, ownersWith, follows.owners]
  by_cases silent : state.symbol = .epsilon
  · rw [if_pos silent, if_pos (.inl silent)]
  · simp only [silent, false_or, if_false]

theorem Follows.current_step (follows : walk.Follows states) (state : State) :
    (walk.step state).current = blockAfter (states ++ [state]) (states.length + 1) := by
  have stepped := follows.owners_step state
  rw [Walk.owners_step] at stepped
  rw [Walk.current_step, blockAfter_append_length, follows.current]
  by_cases silent : state.symbol = .epsilon
  · rw [if_pos silent, if_pos silent]
  · rw [if_neg silent] at stepped
    rw [if_neg silent, if_neg silent, stepped]

theorem Follows.current_step_of_new (follows : walk.Follows states) {state : State}
    (reads : state.symbol ≠ .epsilon) (new : state.id ∉ Dfa.owners states) :
    (walk.step state).current = (Dfa.owners states).length + 1 := by
  rw [Walk.current_step, if_neg reads, ownersWith, follows.owners, if_neg new, List.idxOf_append,
    if_neg new, List.idxOf_cons_self, Nat.zero_add]

theorem Follows.mem_ids_step (follows : walk.Follows states) (sound : walk.Sound) (state : State)
    {block id : Nat} :
    id ∈ ((walk.step state).dfa.blockAt block).ids ↔
      (∃ index, (Dfa.owners (states ++ [state]))[index]? = some id ∧ block = index + 1) ∨
        ∃ place found, Arrives (states ++ [state]) block place found ∧
          found.symbol = .epsilon ∧ found.id = id := by
  simp only [Walk.mem_ids_step state sound, follows.folds.ids, getElem?_owners_append,
    arrives_append, follows.owners, follows.current_step]
  constructor
  · rintro ((⟨index, owner, here⟩ | ⟨place, found, arrives, joined⟩) | ⟨joins, here, rfl⟩)
    · exact .inl ⟨index, .inl owner, here⟩
    · exact .inr ⟨place, found, .inl arrives, joined⟩
    · by_cases silent : state.symbol = .epsilon
      · exact .inr ⟨states.length, state, .inr ⟨rfl, rfl, here.symm⟩, silent, rfl⟩
      · have new := joins.resolve_left silent
        rw [← follows.current_step, follows.current_step_of_new silent new] at here
        exact .inl ⟨_, .inr ⟨⟨silent, new⟩, rfl, rfl⟩, here⟩
  · rintro (⟨index, owner | ⟨⟨reads, new⟩, rfl, rfl⟩, here⟩ |
      ⟨place, found, arrives | ⟨rfl, rfl, here⟩, silent, rfl⟩)
    · exact .inl (.inl ⟨index, owner, here⟩)
    · rw [← follows.current_step, follows.current_step_of_new reads new]
      exact .inr ⟨.inr new, here, rfl⟩
    · exact .inl (.inr ⟨place, found, arrives, silent, rfl⟩)
    · exact .inr ⟨.inl silent, here.symm, rfl⟩

theorem Follows.accepting_step (follows : walk.Follows states) (sound : walk.Sound) (state : State)
    (block : Nat) :
    (walk.step state).dfa.isAccepting block = true ↔
      ∃ place found, Arrives (states ++ [state]) block place found ∧ found.accepting = true := by
  have before := follows.folds.accepting block
  rw [isAccepting_eq_blockAt] at before
  rw [isAccepting_eq_blockAt, Walk.accepting_step state sound, Bool.or_eq_true, before,
    Bool.and_eq_true, decide_eq_true_iff, follows.current_step]
  simp only [arrives_append]
  constructor
  · rintro (⟨place, found, arrives, accepts⟩ | ⟨accepts, here⟩)
    · exact ⟨place, found, .inl arrives, accepts⟩
    · exact ⟨states.length, state, .inr ⟨rfl, rfl, here.symm⟩, accepts⟩
  · rintro ⟨place, found, arrives | ⟨rfl, rfl, here⟩, accepts⟩
    · exact .inl ⟨place, found, arrives, accepts⟩
    · exact .inr ⟨accepts, here.symm⟩

theorem Follows.mem_arrows_step (follows : walk.Follows states) (sound : walk.Sound) (state : State)
    {block : Nat} {arrow : Arrow} :
    arrow ∈ (walk.step state).dfa.arrowsOf block ↔
      arrow.symbol ≠ .epsilon ∧ ∃ place,
        IsGreatest (departures (states ++ [state]) block arrow.symbol) place ∧
        blockAfter (states ++ [state]) (place + 1) = arrow.target := by
  rw [mem_arrowsOf_iff, Walk.mem_arrows_step state sound, ← mem_arrowsOf_iff, follows.folds.arrows,
    follows.current_step, follows.current]
  split
  next leaving =>
    rcases leaving with ⟨reads, here, same⟩
    have last : IsGreatest (departures (states ++ [state]) block arrow.symbol) states.length := by
      refine ⟨mem_departures_append.mpr (.inr ⟨rfl, here.symm, same.symm⟩), ?_⟩
      intro place departs
      have inside := lt_of_mem_departures departs
      rw [List.length_append, List.length_singleton] at inside
      exact Nat.le_of_lt_succ inside
    constructor
    · intro target
      exact ⟨same ▸ reads, states.length, last, target.symm⟩
    · rintro ⟨_, place, greatest, target⟩
      rw [greatest.unique last] at target
      exact target.symm
  next staying =>
    refine and_congr_right fun reads => ?_
    have unchanged : departures (states ++ [state]) block arrow.symbol =
        departures states block arrow.symbol := by
      ext place
      rw [mem_departures_append, or_iff_left]
      rintro ⟨_, here, same⟩
      exact staying ⟨same ▸ reads, here.symm, same.symm⟩
    rw [unchanged]
    refine exists_congr fun place => and_congr_right fun greatest => ?_
    rw [blockAfter_append (lt_of_mem_departures greatest.1)]

theorem Follows.step (follows : walk.Follows states) (sound : walk.Sound) (state : State) :
    (walk.step state).Follows (states ++ [state]) where
  owners := follows.owners_step state
  current := by
    rw [follows.current_step, List.length_append, List.length_singleton]
  folds :=
    { size := by
        rw [← follows.owners_step]
        exact (sound.step state).owners
      start := rfl
      ids _ _ := follows.mem_ids_step sound state
      ascending := by
        apply pairwise_ids_step state sound follows.folds.ascending
      accepting := follows.accepting_step sound state
      arrows _ _ := follows.mem_arrows_step sound state }

end Step

theorem follows_foldl_step (states : List State) :
    (states.foldl Walk.step start).Follows states := by
  induction states using List.reverseRecOn with
  | nil => exact follows_start
  | append_singleton states state ih =>
      rw [List.foldl_append]
      exact ih.step (sound_foldl_step sound_start states) state

end Walk

/-- Whatever the trace, with ids that come again, epsilon anywhere and any states accepting, its
blocks are those that its places tell. -/
theorem folds_ofTrace (states : List State) : (ofTrace states).Folds states :=
  (Walk.follows_foldl_step states).folds

/-- The first id comes again, and then the same letter leads to another block. -/
example :
    let states : List State := [⟨1, false, .char 'a', ∅⟩, ⟨2, false, .char 'b', ∅⟩,
      ⟨1, false, .char 'a', ∅⟩, ⟨3, true, .char 'b', ∅⟩]
    (ofTrace states).arrowsOf 1 = [⟨.char 'b', 3⟩] ∧
      (ofTrace states).arrowsOf 2 = [⟨.char 'a', 1⟩] := by
  decide +kernel

end TracingLexer.Dfa
