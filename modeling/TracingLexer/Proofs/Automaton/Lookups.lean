import TracingLexer.Proofs.Automaton.Tables

namespace TracingLexer

namespace DfaTables

structure Marks (visited : List Bool) (size : Nat) (fresh : List Nat) : Prop where
  length : visited.length = size
  unvisited : ∀ state, state ∈ fresh ↔ visited[state]? = some false
  distinct : fresh.Nodup

section Visit

variable {visited : List Bool} {size : Nat} {fresh : List Nat}

theorem marks_replicate (size : Nat) :
    Marks (List.replicate size false) size (List.range size) where
  length := List.length_replicate
  unvisited state := by
    rw [List.mem_range, List.getElem?_replicate]
    simp
  distinct := List.nodup_range

theorem Marks.set (marks : Marks visited size fresh) (state : Nat) :
    Marks (visited.set state true) size (fresh.erase state) where
  length := List.length_set.trans marks.length
  unvisited other := by
    rw [marks.distinct.mem_erase_iff, marks.unvisited, List.getElem?_set]
    split
    next same => simp [same]
    next apart => simp [Ne.symm apart]
  distinct := marks.distinct.erase state

theorem Marks.getElem?_of_notMem (marks : Marks visited size fresh) {state : Nat}
    (below : state < size) (known : state ∉ fresh) : visited[state]? = some true := by
  have inside : state < visited.length := marks.length.symm ▸ below
  rw [marks.unvisited, List.getElem?_eq_getElem inside] at known
  rw [List.getElem?_eq_getElem inside]
  cases entry : visited[state] with
  | true => rfl
  | false => exact absurd (congrArg some entry) known

theorem Marks.unvisited_eq (marks : Marks visited size fresh) {states : List Nat}
    (below : ∀ state ∈ states, state < size) :
    DfaTables.unvisited visited states = .ok (states.filter (· ∈ fresh)) := by
  induction states with
  | nil => rfl
  | cons state states ih =>
      rw [List.forall_mem_cons] at below
      by_cases isFresh : state ∈ fresh
      · have entry := Table.read_of_getElem? ((marks.unvisited state).mp isFresh)
        rw [DfaTables.unvisited, entry, ih below.2,
          List.filter_cons_of_pos (by simpa using isFresh)]
        rfl
      · have entry := Table.read_of_getElem? (marks.getElem?_of_notMem below.1 isFresh)
        rw [DfaTables.unvisited, entry, ih below.2,
          List.filter_cons_of_neg (by simpa using isFresh)]
        rfl

theorem visit_of_visited {rows : List ArrowSet} {state : Nat} {queue : List Nat}
    (known : visited[state]? = some true) :
    visit rows visited (state :: queue) = visit rows visited queue := by
  rw [visit]
  split <;> simp_all

theorem visit_of_unvisited {rows : List ArrowSet} {row : ArrowSet} {state : Nat}
    {queue behind : List Nat} (unknown : visited[state]? = some false)
    (present : rows[state]? = some row)
    (waits : unvisited (visited.set state true) (row.toList.map Arrow.target) = .ok behind) :
    visit rows visited (state :: queue) =
      (visit rows (visited.set state true) (queue ++ behind)).map (state :: ·) := by
  rw [visit]
  split
  · simp_all
  · simp_all
  · rw [Table.read_of_getElem? present]
    simp only [bind, Except.bind, waits]
    rfl

/-- Where the arrows stay below the size, the search finds a mark and a row for each number that
waits. -/
theorem Marks.visit_eq {rows : List ArrowSet} {successors : Nat → List Nat} {queue : List Nat}
    (marks : Marks visited size fresh)
    (listed : ∀ state < size, ∃ row, rows[state]? = some row ∧
      successors state = row.toList.map Arrow.target)
    (bounded : ∀ state < size, ∀ target ∈ successors state, target < size)
    (below : ∀ state ∈ queue, state < size) :
    visit rows visited queue = .ok (Search.visit successors fresh queue) := by
  fun_induction Search.visit successors fresh queue generalizing visited with
  | case1 fresh => rw [visit]
  | case2 fresh state queue isFresh left =>
      rename_i ih
      rw [List.forall_mem_cons] at below
      obtain ⟨row, present, leads⟩ := listed state below.1
      have behind := (marks.set state).unvisited_eq (bounded state below.1)
      have onward := ih (marks.set state) (by
        intro other waits
        rcases List.mem_append.mp waits with queued | added
        · exact below.2 other queued
        · exact bounded state below.1 other (List.mem_filter.mp added).1)
      rw [leads] at behind onward
      rw [visit_of_unvisited ((marks.unvisited state).mp isFresh) present behind, onward, leads]
      rfl
  | case3 fresh state queue known ih =>
      rw [List.forall_mem_cons] at below
      rw [visit_of_visited (marks.getElem?_of_notMem below.1 known)]
      exact ih marks below.2

end Visit

theorem mem_fresh_of_mem_visit {successors : Nat → List Nat} {queue : List Nat} {state : Nat}
    (found : state ∈ Search.visit successors fresh queue) : state ∈ fresh := by
  fun_induction Search.visit successors fresh queue with
  | case1 fresh => exact absurd found List.not_mem_nil
  | case2 fresh first queue isFresh left ih =>
      rcases List.mem_cons.mp found with rfl | later
      · exact isFresh
      · exact List.mem_of_mem_erase (ih later)
  | case3 fresh first queue known ih => exact ih found

section Blocks

variable {dfa : Dfa} {number : Nat} {block : Block}

theorem arrowsOf_eq (present : dfa.blocks[number]? = some block) :
    dfa.arrowsOf number = block.arrows.toList := by
  rw [Dfa.arrowsOf, present]
  rfl

theorem row_eq (present : dfa.blocks[number]? = some block) :
    dfa.tables.row number = .ok (dfa.arrowsOf number, Dfa.label number) := by
  have arrows : Table.read dfa.tables.arrows number = .ok block.arrows :=
    Table.read_map present Block.arrows
  rw [row, arrows, arrowsOf_eq present]
  rfl

theorem lines_eq (present : dfa.blocks[number]? = some block) :
    dfa.tables.lines number = .ok (Listing.blockLines dfa number) := by
  have arrows : Table.read dfa.tables.arrows number = .ok block.arrows :=
    Table.read_map present Block.arrows
  have accepting : dfa.tables.accepting.getD number false = dfa.isAccepting number := by
    rw [Dfa.isAccepting, List.getD_eq_getElem?_getD, Dfa.tables, List.getElem?_map]
  rw [lines, arrows, accepting, Listing.blockLines, arrowsOf_eq present]
  rfl

end Blocks

theorem reachable_eq (states : List State) :
    (Dfa.ofTrace states).tables.reachable = .ok (Dfa.ofTrace states).reachable := by
  have size : (Dfa.ofTrace states).tables.ids.length = (Dfa.ofTrace states).blocks.length :=
    List.length_map _
  have started : 0 < (Dfa.ofTrace states).blocks.length :=
    Nat.zero_lt_of_lt (Dfa.Walk.sound_foldl_step Dfa.Walk.sound_start states).current
  have nonempty : (Dfa.ofTrace states).tables.ids.isEmpty = false := by
    rw [List.isEmpty_eq_false_iff, ← List.length_pos_iff, size]
    exact started
  rw [reachable, nonempty, size]
  apply (marks_replicate _).visit_eq
  · intro number inside
    have present := List.getElem?_eq_getElem inside
    refine ⟨_, ?_, congrArg (List.map Arrow.target) (arrowsOf_eq present)⟩
    rw [Dfa.tables, List.getElem?_map, present, Option.map_some]
  · intro number _ target led
    obtain ⟨arrow, leaves, rfl⟩ := List.mem_map.mp led
    exact (Dfa.leadsBelow_of_mem_arrowsOf leaves).2
  · intro number waits
    rw [List.mem_singleton.mp waits]
    exact started

theorem mapM_lines (states : List State) :
    (Dfa.ofTrace states).reachable.mapM (Dfa.ofTrace states).tables.lines =
      .ok ((Dfa.ofTrace states).reachable.map (Listing.blockLines (Dfa.ofTrace states))) := by
  apply mapM_eq_ok
  intro number found
  exact lines_eq (List.getElem?_eq_getElem (List.mem_range.mp (mem_fresh_of_mem_visit found)))

end DfaTables

namespace NfaTables

section Positions

variable {nfa : Nfa} {place : Nat} {position : Position}

theorem row_eq (present : nfa.positions[place]? = some position) :
    nfa.tables.row place = .ok (position.arrows.toList, s!"q{position.id}") := by
  have arrows : Table.read nfa.tables.arrows place = .ok position.arrows :=
    Table.read_map present Position.arrows
  have id : Table.read nfa.tables.ids place = .ok position.id :=
    Table.read_map present Position.id
  rw [row, arrows, id]
  rfl

theorem lines_eq (present : nfa.positions[place]? = some position)
    (inside : ∀ arrow ∈ position.arrows.toList, arrow.target < nfa.positions.length) :
    nfa.tables.lines place = .ok (Listing.positionLines nfa position) := by
  have symbol : Table.read nfa.tables.symbols place = .ok position.symbol :=
    Table.read_map present Position.symbol
  have accepting : Table.read nfa.tables.accepting place = .ok position.accepting :=
    Table.read_map present Position.accepting
  have id : Table.read nfa.tables.ids place = .ok position.id :=
    Table.read_map present Position.id
  have arrows : Table.read nfa.tables.arrows place = .ok position.arrows :=
    Table.read_map present Position.arrows
  have leaving : (position.arrows.toList.mapM fun arrow => do
      return Listing.arrowLine arrow.symbol s!"q{← Table.read nfa.tables.ids arrow.target}") =
        Except.ok (position.arrows.toList.map fun arrow =>
          Listing.arrowLine arrow.symbol s!"q{Listing.idAt nfa arrow.target}") := by
    apply mapM_eq_ok
    intro arrow member
    have target := List.getElem?_eq_getElem (inside arrow member)
    have targetId : Table.read nfa.tables.ids arrow.target =
        .ok (Listing.idAt nfa arrow.target) := by
      rw [Listing.idAt, target]
      exact Table.read_map target Position.id
    rw [targetId]
    rfl
  rw [lines, symbol, accepting, id, arrows, Listing.positionLines]
  simp only [bind, Except.bind] at leaving ⊢
  rw [leaving]
  rfl

end Positions

theorem target_lt_of_mem_positions {states : List State} {place : Nat} {position : Position}
    (present : (Nfa.ofTrace states).positions[place]? = some position) {arrow : Arrow}
    (leaves : arrow ∈ position.arrows.toList) :
    arrow.target < (Nfa.ofTrace states).positions.length := by
  have listed : arrow ∈ (Nfa.ofTrace states).automaton.arrows place := by
    simpa [Nfa.automaton, present] using leaves
  rw [Nfa.ofTrace, Nfa.length_positionsFrom]
  exact Nfa.target_lt_of_mem_arrows listed

theorem mapM_lines (states : List State) :
    (List.range (Nfa.ofTrace states).tables.ids.length).mapM (Nfa.ofTrace states).tables.lines =
      .ok ((Nfa.ofTrace states).positions.map (Listing.positionLines (Nfa.ofTrace states))) := by
  have size : (Nfa.ofTrace states).tables.ids.length = (Nfa.ofTrace states).positions.length :=
    List.length_map _
  let linesAt (place : Nat) : List String :=
    ((Nfa.ofTrace states).positions[place]?.map
      (Listing.positionLines (Nfa.ofTrace states))).getD []
  have placed : (Nfa.ofTrace states).positions.map (Listing.positionLines (Nfa.ofTrace states)) =
      (List.range (Nfa.ofTrace states).positions.length).map linesAt := by
    apply map_eq_map_range
    intro place position present
    simp only [linesAt, present, Option.map_some, Option.getD_some]
  rw [size, placed]
  apply mapM_eq_ok
  intro place member
  have present := List.getElem?_eq_getElem (List.mem_range.mp member)
  rw [lines_eq present fun arrow leaves => target_lt_of_mem_positions present leaves]
  simp only [linesAt, present, Option.map_some, Option.getD_some]

end NfaTables

theorem Token.tabulate_eq (token : Token) : token.tabulate = .ok token.automataListing := by
  rw [tabulate, automataListing]
  split
  · rfl
  · simp only [NfaTables.ofTrace_eq, DfaTables.ofTrace_eq, DfaTables.reachable_eq, bind,
      Except.bind, NfaTables.mapM_lines, DfaTables.mapM_lines]
    rw [Listing.nfaLines, Listing.dfaLines, List.flatMap_def, List.flatMap_def]
    rfl

end TracingLexer
