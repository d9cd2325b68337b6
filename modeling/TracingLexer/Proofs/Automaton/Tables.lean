import TracingLexer.Automaton.Tables
import TracingLexer.Proofs.Automaton.Steps

namespace TracingLexer

namespace Table

variable {Entry : Type}

theorem read_of_getElem? {table : List Entry} {number : Nat} {entry : Entry}
    (present : table[number]? = some entry) : read table number = .ok entry := by
  rw [read, present]

theorem read_map {Item : Type} {items : List Item} {number : Nat} {item : Item}
    (present : items[number]? = some item) (view : Item → Entry) :
    read (items.map view) number = .ok (view item) := by
  apply read_of_getElem?
  rw [List.getElem?_map, present, Option.map_some]

theorem change_of_lt {table : List Entry} {number : Nat} (inside : number < table.length)
    (update : Entry → Entry) : change table number update = .ok (table.modify number update) :=
  if_pos inside

theorem change_append (front : List Entry) (entry : Entry) (back : List Entry)
    (update : Entry → Entry) :
    change (front ++ entry :: back) front.length update = .ok (front ++ update entry :: back) := by
  have inside : front.length < (front ++ entry :: back).length := by
    rw [List.length_append, List.length_cons]
    omega
  rw [change_of_lt inside, List.modify_eq_take_cons_drop inside, List.take_left]
  simp

end Table

def Nfa.tables (nfa : Nfa) : NfaTables where
  ids := nfa.positions.map Position.id
  symbols := nfa.positions.map Position.symbol
  arrows := nfa.positions.map Position.arrows
  accepting := nfa.positions.map Position.accepting

namespace NfaTables

open Nfa (lastWithId? positionsFrom)

theorem lookup_filter_of_ne {id key : Nat} (other : id ≠ key) (places : List (Nat × Nat)) :
    (places.filter (·.1 ≠ key)).lookup id = places.lookup id := by
  induction places with
  | nil => rfl
  | cons entry places ih =>
      rcases entry with ⟨name, place⟩
      by_cases same : name = key
      · rw [List.filter_cons_of_neg (by simpa using same), ih, List.lookup_cons,
          beq_eq_false_iff_ne.mpr (same ▸ other)]
      · rw [List.filter_cons_of_pos (by simpa using same), List.lookup_cons, List.lookup_cons, ih]

theorem lookup_cons_filter (id key place : Nat) (places : List (Nat × Nat)) :
    ((key, place) :: places.filter (·.1 ≠ key)).lookup id =
      if id = key then some place else places.lookup id := by
  rw [List.lookup_cons]
  by_cases same : id = key
  · rw [if_pos same, beq_iff_eq.mpr same]
  · rw [if_neg same, beq_eq_false_iff_ne.mpr same, lookup_filter_of_ne same]

theorem lookup_foldl (id first : Nat) (rest : List State) (places : List (Nat × Nat)) :
    ((rest.zipIdx first).foldl
        (fun places (state, place) => (state.id, place) :: places.filter (·.1 ≠ state.id))
        places).lookup id =
      ((lastWithId? id rest).map (first + ·)).or (places.lookup id) := by
  induction rest generalizing first places with
  | nil => rfl
  | cons state rest ih =>
      rw [List.zipIdx_cons, List.foldl_cons, ih, lookup_cons_filter, lastWithId?]
      cases lastWithId? id rest with
      | some index => simp [Nat.add_assoc, Nat.add_comm 1 index]
      | none =>
          by_cases same : state.id = id
          · simp [same]
          · simp [same, Ne.symm same]

theorem lookup_placesById (id : Nat) (states : List State) :
    (placesById states).lookup id = lastWithId? id states := by
  rw [placesById, lookup_foldl]
  simp

theorem filterMap_lead? (states : List State) (state : State) :
    state.arrows.toList.filterMap (lead? (placesById states)) =
      Nfa.recordedArrows states state := by
  rw [Nfa.recordedArrows]
  congr 1
  funext arrow
  rw [lead?, lookup_placesById]

theorem addArrows_append (front : List ArrowSet) (row : ArrowSet) (back : List ArrowSet)
    (arrows : List Arrow) :
    addArrows (front ++ row :: back) front.length arrows =
      .ok (front ++ row.insertAll arrows :: back) := by
  induction arrows generalizing row with
  | nil => rfl
  | cons arrow arrows ih =>
      rw [addArrows, List.foldlM_cons, Table.change_append]
      exact ih (row.insert arrow)

theorem enter_append {states : List State} {rows rowsBehind : List ArrowSet}
    {marks marksBehind : List Bool} {state : State} (even : marks.length = rows.length) :
    enter states (placesById states) (rows ++ ∅ :: rowsBehind, marks ++ false :: marksBehind)
        (state, rows.length) =
      .ok (rows ++ (ArrowSet.empty.insertAll (Nfa.recordedArrows states state)).insertAll
          (states[rows.length + 1]?.toList.map fun next => ⟨next.symbol, rows.length + 1⟩) ::
            rowsBehind,
        marks ++ state.accepting :: marksBehind) := by
  have marked := Table.change_append marks false marksBehind fun _ => state.accepting
  rw [even] at marked
  simp only [enter, filterMap_lead?, addArrows_append, bind, Except.bind, marked]
  rfl

theorem foldlM_enter {states done rest : List State} (split : states = done ++ rest)
    {rows : List ArrowSet} {marks : List Bool} (rowsEven : rows.length = done.length)
    (marksEven : marks.length = done.length) :
    (rest.zipIdx done.length).foldlM (enter states (placesById states))
        (rows ++ List.replicate rest.length ∅, marks ++ List.replicate rest.length false) =
      .ok (rows ++ (positionsFrom states done.length rest).map Position.arrows,
        marks ++ (positionsFrom states done.length rest).map Position.accepting) := by
  induction rest generalizing done rows marks with
  | nil => rfl
  | cons state rest ih =>
      have next : states[rows.length + 1]? = rest.head? := by
        rw [split, rowsEven, List.getElem?_append_right (Nat.le_add_right _ 1),
          Nat.add_sub_cancel_left, List.getElem?_cons_succ, List.head?_eq_getElem?]
      have onward := @ih (done ++ [state]) (by rw [split, List.append_assoc]; rfl)
      have even : marks.length = rows.length := marksEven.trans rowsEven.symm
      rw [List.length_append, List.length_singleton] at onward
      rw [List.zipIdx_cons, List.foldlM_cons, List.length_cons, List.replicate_succ,
        List.replicate_succ, ← rowsEven, enter_append even, next, rowsEven, positionsFrom]
      simp only [bind, Except.bind]
      rw [List.append_cons rows, List.append_cons marks,
        onward (by simp [rowsEven]) (by simp [marksEven])]
      simp only [List.map_cons, List.append_assoc, List.singleton_append]

/-- The tables of a trace are filled without a number past their end, with the parts of the
positions. -/
theorem ofTrace_eq (states : List State) : ofTrace states = .ok (Nfa.ofTrace states).tables := by
  have filled := @foldlM_enter states [] states rfl [] [] rfl rfl
  simp only [List.nil_append, List.length_nil] at filled
  simp only [ofTrace, bind, Except.bind, filled, Nfa.tables, Nfa.ofTrace]
  rw [Nfa.map_positionsFrom Position.id State.id fun _ _ => rfl,
    Nfa.map_positionsFrom Position.symbol State.symbol fun _ _ => rfl]
  rfl

end NfaTables

def Dfa.tables (dfa : Dfa) : DfaTables where
  ids := dfa.blocks.map Block.ids
  arrows := dfa.blocks.map Block.arrows
  accepting := dfa.blocks.map Block.accepting

namespace Dfa.Walk

variable {walk : Walk}

def draft (walk : Walk) : DfaTables.Draft where
  tables := walk.dfa.tables
  numbers := ([], 0) :: walk.owners.zipIdx.map fun (id, index) => ([id], index + 1)
  current := walk.current

theorem map_blocks_update {View : Type} (view : Block → View) {change : Block → Block}
    {update : View → View} (agrees : ∀ block, view (change block) = update (view block)) :
    (walk.update change).blocks.map view = (walk.blocks.map view).modify walk.current update := by
  apply List.ext_getElem?
  intro index
  rw [Walk.update, List.getElem?_map, List.getElem?_modify, List.getElem?_modify,
    List.getElem?_map]
  cases walk.blocks[index]? with
  | none => rfl
  | some block =>
      by_cases here : walk.current = index
      · simp [here, agrees]
      · simp [here]

theorem map_blocks_update_of_same {View : Type} (view : Block → View) {change : Block → Block}
    (same : ∀ block, view (change block) = view block) :
    (walk.update change).blocks.map view = walk.blocks.map view := by
  rw [@map_blocks_update walk View view change id same, List.modify_id]

theorem Sound.change_map_blocks {View : Type} (sound : walk.Sound) (view : Block → View)
    (change : Block → Block) {update : View → View}
    (agrees : ∀ block, view (change block) = update (view block)) :
    Table.change (walk.blocks.map view) walk.current update =
      .ok ((walk.update change).blocks.map view) := by
  have inside : walk.current < (walk.blocks.map view).length := by
    rw [List.length_map]
    exact sound.current
  rw [Table.change_of_lt inside, map_blocks_update view agrees]

theorem draft_update (walk : Walk) (change : Block → Block) :
    (walk.update change).draft =
      { walk.draft with
        tables :=
          ⟨(walk.update change).blocks.map Block.ids, (walk.update change).blocks.map Block.arrows,
            (walk.update change).blocks.map Block.accepting⟩ } := rfl

theorem lookup_owners (id first : Nat) (owners : List Nat) :
    ((owners.zipIdx first).map fun (owner, index) => ([owner], index + 1)).lookup [id] =
      (owners.idxOf? id).map (first + · + 1) := by
  induction owners generalizing first with
  | nil => rfl
  | cons owner owners ih =>
      rw [List.zipIdx_cons, List.map_cons, List.lookup_cons, List.idxOf?_cons, ih]
      by_cases same : id = owner
      · simp [same]
      · have apart : ([id] == [owner]) = false := by simpa using same
        rw [apart, if_neg (by simpa using Ne.symm same), Option.map_map]
        simp [Function.comp_def, Nat.add_assoc, Nat.add_comm 1]

theorem stateOf_draft (sound : walk.Sound) (id : Nat) :
    walk.draft.stateOf [id] = ((walk.blockOf id).1, (walk.blockOf id).2.draft) := by
  have known : walk.draft.numbers.lookup [id] = (walk.owners.idxOf? id).map (· + 1) := by
    rw [draft, List.lookup_cons]
    simpa using lookup_owners id 0 walk.owners
  rw [DfaTables.Draft.stateOf, known, blockOf]
  cases walk.owners.idxOf? id with
  | some index => rfl
  | none =>
      simp [sound.owners, draft, DfaTables.add, dfa, Dfa.tables, List.zipIdx_append]

theorem join_draft (sound : walk.Sound) (id : Nat) :
    walk.draft.join id = .ok (walk.join id).draft := by
  let change (block : Block) : Block := { block with ids := insertId id block.ids }
  have ids := sound.change_map_blocks Block.ids change fun _ => rfl
  have arrows := @map_blocks_update_of_same walk _ Block.arrows change fun _ => rfl
  have accepting := @map_blocks_update_of_same walk _ Block.accepting change fun _ => rfl
  rw [join, draft_update, arrows, accepting]
  simp only [DfaTables.Draft.join, bind, Except.bind, draft, dfa, Dfa.tables, ids]
  rfl

theorem accept_draft (sound : walk.Sound) : walk.draft.accept = .ok walk.accept.draft := by
  let change (block : Block) : Block := { block with accepting := true }
  have ids := @map_blocks_update_of_same walk _ Block.ids change fun _ => rfl
  have arrows := @map_blocks_update_of_same walk _ Block.arrows change fun _ => rfl
  have accepting := @Sound.change_map_blocks walk _ sound Block.accepting change (fun _ => true)
    fun _ => rfl
  rw [accept, draft_update, ids, arrows]
  simp only [DfaTables.Draft.accept, bind, Except.bind, draft, dfa, Dfa.tables, accepting]
  rfl

theorem follow_draft (sound : walk.Sound) (symbol : Symbol) (id : Nat) :
    walk.draft.follow symbol id = .ok (walk.follow symbol id).draft := by
  rcases found : walk.blockOf id with ⟨target, grown⟩
  have grownSound : grown.Sound := by
    have kept := (sound.blockOf id).1
    rwa [found] at kept
  let change (block : Block) : Block :=
    { block with arrows := block.arrows.redirect ⟨symbol, target⟩ }
  have ids := @map_blocks_update_of_same grown _ Block.ids change fun _ => rfl
  have arrows := @Sound.change_map_blocks grown _ grownSound Block.arrows change
    (·.redirect ⟨symbol, target⟩) fun _ => rfl
  have accepting := @map_blocks_update_of_same grown _ Block.accepting change fun _ => rfl
  have linked : (walk.follow symbol id).draft =
      { (grown.update change).draft with current := target } := by
    rw [follow, found]
    rfl
  rw [DfaTables.Draft.follow, stateOf_draft sound, found, linked, draft_update, ids, accepting]
  simp only [bind, Except.bind, draft, dfa, Dfa.tables, arrows]
  rfl

theorem step_draft (sound : walk.Sound) (state : State) :
    walk.draft.step state = .ok (walk.step state).draft := by
  rw [DfaTables.Draft.step]
  cases reads : state.symbol with
  | epsilon =>
      have moved : (walk.join state.id).Sound := sound.update sound.arrows
      rw [step_of_silent reads, acceptIf]
      simp only [join_draft sound, bind, Except.bind]
      split
      · exact accept_draft moved
      · rfl
  | char c =>
      have moved : (walk.follow (.char c) state.id).Sound := sound.follow (by simp) state.id
      rw [step_of_reading reads, acceptIf]
      simp only [follow_draft sound, bind, Except.bind]
      split
      · exact accept_draft moved
      · rfl

theorem foldlM_step_draft (sound : walk.Sound) (states : List State) :
    states.foldlM DfaTables.Draft.step walk.draft = .ok (states.foldl Walk.step walk).draft := by
  induction states generalizing walk with
  | nil => rfl
  | cons state states ih =>
      rw [List.foldlM_cons, step_draft sound]
      exact ih (sound.step state)

end Dfa.Walk

namespace DfaTables

theorem ofTrace_eq (states : List State) : ofTrace states = .ok (Dfa.ofTrace states).tables := by
  have filled := Dfa.Walk.foldlM_step_draft Dfa.Walk.sound_start states
  have started : Dfa.Walk.start.draft = Draft.start := rfl
  rw [ofTrace, ← started, filled]
  rfl

end DfaTables
end TracingLexer
