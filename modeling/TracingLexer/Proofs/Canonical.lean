import TracingLexer.Proofs.Decoding
import TracingLexer.Proofs.Lists
import TracingLexer.Proofs.Scanner.Traces
import TracingLexer.TokenData

namespace TracingLexer

theorem Kind.title_injective : Function.Injective Kind.title := by
  intro left right
  cases left <;> cases right <;> decide

theorem Scope.name_injective : Function.Injective Scope.name := by
  intro left right
  cases left <;> cases right <;> decide

theorem Symbol.toJson_injective : Function.Injective Symbol.toJson := by
  intro left right same
  cases left <;> cases right <;> simp_all [toJson]

theorem Symbol.display_inj {left right : Symbol} (leftReads : left ≠ .epsilon)
    (rightReads : right ≠ .epsilon) (same : left.display = right.display) : left = right := by
  have texts := congrArg String.toList same
  unfold display at texts
  split at texts <;> split at texts <;> simp_all

namespace ArrowSet

def Plain (arrows : ArrowSet) : Prop := ∀ arrow ∈ arrows, arrow.symbol ≠ .epsilon

def ungroup (groups : List (Symbol × List Nat)) : List Arrow :=
  groups.flatMap fun (symbol, targets) => targets.map fun target => ⟨symbol, target⟩

theorem ungroup_group (arrows : List Arrow) : ungroup (bySymbol.group arrows) = arrows := by
  induction arrows with
  | nil => rfl
  | cons arrow arrows ih =>
      rw [bySymbol.group]
      split
      next symbol targets more grouped =>
        rw [grouped] at ih
        split
        next same => simpa [ungroup, same] using ih
        next => simpa [ungroup] using ih
      next grouped =>
        rw [grouped] at ih
        simpa [ungroup] using ih

theorem exists_of_mem_group {arrows : List Arrow} {entry : Symbol × List Nat}
    (member : entry ∈ bySymbol.group arrows) : ∃ arrow ∈ arrows, arrow.symbol = entry.1 := by
  induction arrows with
  | nil => simp [bySymbol.group] at member
  | cons arrow arrows ih =>
      rw [bySymbol.group] at member
      grind

theorem toJson_inj {left right : ArrowSet} (leftPlain : left.Plain) (rightPlain : right.Plain)
    (same : left.toJson = right.toJson) : left = right := by
  have plain : ∀ arrows : ArrowSet, arrows.Plain →
      ∀ entry ∈ arrows.bySymbol, entry.1 ≠ Symbol.epsilon := by
    intro arrows plain entry member
    rcases exists_of_mem_group member with ⟨arrow, present, symbol_eq⟩
    exact symbol_eq ▸ plain arrow present
  have groups : left.bySymbol = right.bySymbol := by
    refine eq_of_map_eq_map ?_ (plain left leftPlain) (plain right rightPlain)
      (Json.record.inj same)
    intro first second firstReads secondReads entries
    rw [Prod.mk.injEq, Json.list.injEq] at entries
    have targets := List.map_injective_iff.mpr (fun _ _ => Json.nat.inj) entries.2
    exact Prod.ext (Symbol.display_inj firstReads secondReads entries.1) targets
  have lists : left.toList = right.toList := by
    calc
      left.toList = ungroup left.bySymbol := (ungroup_group left.toList).symm
      _ = ungroup right.bySymbol := by rw [groups]
      _ = right.toList := ungroup_group right.toList
  cases left
  cases right
  rw [mk.injEq]
  exact lists

end ArrowSet

theorem State.toJson_inj {left right : State} (leftPlain : left.arrows.Plain)
    (rightPlain : right.arrows.Plain) (same : left.toJson = right.toJson) : left = right := by
  simp only [toJson, Json.record.injEq, List.cons.injEq, Prod.mk.injEq, Json.nat.injEq,
    Json.bool.injEq, true_and, and_true] at same
  rcases same with ⟨id_eq, accepting_eq, symbol_eq, arrows_eq⟩
  have symbols := Symbol.toJson_injective symbol_eq
  have arrows := ArrowSet.toJson_inj leftPlain rightPlain arrows_eq
  cases left
  cases right
  simp_all

/-- With an arrow that reads nothing the text is that of a letter, so plain arrows are needed. -/
example : State.toJson ⟨0, true, .char 'a', ArrowSet.insert ∅ ⟨.epsilon, 1⟩⟩ =
    State.toJson ⟨0, true, .char 'a', ArrowSet.insert ∅ ⟨.char 'ε', 1⟩⟩ := by
  rfl

def Token.Plain (token : Token) : Prop := ∀ state ∈ token.trace, state.arrows.Plain

theorem Token.toJson_inj {left right : Token} (leftPlain : left.Plain) (rightPlain : right.Plain)
    (same : left.toJson = right.toJson) : left = right := by
  simp only [toJson, statesToJson, Json.record.injEq, List.cons_append, List.cons.injEq,
    Prod.mk.injEq, Json.text.injEq, Json.list.injEq, true_and, List.nil_append] at same
  rcases same with ⟨title_eq, literal_eq, trace_eq, scope_eq⟩
  have kinds := Kind.title_injective title_eq
  have traces := eq_of_map_eq_map State.toJson_inj leftPlain rightPlain trace_eq
  have scopes : left.scope = right.scope := by
    cases leftScope : left.scope <;> cases rightScope : right.scope <;>
      simp_all [Scope.name_injective.eq_iff]
  cases left
  cases right
  simp_all

theorem tokens_eq_of_compact_eq {left right : List Token} (leftPlain : ∀ token ∈ left, token.Plain)
    (rightPlain : ∀ token ∈ right, token.Plain)
    (same : (tokensToJson left).compact = (tokensToJson right).compact) : left = right :=
  eq_of_map_eq_map Token.toJson_inj leftPlain rightPlain
    (Json.list.inj (Json.compact_injective same))

/-- A state as it comes about: first without arrows, which are then added one by one. -/
structure State.Draft where
  id : Nat
  accepting : Bool
  symbol : Symbol
  added : List Arrow

namespace State.Draft

def build (draft : Draft) : State :=
  draft.added.foldl State.addArrow
    { id := draft.id, accepting := draft.accepting, symbol := draft.symbol }

def Plain (draft : Draft) : Prop := ∀ arrow ∈ draft.added, arrow.symbol ≠ .epsilon

/-- The same arrows were added, in whatever order and however often, to states that were alike. -/
structure Agrees (left right : Draft) : Prop where
  id : left.id = right.id
  accepting : left.accepting = right.accepting
  symbol : left.symbol = right.symbol
  added : ∀ arrow, arrow ∈ left.added ↔ arrow ∈ right.added

theorem foldl_addArrow (state : State) (added : List Arrow) :
    added.foldl State.addArrow state = { state with arrows := state.arrows.insertAll added } := by
  induction added generalizing state with
  | nil => rfl
  | cons arrow added ih => rw [List.foldl_cons, ih]; rfl

theorem build_eq (draft : Draft) :
    draft.build = ⟨draft.id, draft.accepting, draft.symbol, ArrowSet.insertAll ∅ draft.added⟩ :=
  foldl_addArrow _ draft.added

theorem mem_arrows_build {draft : Draft} {arrow : Arrow} :
    arrow ∈ draft.build.arrows ↔ arrow ∈ draft.added := by
  simp [build_eq, ArrowSet.mem_insertAll]

theorem Plain.build {draft : Draft} (plain : draft.Plain) : draft.build.arrows.Plain :=
  fun arrow member => plain arrow (mem_arrows_build.mp member)

theorem build_eq_iff {left right : Draft} : left.build = right.build ↔ left.Agrees right := by
  constructor
  · intro same
    have fields := same
    rw [build_eq, build_eq, State.mk.injEq] at fields
    refine ⟨fields.1, fields.2.1, fields.2.2.1, ?_⟩
    intro arrow
    rw [← mem_arrows_build, same, mem_arrows_build]
  · intro agrees
    have arrows : ArrowSet.insertAll ∅ left.added = ArrowSet.insertAll ∅ right.added := by
      apply ArrowSet.ext
      simp [ArrowSet.mem_insertAll, agrees.added]
    rw [build_eq, build_eq, agrees.id, agrees.accepting, agrees.symbol, arrows]

end State.Draft

def State.draft (state : State) : State.Draft :=
  ⟨state.id, state.accepting, state.symbol, state.arrows.toList⟩

@[simp] theorem State.build_draft (state : State) : state.draft.build = state := by
  have arrows : ArrowSet.insertAll ∅ state.arrows.toList = state.arrows := by
    apply ArrowSet.ext
    intro arrow
    rw [ArrowSet.mem_insertAll, or_iff_left (ArrowSet.not_mem_empty arrow)]
    exact ArrowSet.mem_def.symm
  rw [State.Draft.build_eq, draft, arrows]

structure Token.Draft where
  kind : Kind
  literal : String
  trace : List State.Draft
  scope : Option Scope := none

namespace Token.Draft

def build (draft : Draft) : Token :=
  ⟨draft.kind, draft.literal, draft.trace.map State.Draft.build, draft.scope⟩

def Plain (draft : Draft) : Prop := ∀ state ∈ draft.trace, state.Plain

structure Agrees (left right : Draft) : Prop where
  kind : left.kind = right.kind
  literal : left.literal = right.literal
  scope : left.scope = right.scope
  trace : List.Forall₂ State.Draft.Agrees left.trace right.trace

theorem Plain.build {draft : Draft} (plain : draft.Plain) : draft.build.Plain :=
  List.forall_mem_map.mpr fun state member => (plain state member).build

theorem build_eq_iff {left right : Draft} : left.build = right.build ↔ left.Agrees right := by
  rw [build, build, Token.mk.injEq, map_eq_map_iff State.Draft.build_eq_iff]
  constructor
  · rintro ⟨kind, literal, trace, scope⟩
    exact ⟨kind, literal, scope, trace⟩
  · rintro ⟨kind, literal, scope, trace⟩
    exact ⟨kind, literal, trace, scope⟩

end Token.Draft

def Token.draft (token : Token) : Token.Draft :=
  ⟨token.kind, token.literal, token.trace.map State.draft, token.scope⟩

@[simp] theorem Token.build_draft (token : Token) : token.draft.build = token := by
  simp [Token.Draft.build, draft, Function.comp_def]

theorem Segment.plain_trace (segment : Segment) (first : Nat) {state : State}
    (member : state ∈ segment.trace first) : state.arrows.Plain := by
  intro arrow present
  cases segment with
  | character value =>
      rcases List.getElem?_of_mem member with ⟨index, found⟩
      rcases (character value).linksForward_trace first index state found arrow present with
        ⟨next, follows, rfl⟩
      have entered : next.symbol ∈ (character value).symbols := by
        rw [← map_symbol_trace _ first]
        exact List.mem_map_of_mem (List.mem_of_getElem? follows)
      intro (silent : next.symbol = .epsilon)
      simp [silent, symbols] at entered
  | _ =>
      rw [State.arrows_of_mem_chain member] at present
      exact absurd present (ArrowSet.not_mem_empty arrow)

theorem plain_of_tokenize {text : String} {tokens : List Token}
    (scanned : tokenize text = .ok tokens) : ∀ token ∈ tokens, token.Plain := by
  intro token member
  rcases tokenize_eq_ok_iff.mp scanned with ⟨segments, _, _, rfl⟩
  rcases List.mem_append.mp member with inBody | last
  · rcases Scanner.exists_of_mem_tokensOf inBody with ⟨segment, _, reader, found⟩
    intro state walked
    rw [Scanner.trace_of_tokenOf? found] at walked
    exact segment.plain_trace reader.nextId walked
  · rw [List.mem_singleton.mp last]
    exact List.forall_mem_nil _

/-- The compact text of tokens is canonical and faithful: it depends on nothing but what the tokens
are, and it tells all that they are. Every list of scanned tokens comes about without arrows that
read nothing. -/
theorem compact_tokens_eq_iff :
    (∀ left right : List Token.Draft, (∀ draft ∈ left, draft.Plain) →
      (∀ draft ∈ right, draft.Plain) →
        ((tokensToJson (left.map Token.Draft.build)).compact =
            (tokensToJson (right.map Token.Draft.build)).compact ↔
          left.map Token.Draft.build = right.map Token.Draft.build) ∧
        (left.map Token.Draft.build = right.map Token.Draft.build ↔
          List.Forall₂ Token.Draft.Agrees left right)) ∧
    ∀ text tokens, tokenize text = .ok tokens →
      ∃ drafts : List Token.Draft, (∀ draft ∈ drafts, draft.Plain) ∧
        drafts.map Token.Draft.build = tokens := by
  constructor
  · intro left right leftPlain rightPlain
    have leftTokens := List.forall_mem_map.mpr fun draft member => (leftPlain draft member).build
    have rightTokens := List.forall_mem_map.mpr fun draft member => (rightPlain draft member).build
    refine ⟨⟨?_, ?_⟩, map_eq_map_iff Token.Draft.build_eq_iff⟩
    · exact tokens_eq_of_compact_eq leftTokens rightTokens
    · exact congrArg fun tokens => (tokensToJson tokens).compact
  · intro text tokens scanned
    refine ⟨tokens.map Token.draft, ?_, ?_⟩
    · rw [List.forall_mem_map]
      intro token member
      exact List.forall_mem_map.mpr (plain_of_tokenize scanned token member)
    · rw [List.map_map]
      exact List.map_id'' Token.build_draft tokens

/-- A repeated arrow and another order change nothing; a letter in place of the line break does. -/
theorem compact_tokens_eq_iff_reordered :
    let draft (added : List Arrow) : Token.Draft :=
      ⟨.character, "\"", [⟨0, false, .char '\'', added⟩, ⟨1, true, .char '\n', []⟩], none⟩
    let first := draft [⟨.char '\n', 2⟩, ⟨.char '\\', 1⟩, ⟨.char '\n', 2⟩]
    let second := draft [⟨.char '\\', 1⟩, ⟨.char '\n', 2⟩]
    let third := draft [⟨.char '\\', 1⟩, ⟨.char 'n', 2⟩]
    (tokensToJson [first.build]).compact = (tokensToJson [second.build]).compact ∧
      (tokensToJson [first.build]).compact ≠ (tokensToJson [third.build]).compact ∧
      ∃ tokens, tokenize "'\"'" = .ok tokens ∧ tokens.map Token.literal = ["\"", "EOF"] ∧
        ∃ drafts : List Token.Draft, (∀ draft ∈ drafts, draft.Plain) ∧
          drafts.map Token.Draft.build = tokens := by
  intro draft first second third
  have plain : ∀ added : List Arrow, (∀ arrow ∈ added, arrow.symbol ≠ .epsilon) →
      ∀ token ∈ [draft added], token.Plain := by
    intro added reads
    simpa [draft, Token.Draft.Plain, State.Draft.Plain] using reads
  have firstPlain := plain [⟨.char '\n', 2⟩, ⟨.char '\\', 1⟩, ⟨.char '\n', 2⟩] (by decide)
  have secondPlain := plain [⟨.char '\\', 1⟩, ⟨.char '\n', 2⟩] (by decide)
  have thirdPlain := plain [⟨.char '\\', 1⟩, ⟨.char 'n', 2⟩] (by decide)
  have literals : (tokenize "'\"'").map (·.map Token.literal) = .ok ["\"", "EOF"] := by
    decide +kernel
  refine ⟨?_, ?_, ?_⟩
  · exact (compact_tokens_eq_iff.1 [first] [second] firstPlain secondPlain).1.mpr (by decide)
  · exact mt (compact_tokens_eq_iff.1 [first] [third] firstPlain thirdPlain).1.mp (by decide)
  · rcases exists_tokenize_of_map literals with ⟨tokens, scanned, seen⟩
    exact ⟨tokens, scanned, seen, compact_tokens_eq_iff.2 _ tokens scanned⟩

end TracingLexer
