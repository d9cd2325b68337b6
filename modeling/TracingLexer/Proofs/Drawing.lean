import Mathlib.Data.List.Nodup
import TracingLexer.Automaton.Listing
import TracingLexer.Proofs.Automaton.Raised
import TracingLexer.Proofs.Scanner.Ids

namespace TracingLexer

def Token.IsFirst (tokens : List Token) (token : Token) (place : Nat) : Prop :=
  token.kind ≠ .eof ∧
    ∀ earlier ∈ tokens.take place, ¬ (earlier.kind = token.kind ∧ earlier.shape = token.shape)

instance (tokens : List Token) (token : Token) (place : Nat) :
    Decidable (token.IsFirst tokens place) :=
  inferInstanceAs (Decidable (_ ∧ _))

namespace Listing

def key (entry : Token × Nat) : Kind × List Symbol := (entry.1.kind, entry.1.shape)

def Known (seen : List (Kind × List Symbol)) (tokens : List Token) : Prop :=
  ∀ kind shape, kind ≠ .eof →
    ((kind, shape) ∈ seen ↔ ∃ earlier ∈ tokens, earlier.kind = kind ∧ earlier.shape = shape)

variable {front rest : List Token} {token : Token} {seen : List (Kind × List Symbol)}

theorem Known.append_end (known : Known seen front) (isEnd : token.kind = .eof) :
    Known seen (front ++ [token]) := by
  intro kind shape notEnd
  have other : ¬ (token.kind = kind ∧ token.shape = shape) := fun same =>
    notEnd (same.1.symm.trans isEnd)
  simp only [List.mem_append, List.mem_singleton, or_and_right, exists_or, exists_eq_left, other,
    or_false]
  exact known kind shape notEnd

theorem Known.append_seen (known : Known seen front)
    (present : (token.kind, token.shape) ∈ seen) : Known seen (front ++ [token]) := by
  intro kind shape notEnd
  simp only [List.mem_append, List.mem_singleton, or_and_right, exists_or, exists_eq_left]
  rw [← known kind shape notEnd, iff_self_or]
  rintro ⟨rfl, rfl⟩
  exact present

theorem Known.append_new (known : Known seen front) :
    Known ((token.kind, token.shape) :: seen) (front ++ [token]) := by
  intro kind shape notEnd
  simp only [List.mem_append, List.mem_singleton, or_and_right, exists_or, exists_eq_left]
  rw [← known kind shape notEnd, List.mem_cons, Prod.mk.injEq, or_comm, eq_comm, @eq_comm _ shape]

theorem known_iff_isFirst (known : Known seen front) (notEnd : token.kind ≠ .eof) :
    token.IsFirst (front ++ token :: rest) front.length ↔ (token.kind, token.shape) ∉ seen := by
  rw [Token.IsFirst, and_iff_right notEnd, List.take_left, known token.kind token.shape notEnd]
  simp only [not_exists, not_and]

theorem firstOfEachKey_zipIdx (known : Known seen front) :
    firstOfEachKey key seen
        ((rest.zipIdx front.length).filter fun entry => entry.1.kind ≠ .eof) =
      (rest.zipIdx front.length).filter fun entry =>
        entry.1.IsFirst (front ++ rest) entry.2 := by
  induction rest generalizing front seen with
  | nil => rfl
  | cons token rest ih =>
      have later {found : List (Kind × List Symbol)} := @ih (front ++ [token]) found
      simp only [List.length_append, List.length_singleton, List.append_assoc,
        List.singleton_append] at later
      rw [List.zipIdx_cons]
      by_cases isEnd : token.kind = .eof
      · rw [List.filter_cons_of_neg (by simp [isEnd]),
          List.filter_cons_of_neg (by simp [Token.IsFirst, isEnd])]
        exact later (known.append_end isEnd)
      · have here : key (token, front.length) = (token.kind, token.shape) := rfl
        rw [List.filter_cons_of_pos (by simp [isEnd]), firstOfEachKey, here]
        by_cases present : (token.kind, token.shape) ∈ seen
        · rw [if_pos present, List.filter_cons_of_neg]
          · exact later (known.append_seen present)
          · simp [known_iff_isFirst known isEnd, present]
        · rw [if_neg present, List.filter_cons_of_pos]
          · exact congrArg _ (later known.append_new)
          · simp [known_iff_isFirst known isEnd, present]

theorem drawnPlaces_eq (tokens : List Token) :
    drawnPlaces tokens = tokens.zipIdx.filter fun entry => entry.1.IsFirst tokens entry.2 := by
  have nothing : Known [] [] := by simp [Known]
  exact @firstOfEachKey_zipIdx [] tokens [] nothing

end Listing

theorem exists_trace_eq_raise {text : String} {tokens : List Token}
    (scanned : tokenize text = .ok tokens) {origin place : Nat} {first token : Token}
    (firstIn : tokens[origin]? = some first) (inTokens : tokens[place]? = some token)
    (notEnd : token.kind ≠ .eof) (sameKind : first.kind = token.kind)
    (sameShape : first.shape = token.shape) (before : origin ≤ place) :
    ∃ count, token.trace = first.trace.map (State.raise count) := by
  have firstNotEnd : first.kind ≠ .eof := sameKind ▸ notEnd
  have order := firstId_le_of_tokenize scanned firstIn inTokens firstNotEnd notEnd before
  obtain ⟨count, ids⟩ := Nat.exists_eq_add_of_le order
  refine ⟨count, ?_⟩
  calc
    token.trace = State.traceOf token.kind token.firstId token.shape :=
      trace_eq_of_tokenize scanned (List.mem_of_getElem? inTokens) notEnd
    _ = (State.traceOf first.kind first.firstId first.shape).map (State.raise count) := by
      rw [ids, State.traceOf_add, sameKind, sameShape]
    _ = first.trace.map (State.raise count) := by
      rw [← trace_eq_of_tokenize scanned (List.mem_of_getElem? firstIn) firstNotEnd]

variable {tokens : List Token} {place : Nat} {token : Token}

theorem Token.IsFirst.le {origin : Nat} {first : Token} (isFirst : first.IsFirst tokens origin)
    (present : tokens[place]? = some token) (sameKind : first.kind = token.kind)
    (sameShape : first.shape = token.shape) : origin ≤ place := by
  by_contra behind
  have before : (tokens.take origin)[place]? = some token := by
    rw [List.getElem?_take_of_lt (Nat.lt_of_not_le behind), present]
  exact isFirst.2 token (List.mem_of_getElem? before) ⟨sameKind.symm, sameShape.symm⟩

theorem exists_isFirst (present : tokens[place]? = some token) (notEnd : token.kind ≠ .eof) :
    ∃ (origin : Nat) (first : Token), tokens[origin]? = some first ∧ first.kind = token.kind ∧
      first.shape = token.shape ∧ first.IsFirst tokens origin := by
  induction place using Nat.strong_induction_on generalizing token with
  | _ place ih =>
    by_cases isFirst : token.IsFirst tokens place
    · exact ⟨place, token, present, rfl, rfl, isFirst⟩
    · -- An earlier token has the same kind and shape; the first one of them is before it.
      simp only [Token.IsFirst, notEnd, ne_eq, not_false_eq_true, true_and, not_forall,
        not_not] at isFirst
      obtain ⟨earlier, member, sameKind, sameShape⟩ := isFirst
      obtain ⟨index, found⟩ := List.getElem?_of_mem member
      have inside : index < place := by
        have below := (List.getElem?_eq_some_iff.mp found).1
        rw [List.length_take] at below
        omega
      rw [List.getElem?_take_of_lt inside] at found
      obtain ⟨origin, first, firstIn, firstKind, firstShape, isFirst⟩ :=
        ih index inside found (sameKind ▸ notEnd)
      exact ⟨origin, first, firstIn, firstKind.trans sameKind, firstShape.trans sameShape, isFirst⟩

theorem nodup_drawnPlaces (tokens : List Token) : (Listing.drawnPlaces tokens).Nodup := by
  rw [Listing.drawnPlaces_eq]
  apply List.Nodup.filter
  apply List.Nodup.of_map Prod.snd
  rw [List.zipIdx_map_snd]
  exact List.nodup_range'

theorem filter_drawnPlaces_eq {origin : Nat} {first : Token}
    (firstIn : tokens[origin]? = some first) (isFirst : first.IsFirst tokens origin) :
    (Listing.drawnPlaces tokens).filter (fun entry =>
      entry.1.kind = first.kind ∧ entry.1.shape = first.shape) = [(first, origin)] := by
  apply List.perm_singleton.mp
  apply (List.perm_ext_iff_of_nodup ((nodup_drawnPlaces tokens).filter _)
    (List.nodup_singleton _)).mpr
  intro entry
  rw [Listing.drawnPlaces_eq, List.mem_filter, List.mem_filter, List.mem_zipIdx_iff_getElem?,
    List.mem_singleton, decide_eq_true_eq, decide_eq_true_eq]
  constructor
  · rintro ⟨⟨present, alsoFirst⟩, sameKind, sameShape⟩
    have place_eq : entry.2 = origin := Nat.le_antisymm (alsoFirst.le firstIn sameKind sameShape)
      (isFirst.le present sameKind.symm sameShape.symm)
    rw [place_eq, firstIn, Option.some.injEq] at present
    exact Prod.ext present.symm place_eq
  · rintro rfl
    exact ⟨⟨firstIn, isFirst⟩, rfl, rfl⟩

/-- Of each kind and shape the first token is drawn, in the order of the tokens. In a scan, the
automata of any other token are those of the first one with later ids. -/
theorem drawn_eq_firsts :
    (∀ tokens : List Token,
      Listing.drawnPlaces tokens =
          tokens.zipIdx.filter (fun entry => entry.1.IsFirst tokens entry.2) ∧
        Listing.drawn tokens = (Listing.drawnPlaces tokens).map Prod.fst) ∧
    ∀ (text : String) (tokens : List Token), tokenize text = .ok tokens →
      ∀ (place : Nat) (token : Token), tokens[place]? = some token → token.kind ≠ .eof →
        ∃ origin first, origin ≤ place ∧ tokens[origin]? = some first ∧
          (Listing.drawnPlaces tokens).filter (fun entry =>
            entry.1.kind = token.kind ∧ entry.1.shape = token.shape) = [(first, origin)] ∧
          ∃ count, Nfa.ofTrace token.trace = (Nfa.ofTrace first.trace).raise count ∧
            Dfa.ofTrace token.trace = (Dfa.ofTrace first.trace).raise count := by
  refine ⟨fun tokens => ⟨Listing.drawnPlaces_eq tokens, rfl⟩, ?_⟩
  intro text tokens scanned place token present notEnd
  obtain ⟨origin, first, firstIn, sameKind, sameShape, isFirst⟩ := exists_isFirst present notEnd
  have before : origin ≤ place := isFirst.le present sameKind sameShape
  have only := filter_drawnPlaces_eq firstIn isFirst
  rw [sameKind, sameShape] at only
  obtain ⟨count, trace_eq⟩ :=
    exists_trace_eq_raise scanned firstIn present notEnd sameKind sameShape before
  refine ⟨origin, first, before, firstIn, only, count, ?_, ?_⟩
  · rw [trace_eq, Nfa.ofTrace_map_raise]
  · rw [trace_eq, Dfa.ofTrace_map_raise]

/-- Two equal character literals, the states of which are linked. -/
theorem drawn_eq_firsts_character :
    let symbols : List Symbol := [.char '\'', .char 'a', .char '\'']
    let first : Token := ⟨.character, "a", State.linkAll (State.chain 0 symbols), none⟩
    let token : Token := ⟨.character, "a", State.linkAll (State.chain 3 symbols), none⟩
    let tokens := [first, token, Token.eof]
    tokenize "'a''a'" = .ok tokens ∧ tokens[1]? = some token ∧ token.kind ≠ .eof ∧
      Listing.drawnPlaces tokens = [(first, 0)] ∧
      ∃ origin earlier, origin ≤ 1 ∧ tokens[origin]? = some earlier ∧
        (Listing.drawnPlaces tokens).filter (fun entry =>
          entry.1.kind = token.kind ∧ entry.1.shape = token.shape) = [(earlier, origin)] ∧
        ∃ count, Nfa.ofTrace token.trace = (Nfa.ofTrace earlier.trace).raise count ∧
          Dfa.ofTrace token.trace = (Dfa.ofTrace earlier.trace).raise count := by
  intro symbols first token tokens
  have scanned : tokenize "'a''a'" = .ok tokens := by decide +kernel
  have notEnd : token.kind ≠ .eof := by decide
  exact ⟨scanned, rfl, notEnd, by decide, drawn_eq_firsts.2 _ _ scanned 1 token rfl notEnd⟩

end TracingLexer
