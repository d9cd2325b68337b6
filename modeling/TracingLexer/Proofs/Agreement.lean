import TracingLexer.Proofs.Automaton.Blocks
import TracingLexer.Proofs.Automaton.Language
import TracingLexer.Proofs.Scanner.Traces

namespace TracingLexer

open Automaton (ending)

/-- The words along a trace, from its first symbol on, that lead to an accepting state. -/
def State.words : List State → Language Char
  | [] => 0
  | state :: rest => {state.symbol.word} * (ending state.accepting + words rest)

namespace Dfa

variable {dfa : Dfa} {done later : List Block} {block : Block}

theorem arrows_of_blocks (split : dfa.blocks = done ++ block :: later) :
    dfa.automaton.arrows done.length = block.arrows.toList := by
  simp [automaton, arrowsOf, split]

theorem accepting_of_blocks (split : dfa.blocks = done ++ block :: later) :
    dfa.automaton.accepting[done.length]? = some block.accepting := by
  simp [automaton, split]

theorem languageFrom_blocksFrom {opened : Block} {trace : List State}
    (split : dfa.blocks = done ++ blocksFrom opened done.length trace)
    (unlinked : opened.arrows = ∅) :
    dfa.automaton.languageFrom done.length = ending opened.accepting + State.words trace := by
  induction trace generalizing done opened with
  | nil =>
      have stuck : dfa.automaton.arrows done.length = [] := by
        rw [arrows_of_blocks split, unlinked]
        rfl
      rw [Automaton.languageFrom_of_stuck (accepting_of_blocks split) stuck, State.words, add_zero]
  | cons state rest ih =>
      cases entered : state.symbol with
      | epsilon =>
          rw [blocksFrom, entered] at split
          have here : ({Symbol.word .epsilon} : Language Char) = 1 := rfl
          rw [ih split unlinked, Automaton.ending_or, State.words, entered, here, one_mul, add_assoc]
      | char c =>
          rw [blocksFrom, entered, unlinked] at split
          have only : dfa.automaton.arrows done.length = [⟨.char c, done.length + 1⟩] := by
            rw [arrows_of_blocks split]
            rfl
          have next := @ih (done ++ [_]) ⟨[state.id], state.accepting, ∅⟩
            (by simpa using split) rfl
          rw [List.length_append, List.length_singleton] at next
          rw [Automaton.languageFrom_of_arrow (accepting_of_blocks split) only, next, State.words,
            entered]

theorem language_ofTrace {trace : List State} (distinct : (trace.map State.id).Nodup) :
    (ofTrace trace).automaton.language = State.words trace := by
  have whole := @languageFrom_blocksFrom (ofTrace trace) [] _ trace (blocks_ofTrace distinct) rfl
  rw [Automaton.language_eq_languageFrom]
  exact whole.trans (zero_add _)

end Dfa

namespace Nfa

variable {states : List State}

theorem languageFrom_ofTrace (distinct : (states.map State.id).Nodup)
    (forward : State.LinksForward states) {front rest : List State} {state : State}
    (split : states = front ++ state :: rest) :
    (ofTrace states).automaton.languageFrom front.length =
      ending state.accepting + State.words rest := by
  have arrows_eq := arrows_ofTrace distinct forward front.length
  have marked : (ofTrace states).automaton.accepting[front.length]? = some state.accepting := by
    rw [accepting_ofTrace, split]
    simp
  induction rest generalizing front state with
  | nil =>
      have last : states[front.length + 1]? = none := by simp [split]
      rw [last] at arrows_eq
      rw [Automaton.languageFrom_of_stuck marked arrows_eq, State.words, add_zero]
  | cons next rest ih =>
      have follows : states[front.length + 1]? = some next := by simp [split]
      have longer : states = (front ++ [state]) ++ next :: rest := by simp [split]
      have later := ih longer (arrows_ofTrace distinct forward _) (by
        rw [accepting_ofTrace, longer]
        simp)
      rw [List.length_append, List.length_singleton] at later
      rw [follows] at arrows_eq
      rw [Automaton.languageFrom_of_arrow marked arrows_eq, later, State.words]

theorem language_ofTrace {first : State} {rest : List State}
    (distinct : ((first :: rest).map State.id).Nodup)
    (forward : State.LinksForward (first :: rest)) :
    (ofTrace (first :: rest)).automaton.language = ending first.accepting + State.words rest := by
  rw [Automaton.language_eq_languageFrom]
  exact @languageFrom_ofTrace _ distinct forward [] rest first rfl

end Nfa

/-- The deterministic automaton of a trace reads the first symbol and then accepts what the other
automaton of the trace accepts. So it is with each scanned token. -/
theorem dfa_language_eq_mul :
    (∀ (first : State) (rest : List State), ((first :: rest).map State.id).Nodup →
      State.LinksForward (first :: rest) →
      (Dfa.ofTrace (first :: rest)).automaton.language =
        {first.symbol.word} * (Nfa.ofTrace (first :: rest)).automaton.language) ∧
    ∀ (text : String) (tokens : List Token), tokenize text = .ok tokens →
      ∀ token ∈ tokens, token.kind ≠ .eof → ∃ first rest, token.trace = first :: rest ∧
        (Dfa.ofTrace token.trace).automaton.language =
          {first.symbol.word} * (Nfa.ofTrace token.trace).automaton.language := by
  have agree : ∀ (first : State) (rest : List State), ((first :: rest).map State.id).Nodup →
      State.LinksForward (first :: rest) →
      (Dfa.ofTrace (first :: rest)).automaton.language =
        {first.symbol.word} * (Nfa.ofTrace (first :: rest)).automaton.language := by
    intro first rest distinct forward
    rw [Dfa.language_ofTrace distinct, Nfa.language_ofTrace distinct forward, State.words]
  refine ⟨agree, ?_⟩
  intro text tokens scanned token member notEnd
  have orderly := orderly_of_tokenize scanned member notEnd
  rcases List.exists_cons_of_ne_nil orderly.marked.ne_nil with ⟨first, rest, split⟩
  rw [split] at orderly
  exact ⟨first, rest, split, split ▸ agree first rest orderly.distinct orderly.forward⟩

/-- With epsilon inside, two accepting states and links, and for a character literal. -/
theorem dfa_language_eq_mul_linked :
    let first : State := State.addArrow ⟨7, false, .char 'a', ∅⟩ ⟨.epsilon, 3⟩
    let rest : List State :=
      [State.addArrow ⟨3, true, .epsilon, ∅⟩ ⟨.char 'b', 9⟩, ⟨9, true, .char 'b', ∅⟩]
    ((first :: rest).map State.id).Nodup ∧ State.LinksForward (first :: rest) ∧
      (Dfa.ofTrace (first :: rest)).automaton.language =
        {['a']} * (Nfa.ofTrace (first :: rest)).automaton.language ∧
      ∃ tokens, tokenize "'c'" = .ok tokens ∧ ∀ token ∈ tokens, token.kind ≠ .eof →
        ∃ start later, token.trace = start :: later ∧
          (Dfa.ofTrace token.trace).automaton.language =
            {start.symbol.word} * (Nfa.ofTrace token.trace).automaton.language := by
  intro first rest
  have distinct : ((first :: rest).map State.id).Nodup := by decide
  have forward : State.LinksForward (first :: rest) :=
    @State.linksForward_linkAll
      [⟨7, false, .char 'a', ∅⟩, ⟨3, true, .epsilon, ∅⟩, ⟨9, true, .char 'b', ∅⟩] (by simp)
  refine ⟨distinct, forward, dfa_language_eq_mul.1 first rest distinct forward, ?_⟩
  cases scanned : tokenize "'c'" with
  | error error =>
      have finished : (tokenize "'c'").isOk = true := by decide +kernel
      rw [scanned] at finished
      cases finished
  | ok tokens => exact ⟨tokens, rfl, dfa_language_eq_mul.2 _ tokens scanned⟩

end TracingLexer
