import Mathlib.Computability.EpsilonNFA
import TracingLexer.Automaton

namespace TracingLexer

namespace Symbol

def char? : Symbol → Option Char
  | epsilon => none
  | char value => some value

def word (symbol : Symbol) : List Char := symbol.char?.toList

end Symbol

namespace Automaton

def machine (automaton : Automaton) : εNFA Char Nat where
  step state read :=
    {target | ∃ symbol, symbol.char? = read ∧ ⟨symbol, target⟩ ∈ automaton.arrows state}
  start := {automaton.start}
  accept := {state | automaton.accepting[state]? = some true}

def language (automaton : Automaton) : Language Char := automaton.machine.accepts

def languageFrom (automaton : Automaton) (state : Nat) : Language Char :=
  {word | ∃ final path, automaton.accepting[final]? = some true ∧ path.reduceOption = word ∧
    automaton.machine.IsPath state final path}

def ending (accepting : Bool) : Language Char := if accepting then 1 else 0

theorem mem_ending {accepting : Bool} {word : List Char} :
    word ∈ ending accepting ↔ accepting = true ∧ word = [] := by
  cases accepting <;> simp [ending]

theorem ending_or (first second : Bool) :
    ending (first || second) = ending first + ending second := by
  cases first <;> cases second <;> simp [ending]

variable {automaton : Automaton}

theorem language_eq_languageFrom (automaton : Automaton) :
    automaton.language = automaton.languageFrom automaton.start := by
  ext word
  rw [language, εNFA.mem_accepts_iff_exists_path]
  constructor
  · rintro ⟨_, final, path, rfl, accepts, reads, isPath⟩
    exact ⟨final, path, accepts, reads, isPath⟩
  · rintro ⟨final, path, accepts, reads, isPath⟩
    exact ⟨_, final, path, rfl, accepts, reads, isPath⟩

theorem mem_languageFrom_iff {state : Nat} {word : List Char} :
    word ∈ automaton.languageFrom state ↔
      automaton.accepting[state]? = some true ∧ word = [] ∨
        ∃ arrow ∈ automaton.arrows state, ∃ rest ∈ automaton.languageFrom arrow.target,
          arrow.symbol.word ++ rest = word := by
  constructor
  · rintro ⟨final, path, accepts, rfl, isPath⟩
    cases isPath with
    | nil => exact .inl ⟨accepts, rfl⟩
    | cons target _ _ read path stepped later =>
        rcases stepped with ⟨symbol, rfl, present⟩
        have rest : path.reduceOption ∈ automaton.languageFrom target :=
          ⟨final, path, accepts, rfl, later⟩
        refine .inr ⟨⟨symbol, target⟩, present, path.reduceOption, rest, ?_⟩
        cases symbol <;> rfl
  · rintro (⟨accepts, rfl⟩ | ⟨arrow, present, _, ⟨final, path, accepts, rfl, later⟩, rfl⟩)
    · exact ⟨state, [], accepts, rfl, .nil state⟩
    · refine ⟨final, arrow.symbol.char? :: path, accepts, ?_,
        .cons arrow.target _ _ _ _ ⟨arrow.symbol, rfl, present⟩ later⟩
      rw [Symbol.word]
      cases arrow.symbol <;> rfl

theorem languageFrom_of_stuck {state : Nat} {accepting : Bool}
    (marked : automaton.accepting[state]? = some accepting) (stuck : automaton.arrows state = []) :
    automaton.languageFrom state = ending accepting := by
  ext word
  rw [mem_languageFrom_iff, mem_ending, marked, stuck]
  simp

theorem languageFrom_of_arrow {state : Nat} {accepting : Bool} {arrow : Arrow}
    (marked : automaton.accepting[state]? = some accepting)
    (only : automaton.arrows state = [arrow]) :
    automaton.languageFrom state =
      ending accepting + {arrow.symbol.word} * automaton.languageFrom arrow.target := by
  ext word
  have along : word ∈ ({arrow.symbol.word} : Language Char) * automaton.languageFrom arrow.target ↔
      ∃ rest ∈ automaton.languageFrom arrow.target, arrow.symbol.word ++ rest = word := by
    rw [Language.mem_mul]
    exact exists_eq_left
  rw [mem_languageFrom_iff, Language.mem_add, mem_ending, along, marked, only, Option.some.injEq]
  simp only [List.mem_singleton, exists_eq_left]

end Automaton
end TracingLexer
