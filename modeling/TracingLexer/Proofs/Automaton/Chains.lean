import TracingLexer.Automaton.Search
import TracingLexer.Proofs.Automaton.Language

namespace TracingLexer

namespace Symbol

def characters (symbols : List Symbol) : List Char := symbols.filterMap char?

theorem characters_cons (symbol : Symbol) (symbols : List Symbol) :
    characters (symbol :: symbols) = symbol.word ++ characters symbols := by
  cases symbol <;> rfl

theorem characters_map_char (text : List Char) : characters (text.map char) = text := by
  rw [characters, List.filterMap_map]
  exact List.filterMap_some

end Symbol

namespace Search

variable {successors : Nat → List Nat}

theorem visit_of_path {first count : Nat}
    (path : ∀ state, first ≤ state → state < first + count → successors state = [state + 1]) :
    visit successors (List.range' first (count + 1)) [first] = List.range' first (count + 1) := by
  induction count generalizing first with
  | zero => simp [visit, List.range'_succ]
  | succ count ih =>
      have onward : successors first = [first + 1] := path first (by omega) (by omega)
      have later := @ih (first + 1) fun state low high => path state (by omega) (by omega)
      have ahead : first + 1 ∈ List.range' (first + 1) (count + 1) := by
        rw [List.mem_range'_1]
        omega
      rw [List.range'_succ, visit, if_pos List.mem_cons_self]
      simp only [List.erase_cons_head, onward, List.nil_append]
      rw [List.filter_singleton, decide_eq_true ahead]
      exact congrArg (first :: ·) later

end Search

namespace Automaton

/-- Each state leads to the next one alone, under the symbol at its place, and the last state alone
accepts. -/
structure Chained (automaton : Automaton) (symbols : List Symbol) : Prop where
  size : automaton.size = symbols.length + 1
  start : automaton.start = 0
  arrows : ∀ index, automaton.arrows index =
    (symbols[index]?.map fun symbol => ⟨symbol, index + 1⟩).toList
  accepting : automaton.accepting = List.replicate symbols.length false ++ [true]

namespace Chained

variable {automaton : Automaton} {symbols : List Symbol}

theorem languageFrom (chained : automaton.Chained symbols) {front later : List Symbol}
    (split : symbols = front ++ later) :
    automaton.languageFrom front.length = {Symbol.characters later} := by
  induction later generalizing front with
  | nil =>
      have marked : automaton.accepting[front.length]? = some true := by
        simp [chained.accepting, split]
      have stuck : automaton.arrows front.length = [] := by
        rw [chained.arrows, split, List.append_nil, List.getElem?_length]
        rfl
      exact languageFrom_of_stuck marked stuck
  | cons symbol later ih =>
      have inside : front.length < symbols.length := by
        rw [split, List.length_append, List.length_cons]
        omega
      have marked : automaton.accepting[front.length]? = some false := by
        rw [chained.accepting, List.getElem?_append_left (by rwa [List.length_replicate]),
          List.getElem?_replicate, if_pos inside]
      have only : automaton.arrows front.length = [⟨symbol, front.length + 1⟩] := by
        rw [chained.arrows, split, List.getElem?_append_right (Nat.le_refl _), Nat.sub_self]
        rfl
      have next := @ih (front ++ [symbol]) (by simpa using split)
      rw [List.length_append, List.length_singleton] at next
      calc
        automaton.languageFrom front.length = 0 + {symbol.word} * {Symbol.characters later} := by
          rw [languageFrom_of_arrow marked only, next]
          rfl
        _ = {symbol.word ++ Symbol.characters later} := by
          rw [zero_add, Language.mul_def]
          exact Set.image2_singleton
        _ = {Symbol.characters (symbol :: later)} := by rw [Symbol.characters_cons]

theorem language_eq (chained : automaton.Chained symbols) :
    automaton.language = {Symbol.characters symbols} := by
  rw [language_eq_languageFrom, chained.start]
  exact @languageFrom _ _ chained [] symbols rfl

theorem breadthFirst_eq (chained : automaton.Chained symbols) :
    Search.breadthFirst automaton.size automaton.start
        (fun index => (automaton.arrows index).map Arrow.target) =
      List.range (symbols.length + 1) := by
  rw [Search.breadthFirst, chained.size, chained.start, List.range_eq_range']
  apply Search.visit_of_path
  intro state _ inside
  have present : symbols[state]? = some symbols[state] := List.getElem?_eq_getElem (by omega)
  rw [chained.arrows, present]
  rfl

end Chained
end Automaton
end TracingLexer
