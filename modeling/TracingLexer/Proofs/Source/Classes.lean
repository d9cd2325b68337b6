import TracingLexer.Proofs.Text.Runs
import TracingLexer.Source.CharClass

namespace TracingLexer.CharClass

def marks : List Char := ['{', '}', '\'', '"', '/']

structure Unknown (c : Char) : Prop where
  notBlank : Text.isBlank c = false
  notDigit : c.isDigit = false
  notQuote : c ≠ '\'' ∧ c ≠ '"'
  notAlphabetic : Text.isAlphabetic c = false
  notOperator : c ∉ operators
  notPunctuator : c ∉ punctuators

theorem of_eq_ofOther {c : Char} (plain : c ∉ marks) (next : Option Char) :
    of c next = ofOther c := by
  simp only [marks, List.mem_cons, List.not_mem_nil, or_false, not_or] at plain
  rcases plain with ⟨notOpen, notClose, notCharQuote, notStringQuote, notSlash⟩
  unfold of
  split <;> first | contradiction | rfl

theorem notMem_marks_of_isBlank {c : Char} (blank : Text.isBlank c = true) : c ∉ marks := by
  intro member
  have none : marks.all (fun mark => !Text.isBlank mark) = true := by decide
  have notBlank := List.all_eq_true.mp none c member
  simp [blank] at notBlank

theorem notMem_marks_of_isDigit {c : Char} (digit : c.isDigit = true) : c ∉ marks := by
  intro member
  have none : marks.all (fun mark => !mark.isDigit) = true := by decide
  have notDigit := List.all_eq_true.mp none c member
  simp [digit] at notDigit

theorem notMem_marks_of_isAlphabetic {c : Char} (alphabetic : Text.isAlphabetic c = true) :
    c ∉ marks := by
  intro member
  have none : marks.all (fun mark => !Text.isAlphabetic mark) = true := by decide
  have notAlphabetic := List.all_eq_true.mp none c member
  simp [alphabetic] at notAlphabetic

theorem of_isBlank {c : Char} (isBlank : Text.isBlank c = true) (next : Option Char) :
    of c next = blank := by
  rw [of_eq_ofOther (notMem_marks_of_isBlank isBlank)]
  simp [ofOther, isBlank]

theorem of_isDigit {c : Char} (isDigit : c.isDigit = true) (next : Option Char) :
    of c next = digit := by
  rw [of_eq_ofOther (notMem_marks_of_isDigit isDigit)]
  simp [ofOther, isDigit, Text.isBlank_eq_false_of_isDigit isDigit]

theorem of_isAlphabetic {c : Char} (alphabetic : Text.isAlphabetic c = true)
    (next : Option Char) : of c next = letter := by
  have notBlank : Text.isBlank c = false := by
    by_contra isBlank
    have apart := Text.isAlphabetic_eq_false_of_isBlank (Bool.not_eq_false _ ▸ isBlank)
    simp [apart] at alphabetic
  have notDigit : c.isDigit = false := by
    by_contra isDigit
    have apart := Text.isAlphabetic_eq_false_of_isDigit (Bool.not_eq_false _ ▸ isDigit)
    simp [apart] at alphabetic
  rw [of_eq_ofOther (notMem_marks_of_isAlphabetic alphabetic)]
  simp [ofOther, notBlank, notDigit, alphabetic]

theorem of_operator {c : Char} {next : Option Char} (member : c ∈ operators)
    (alone : c = '/' → next ≠ some '/' ∧ next ≠ some '*') : of c next = operator := by
  by_cases slash : c = '/'
  · obtain ⟨notLine, notBlock⟩ := alone slash
    subst slash
    simp only [of]
  · have certificate : operators.all (fun op =>
        op == '/' || decide (op ∉ marks ∧ ofOther op = operator)) = true := by decide
    have plain := List.all_eq_true.mp certificate c member
    simp only [slash, beq_iff_eq, Bool.or_eq_true, false_or, decide_eq_true_eq] at plain
    rw [of_eq_ofOther plain.1]
    exact plain.2

theorem of_punctuator {c : Char} (member : c ∈ punctuators) (next : Option Char) :
    of c next = openBrace ∨ of c next = closeBrace ∨ of c next = punctuator := by
  by_cases opening : c = '{'
  · exact .inl (by rw [opening, of])
  · by_cases closing : c = '}'
    · exact .inr (.inl (by rw [closing, of]))
    · have certificate : punctuators.all (fun mark => mark == '{' || mark == '}' ||
          decide (mark ∉ marks ∧ ofOther mark = punctuator)) = true := by decide
      have plain := List.all_eq_true.mp certificate c member
      simp only [opening, closing, beq_iff_eq, Bool.or_eq_true, false_or,
        decide_eq_true_eq] at plain
      exact .inr (.inr (by rw [of_eq_ofOther plain.1, plain.2]))

theorem of_unknown {c : Char} (nothing : Unknown c) (next : Option Char) :
    of c next = unknown := by
  have notMark : c ∉ marks := by
    have certificate : marks.all (fun mark =>
        decide ((mark = '\'' ∨ mark = '"') ∨ mark ∈ operators ∨ mark ∈ punctuators)) = true := by
      decide
    intro member
    have parts := List.all_eq_true.mp certificate c member
    rw [decide_eq_true_eq] at parts
    rcases parts with quote | isOperator | isPunctuator
    · exact quote.elim nothing.notQuote.1 nothing.notQuote.2
    · exact nothing.notOperator isOperator
    · exact nothing.notPunctuator isPunctuator
  rw [of_eq_ofOther notMark]
  simp [ofOther, nothing.notBlank, nothing.notDigit, nothing.notAlphabetic, nothing.notOperator,
    nothing.notPunctuator]

theorem isBlank_of_blank {c : Char} {next : Option Char} (found : of c next = blank) :
    Text.isBlank c = true := by
  unfold of ofOther at found
  split at found <;> grind

theorem mem_operators_of_operator {c : Char} {next : Option Char}
    (found : of c next = operator) :
    c ∈ operators ∧ (c = '/' → next ≠ some '/' ∧ next ≠ some '*') := by
  by_cases slash : c = '/'
  · subst slash
    refine ⟨by decide, fun _ => ⟨?_, ?_⟩⟩ <;> rintro rfl <;> simp [of] at found
  · unfold of ofOther at found
    split at found <;> grind

theorem eq_of_openBrace {c : Char} {next : Option Char} (found : of c next = openBrace) :
    c = '{' := by
  have other := ofOther_eq c
  unfold of at found
  split at found <;> grind

theorem eq_of_closeBrace {c : Char} {next : Option Char} (found : of c next = closeBrace) :
    c = '}' := by
  have other := ofOther_eq c
  unfold of at found
  split at found <;> grind

theorem ne_brace_of_punctuator {c : Char} {next : Option Char} (found : of c next = punctuator) :
    c ≠ '{' ∧ c ≠ '}' := by
  constructor <;> rintro rfl <;> simp [of] at found

theorem mem_punctuators_of_openBrace {c : Char} {next : Option Char}
    (found : of c next = openBrace) : c ∈ punctuators := by
  have other := ofOther_eq c
  unfold of at found
  split at found <;> first | decide | grind

theorem mem_punctuators_of_closeBrace {c : Char} {next : Option Char}
    (found : of c next = closeBrace) : c ∈ punctuators := by
  have other := ofOther_eq c
  unfold of at found
  split at found <;> first | decide | grind

theorem mem_punctuators_of_punctuator {c : Char} {next : Option Char}
    (found : of c next = punctuator) : c ∈ punctuators := by
  unfold of ofOther at found
  split at found <;> grind

theorem unknown_of_unknown {c : Char} {next : Option Char} (found : of c next = unknown) :
    Unknown c := by
  have notQuote : c ≠ '\'' ∧ c ≠ '"' := by
    constructor <;> rintro rfl <;> simp [of] at found
  have notMark : c ∉ marks := by
    intro member
    simp only [marks, List.mem_cons, List.not_mem_nil, or_false] at member
    rcases member with rfl | rfl | rfl | rfl | rfl
    all_goals
      simp only [of] at found
      try split at found
      all_goals simp at found
  rw [of_eq_ofOther notMark] at found
  simp only [ofOther] at found
  constructor <;> grind

end TracingLexer.CharClass
