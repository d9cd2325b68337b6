import Mathlib.Data.List.Infix
import TracingLexer.Proofs.Source.Classes
import TracingLexer.Source.Reader

namespace TracingLexer.Segment

def HasCommentEnd (text : List Char) : Prop := ['*', '/'] <:+: text

def ClosesCharacter (rest : List Char) : Prop :=
  ∃ value tail, value ≠ '\'' ∧ rest = value :: '\'' :: tail

structure IsWord (letters rest : List Char) : Prop where
  first : ∃ c tail, letters = c :: tail ∧ Text.isAlphabetic c = true
  all : ∀ c ∈ letters, Text.isAlphanumeric c = true
  longest : Text.Ends Text.isAlphanumeric rest

/-- The segment stands before the rest: it has the form of its kind, and it is read to its end. -/
def Fits : Segment → List Char → Prop
  | blank c, _ => Text.isBlank c = true
  | stray c, rest => c = '\'' ∧ ¬ ClosesCharacter rest ∨ CharClass.Unknown c
  | lineComment body, rest => '\n' ∉ body ∧ Text.Ends (· ≠ '\n') rest
  | blockComment body, _ => ¬ HasCommentEnd (body ++ ['*'])
  | number run, rest =>
      (∃ c tail, run = c :: tail ∧ c.isDigit = true) ∧ (∀ c ∈ run, isNumberChar c = true) ∧
        Text.Ends isNumberChar rest
  | character value, _ => value ≠ '\''
  | string content closed, rest => '"' ∉ content ∧ (closed = false → rest = [])
  | word letters, rest =>
      IsWord letters rest ∧ (∀ c ∈ letters, Text.isUppercase c = false) ∧
        (Call.ofName? letters ≠ none → rest.head? ≠ some '(')
  | call _ content, _ => ')' ∉ content
  | operator c, rest =>
      c ∈ CharClass.operators ∧ (c = '/' → rest.head? ≠ some '/' ∧ rest.head? ≠ some '*')
  | punctuator c, _ => c ∈ CharClass.punctuators

end Segment

/-- The fault stands before the rest. A construct that is not closed takes up the whole text. -/
def Fault.Fits : Fault → List Char → Prop
  | .uppercaseWord word, rest =>
      Segment.IsWord word rest ∧ ∃ c ∈ word, Text.isUppercase c = true
  | .openComment body, rest => ¬ Segment.HasCommentEnd body ∧ rest = []
  | .openCall _ content, rest => ')' ∉ content ∧ rest = []

namespace Segment

def Stands : Except Fault Segment → List Char → Prop
  | .ok segment, rest => segment.Fits rest
  | .error fault, rest => fault.Fits rest

theorem not_hasCommentEnd_nil : ¬ HasCommentEnd [] := by
  simp [HasCommentEnd]

theorem hasCommentEnd_cons {c : Char} {text : List Char} :
    HasCommentEnd (c :: text) ↔ (c = '*' ∧ text.head? = some '/') ∨ HasCommentEnd text := by
  rw [HasCommentEnd, List.infix_cons_iff]
  cases text with
  | nil => simp [HasCommentEnd]
  | cons next text => simp [HasCommentEnd, eq_comm]

theorem commentBody?_append {body : List Char} (first : ¬ HasCommentEnd (body ++ ['*']))
    (tail : List Char) : commentBody? (body ++ '*' :: '/' :: tail) = some body := by
  induction body with
  | nil => simp [commentBody?]
  | cons c body ih =>
      rw [List.cons_append, hasCommentEnd_cons, not_or] at first
      rcases first with ⟨notHere, later⟩
      have sameHead : (body ++ '*' :: '/' :: tail).head? = (body ++ ['*']).head? := by
        cases body <;> rfl
      rw [List.cons_append, commentBody?, sameHead, if_neg notHere, ih later]
      rfl

theorem commentBody?_eq_none_iff {text : List Char} :
    commentBody? text = none ↔ ¬ HasCommentEnd text := by
  induction text with
  | nil => simp [commentBody?, not_hasCommentEnd_nil]
  | cons c text ih =>
      rw [commentBody?, hasCommentEnd_cons, not_or, ← ih]
      by_cases here : c = '*' ∧ text.head? = some '/'
      · rw [if_pos here]
        simp [here]
      · rw [if_neg here, Option.map_eq_none_iff]
        simp [here]

theorem not_hasCommentEnd_of_commentBody? {text body : List Char}
    (found : commentBody? text = some body) : ¬ HasCommentEnd (body ++ ['*']) := by
  induction text generalizing body with
  | nil => simp [commentBody?] at found
  | cons c text ih =>
      rw [commentBody?] at found
      by_cases here : c = '*' ∧ text.head? = some '/'
      · rw [if_pos here, Option.some.injEq] at found
        subst found
        simp [hasCommentEnd_cons, not_hasCommentEnd_nil]
      · rw [if_neg here] at found
        obtain ⟨inner, innerFound, rfl⟩ := Option.map_eq_some_iff.mp found
        rw [List.cons_append, hasCommentEnd_cons, not_or]
        refine ⟨?_, ih innerFound⟩
        intro holds
        rcases holds with ⟨star, slash⟩
        obtain ⟨tail, rfl⟩ := commentBody?_eq_some innerFound
        apply here
        refine ⟨star, ?_⟩
        cases inner with
        | nil => simp at slash
        | cons next inner => simpa using slash

theorem readCharacter_of_closes {value : Char} (notQuote : value ≠ '\'') (tail : List Char) :
    readCharacter (value :: '\'' :: tail) = character value := by
  simp [readCharacter, notQuote]

theorem readCharacter_of_lone {rest : List Char} (lone : ¬ ClosesCharacter rest) :
    readCharacter rest = stray '\'' := by
  unfold readCharacter
  split
  next value close tail =>
    apply if_neg
    intro holds
    rcases holds with ⟨notQuote, rfl⟩
    exact lone ⟨value, tail, notQuote, rfl⟩
  next => rfl

theorem readCall_append (function : Call) {content : List Char} (inside : ')' ∉ content)
    (tail : List Char) :
    readCall function (content ++ ')' :: tail) = .ok (call function content) := by
  rw [readCall, if_pos (by simp), Text.takeWhile_ne_append inside]

theorem readCall_open (function : Call) {content : List Char} (inside : ')' ∉ content) :
    readCall function content = .error (.openCall function content) := by
  rw [readCall, if_neg inside]

theorem readWord_upper {letters : List Char} (upper : ∃ c ∈ letters, Text.isUppercase c = true)
    (rest : List Char) : readWord letters rest = .error (.uppercaseWord letters) := by
  unfold readWord
  rw [if_pos (List.any_eq_true.mpr upper)]

theorem readWord_call {function : Call} {letters : List Char}
    (lower : ∀ c ∈ letters, Text.isUppercase c = false)
    (named : Call.ofName? letters = some function) (inner : List Char) :
    readWord letters ('(' :: inner) = readCall function inner := by
  unfold readWord
  rw [if_neg (by simpa using lower), named]
  rfl

theorem readWord_plain {letters rest : List Char}
    (lower : ∀ c ∈ letters, Text.isUppercase c = false)
    (noCall : Call.ofName? letters ≠ none → rest.head? ≠ some '(') :
    readWord letters rest = .ok (word letters) := by
  unfold readWord
  rw [if_neg (by simpa using lower)]
  split
  next function inner named => exact absurd rfl (noCall (by simp [named]))
  next => rfl

theorem fits_readCharacter {rest tail : List Char}
    (covered : (readCharacter rest).text ++ tail = '\'' :: rest) :
    (readCharacter rest).Fits tail := by
  by_cases closes : ClosesCharacter rest
  · rcases closes with ⟨value, more, notQuote, rfl⟩
    rw [readCharacter_of_closes notQuote]
    exact notQuote
  · rw [readCharacter_of_lone closes] at covered ⊢
    have same : tail = rest := @List.append_cancel_left _ ['\''] _ _ covered
    exact .inl ⟨rfl, same ▸ closes⟩

theorem stands_readBlockComment {rest tail : List Char}
    (covered : consumed (readBlockComment rest) ++ tail = '/' :: '*' :: rest) :
    Stands (readBlockComment rest) tail := by
  unfold readBlockComment at covered ⊢
  cases found : commentBody? rest with
  | some body => exact not_hasCommentEnd_of_commentBody? found
  | none =>
      refine ⟨commentBody?_eq_none_iff.mp found, ?_⟩
      simpa [found, consumed, Fault.text] using covered

theorem stands_readCall {function : Call} {rest tail : List Char}
    (covered : consumed (readCall function rest) ++ tail = function.name ++ '(' :: rest) :
    Stands (readCall function rest) tail := by
  by_cases present : ')' ∈ rest
  · rw [readCall, if_pos present]
    exact Text.notMem_takeWhile_ne ')' rest
  · rw [readCall_open function present] at covered ⊢
    refine ⟨present, ?_⟩
    simpa [consumed, Fault.text] using covered

theorem stands_readWord {letters rest tail : List Char} (isWord : IsWord letters rest)
    (covered : consumed (readWord letters rest) ++ tail = letters ++ rest) :
    Stands (readWord letters rest) tail := by
  by_cases upper : ∃ c ∈ letters, Text.isUppercase c = true
  · rw [readWord_upper upper] at covered ⊢
    have same : tail = rest := List.append_cancel_left covered
    exact ⟨same ▸ isWord, upper⟩
  · have lower : ∀ c ∈ letters, Text.isUppercase c = false := by simpa using upper
    by_cases noCall : Call.ofName? letters ≠ none → rest.head? ≠ some '('
    · rw [readWord_plain lower noCall] at covered ⊢
      have same : tail = rest := List.append_cancel_left covered
      subst same
      exact ⟨isWord, lower, noCall⟩
    · rw [Classical.not_imp, not_not] at noCall
      rcases noCall with ⟨isName, opened⟩
      obtain ⟨function, named⟩ := Option.ne_none_iff_exists'.mp isName
      obtain ⟨inner, rfl⟩ := List.head?_eq_some_iff.mp opened
      rw [readWord_call lower named, ← Call.name_of_ofName? named] at covered
      rw [readWord_call lower named]
      exact stands_readCall covered

theorem stands_read (c : Char) (rest : List Char) :
    ∃ tail, consumed (read c rest) ++ tail = c :: rest ∧ Stands (read c rest) tail := by
  obtain ⟨tail, covered⟩ := consumed_read c rest
  refine ⟨tail, covered, ?_⟩
  unfold read at covered ⊢
  split at covered
  next isBlank => exact CharClass.isBlank_of_blank isBlank
  next isDigit =>
    have digit := CharClass.isDigit_of_digit isDigit
    have same : tail = rest.dropWhile isNumberChar := by
      refine @List.append_cancel_left _ (c :: rest.takeWhile isNumberChar) _ _ (covered.trans ?_)
      simp
    refine ⟨⟨c, _, rfl, digit⟩, ?_, same ▸ Text.ends_dropWhile _ rest⟩
    intro member present
    rcases List.mem_cons.mp present with rfl | later
    · simp [isNumberChar, digit]
    · exact List.mem_takeWhile_imp later
  next isQuote =>
    rw [CharClass.eq_of_charQuote isQuote] at covered
    exact fits_readCharacter covered
  next isQuote =>
    refine ⟨Text.notMem_takeWhile_ne '"' rest, ?_⟩
    intro notClosed
    have absent : '"' ∉ rest := by simpa using notClosed
    rw [consumed, text, Text.takeWhile_ne_of_absent absent, notClosed] at covered
    have open_ : c = '"' := CharClass.eq_of_stringQuote isQuote
    simpa [open_] using covered
  next isLetter =>
    have alphabetic := CharClass.isAlphabetic_of_letter isLetter
    refine stands_readWord ⟨⟨c, _, rfl, alphabetic⟩, ?_, Text.ends_dropWhile _ rest⟩
      (covered.trans (by simp))
    intro member present
    rcases List.mem_cons.mp present with rfl | later
    · exact Text.isAlphanumeric_of_isAlphabetic alphabetic
    · exact List.mem_takeWhile_imp later
  next slashes =>
    obtain ⟨rfl, second⟩ := CharClass.eq_of_lineComment slashes
    obtain ⟨line, rfl⟩ := List.head?_eq_some_iff.mp second
    have same : tail = line.dropWhile (· ≠ '\n') := by
      refine @List.append_cancel_left _ ('/' :: '/' :: line.takeWhile (· ≠ '\n')) _ _
        (covered.trans ?_)
      simp
    exact ⟨Text.notMem_takeWhile_ne '\n' line, same ▸ Text.ends_dropWhile _ line⟩
  next opening =>
    obtain ⟨rfl, second⟩ := CharClass.eq_of_blockComment opening
    obtain ⟨inner, rfl⟩ := List.head?_eq_some_iff.mp second
    exact stands_readBlockComment covered
  next isOperator =>
    have same : tail = rest := @List.append_cancel_left _ [c] _ _ covered
    exact same ▸ CharClass.mem_operators_of_operator isOperator
  next opening => exact CharClass.mem_punctuators_of_openBrace opening
  next closing => exact CharClass.mem_punctuators_of_closeBrace closing
  next isPunctuator => exact CharClass.mem_punctuators_of_punctuator isPunctuator
  next nothing => exact .inr (CharClass.unknown_of_unknown nothing)

theorem read_of_isWord {letters tail rest : List Char} {c : Char} (isWord : IsWord letters tail)
    (split : c :: rest = letters ++ tail) : read c rest = readWord letters tail := by
  rcases isWord.first with ⟨first, more, rfl, alphabetic⟩
  rw [List.cons_append, List.cons.injEq] at split
  rcases split with ⟨rfl, rfl⟩
  have inside : ∀ c ∈ more, Text.isAlphanumeric c = true :=
    fun c member => isWord.all c (List.mem_cons_of_mem _ member)
  simp only [read, CharClass.of_isAlphabetic alphabetic,
    Text.takeWhile_append_of_ends inside isWord.longest,
    Text.dropWhile_append_of_ends inside isWord.longest]

theorem isWord_name (function : Call) (inner : List Char) :
    IsWord function.name ('(' :: inner) := by
  refine ⟨?_, ?_, Text.ends_cons.mpr (by decide)⟩
  · cases function
    · exact ⟨'i', _, rfl, by decide⟩
    · exact ⟨'o', _, rfl, by decide⟩
  · apply List.all_eq_true.mp
    cases function <;> decide

theorem lower_name (function : Call) : ∀ c ∈ function.name, Text.isUppercase c = false := by
  have lower : function.name.all (fun c => !Text.isUppercase c) = true := by
    cases function <;> decide
  simpa using lower

theorem Call.ofName?_name (function : Call) : Call.ofName? function.name = some function := by
  cases function <;> decide

theorem read_of_call {function : Call} {inner rest : List Char} {c : Char}
    (split : c :: rest = function.name ++ '(' :: inner) :
    read c rest = readCall function inner := by
  rw [read_of_isWord (isWord_name function inner) split,
    readWord_call (lower_name function) (Call.ofName?_name function)]

theorem read_of_fits {segment : Segment} {c : Char} {rest tail : List Char}
    (fits : segment.Fits tail) (split : c :: rest = segment.text ++ tail) :
    read c rest = .ok segment := by
  cases segment with
  | blank b =>
      simp only [text, List.cons_append, List.nil_append, List.cons.injEq] at split
      rcases split with ⟨rfl, rfl⟩
      have isBlank : Text.isBlank c = true := fits
      simp only [read, CharClass.of_isBlank isBlank]
  | stray b =>
      simp only [text, List.cons_append, List.nil_append, List.cons.injEq] at split
      rcases split with ⟨rfl, rfl⟩
      rcases fits with ⟨rfl, lone⟩ | nothing
      · simp only [read, CharClass.of, readCharacter_of_lone lone]
      · simp only [read, CharClass.of_unknown nothing]
  | lineComment body =>
      simp only [text, List.cons_append, List.cons.injEq] at split
      rcases split with ⟨rfl, rfl⟩
      rcases fits with ⟨inLine, ends⟩
      have inside := Text.forall_ne_of_absent inLine
      simp only [read, CharClass.of, List.head?_cons, List.tail_cons,
        Text.takeWhile_append_of_ends inside ends]
  | blockComment body =>
      simp only [text, List.cons_append, List.nil_append, List.append_assoc,
        List.cons.injEq] at split
      rcases split with ⟨rfl, rfl⟩
      simp only [read, CharClass.of, List.head?_cons, List.tail_cons, readBlockComment,
        commentBody?_append fits]
  | number run =>
      rcases fits with ⟨⟨first, more, rfl, isDigit⟩, inside, ends⟩
      simp only [text, List.cons_append, List.cons.injEq] at split
      rcases split with ⟨rfl, rfl⟩
      have moreInside : ∀ c ∈ more, isNumberChar c = true :=
        fun c member => inside c (List.mem_cons_of_mem _ member)
      simp only [read, CharClass.of_isDigit isDigit, Text.takeWhile_append_of_ends moreInside ends]
  | character value =>
      simp only [text, List.cons_append, List.nil_append, List.cons.injEq] at split
      rcases split with ⟨rfl, rfl⟩
      simp only [read, CharClass.of, readCharacter_of_closes fits]
  | string content closed =>
      simp only [text, List.cons_append, List.append_assoc, List.cons.injEq] at split
      rcases split with ⟨rfl, rfl⟩
      rcases fits with ⟨inside, whole⟩
      cases closed with
      | true =>
          simp only [read, CharClass.of, if_true, List.singleton_append,
            Text.takeWhile_ne_append inside]
          simp
      | false =>
          rw [whole rfl]
          simp only [read, CharClass.of, Bool.false_eq_true, if_false, List.append_nil,
            Text.takeWhile_ne_of_absent inside]
          simpa using inside
  | word letters =>
      rcases fits with ⟨isWord, lower, noCall⟩
      rw [read_of_isWord isWord split, readWord_plain lower noCall]
  | call function content =>
      simp only [text, List.append_assoc, List.cons_append, List.nil_append] at split
      rw [read_of_call split, readCall_append function fits]
  | operator op =>
      simp only [text, List.cons_append, List.nil_append, List.cons.injEq] at split
      rcases split with ⟨rfl, rfl⟩
      rcases fits with ⟨member, alone⟩
      simp only [read, CharClass.of_operator member alone]
  | punctuator mark =>
      simp only [text, List.cons_append, List.nil_append, List.cons.injEq] at split
      rcases split with ⟨rfl, rfl⟩
      rcases CharClass.of_punctuator fits rest.head? with found | found | found <;>
        simp only [read, found]

theorem read_of_fault_fits {fault : Fault} {c : Char} {rest tail : List Char}
    (fits : fault.Fits tail) (split : c :: rest = fault.text ++ tail) :
    read c rest = .error fault := by
  cases fault with
  | uppercaseWord word =>
      rcases fits with ⟨isWord, upper⟩
      rw [read_of_isWord isWord split, readWord_upper upper]
  | openComment body =>
      simp only [Fault.text, List.cons_append, List.cons.injEq] at split
      rcases split with ⟨rfl, rfl⟩
      rcases fits with ⟨noEnd, rfl⟩
      simp only [read, CharClass.of, List.head?_cons, List.tail_cons,
        List.append_nil, readBlockComment, commentBody?_eq_none_iff.mpr noEnd]
  | openCall function content =>
      rcases fits with ⟨noEnd, rfl⟩
      rw [Fault.text, List.append_nil] at split
      rw [read_of_call split, readCall_open function noEnd]

theorem read_of_stands {found : Except Fault Segment} {c : Char} {rest tail : List Char}
    (stands : Stands found tail) (split : c :: rest = consumed found ++ tail) :
    read c rest = found := by
  cases found with
  | ok segment => exact read_of_fits stands split
  | error fault => exact read_of_fault_fits stands split

theorem read_eq_iff {c : Char} {rest : List Char} {found : Except Fault Segment} :
    read c rest = found ↔ ∃ tail, consumed found ++ tail = c :: rest ∧ Stands found tail := by
  constructor
  · intro same
    subst same
    exact stands_read c rest
  · intro holds
    rcases holds with ⟨tail, split, stands⟩
    exact read_of_stands stands split.symm

end Segment
end TracingLexer
