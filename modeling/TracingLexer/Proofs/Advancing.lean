import TracingLexer.Proofs.Numbering
import TracingLexer.Proofs.Scanner.Matching

namespace TracingLexer

def Segment.spentIds : Except Fault Segment → Nat
  | .ok segment => segment.symbols.length
  | .error fault => fault.spentIds

theorem Fault.spentIds_le (fault : Fault) : fault.spentIds ≤ fault.text.length := by
  cases fault with
  | uppercaseWord word => exact Text.length_collapse_le word
  | openComment body => exact Nat.zero_le _
  | openCall function content => exact Text.length_collapse_le (function.name ++ '(' :: content)

theorem Segment.spentIds_le {found : Except Fault Segment} {tail : List Char}
    (stands : Stands found tail) : spentIds found ≤ 2 * (consumed found).length := by
  cases found with
  | ok segment => exact length_symbols_le stands
  | error fault =>
      have fewer : fault.spentIds ≤ fault.text.length := fault.spentIds_le
      simp only [spentIds, consumed]
      omega

theorem Scan.map_tokens_cons (scan : Scan) (piece : Piece) (tokens : List Token) :
    { scan with pieces := piece :: scan.pieces }.tokens.map (tokens ++ ·) =
      scan.tokens.map (tokens ++ piece.token.toList ++ ·) := by
  cases stopped : scan.error with
  | some error =>
      simp only [Scan.tokens, stopped]
      rfl
  | none =>
      simp only [Scan.tokens, stopped, Except.map, List.append_assoc]
      cases shown : piece.token <;> simp [shown]

namespace Scanner

open Segment (consumed spentIds)

variable {scanner : Scanner} {c : Char}

/-- The scanners that a new one becomes by reading on, also behind errors, and by going back to the
start of the text. -/
inductive Attained (text : List Char) : Scanner → Prop where
  | fresh : Attained text (ofText text)
  | reset {scanner : Scanner} (earlier : Attained text scanner) : Attained text scanner.reset
  | next {scanner next : Scanner} {c : Char} {found : Except ScanError (Option Token)}
      (earlier : Attained text scanner) (here : scanner.peek = some c)
      (read : scanner.readNext c = .ok (found, next)) : Attained text next

/-- The scanner stands within the text, and its counters go with the characters before it. -/
structure Placed (text : List Char) (scanner : Scanner) : Prop where
  text_eq : scanner.text = text
  inPlace : scanner.InPlace
  inside : scanner.offset ≤ text.length
  line_eq : scanner.line = 1 + (text.take scanner.offset).count '\n'
  nextId_le : scanner.nextId ≤ 2 * scanner.offset

theorem placed_ofText (text : List Char) : Placed text (ofText text) where
  text_eq := rfl
  inPlace := rfl
  inside := Nat.zero_le _
  line_eq := rfl
  nextId_le := Nat.zero_le _

namespace Placed

variable {text : List Char}

theorem reset (placed : Placed text scanner) : Placed text scanner.reset := by
  rcases placed with ⟨rfl, _, _, _, _⟩
  exact placed_ofText scanner.text

theorem offset_add (placed : Placed text scanner) :
    scanner.offset + scanner.rest.length = text.length := by
  have left := congrArg List.length placed.inPlace
  rw [List.length_drop, placed.text_eq] at left
  have inside := placed.inside
  omega

theorem answer {rest : List Char} (placed : Placed text scanner)
    (split : scanner.rest = c :: rest) :
    Placed text (scanner.answer (Segment.read c rest)).2 := by
  obtain ⟨tail, covered, stands⟩ := Segment.stands_read c rest
  generalize Segment.read c rest = found at covered stands ⊢
  have ahead : text.drop scanner.offset = consumed found ++ tail := by
    rw [← placed.text_eq, placed.inPlace, split, covered]
  have offset : (scanner.answer found).2.offset = scanner.offset + (consumed found).length := by
    cases found <;> rfl
  have line : (scanner.answer found).2.line = scanner.line + (consumed found).count '\n' := by
    cases found <;> rfl
  have ids : (scanner.answer found).2.nextId = scanner.nextId + spentIds found := by
    cases found <;> rfl
  refine ⟨?_, ?_, ?_, ?_, ?_⟩
  · cases found <;> exact placed.text_eq
  · cases found with
    | ok segment => exact placed.inPlace.take segment
    | error fault => exact (placed.inPlace.skip fault.text).spend fault.spentIds
  · have left : text.length - scanner.offset = (consumed found).length + tail.length := by
      rw [← List.length_drop, ahead, List.length_append]
    have inside := placed.inside
    omega
  · have passed : text.take (scanner.offset + (consumed found).length) =
        text.take scanner.offset ++ consumed found := by
      rw [List.take_add, ahead, List.take_left]
    rw [line, offset, passed, List.count_append, placed.line_eq, Nat.add_assoc]
  · have before := placed.nextId_le
    have fewer := Segment.spentIds_le stands
    omega

end Placed

theorem Attained.placed {text : List Char} (attained : Attained text scanner) :
    Placed text scanner := by
  induction attained with
  | fresh => exact placed_ofText text
  | reset earlier ih => exact ih.reset
  | next earlier here read ih =>
      rw [peek_eq ih.inPlace] at here
      obtain ⟨rest, split⟩ := List.head?_eq_some_iff.mp here
      rw [readNext_eq ih.inPlace split, Except.ok.injEq] at read
      have placed := ih.answer split
      rwa [read] at placed

/-- A step is read character by character. Before an error is found, ids may be spent on states that
no token shows. -/
theorem readNext_of_step? {found : Except ScanError Piece} {next : Scanner}
    (inPlace : scanner.InPlace) (stepped : scanner.step? = some (found, next)) :
    ∃ c ids, scanner.peek = some c ∧
      scanner.readNext c = .ok (found.map (·.token), next.spend ids) ∧ next.InPlace ∧
      ∀ piece, found = .ok piece → ids = 0 := by
  cases split : scanner.rest with
  | nil =>
      simp only [step?, split] at stepped
      cases stepped
  | cons c rest =>
      have here : scanner.peek = some c := by rw [peek_eq inPlace, split, List.head?_cons]
      have read := readNext_eq inPlace split
      simp only [step?, split] at stepped
      cases whole : Segment.read c rest with
      | ok segment =>
          rw [whole] at stepped read
          cases stepped
          exact ⟨c, 0, here, read, inPlace.take segment, fun _ _ => rfl⟩
      | error fault =>
          rw [whole] at stepped read
          cases stepped
          refine ⟨c, fault.spentIds, here, read, inPlace.skip fault.text, ?_⟩
          intro piece isPiece
          cases isPiece

theorem exists_step? (left : scanner.rest ≠ []) :
    ∃ found next, scanner.step? = some (found, next) := by
  obtain ⟨c, rest, split⟩ := List.exists_cons_of_ne_nil left
  simp only [step?, split]
  cases Segment.read c rest <;> exact ⟨_, _, rfl⟩

theorem readOn_eq (inPlace : scanner.InPlace) (tokens : List Token) {turns : Nat}
    (enough : scanner.rest.length ≤ turns) :
    ∃ ids, scanner.readOn tokens turns =
      .ok (some (scanner.run.tokens.map (tokens ++ ·), scanner.run.final.spend ids)) := by
  fun_induction run scanner generalizing tokens turns with
  | case1 scanner stopped =>
      have finished : scanner.rest = [] := by
        by_contra left
        obtain ⟨found, next, stepped⟩ := exists_step? left
        exact absurd (stopped.symm.trans stepped) (Option.some_ne_none _).symm
      have here : scanner.peek = none := by rw [peek_eq inPlace, finished, List.head?_nil]
      unfold readOn
      rw [here]
      exact ⟨0, rfl⟩
  | case2 scanner error next stepped =>
      obtain ⟨c, ids, here, read, _, _⟩ := readNext_of_step? inPlace stepped
      have shorter := length_rest_of_step? stepped
      obtain ⟨fewer, rfl⟩ : ∃ fewer, turns = fewer + 1 := Nat.exists_eq_add_one.mpr (by omega)
      unfold readOn
      rw [here]
      simp only [read, bind, Except.bind]
      exact ⟨ids, rfl⟩
  | case3 scanner piece next stepped scan ih =>
      obtain ⟨c, ids, here, read, behind, none⟩ := readNext_of_step? inPlace stepped
      obtain rfl : ids = 0 := none piece rfl
      have shorter := length_rest_of_step? stepped
      obtain ⟨fewer, rfl⟩ : ∃ fewer, turns = fewer + 1 := Nat.exists_eq_add_one.mpr (by omega)
      obtain ⟨spent, later⟩ := ih behind (tokens ++ piece.token.toList)
        (Nat.le_of_lt_succ (Nat.lt_of_lt_of_le shorter enough))
      refine ⟨spent, ?_⟩
      unfold readOn
      rw [here]
      simp only [read, bind, Except.bind]
      change next.readOn (tokens ++ piece.token.toList) fewer = _
      rw [later, ← Scan.map_tokens_cons]

/-- From wherever steps have led it, errors included, a scanner goes further. What the next step cuts
out of the text lies in order within it, since a cut that does not would end the step with what is
missing; and the step ends further on within the text. The text is scanned to its end, or to its first
error, in no more turns than it has characters. -/
theorem attained_reads_on {text : List Char} (attained : Attained text scanner) :
    scanner.offset ≤ text.length ∧
      scanner.line = 1 + (text.take scanner.offset).count '\n' ∧
      scanner.nextId ≤ 2 * scanner.offset ∧
      (scanner.offset < text.length →
        ∃ c found next ids, scanner.peek = some c ∧ scanner.step? = some (found, next) ∧
          scanner.readNext c = .ok (found.map (·.token), next.spend ids) ∧
          scanner.offset < next.offset ∧ next.offset ≤ text.length) ∧
      ∀ turns, text.length ≤ turns →
        ∃ ids, scanner.reset.readOn [] turns =
          .ok (some (scanner.scan.tokens, scanner.scan.final.spend ids)) := by
  have placed := attained.placed
  refine ⟨placed.inside, placed.line_eq, placed.nextId_le, ?_, ?_⟩
  · intro further
    have whole := placed.offset_add
    have left : scanner.rest ≠ [] := List.ne_nil_of_length_pos (by omega)
    obtain ⟨found, next, stepped⟩ := exists_step? left
    obtain ⟨c, ids, here, read, _, _⟩ := readNext_of_step? placed.inPlace stepped
    have behind := (Attained.next attained here read).placed
    have wholeBehind : next.offset + next.rest.length = text.length := behind.offset_add
    have shorter := length_rest_of_step? stepped
    exact ⟨c, found, next, ids, here, stepped, read, by omega, by omega⟩
  · intro turns enough
    have start := placed.reset
    have whole : scanner.reset.rest.length = text.length := congrArg List.length placed.text_eq
    obtain ⟨ids, read⟩ := readOn_eq start.inPlace [] (whole.trans_le enough)
    have same : scanner.reset.run.tokens.map ([] ++ ·) = scanner.scan.tokens := by
      rw [scan]
      cases scanner.reset.run.tokens <;> rfl
    exact ⟨ids, by rw [read, same, scan]⟩

/-- Behind a word with an uppercase letter the scanner reads on, to a comment that has no end. -/
theorem reads_on_behind_uppercase :
    ∃ scanner, Attained ['a', 'B', '\n', '/', '*'] scanner ∧ scanner.offset = 2 ∧
      ∃ c found next ids, scanner.peek = some c ∧ scanner.step? = some (found, next) ∧
        scanner.readNext c = .ok (found.map (·.token), next.spend ids) ∧
        2 < next.offset ∧ next.offset ≤ 5 := by
  let text := ['a', 'B', '\n', '/', '*']
  have first : Segment.read 'a' ['B', '\n', '/', '*'] = .error (.uppercaseWord ['a', 'B']) := by
    rfl
  have read := @readNext_eq (ofText text) 'a' _ rfl rfl
  rw [first] at read
  have attained : Attained text ((ofText text).answer (.error (.uppercaseWord ['a', 'B']))).2 :=
    .next .fresh rfl read
  exact ⟨_, attained, rfl, (attained_reads_on attained).2.2.2.1 (by decide)⟩

end Scanner
end TracingLexer
