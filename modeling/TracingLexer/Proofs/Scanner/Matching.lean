import TracingLexer.Proofs.Scanner.Walks
import TracingLexer.Proofs.Source.Fit
import TracingLexer.Proofs.Text.Carrying

namespace TracingLexer

/-- The ids of the states that were entered before the fault was found. -/
def Fault.spentIds : Fault → Nat
  | .uppercaseWord word => (Text.collapse word).length
  | .openComment _ => 0
  | .openCall function content => (Text.collapse (function.name ++ '(' :: content)).length

def Call.opening (function : Call) : List Char := function.name ++ ['(']

theorem Call.name_append (function : Call) (tail : List Char) :
    function.name ++ '(' :: tail = function.opening ++ tail := by
  rw [opening, List.append_assoc]
  rfl

theorem Segment.text_call (function : Call) (content : List Char) :
    (call function content).text = function.opening ++ content ++ [')'] := by
  rw [text, Call.opening, List.append_assoc, List.append_assoc, List.append_assoc]
  rfl

theorem Segment.symbols_call (function : Call) (content : List Char) :
    (call function content).symbols =
      (Text.collapse (function.opening ++ content)).map Symbol.char ++ [.char ')'] := by
  rw [symbols, Call.opening, List.append_assoc]
  rfl

namespace Scanner

open Segment (isNumberChar)

variable {scanner : Scanner} {c : Char}

/-- What a segment or a fault at the front of the rest comes down to. -/
def answer (scanner : Scanner) : Except Fault Segment → Reading
  | .ok segment => (.ok (scanner.tokenOf? segment), scanner.take segment)
  | .error fault =>
      (.error ⟨fault, scanner.line, scanner.offset⟩,
        (scanner.skip fault.text).spend fault.spentIds)

theorem globalsAfter_of_not_word {segment : Segment} (notWord : ∀ letters, segment ≠ .word letters)
    (next : Option Char) :
    scanner.globalsAfter (scanner.tokenOf? segment) next = scanner.globals := by
  cases found : segment.reading? with
  | none => rw [tokenOf?_of_silent found, globalsAfter]
  | some reading =>
      have unnamed : reading.1 ≠ .identifier := by
        have reads : Segment.Reads segment reading.1 reading.2 := Segment.reads_of_reading? found
        generalize reading.1 = kind at reads
        generalize reading.2 = literal at reads
        cases reads with
        | word letters => exact absurd rfl (notWord letters)
        | call function kept => cases function <;> decide
        | _ => decide
      rw [tokenOf?_of_reading found, globalsAfter, if_neg unnamed]
      simp

theorem answer_of_plain {segment : Segment} (notWord : ∀ letters, segment ≠ .word letters)
    (level : depthAfter scanner.depth segment = scanner.depth)
    (quiet : scanner.warningsAfter segment = scanner.warnings) :
    scanner.answer (.ok segment) =
      (.ok (scanner.tokenOf? segment),
        (scanner.skip segment.text).spend segment.symbols.length) := by
  rw [answer, take, globalsAfter_of_not_word notWord, level, quiet]
  rfl

theorem readNumber_eq {run tail : List Char} (inPlace : scanner.InPlace)
    (inside : scanner.offset ≤ scanner.text.length) (split : scanner.rest = run ++ tail)
    (inRun : ∀ c ∈ run, isNumberChar c = true) (ends : Text.Ends isNumberChar tail) :
    scanner.readNumber = .ok (scanner.answer (.ok (.number run))) := by
  have walked : Walk.follow isNumberChar ⟨scanner, []⟩ = Walk.along scanner run :=
    @Walk.follow_along scanner _ [] run tail inPlace split inRun ends
  have part : (Walk.along scanner run).scanner.cut scanner.offset
      (Walk.along scanner run).scanner.offset = .ok run :=
    @Walk.cut_along scanner [] run tail inPlace inside split
  have ids : (Segment.number run).symbols.length = (Text.collapse run).length + 1 :=
    Walk.length_closed run .epsilon
  rw [readNumber, walked, Walk.enter_along rfl]
  change (Walk.along scanner run).scanner.cut scanner.offset
    (Walk.along scanner run).scanner.offset >>= _ = _
  rw [part, answer_of_plain (fun _ => Segment.noConfusion) rfl rfl, ids]
  by_cases point : '.' ∈ run
  · have reading : (Segment.number run).reading? =
        some (.decimal, String.ofList ((Text.Decimal.round? run).getD run)) := if_pos point
    rw [tokenOf?_of_reading reading]
    simp only [bind, Except.bind, point, if_true, Text.Decimal.ByDigits.round_eq, Except.mapError]
    rfl
  · have reading : (Segment.number run).reading? = some (.integer, String.ofList run) :=
      if_neg point
    rw [tokenOf?_of_reading reading]
    simp only [bind, Except.bind, point, if_false]
    rfl

theorem readSingle_eq {tail : List Char} (kind : Kind) (inPlace : scanner.InPlace)
    (split : scanner.rest = c :: tail) :
    scanner.readSingle kind c =
      (.ok (some
          { kind, literal := String.ofList [c], trace := State.chain scanner.nextId [.char c] }),
        (scanner.skip [c]).spend 1) := by
  rw [readSingle, bump_eq inPlace split]
  rfl

theorem answer_operator (scanner : Scanner) (c : Char) :
    scanner.answer (.ok (.operator c)) =
      (.ok (some
          { kind := .operator, literal := String.ofList [c]
            trace := State.chain scanner.nextId [.char c] }),
        (scanner.skip [c]).spend 1) := by
  rw [answer_of_plain (fun _ => Segment.noConfusion) rfl rfl]
  rfl

theorem answer_punctuator (scanner : Scanner) (c : Char) :
    scanner.answer (.ok (.punctuator c)) =
      (.ok (some
          { kind := .punctuator, literal := String.ofList [c]
            trace := State.chain scanner.nextId [.char c] }),
        { (scanner.skip [c]).spend 1 with depth := depthAfter scanner.depth (.punctuator c) }) := by
  rw [answer, take, globalsAfter_of_not_word fun _ => Segment.noConfusion]
  rfl

theorem readCharacter_eq {rest : List Char} (inPlace : scanner.InPlace)
    (split : scanner.rest = '\'' :: rest) :
    scanner.readCharacter = scanner.answer (.ok (Segment.readCharacter rest)) := by
  have bumped := bump_eq inPlace split
  have opened : (scanner.skip ['\'']).rest = rest := @rest_skip scanner ['\''] _ split
  have openedInPlace := inPlace.skip ['\'']
  by_cases closes : Segment.ClosesCharacter rest
  · rcases closes with ⟨value, tail, notQuote, rfl⟩
    have onValue : (scanner.skip ['\'']).peek = some value := by
      rw [peek_eq openedInPlace, opened, List.head?_cons]
    have onQuote : (scanner.skip ['\'']).peekNth 1 = some '\'' := by
      rw [peekNth_eq openedInPlace, opened]
      rfl
    have closed (count : Nat) :
        ((scanner.skip ['\'']).spend count).bump.bump =
          (scanner.skip ['\'', value, '\'']).spend count := by
      rw [bump_bump_eq (openedInPlace.spend count) opened, skip_spend, skip_skip]
      rfl
    rw [Segment.readCharacter_of_closes notQuote,
      answer_of_plain (fun _ => Segment.noConfusion) rfl rfl, readCharacter, bumped]
    simp only [onValue, onQuote, notQuote, if_false]
    exact Prod.ext rfl (closed 3)
  · rw [Segment.readCharacter_of_lone closes,
      answer_of_plain (fun _ => Segment.noConfusion) rfl rfl, readCharacter, bumped]
    simp only [peek_eq openedInPlace, peekNth_eq openedInPlace, opened]
    split
    next value onValue onQuote =>
      split
      · rfl
      next notQuote =>
        rcases List.head?_eq_some_iff.mp onValue with ⟨tail, rfl⟩
        rw [List.getElem?_cons_succ, ← List.head?_eq_getElem?] at onQuote
        rcases List.head?_eq_some_iff.mp onQuote with ⟨more, rfl⟩
        exact absurd ⟨value, more, notQuote, rfl⟩ closes
    · rfl

theorem follow_string {content tail : List Char} (inPlace : scanner.InPlace)
    (split : scanner.rest = '"' :: (content ++ tail)) (noQuote : '"' ∉ content)
    (ends : Text.Ends (· ≠ '"') tail) :
    (Walk.enter ⟨scanner, []⟩ false (.char '"')).bump.follow (· ≠ '"') =
      Walk.along scanner ('"' :: content) := by
  have opened : (Walk.enter ⟨scanner, []⟩ false (.char '"')).bump = Walk.along scanner ['"'] :=
    @Walk.bump_push_along scanner '"' [] _ inPlace split
  rw [opened]
  exact @Walk.follow_along scanner _ ['"'] content tail inPlace split
    (Text.forall_ne_of_absent noQuote) ends

theorem readString_eq {content tail : List Char} {closed : Bool} (inPlace : scanner.InPlace)
    (split : scanner.rest = '"' :: (content ++ tail)) (noQuote : '"' ∉ content)
    (ending : if closed then tail.head? = some '"' else tail = []) :
    scanner.readString = .ok (scanner.answer (.ok (.string content closed))) := by
  have ends : Text.Ends (· ≠ '"') tail := by
    intro c head
    cases closed <;> simp_all
  have walked := follow_string inPlace split noQuote ends
  have inside := Nat.le_of_lt (offset_lt_of_rest inPlace split)
  have part : (Walk.along scanner ('"' :: content)).scanner.cut (scanner.offset + 1)
      (Walk.along scanner ('"' :: content)).scanner.offset = .ok content :=
    @Walk.cut_along scanner ['"'] content tail inPlace inside split
  have here : (Walk.along scanner ('"' :: content)).scanner.peek = tail.head? :=
    Walk.peek_along inPlace split
  have ids : (Segment.string content closed).symbols.length =
      (Text.collapse ('"' :: content)).length + 1 := Walk.length_closed ('"' :: content) _
  rw [readString, walked]
  simp only [part, here, bind, Except.bind]
  cases closed with
  | true =>
      rcases List.head?_eq_some_iff.mp ending with ⟨more, rfl⟩
      have bumped : (Walk.along scanner ('"' :: content)).scanner.bump =
          (scanner.skip ('"' :: content ++ ['"'])).spend
            (Text.collapse ('"' :: content)).length := Walk.bump_along inPlace split
      rw [answer_of_plain (fun _ => Segment.noConfusion) rfl rfl, bumped, ids]
      simp only [List.head?_cons, reduceCtorEq, if_false]
      rw [Walk.enter_along rfl, spend_spend]
      rfl
  | false =>
      obtain rfl : tail = [] := ending
      rw [answer, take, globalsAfter_of_not_word fun _ => Segment.noConfusion, ids]
      simp only [List.head?_nil, if_true]
      rw [Walk.enter_along rfl, Segment.text, if_neg Bool.false_ne_true, List.append_nil]
      rfl

theorem follow_enclosed {front content tail : List Char} (inPlace : scanner.InPlace)
    (split : scanner.rest = front ++ (content ++ tail)) (noClose : ')' ∉ content)
    (ends : Text.Ends (· ≠ ')') tail) :
    (Walk.along scanner front).follow (· ≠ ')') = Walk.along scanner (front ++ content) :=
  Walk.follow_along inPlace split (Text.forall_ne_of_absent noClose) ends

theorem enter_enclosed (function : Call) {content tail : List Char} (inPlace : scanner.InPlace)
    (split : scanner.rest = function.opening ++ content ++ ')' :: tail) :
    (Walk.along scanner (function.opening ++ content)).bump.enter true (.char ')') =
      { scanner :=
          (scanner.skip (Segment.call function content).text).spend
            (Segment.call function content).symbols.length
        trace := (Segment.call function content).trace scanner.nextId } := by
  have states : (Segment.call function content).trace scanner.nextId =
      State.chain scanner.nextId (Segment.call function content).symbols := rfl
  rw [states, Walk.bump, Walk.bump_along inPlace split, Walk.enter_along rfl, spend_spend,
    Segment.text_call, Segment.symbols_call, Walk.length_closed]

theorem readCall_closed (function : Call) {content tail : List Char} (inPlace : scanner.InPlace)
    (inside : scanner.offset ≤ scanner.text.length)
    (split : scanner.rest = function.name ++ '(' :: (content ++ ')' :: tail))
    (noClose : ')' ∉ content) :
    readCall function scanner.line scanner.offset (Walk.along scanner function.name) =
      .ok (scanner.answer (.ok (.call function content))) := by
  have opened : ((Walk.along scanner function.name).push '(').bump =
      Walk.along scanner function.opening := Walk.bump_push_along inPlace split
  rw [Call.name_append] at split
  have walked := follow_enclosed inPlace split noClose (Text.ends_cons.mpr rfl)
  have part := Walk.cut_along inPlace inside split
  rw [← List.append_assoc] at split
  have here := Walk.peek_along inPlace split
  have closed := enter_enclosed function inPlace split
  have start : (Walk.along scanner function.opening).scanner.offset =
      scanner.offset + function.opening.length := rfl
  rw [answer_of_plain (fun _ => Segment.noConfusion) rfl rfl, readCall]
  simp only [opened, walked, here, start, part, closed, List.head?_cons, bind, Except.bind,
    reduceCtorEq, if_false]
  by_cases dropped : function = .output ∧ Text.trim content = []
  · have silent : (Segment.call function content).reading? = none := if_pos dropped
    rw [if_pos dropped, tokenOf?_of_silent silent]
    rfl
  · have reading : (Segment.call function content).reading? =
        some (function.kind,
          String.ofList (function.name ++ '(' :: Text.trim content ++ [')'])) := if_neg dropped
    have unnamed : function.kind ≠ .identifier := by cases function <;> decide
    rw [if_neg dropped, tokenOf?_of_reading reading, if_neg unnamed]
    rfl

theorem readCall_open (function : Call) {content : List Char} (inPlace : scanner.InPlace)
    (split : scanner.rest = function.name ++ '(' :: content) (noClose : ')' ∉ content) :
    readCall function scanner.line scanner.offset (Walk.along scanner function.name) =
      .ok (scanner.answer (.error (.openCall function content))) := by
  have opened : ((Walk.along scanner function.name).push '(').bump =
      Walk.along scanner function.opening := Walk.bump_push_along inPlace split
  rw [Call.name_append] at split
  have here : (Walk.along scanner (function.opening ++ content)).scanner.peek = none :=
    Walk.peek_along inPlace (split.trans (List.append_nil _).symm)
  have enclosed : scanner.text.drop (scanner.offset + function.opening.length) = content := by
    rw [← List.drop_drop, inPlace, split, List.drop_left]
  rw [← List.append_nil content] at split
  have walked := follow_enclosed inPlace split noClose (Text.ends_nil _)
  have start : (Walk.along scanner function.opening).scanner.offset =
      scanner.offset + function.opening.length := rfl
  have covered : function.opening ++ content = (Fault.openCall function content).text := by
    rw [Call.opening, List.append_assoc]
    rfl
  have ids : (Text.collapse (Fault.openCall function content).text).length =
      (Fault.openCall function content).spentIds := rfl
  rw [readCall]
  simp only [opened, walked, here, start, Walk.text_along, enclosed, if_true]
  rw [covered, Walk.along, ids]
  rfl

theorem readCall_eq (function : Call) {inner : List Char} (inPlace : scanner.InPlace)
    (inside : scanner.offset ≤ scanner.text.length)
    (split : scanner.rest = function.name ++ '(' :: inner) :
    readCall function scanner.line scanner.offset (Walk.along scanner function.name) =
      .ok (scanner.answer (Segment.readCall function inner)) := by
  by_cases present : ')' ∈ inner
  · obtain ⟨content, tail, rfl, noClose⟩ := List.eq_append_cons_of_mem present
    rw [Segment.readCall_append function noClose]
    exact readCall_closed function inPlace inside split noClose
  · rw [Segment.readCall_open function present]
    exact readCall_open function inPlace split present

theorem noteName_eq (scanner : Scanner) (name : String) :
    scanner.noteName name =
      { scanner with
        globals :=
          if some scanner.scope = some .global ∧ scanner.peek = some '=' then
            scanner.globals.insert name
          else scanner.globals } := by
  have outside : some scanner.scope = some .global ↔ scanner.depth = 0 := by
    by_cases outermost : scanner.depth = 0 <;> simp [scope, outermost]
  simp only [noteName, outside, And.comm]
  split <;> rfl

theorem closeWord_eq (inPlace : scanner.InPlace) (letters : List Char) :
    closeWord letters (Walk.along scanner letters) = scanner.answer (.ok (.word letters)) := by
  have reading : (Segment.word letters).reading? =
      some (Segment.wordKind (String.ofList letters), String.ofList letters) := rfl
  have ids : (Segment.word letters).symbols.length = (Text.collapse letters).length + 1 :=
    Walk.length_closed letters .epsilon
  have closed : (Walk.along scanner letters).enter true .epsilon =
      { scanner := (scanner.skip letters).spend (Segment.word letters).symbols.length
        trace := (Segment.word letters).trace scanner.nextId } := by
    rw [Walk.enter_along rfl, ids, ← spend_spend]
    rfl
  have here : ((scanner.skip letters).spend (Segment.word letters).symbols.length).peek =
      (scanner.skip letters).rest.head? := peek_eq (inPlace.skip letters)
  rw [closeWord, closed, answer, take, tokenOf?_of_reading reading]
  by_cases named : Segment.wordKind (String.ofList letters) = .identifier
  · simp only [named, if_true, noteName_eq, here]
    rfl
  · simp only [named, if_false, globalsAfter, reduceCtorEq, false_and]
    rfl

theorem readWord_eq {letters tail : List Char} (inPlace : scanner.InPlace)
    (inside : scanner.offset ≤ scanner.text.length) (split : scanner.rest = letters ++ tail)
    (inRun : ∀ c ∈ letters, Text.isAlphanumeric c = true)
    (ends : Text.Ends Text.isAlphanumeric tail) :
    scanner.readWord = .ok (scanner.answer (Segment.readWord letters tail)) := by
  have walked : Walk.follow Text.isAlphanumeric ⟨scanner, []⟩ = Walk.along scanner letters :=
    @Walk.follow_along scanner _ [] letters tail inPlace split inRun ends
  have part : (Walk.along scanner letters).scanner.cut scanner.offset
      (Walk.along scanner letters).scanner.offset = .ok letters :=
    @Walk.cut_along scanner [] letters tail inPlace inside split
  have here := Walk.peek_along inPlace split
  rw [readWord, walked]
  simp only [part, here, bind, Except.bind]
  split
  next upper =>
    rw [Segment.readWord_upper (List.any_eq_true.mp upper)]
    rfl
  next notUpper =>
    have lower : ∀ c ∈ letters, Text.isUppercase c = false := by simpa using notUpper
    split
    next function named opens =>
      rcases List.head?_eq_some_iff.mp opens with ⟨inner, rfl⟩
      obtain rfl := Segment.Call.name_of_ofName? named
      rw [Segment.readWord_call lower named]
      exact readCall_eq function inPlace inside split
    next plain =>
      have noCall : Call.ofName? letters ≠ none → tail.head? ≠ some '(' := by
        intro found opens
        obtain ⟨function, named⟩ := Option.ne_none_iff_exists'.mp found
        exact plain function named opens
      rw [Segment.readWord_plain lower noCall]
      exact congrArg Except.ok (closeWord_eq inPlace letters)

theorem readBlockComment_eq {inner : List Char} (inPlace : scanner.InPlace)
    (split : scanner.rest = '/' :: '*' :: inner) :
    scanner.readBlockComment = scanner.answer (Segment.readBlockComment inner) := by
  have behind : (scanner.skip ['/', '*']).rest = inner := @rest_skip scanner ['/', '*'] _ split
  have insidePlace := inPlace.skip ['/', '*']
  rw [readBlockComment, bump_bump_eq inPlace split, seekCommentEnd_eq insidePlace, behind,
    Segment.readBlockComment]
  cases found : Segment.commentBody? inner with
  | some body =>
      rw [answer_of_plain (fun _ => Segment.noConfusion) rfl rfl]
      simp only [if_true, skip_skip]
      rfl
  | none =>
      have body : (scanner.skip ['/', '*']).text.drop (scanner.skip ['/', '*']).offset = inner :=
        insidePlace.trans behind
      simp only [Bool.false_eq_true, if_false, skip_skip, body]
      rfl

theorem bump_eq_answer {segment : Segment} {rest : List Char} (inPlace : scanner.InPlace)
    (split : scanner.rest = c :: rest) (layout : segment = .blank c ∨ segment = .stray c) :
    (.ok none, scanner.bump) = scanner.answer (.ok segment) := by
  rw [bump_eq inPlace split]
  rcases layout with rfl | rfl
  · rw [answer_of_plain (fun _ => Segment.noConfusion) rfl rfl]
    rfl
  · rw [answer_of_plain (fun _ => Segment.noConfusion) rfl rfl]
    rfl

theorem skipWhile_eq_answer {body tail : List Char} (inPlace : scanner.InPlace)
    (split : scanner.rest = '/' :: '/' :: (body ++ tail)) (inLine : '\n' ∉ body)
    (ends : Text.Ends (· ≠ '\n') tail) :
    (.ok none, scanner.skipWhile (· ≠ '\n')) = scanner.answer (.ok (.lineComment body)) := by
  have noBreak : '\n' ∉ '/' :: '/' :: body := by simpa using inLine
  rw [skipWhile_eq inPlace split (Text.forall_ne_of_absent noBreak) ends,
    answer_of_plain (fun _ => Segment.noConfusion) rfl rfl]
  rfl

theorem readWord_eq_letter {rest : List Char} (inPlace : scanner.InPlace)
    (split : scanner.rest = c :: rest) (alphabetic : Text.isAlphabetic c = true) :
    scanner.readWord =
      .ok (scanner.answer (Segment.readWord (c :: rest.takeWhile Text.isAlphanumeric)
        (rest.dropWhile Text.isAlphanumeric))) := by
  refine readWord_eq inPlace ?_ ?_ ?_ (Text.ends_dropWhile _ _)
  · exact Nat.le_of_lt (offset_lt_of_rest inPlace split)
  · rw [split, List.cons_append, List.takeWhile_append_dropWhile]
  · rw [List.forall_mem_cons]
    exact ⟨Text.isAlphanumeric_of_isAlphabetic alphabetic, fun _ => List.mem_takeWhile_imp⟩

theorem readNumber_eq_digit {rest : List Char} (inPlace : scanner.InPlace)
    (split : scanner.rest = c :: rest) (digit : c.isDigit = true) :
    scanner.readNumber =
      .ok (scanner.answer (.ok (.number (c :: rest.takeWhile isNumberChar)))) := by
  refine readNumber_eq inPlace ?_ ?_ ?_ (Text.ends_dropWhile isNumberChar rest)
  · exact Nat.le_of_lt (offset_lt_of_rest inPlace split)
  · rw [split, List.cons_append, List.takeWhile_append_dropWhile]
  · rw [List.forall_mem_cons]
    exact ⟨by simp [isNumberChar, digit], fun _ => List.mem_takeWhile_imp⟩

theorem readString_eq_quote {rest : List Char} (inPlace : scanner.InPlace)
    (split : scanner.rest = '"' :: rest) :
    scanner.readString =
      .ok (scanner.answer (.ok (.string (rest.takeWhile (· ≠ '"')) (rest.contains '"')))) := by
  by_cases present : '"' ∈ rest
  · obtain ⟨content, tail, rfl, noQuote⟩ := List.eq_append_cons_of_mem present
    rw [Text.takeWhile_ne_append noQuote, List.contains_iff_mem.mpr present]
    exact readString_eq inPlace split noQuote rfl
  · have whole : scanner.rest = '"' :: (rest ++ []) := by rw [split, List.append_nil]
    have absent : rest.contains '"' = false := by simpa using present
    rw [Text.takeWhile_ne_of_absent present, absent]
    exact readString_eq inPlace whole present rfl

/-- What begins with the character at the offset is read in full: nothing that is asked for is
missing, and what is found is the segment or the fault at the front of the rest. -/
theorem readNext_eq {rest : List Char} (inPlace : scanner.InPlace)
    (split : scanner.rest = c :: rest) :
    scanner.readNext c = .ok (scanner.answer (Segment.read c rest)) := by
  have next : scanner.peekNth 1 = rest.head? := by
    rw [peekNth_eq inPlace, split, List.getElem?_cons_succ, List.head?_eq_getElem?]
  rw [readNext, next, Segment.read]
  cases found : CharClass.of c rest.head? with
  | openBrace =>
      obtain rfl := CharClass.eq_of_openBrace found
      simp only [readSingle_eq .punctuator inPlace split, answer_punctuator]
      rfl
  | closeBrace =>
      obtain rfl := CharClass.eq_of_closeBrace found
      simp only [readSingle_eq .punctuator inPlace split, answer_punctuator]
      rfl
  | blank => exact congrArg Except.ok (bump_eq_answer inPlace split (.inl rfl))
  | digit => exact readNumber_eq_digit inPlace split (CharClass.isDigit_of_digit found)
  | charQuote =>
      obtain rfl := CharClass.eq_of_charQuote found
      exact congrArg Except.ok (readCharacter_eq inPlace split)
  | stringQuote =>
      obtain rfl := CharClass.eq_of_stringQuote found
      exact readString_eq_quote inPlace split
  | letter => exact readWord_eq_letter inPlace split (CharClass.isAlphabetic_of_letter found)
  | lineComment =>
      obtain ⟨rfl, second⟩ := CharClass.eq_of_lineComment found
      rcases List.head?_eq_some_iff.mp second with ⟨inner, rfl⟩
      refine congrArg Except.ok (skipWhile_eq_answer inPlace ?_
        (Text.notMem_takeWhile_ne '\n' inner) (Text.ends_dropWhile _ inner))
      rw [split, List.tail_cons, List.takeWhile_append_dropWhile]
  | blockComment =>
      obtain ⟨rfl, second⟩ := CharClass.eq_of_blockComment found
      rcases List.head?_eq_some_iff.mp second with ⟨inner, rfl⟩
      exact congrArg Except.ok (readBlockComment_eq inPlace split)
  | operator =>
      simp only [readSingle_eq .operator inPlace split, answer_operator]
      rfl
  | punctuator =>
      have level : depthAfter scanner.depth (.punctuator c) = scanner.depth := by
        obtain ⟨notOpen, notClose⟩ := CharClass.ne_brace_of_punctuator found
        simp [depthAfter, notOpen, notClose]
      simp only [readSingle_eq .punctuator inPlace split, answer_punctuator, level]
      rfl
  | unknown => exact congrArg Except.ok (bump_eq_answer inPlace split (.inr rfl))

end Scanner
end TracingLexer
