import TracingLexer.Proofs.Scanner.Run
import TracingLexer.Proofs.Text.Trimming

namespace TracingLexer.Grammar

open Text (Ends Trimmed)

inductive WordKind (word : String) : Kind → Prop where
  | boolean (listed : word ∈ Segment.booleans) : WordKind word .boolean
  | keyword (listed : word ∈ Segment.keywords) : WordKind word .keyword
  | datatype (listed : word ∈ Segment.datatypes) : WordKind word .datatype
  | identifier (free : word ∉ Segment.booleans ++ Segment.keywords ++ Segment.datatypes) :
      WordKind word .identifier

/-- Part of a text that may stand before the rest, with the kind and literal read off it. -/
inductive Lexeme : List Char → List Char → Option (Kind × String) → Prop where
  | integer {first : Char} {run rest : List Char} (digit : first.isDigit = true)
      (digits : ∀ c ∈ run, c.isDigit = true)
      (longest : ∀ c, rest.head? = some c → c.isDigit = false ∧ c ≠ '.') :
      Lexeme (first :: run) rest (some (.integer, String.ofList (first :: run)))
  | decimal {first : Char} {run rest : List Char} (digit : first.isDigit = true)
      (digits : ∀ c ∈ run, c.isDigit = true ∨ c = '.') (point : '.' ∈ run)
      (longest : ∀ c, rest.head? = some c → c.isDigit = false ∧ c ≠ '.') :
      Lexeme (first :: run) rest
        (some (.decimal,
          String.ofList ((Text.Decimal.round? (first :: run)).getD (first :: run))))
  | word {first : Char} {run rest : List Char} {kind : Kind}
      (letter : Text.isAlphabetic first = true)
      (letters : ∀ c ∈ run, Text.isAlphanumeric c = true)
      (longest : Ends Text.isAlphanumeric rest)
      (lower : ∀ c ∈ first :: run, Text.isUppercase c = false)
      (noCall : first :: run = "input".toList ∨ first :: run = "output".toList →
        rest.head? ≠ some '(')
      (listed : WordKind (String.ofList (first :: run)) kind) :
      Lexeme (first :: run) rest (some (kind, String.ofList (first :: run)))
  | input {content inner rest : List Char} (first : ')' ∉ content)
      (trimmed : Trimmed content inner) :
      Lexeme ("input(".toList ++ content ++ [')']) rest
        (some (.input, String.ofList ("input(".toList ++ inner ++ [')'])))
  | output {content inner rest : List Char} (first : ')' ∉ content)
      (trimmed : Trimmed content inner) (nonempty : inner ≠ []) :
      Lexeme ("output(".toList ++ content ++ [')']) rest
        (some (.output, String.ofList ("output(".toList ++ inner ++ [')'])))
  | emptyOutput {content rest : List Char} (first : ')' ∉ content)
      (trimmed : Trimmed content []) :
      Lexeme ("output(".toList ++ content ++ [')']) rest none
  | string {content rest : List Char} (first : '"' ∉ content) :
      Lexeme ('"' :: content ++ ['"']) rest (some (.string, String.ofList content))
  /-- A text in quotes that is not closed runs to the end. -/
  | openString {content : List Char} (never : '"' ∉ content) :
      Lexeme ('"' :: content) [] (some (.string, String.ofList content))
  | character {value : Char} {rest : List Char} (notQuote : value ≠ '\'') :
      Lexeme ['\'', value, '\''] rest (some (.character, String.ofList [value]))
  | loneQuote {rest : List Char}
      (lone : ¬ ∃ value tail, value ≠ '\'' ∧ rest = value :: '\'' :: tail) :
      Lexeme ['\''] rest none
  | lineComment {body rest : List Char} (inLine : '\n' ∉ body)
      (longest : ∀ c, rest.head? = some c → c = '\n') :
      Lexeme ('/' :: '/' :: body) rest none
  /-- The comment ends with the first star before a slash that follows its opening. -/
  | blockComment {body rest : List Char} (first : ¬ ['*', '/'] <:+: body ++ ['*']) :
      Lexeme ('/' :: '*' :: body ++ ['*', '/']) rest none
  | operator {c : Char} {rest : List Char} (listed : c ∈ CharClass.operators)
      (noComment : c = '/' → rest.head? ≠ some '/' ∧ rest.head? ≠ some '*') :
      Lexeme [c] rest (some (.operator, String.ofList [c]))
  | punctuator {c : Char} {rest : List Char} (listed : c ∈ CharClass.punctuators) :
      Lexeme [c] rest (some (.punctuator, String.ofList [c]))
  | blank {c : Char} {rest : List Char} (blank : Text.isBlank c = true) : Lexeme [c] rest none
  | other {c : Char} {rest : List Char} (nothing : CharClass.Unknown c) : Lexeme [c] rest none

structure Part where
  covered : List Char
  reading : Option (Kind × String)
  deriving DecidableEq

/-- The parts follow each other without gaps, from the front of the text to its end. -/
inductive Split : List Char → List Part → Prop where
  | done : Split [] []
  | part {covered rest : List Char} {reading : Option (Kind × String)} {parts : List Part}
      (lexeme : Lexeme covered rest reading) (later : Split rest parts) :
      Split (covered ++ rest) (⟨covered, reading⟩ :: parts)

theorem wordKind_iff {word : String} {kind : Kind} :
    WordKind word kind ↔ Segment.wordKind word = kind := by
  have keywordOnly : ∀ word ∈ Segment.keywords, word ∉ Segment.booleans := by decide
  have datatypeOnly : ∀ word ∈ Segment.datatypes,
      word ∉ Segment.booleans ∧ word ∉ Segment.keywords := by decide
  constructor
  · intro holds
    rcases holds with listed | listed | listed | free
    · rw [Segment.wordKind, if_pos listed]
    · rw [Segment.wordKind, if_neg (keywordOnly word listed), if_pos listed]
    · rw [Segment.wordKind, if_neg (datatypeOnly word listed).1,
        if_neg (datatypeOnly word listed).2, if_pos listed]
    · simp only [List.mem_append, not_or] at free
      rw [Segment.wordKind, if_neg free.1.1, if_neg free.1.2, if_neg free.2]
  · intro same
    subst same
    unfold Segment.wordKind
    split_ifs with inBooleans inKeywords inDatatypes
    · exact .boolean inBooleans
    · exact .keyword inKeywords
    · exact .datatype inDatatypes
    · exact .identifier (by simp [inBooleans, inKeywords, inDatatypes])

theorem ends_number_iff {rest : List Char} :
    Ends Segment.isNumberChar rest ↔ ∀ c, rest.head? = some c → c.isDigit = false ∧ c ≠ '.' := by
  simp [Ends, Segment.isNumberChar]

theorem ofName?_ne_none_iff {letters : List Char} :
    Call.ofName? letters ≠ none ↔ letters = "input".toList ∨ letters = "output".toList := by
  have input : Call.input.name = "input".toList := by decide
  have output : Call.output.name = "output".toList := by decide
  rw [Call.ofName?, input, output]
  split_ifs <;> simp_all

theorem reading_input (content : List Char) :
    (Segment.call .input content).reading? =
      some (.input, String.ofList ("input(".toList ++ Text.trim content ++ [')'])) := rfl

theorem reading_output {content : List Char} (nonempty : Text.trim content ≠ []) :
    (Segment.call .output content).reading? =
      some (.output, String.ofList ("output(".toList ++ Text.trim content ++ [')'])) := by
  simp only [Segment.reading?, nonempty, and_false, if_false]
  rfl

theorem reading_emptyOutput {content : List Char} (empty : Text.trim content = []) :
    (Segment.call .output content).reading? = none := by
  simp [Segment.reading?, empty]

theorem lexeme_of_fits {segment : Segment} {rest : List Char} (fits : segment.Fits rest) :
    Lexeme segment.text rest segment.reading? := by
  cases segment with
  | blank c => exact .blank fits
  | stray c =>
      rcases fits with ⟨rfl, lone⟩ | nothing
      · exact .loneQuote lone
      · exact .other nothing
  | lineComment body =>
      refine .lineComment fits.1 ?_
      intro c head
      simpa using fits.2 c head
  | blockComment body => exact .blockComment fits
  | number run =>
      rcases fits with ⟨⟨first, more, rfl, digit⟩, inside, ends⟩
      have longest := ends_number_iff.mp ends
      have notPoint : first ≠ '.' := by
        intro same
        subst same
        exact absurd digit (by decide)
      by_cases point : '.' ∈ more
      · have digits : ∀ c ∈ more, c.isDigit = true ∨ c = '.' := by
          intro c member
          simpa [Segment.isNumberChar] using inside c (List.mem_cons_of_mem _ member)
        rw [Segment.reading?, if_pos (List.mem_cons_of_mem _ point)]
        exact .decimal digit digits point longest
      · have digits : ∀ c ∈ more, c.isDigit = true := by
          intro c member
          have either := inside c (List.mem_cons_of_mem _ member)
          simp only [Segment.isNumberChar, Bool.or_eq_true, beq_iff_eq] at either
          exact either.resolve_right fun same => point (same ▸ member)
        rw [Segment.reading?, if_neg (by simp [point, notPoint.symm])]
        exact .integer digit digits longest
  | character value => exact .character fits
  | string content closed =>
      rcases fits with ⟨inside, whole⟩
      cases closed with
      | true => exact .string inside
      | false =>
          rw [whole rfl, Segment.text, if_neg (by decide), List.append_nil]
          exact .openString inside
  | word letters =>
      rcases fits with ⟨isWord, lower, noCall⟩
      rcases isWord.first with ⟨first, more, rfl, letter⟩
      refine .word letter ?_ isWord.longest lower ?_ (wordKind_iff.mpr rfl)
      · exact fun c member => isWord.all c (List.mem_cons_of_mem _ member)
      · exact fun named => noCall (ofName?_ne_none_iff.mpr named)
  | call function content =>
      have trimmed := Text.trimmed_trim content
      cases function with
      | input => exact .input fits trimmed
      | output =>
          by_cases empty : Text.trim content = []
          · rw [reading_emptyOutput empty]
            exact .emptyOutput fits (empty ▸ trimmed)
          · rw [reading_output empty]
            exact .output fits trimmed empty
  | operator c => exact .operator fits.1 fits.2
  | punctuator c => exact .punctuator fits

theorem exists_fits_of_lexeme {covered rest : List Char} {reading : Option (Kind × String)}
    (lexeme : Lexeme covered rest reading) :
    ∃ segment : Segment,
      segment.text = covered ∧ segment.reading? = reading ∧ segment.Fits rest := by
  cases lexeme with
  | @integer first run _ digit digits longest =>
      refine ⟨.number (first :: run), rfl, ?_, ⟨first, run, rfl, digit⟩, ?_,
        ends_number_iff.mpr longest⟩
      · apply if_neg
        intro point
        have all : ∀ c ∈ first :: run, c.isDigit = true := by simpa using ⟨digit, digits⟩
        exact absurd (all _ point) (by decide)
      · have all : ∀ c ∈ first :: run, c.isDigit = true := by simpa using ⟨digit, digits⟩
        intro c member
        simp [Segment.isNumberChar, all c member]
  | @decimal first run _ digit digits point longest =>
      refine ⟨.number (first :: run), rfl, if_pos (List.mem_cons_of_mem _ point),
        ⟨first, run, rfl, digit⟩, ?_, ends_number_iff.mpr longest⟩
      intro c member
      rcases List.mem_cons.mp member with rfl | later
      · simp [Segment.isNumberChar, digit]
      · simpa [Segment.isNumberChar] using digits c later
  | @word first run _ kind letter letters longest lower noCall listed =>
      refine ⟨.word (first :: run), rfl, ?_, ⟨⟨first, run, rfl, letter⟩, ?_, longest⟩, lower, ?_⟩
      · rw [Segment.reading?, wordKind_iff.mp listed]
      · intro c member
        rcases List.mem_cons.mp member with rfl | later
        · exact Text.isAlphanumeric_of_isAlphabetic letter
        · exact letters c later
      · exact fun named => noCall (ofName?_ne_none_iff.mp named)
  | @input content inner _ first trimmed =>
      exact ⟨.call .input content, rfl, by rw [reading_input, trimmed.eq_trim], first⟩
  | @output content inner _ first trimmed nonempty =>
      refine ⟨.call .output content, rfl, ?_, first⟩
      rw [reading_output (by rwa [trimmed.eq_trim]), trimmed.eq_trim]
  | @emptyOutput content _ first trimmed =>
      exact ⟨.call .output content, rfl, reading_emptyOutput trimmed.eq_trim, first⟩
  | @string content _ first => exact ⟨.string content true, rfl, rfl, first, by simp⟩
  | @openString content never =>
      exact ⟨.string content false, by simp [Segment.text], rfl, never, fun _ => rfl⟩
  | @character value _ notQuote => exact ⟨.character value, rfl, rfl, notQuote⟩
  | loneQuote lone => exact ⟨.stray '\'', rfl, rfl, .inl ⟨rfl, lone⟩⟩
  | @lineComment body _ inLine longest =>
      refine ⟨.lineComment body, rfl, rfl, inLine, ?_⟩
      intro c head
      simp [longest c head]
  | @blockComment body _ first => exact ⟨.blockComment body, rfl, rfl, first⟩
  | @operator c _ listed noComment => exact ⟨.operator c, rfl, rfl, listed, noComment⟩
  | @punctuator c _ listed => exact ⟨.punctuator c, rfl, rfl, listed⟩
  | @blank c _ blank => exact ⟨.blank c, rfl, rfl, blank⟩
  | @other c _ nothing => exact ⟨.stray c, rfl, rfl, .inr nothing⟩

def partOf (segment : Segment) : Part := ⟨segment.text, segment.reading?⟩

theorem split_of_tile {segments : List Segment} (tile : Segment.Tile segments []) :
    Split (Segment.cover segments) (segments.map partOf) := by
  induction segments with
  | nil => exact .done
  | cons segment segments ih =>
      rcases tile with ⟨fits, later⟩
      rw [List.append_nil] at fits
      exact .part (lexeme_of_fits fits) (ih later)

theorem exists_tile_of_split {text : List Char} {parts : List Part} (split : Split text parts) :
    ∃ segments, text = Segment.cover segments ∧ Segment.Tile segments [] ∧
      parts = segments.map partOf := by
  induction split with
  | done => exact ⟨[], rfl, trivial, rfl⟩
  | part lexeme _ ih =>
      obtain ⟨segment, rfl, rfl, fits⟩ := exists_fits_of_lexeme lexeme
      rcases ih with ⟨segments, rfl, tile, rfl⟩
      refine ⟨segment :: segments, rfl, ⟨?_, tile⟩, rfl⟩
      rwa [List.append_nil]

theorem Split.unique {text : List Char} {first second : List Part} (firstSplit : Split text first)
    (secondSplit : Split text second) : first = second := by
  obtain ⟨firsts, rfl, firstTile, rfl⟩ := exists_tile_of_split firstSplit
  obtain ⟨seconds, same, secondTile, rfl⟩ := exists_tile_of_split secondSplit
  rw [Segment.eq_of_cover firstTile secondTile same]

theorem readings_tokensOf (scanner : Scanner) (segments : List Segment) :
    (scanner.tokensOf segments).map (fun token => (token.kind, token.literal)) =
      (segments.map partOf).filterMap (·.reading) := by
  induction segments generalizing scanner with
  | nil => rfl
  | cons segment segments ih =>
      rw [Scanner.tokensOf_cons, List.map_append, ih (scanner.take segment)]
      cases found : segment.reading? with
      | none => simp [Scanner.tokenOf?_of_silent found, partOf, found]
      | some reading => simp [Scanner.tokenOf?_of_reading found, partOf, found]

/-- The scan of a text succeeds exactly if the text splits, and its tokens are read off the split,
which is the only one. -/
theorem tokenize_eq_readings (text : String) :
    ((∃ tokens, tokenize text = .ok tokens) ↔ ∃ parts, Split text.toList parts) ∧
      ∀ parts, Split text.toList parts →
        (∀ other, Split text.toList other → other = parts) ∧
          ∃ tokens, tokenize text = .ok tokens ∧
            tokens.map (fun token => (token.kind, token.literal)) =
              parts.filterMap (·.reading) ++ [(.eof, "EOF")] := by
  have scanned : ∀ parts, Split text.toList parts → ∃ tokens, tokenize text = .ok tokens ∧
      tokens.map (fun token => (token.kind, token.literal)) =
        parts.filterMap (·.reading) ++ [(.eof, "EOF")] := by
    intro parts split
    obtain ⟨segments, covers, tile, rfl⟩ := exists_tile_of_split split
    refine ⟨_, tokenize_eq_ok_iff.mpr ⟨segments, covers, tile, rfl⟩, ?_⟩
    rw [List.map_append, readings_tokensOf]
    rfl
  refine ⟨⟨?_, ?_⟩, ?_⟩
  · intro holds
    rcases holds with ⟨tokens, succeeded⟩
    obtain ⟨segments, covers, tile, _⟩ := tokenize_eq_ok_iff.mp succeeded
    exact ⟨_, covers ▸ split_of_tile tile⟩
  · intro holds
    rcases holds with ⟨parts, split⟩
    obtain ⟨tokens, succeeded, _⟩ := scanned parts split
    exact ⟨tokens, succeeded⟩
  · intro parts split
    exact ⟨fun other otherSplit => otherSplit.unique split, scanned parts split⟩

theorem tokenize_eq_readings_call_comment :
    Split "output( )7.5'a'/*/*/".toList
        [⟨"output( )".toList, none⟩, ⟨"7.5".toList, some (.decimal, "7.50000")⟩,
          ⟨"'a'".toList, some (.character, "a")⟩, ⟨"/*/*/".toList, none⟩] ∧
      ∃ tokens, tokenize "output( )7.5'a'/*/*/" = .ok tokens ∧
        tokens.map (fun token => (token.kind, token.literal)) =
          [(.decimal, "7.50000"), (.character, "a"), (.eof, "EOF")] := by
  have comment : Split "/*/*/".toList [⟨"/*/*/".toList, none⟩] :=
    .part (@Lexeme.blockComment ['/'] [] (by decide)) .done
  have character : Split "'a'/*/*/".toList
      [⟨"'a'".toList, some (.character, "a")⟩, ⟨"/*/*/".toList, none⟩] :=
    .part (.character (by decide)) comment
  have rounded : (Text.Decimal.round? ['7', '.', '5']).getD ['7', '.', '5'] =
      "7.50000".toList := by decide
  have decimal : Split "7.5'a'/*/*/".toList
      [⟨"7.5".toList, some (.decimal, "7.50000")⟩, ⟨"'a'".toList, some (.character, "a")⟩,
        ⟨"/*/*/".toList, none⟩] := by
    have lexeme := @Lexeme.decimal '7' ['.', '5'] "'a'/*/*/".toList
      (by decide) (by simp) (by decide) (by simp)
    rw [rounded] at lexeme
    exact .part lexeme character
  have split : Split "output( )7.5'a'/*/*/".toList
      [⟨"output( )".toList, none⟩, ⟨"7.5".toList, some (.decimal, "7.50000")⟩,
        ⟨"'a'".toList, some (.character, "a")⟩, ⟨"/*/*/".toList, none⟩] := by
    refine .part (@Lexeme.emptyOutput [' '] _ (by decide) ?_) decimal
    exact Text.trim_eq_iff.mp (by decide)
  exact ⟨split, ((tokenize_eq_readings _).2 _ split).2⟩

end TracingLexer.Grammar
