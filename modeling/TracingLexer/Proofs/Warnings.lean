import TracingLexer.Proofs.Rescanning
import TracingLexer.Proofs.Scanner.Places

namespace TracingLexer

open Scanner Segment

/-- The last token is a string. It is read at the offset, and no quote stands behind its first. -/
structure EndsOpen (text : List Char) (tokens : List Token) (last : Token) (offset : Nat) :
    Prop where
  isLast : ∃ earlier, tokens = earlier ++ [last, Token.eof]
  read : ∃ place segment next, (ofText text).Reaches place ∧ place.offset = offset ∧
    place.step? = some (.ok ⟨segment, some last⟩, next)
  isString : last.kind = .string
  unclosed : '"' ∉ text.drop (offset + 1)

/-- Segments cover the text up to a quote behind which there is no other one. -/
structure CoveredOpen (text : List Char) (front : List Segment) (content : List Char) : Prop where
  split : text = cover front ++ '"' :: content
  tile : Tile front ('"' :: content)
  unclosed : '"' ∉ content

namespace CoveredOpen

variable {text content : List Char} {front : List Segment}

theorem drop_eq (covered : CoveredOpen text front content) :
    text.drop ((cover front).length + 1) = content := by
  rw [covered.split, ← List.drop_drop, List.drop_left, List.drop_one, List.tail_cons]

theorem fits (covered : CoveredOpen text front content) :
    (Segment.string content false).Fits [] :=
  ⟨covered.unclosed, fun _ => rfl⟩

theorem run_eq (covered : CoveredOpen text front content) :
    (ofText text).run =
      ⟨(ofText text).pieces (front ++ [.string content false]), none,
        ((ofText text).takeAll front).take (.string content false)⟩ := by
  have covers : text = cover (front ++ [.string content false]) := by
    simpa [Segment.text] using covered.split
  have tile : Tile (front ++ [.string content false]) [] := by
    refine tile_append.mpr ⟨?_, covered.fits, trivial⟩
    simpa [Segment.text] using covered.tile
  rw [run_of_complete covers tile, takeAll_append, takeAll_cons, takeAll_nil]

theorem warnings_eq (covered : CoveredOpen text front content) :
    (ofText text).run.final.warnings = [⟨1 + (cover front).count '\n'⟩] := by
  have notOpen := not_isOpenString_of_tile covered.tile (List.cons_ne_nil _ _)
  have quiet : ((ofText text).takeAll front).warnings = [] :=
    warnings_takeAll_eq_nil_iff.mpr ⟨rfl, notOpen⟩
  have line : ((ofText text).takeAll front).line = 1 + (cover front).count '\n' :=
    line_takeAll (ofText text) front
  rw [covered.run_eq]
  simp only [take, warningsAfter]
  rw [quiet, line, List.nil_append]

theorem exists_endsOpen (covered : CoveredOpen text front content) {tokens : List Token}
    (scanned : (ofText text).run.tokens = .ok tokens) :
    ∃ last, EndsOpen text tokens last (cover front).length := by
  have reading : (Segment.string content false).reading? =
      some (.string, String.ofList content) := rfl
  have token := tokenOf?_of_reading reading ((ofText text).takeAll front)
  have rest := @rest_takeAll (ofText text) _ _ covered.split
  have whole : ((ofText text).takeAll front).rest =
      (Segment.string content false).text ++ [] := by
    rw [rest]
    simp [Segment.text]
  have stepped := step?_of_fits whole covered.fits
  rw [token] at stepped
  refine ⟨_, ?_, ⟨_, _, _, reaches_takeAll covered.split covered.tile, ?_, stepped⟩, rfl, ?_⟩
  · rw [Scan.tokens_eq_ok_iff, covered.run_eq] at scanned
    refine ⟨(ofText text).tokensOf front, ?_⟩
    rw [scanned.2]
    change (ofText text).tokensOf _ ++ _ = _
    rw [tokensOf_append, tokensOf_cons, token]
    simp [tokensOf, pieces]
  · rw [offset_takeAll]
    exact Nat.zero_add _
  · rw [covered.drop_eq]
    exact covered.unclosed

end CoveredOpen

theorem EndsOpen.exists_coveredOpen {text : List Char} {tokens : List Token} {last : Token}
    {offset : Nat} (endsOpen : EndsOpen text tokens last offset) :
    ∃ front content, CoveredOpen text front content ∧ offset = (cover front).length ∧
      last.literal = String.ofList content := by
  rcases endsOpen.read with ⟨place, segment, next, reached, rfl, stepped⟩
  rcases reached.exists_tile with ⟨front, split, tile, place_eq⟩
  rcases exists_fits_of_step? stepped with ⟨tail, rest_eq, fits, _⟩
  have reads := reads_of_tokenOf? (token_of_step? stepped)
  rcases reads.eq_string endsOpen.isString with ⟨content, closed, rfl⟩
  have offset_eq : place.offset = (cover front).length := by
    rw [place_eq, offset_takeAll]
    exact Nat.zero_add _
  have behind : text.drop (place.offset + 1) =
      content ++ (if closed then ['"'] else []) ++ tail := by
    have text_eq : text = cover front ++ place.rest := split
    rw [text_eq, offset_eq, ← List.drop_drop, List.drop_left, rest_eq]
    rfl
  have unclosed := endsOpen.unclosed
  rw [behind] at unclosed
  cases closed with
  | true => simp at unclosed
  | false =>
      obtain rfl := fits.2 rfl
      have rest : place.rest = '"' :: content := by simpa [Segment.text] using rest_eq
      rw [rest] at split tile
      exact ⟨front, content, ⟨split, tile, fits.1⟩, offset_eq, reads.of_string.2⟩

theorem quiet_or_coveredOpen (text : List Char) :
    (ofText text).run.final.warnings = [] ∨
      (ofText text).run.error = none ∧ ∃ front content, CoveredOpen text front content := by
  rcases Segment.covering text with
    ⟨segments, covers, tile⟩ | ⟨segments, fault, tail, covers, tile, fits⟩
  · rw [@run_of_complete (ofText text) _ covers tile]
    rcases tile.closed_or_open with notOpen | ⟨front, content, rfl⟩
    · exact .inl (warnings_takeAll_eq_nil_iff.mpr ⟨rfl, notOpen⟩)
    · rcases tile_append.mp tile with ⟨frontTile, fits, _⟩
      refine .inr ⟨rfl, front, content, ?_, ?_, fits.1⟩
      · simpa [Segment.text] using covers
      · simpa [Segment.text] using frontTile
  · have more : fault.text ++ tail ≠ [] := by simp [Segment.fault_text_ne_nil fits]
    have notOpen := not_isOpenString_of_tile tile more
    rw [@run_of_stopped (ofText text) _ _ _ covers tile fits]
    exact .inl (warnings_takeAll_eq_nil_iff.mpr ⟨rfl, notOpen⟩)

theorem EndsOpen.warnings_eq {text : List Char} {tokens : List Token} {last : Token}
    {offset : Nat} (endsOpen : EndsOpen text tokens last offset) :
    text[offset]? = some '"' ∧ last.literal = String.ofList (text.drop (offset + 1)) ∧
      (ofText text).run.final.warnings = [⟨1 + (text.take offset).count '\n'⟩] := by
  rcases endsOpen.exists_coveredOpen with ⟨front, content, covered, rfl, literal_eq⟩
  refine ⟨?_, ?_, ?_⟩
  · rw [covered.split]
    simp
  · rw [literal_eq, covered.drop_eq]
  · rw [covered.warnings_eq, covered.split, List.take_left]

theorem length_warnings_le (text : List Char) : (ofText text).run.final.warnings.length ≤ 1 := by
  rcases quiet_or_coveredOpen text with quiet | ⟨_, front, content, covered⟩
  · rw [quiet]
    exact Nat.zero_le 1
  · rw [covered.warnings_eq, List.length_singleton]

theorem length_warnings_eq_one_iff {text : List Char} {tokens : List Token}
    (scanned : (ofText text).run.tokens = .ok tokens) :
    (ofText text).run.final.warnings.length = 1 ↔
      ∃ last offset, EndsOpen text tokens last offset := by
  constructor
  · intro warned
    rcases quiet_or_coveredOpen text with quiet | ⟨_, front, content, covered⟩
    · simp [quiet] at warned
    · rcases covered.exists_endsOpen scanned with ⟨last, endsOpen⟩
      exact ⟨last, _, endsOpen⟩
  · intro holds
    rcases holds with ⟨last, offset, endsOpen⟩
    rw [endsOpen.warnings_eq.2.2, List.length_singleton]

theorem warnings_eq_nil_of_error {text : List Char} {error : ScanError}
    (failed : (ofText text).run.tokens = .error error) :
    (ofText text).run.final.warnings = [] := by
  rcases quiet_or_coveredOpen text with quiet | ⟨finished, _⟩
  · exact quiet
  · rw [Scan.tokens_eq_error_iff, finished] at failed
    cases failed

end TracingLexer
