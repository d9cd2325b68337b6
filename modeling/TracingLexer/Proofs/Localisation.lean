import TracingLexer.Proofs.Scanner.Shift

namespace TracingLexer

/-- The text begins with the construct that is refused, and holds nothing that would complete it. -/
def Fault.Opens : Fault → List Char → Prop
  | .uppercaseWord word, text =>
      text.takeWhile Text.isAlphanumeric = word ∧
        (∃ c tail, word = c :: tail ∧ Text.isAlphabetic c = true) ∧
        ∃ c ∈ word, Text.isUppercase c = true
  | .openComment body, text => text = '/' :: '*' :: body ∧ ¬ ['*', '/'] <:+: body
  | .openCall function content, text => text = function.name ++ '(' :: content ∧ ')' ∉ content

namespace Fault

variable {fault : Fault} {tail : List Char}

theorem opens_of_fits (fits : fault.Fits tail) : fault.Opens (fault.text ++ tail) := by
  cases fault with
  | uppercaseWord word =>
      rcases fits with ⟨isWord, upper⟩
      exact ⟨Text.takeWhile_append_of_ends isWord.all isWord.longest, isWord.first, upper⟩
  | openComment body =>
      rcases fits with ⟨noEnd, rfl⟩
      exact ⟨List.append_nil _, noEnd⟩
  | openCall function content =>
      rcases fits with ⟨noEnd, rfl⟩
      exact ⟨List.append_nil _, noEnd⟩

theorem head?_ne_equals (fits : fault.Fits tail) : (fault.text ++ tail).head? ≠ some '=' := by
  cases fault with
  | uppercaseWord word =>
      rcases fits.1.first with ⟨c, more, rfl, alphabetic⟩
      intro head
      have same : c = '=' := Option.some.inj head
      rw [same] at alphabetic
      exact absurd alphabetic (by decide)
  | openComment body => simp [text]
  | openCall function content => cases function <;> simp [text, Call.name]

end Fault

namespace Scanner

open Segment (cover Tile)

theorem scanText_cut {text : String} {segments : List Segment} {fault : Fault} {tail : List Char}
    (covers : text.toList = cover segments ++ (fault.text ++ tail))
    (tile : Tile segments (fault.text ++ tail)) (fits : fault.Fits tail) :
    (scanText (String.ofList (cover segments))).error = none ∧
      (scanText (String.ofList (cover segments))).final.warnings = [] ∧
      Shifted ⟨0, 0, 0, []⟩ (scanText (String.ofList (cover segments))).final
        ((ofText text.toList).takeAll segments) := by
  have more : fault.text ++ tail ≠ [] := by simp [Segment.fault_text_ne_nil fits]
  have notOpen := Segment.not_isOpenString_of_tile tile more
  have cutTile : Tile segments [] := @Segment.Tile.of_append _ [] _ tile notOpen
  have started : Shifted ⟨0, 0, 0, []⟩ (ofText (cover segments)) (ofText text.toList) :=
    Shifted.refl_of_eq rfl
  have apart : ([] : List Char).head? = some '=' ↔ (fault.text ++ tail).head? = some '=' :=
    iff_of_false (by simp) (Fault.head?_ne_equals fits)
  have behind := started.takeAll (List.append_nil _).symm covers apart
  rw [scanText_eq_of_cover (String.toList_ofList) cutTile, String.toList_ofList]
  refine ⟨rfl, ?_, behind.1⟩
  exact warnings_takeAll_eq_nil_iff.mpr ⟨rfl, notOpen⟩

end Scanner

/-- An error names the line and the offset at which the refused construct begins. The text before
it scans without a warning, to the depth and the global names that the failed scan has reached. -/
theorem tokenize_error_localised {text : String} {error : ScanError}
    (failed : tokenize text = .error error) :
    let front := text.toList.take error.offset
    let cut := scanText (String.ofList front)
    error.offset < text.length ∧ error.line = 1 + front.count '\n' ∧
      error.fault.Opens (text.toList.drop error.offset) ∧
      (∃ tokens, tokenize (String.ofList front) = .ok tokens) ∧ cut.final.warnings = [] ∧
      cut.final.depth = (scanText text).final.depth ∧
      ∀ name, name ∈ cut.final.globals ↔ name ∈ (scanText text).final.globals := by
  rcases tokenize_eq_error_iff.mp failed with
    ⟨segments, tail, covers, tile, fits, line_eq, offset_eq⟩
  have front_eq : text.toList.take error.offset = Segment.cover segments := by
    rw [covers, offset_eq, List.take_left]
  have rest_eq : text.toList.drop error.offset = error.fault.text ++ tail := by
    rw [covers, offset_eq, List.drop_left]
  have positive : 0 < error.fault.text.length :=
    List.length_pos_iff.mpr (Segment.fault_text_ne_nil fits)
  have length_eq : text.length =
      (Segment.cover segments).length + (error.fault.text.length + tail.length) := by
    rw [← String.length_toList, covers, List.length_append, List.length_append]
  have cut := Scanner.scanText_cut covers tile fits
  rw [front_eq, rest_eq, scanText_eq_of_stopped covers tile fits]
  rcases cut with ⟨finished, quiet, behind⟩
  refine ⟨by omega, line_eq, Fault.opens_of_fits fits, ?_, quiet, behind.depth.symm, ?_⟩
  · exact ⟨_, Scan.tokens_eq_ok_iff.mpr ⟨finished, rfl⟩⟩
  · exact fun name => ((behind.globals name).trans (or_iff_left List.not_mem_nil)).symm

/-- The quote before the comment stays alone when the comment is cut off. -/
theorem tokenize_error_localised_open_comment :
    let cut := scanText (String.ofList ['y', '=', '"', '\n', '"', '\''])
    tokenize "y=\"\n\"'/*/" = .error ⟨.openComment ['/'], 2, 6⟩ ∧
      (Fault.openComment ['/']).Opens ['/', '*', '/'] ∧
      (∃ tokens, tokenize (String.ofList ['y', '=', '"', '\n', '"', '\'']) = .ok tokens) ∧
      cut.final.warnings = [] ∧ cut.final.depth = (scanText "y=\"\n\"'/*/").final.depth ∧
      ∀ name, name ∈ cut.final.globals ↔ name ∈ (scanText "y=\"\n\"'/*/").final.globals := by
  have failed : tokenize "y=\"\n\"'/*/" = .error ⟨.openComment ['/'], 2, 6⟩ := by
    decide +kernel
  exact ⟨failed, (tokenize_error_localised failed).2.2⟩

end TracingLexer
