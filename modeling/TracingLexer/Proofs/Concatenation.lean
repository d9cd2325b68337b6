import TracingLexer.Proofs.Scanner.Shift

namespace TracingLexer

open Segment (cover Tile)

namespace Scanner

def gap : List Segment := [.blank '\n', .blank '\n']

theorem tile_gap (tail : List Char) : Tile gap tail := by
  refine ⟨?_, ?_, trivial⟩ <;> exact (by decide : Text.isBlank '\n' = true)

theorem takeAll_gap (scanner : Scanner) :
    scanner.takeAll gap =
      { scanner with
        rest := scanner.rest.drop 2, offset := scanner.offset + 2, line := scanner.line + 2 } := by
  simp [gap, takeAll, take, skip, Segment.text, Segment.symbols, depthAfter, warningsAfter,
    globalsAfter, tokenOf?, Segment.reading?]

variable {segments : List Segment} {second : List Char}

/-- Behind a text that leaves nothing open, the scanner stands as at a start, only further down. -/
theorem shifted_gap (level : ((ofText (cover segments)).takeAll segments).depth = 0)
    (quiet : ((ofText (cover segments)).takeAll segments).warnings = []) :
    let first := (ofText (cover segments)).takeAll segments
    let whole := ofText (cover segments ++ '\n' :: '\n' :: second)
    whole.pieces segments = (ofText (cover segments)).pieces segments ∧
      Shifted
        ⟨(cover segments).length + 2, (cover segments).count '\n' + 2, first.nextId, first.globals⟩
        (ofText second) (whole.takeAll (segments ++ gap)) := by
  intro first whole
  have started : Shifted ⟨0, 0, 0, []⟩ (ofText (cover segments)) whole := Shifted.refl_of_eq rfl
  obtain ⟨alike, pieces_eq⟩ :=
    started.takeAll (List.append_nil _).symm rfl (by simp [show '\n' ≠ '=' by decide])
  refine ⟨by rw [pieces_eq, funext Piece.raise_zero, List.map_id'], ?_⟩
  rw [takeAll_append, takeAll_gap]
  refine ⟨?_, ?_, ?_, alike.depth.trans level, ?_, ?_⟩
  · rw [offset_takeAll, Nat.add_assoc]
    rfl
  · rw [line_takeAll, Nat.add_assoc]
    rfl
  · exact alike.nextId.trans (Nat.add_comm _ _)
  · intro name
    simpa [show (ofText second).globals = [] from rfl] using alike.globals name
  · rw [alike.warnings, quiet]
    rfl

end Scanner

open Scanner

theorem tokens_raise (pieces : List Piece) (count : Nat) :
    (pieces.map (Piece.raise count)).filterMap (·.token) =
      (pieces.filterMap (·.token)).map (Token.raise count) := by
  rw [List.filterMap_map, List.map_filterMap]
  rfl

theorem tokens_gap (scanner : Scanner) : (scanner.pieces gap).filterMap (·.token) = [] := rfl

theorem toList_append_gap (first second : String) :
    (first ++ "\n\n" ++ second).toList = first.toList ++ '\n' :: '\n' :: second.toList := by
  simp

theorem scanText_append {first : String} {segments : List Segment}
    (covers : first.toList = cover segments) (tile : Tile segments [])
    (quiet : (scanText first).final.warnings = []) (level : (scanText first).final.depth = 0)
    (second : String) :
    let whole := scanText (first ++ "\n\n" ++ second)
    let lines := first.toList.count '\n' + 2
    whole.pieces.filterMap (·.token) =
        (scanText first).pieces.filterMap (·.token) ++
          ((scanText second).pieces.filterMap (·.token)).map
            (Token.raise (scanText first).final.nextId) ∧
      whole.error = (scanText second).error.map (ScanError.move lines (first.length + 2)) ∧
      Shifted ⟨first.length + 2, lines, (scanText first).final.nextId,
        (scanText first).final.globals⟩ (scanText second).final whole.final := by
  intro whole lines
  have wholeScan : whole = (ofText (cover segments ++ '\n' :: '\n' :: second.toList)).run := by
    simp only [whole, scanText_eq_run, toList_append_gap, covers]
  have firstScan := scanText_eq_of_cover covers tile
  rw [covers] at firstScan
  rw [firstScan] at quiet level ⊢
  have length_eq : first.length = (cover segments).length := by
    rw [← String.length_toList, covers]
  have split : (ofText (cover segments ++ '\n' :: '\n' :: second.toList)).rest =
      cover (segments ++ gap) ++ second.toList := by
    simp [ofText, gap, Segment.text]
  -- Nothing of the first text is open, so its segments fit before the newlines, too.
  have wholeTile : Tile (segments ++ gap) second.toList := by
    refine Segment.tile_append.mpr ⟨?_, tile_gap _⟩
    have closed := (warnings_takeAll_eq_nil_iff.mp quiet).2
    exact @Segment.Tile.append_newline _ [] _ _ _ tile closed (by decide)
  obtain ⟨pieces_eq, shifted⟩ := @shifted_gap segments second.toList level quiet
  obtain ⟨later, error_eq, final⟩ := shifted.run (rest_takeAll split)
  rw [wholeScan, run_of_tile split wholeTile, length_eq]
  simp only [lines, covers]
  refine ⟨?_, error_eq, final⟩
  rw [later, List.filterMap_append, tokens_raise, pieces_append, List.filterMap_append,
    pieces_eq, tokens_gap, List.append_nil]
  rfl

/-- The first text leaves nothing open: behind it and two newlines, the second one is scanned as on
its own, further down. A word that is refused is refused whatever follows the newlines. -/
theorem tokenize_append (first second : String) :
    (∀ firstTokens, tokenize first = .ok (firstTokens ++ [Token.eof]) →
      (scanText first).final.warnings = [] → (scanText first).final.depth = 0 →
      (∀ tokens, tokenize second = .ok tokens →
        tokenize (first ++ "\n\n" ++ second) =
          .ok (firstTokens ++ tokens.map (Token.raise (scanText first).final.nextId)) ∧
        (scanText (first ++ "\n\n" ++ second)).final.depth = (scanText second).final.depth ∧
        (∀ name, name ∈ (scanText (first ++ "\n\n" ++ second)).final.globals ↔
          name ∈ (scanText first).final.globals ∨ name ∈ (scanText second).final.globals) ∧
        (scanText (first ++ "\n\n" ++ second)).final.warnings =
          (scanText second).final.warnings.map
            (Warning.lower (first.toList.count '\n' + 2))) ∧
      ∀ error, tokenize second = .error error →
        tokenize (first ++ "\n\n" ++ second) =
          .error (error.move (first.toList.count '\n' + 2) (first.length + 2))) ∧
    ∀ word line offset, tokenize first = .error ⟨.uppercaseWord word, line, offset⟩ →
      tokenize (first ++ "\n\n" ++ second) = .error ⟨.uppercaseWord word, line, offset⟩ := by
  constructor
  · intro firstTokens scanned quiet level
    obtain ⟨finished, firstTokens_eq⟩ := Scan.tokens_eq_ok_iff.mp scanned
    obtain ⟨segments, covers, tile⟩ := error_scanText_eq_none_iff.mp finished
    obtain ⟨tokens_eq, error_eq, final⟩ := scanText_append covers tile quiet level second
    rw [← List.append_cancel_right firstTokens_eq] at tokens_eq
    constructor
    · intro tokens succeeded
      obtain ⟨secondFinished, secondTokens_eq⟩ := Scan.tokens_eq_ok_iff.mp succeeded
      refine ⟨Scan.tokens_eq_ok_iff.mpr ⟨?_, ?_⟩, final.depth, ?_, final.warnings⟩
      · rw [error_eq, secondFinished, Option.map_none]
      · rw [tokens_eq, secondTokens_eq, List.map_append, List.append_assoc]
        rfl
      · exact fun name => (final.globals name).trans or_comm
    · intro error failed
      have stopped := Scan.tokens_eq_error_iff.mp failed
      exact Scan.tokens_eq_error_iff.mpr (by rw [error_eq, stopped, Option.map_some])
  · intro word line offset failed
    obtain ⟨segments, tail, covers, tile, fits, line_eq, offset_eq⟩ :=
      tokenize_eq_error_iff.mp failed
    have more : word ++ tail ≠ [] := by simp [show word ≠ [] from Segment.fault_text_ne_nil fits]
    have notOpen := Segment.not_isOpenString_of_tile tile more
    rcases fits with ⟨isWord, upper⟩
    refine tokenize_eq_error_iff.mpr ⟨segments, tail ++ '\n' :: '\n' :: second.toList, ?_, ?_, ?_,
      line_eq, offset_eq⟩
    · rw [toList_append_gap, covers, List.append_assoc, List.append_assoc]
    · rw [← List.append_nil tail] at tile
      rw [← List.append_assoc] at tile ⊢
      exact tile.append_newline notOpen (by decide)
    · rw [← List.append_nil tail] at isWord
      exact ⟨isWord.append_newline, upper⟩

theorem tokenize_append_call_character :
    (tokenize "output( )x" = .ok
        ([⟨.identifier, "x", State.chain 9 [.char 'x', .epsilon], some .global⟩] ++ [Token.eof]) ∧
      (scanText "output( )x").final.warnings = [] ∧ (scanText "output( )x").final.depth = 0 ∧
      tokenize "'c'" = .ok [⟨.character, "c",
        State.linkAll (State.chain 0 [.char '\'', .char 'c', .char '\'']), none⟩, Token.eof]) ∧
    tokenize ("output( )x" ++ "\n\n" ++ "'c'") = .ok
      [⟨.identifier, "x", State.chain 9 [.char 'x', .epsilon], some .global⟩, ⟨.character, "c",
        State.linkAll (State.chain 11 [.char '\'', .char 'c', .char '\'']), none⟩, Token.eof] ∧
    tokenize "Up" = .error ⟨.uppercaseWord ['U', 'p'], 1, 0⟩ ∧
    tokenize ("Up" ++ "\n\n" ++ "'c'") = .error ⟨.uppercaseWord ['U', 'p'], 1, 0⟩ := by
  have scanned : tokenize "output( )x" = .ok
      ([⟨.identifier, "x", State.chain 9 [.char 'x', .epsilon], some .global⟩] ++ [Token.eof]) := by
    decide +kernel
  have quiet : (scanText "output( )x").final.warnings = [] := by decide +kernel
  have level : (scanText "output( )x").final.depth = 0 := by decide +kernel
  have next : tokenize "'c'" = .ok [⟨.character, "c",
      State.linkAll (State.chain 0 [.char '\'', .char 'c', .char '\'']), none⟩, Token.eof] := by
    decide +kernel
  have refused : tokenize "Up" = .error ⟨.uppercaseWord ['U', 'p'], 1, 0⟩ := by decide +kernel
  have states : (scanText "output( )x").final.nextId = 11 := by decide +kernel
  have whole := (((tokenize_append _ _).1 _ scanned quiet level).1 _ next).1
  rw [states] at whole
  exact ⟨⟨scanned, quiet, level, next⟩, whole.trans (by decide), refused,
    (tokenize_append _ _).2 _ _ _ refused⟩

end TracingLexer
