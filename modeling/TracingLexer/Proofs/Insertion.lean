import TracingLexer.Proofs.Scanner.Places
import TracingLexer.Proofs.Scanner.Shift

namespace TracingLexer

/-- Blank characters and whole comments, each line comment with the newline that ends it. -/
inductive Layout : List Char → Prop where
  | done : Layout []
  | blank {c : Char} {rest : List Char} (isBlank : Text.isBlank c = true) (later : Layout rest) :
      Layout (c :: rest)
  | lineComment {body rest : List Char} (inLine : '\n' ∉ body) (later : Layout rest) :
      Layout ('/' :: '/' :: body ++ '\n' :: rest)
  | blockComment {body rest : List Char} (first : ¬ ['*', '/'] <:+: body ++ ['*'])
      (later : Layout rest) : Layout ('/' :: '*' :: body ++ '*' :: '/' :: rest)

/-- Layout that nothing before it can take in: it begins with a newline and a blank character. -/
inductive IsGap : List Char → Prop where
  | intro {c : Char} {rest : List Char} (isBlank : Text.isBlank c = true) (layout : Layout rest) :
      IsGap ('\n' :: c :: rest)

namespace Segment

def IsLayout : Segment → Prop
  | blank _ | lineComment _ | blockComment _ => True
  | _ => False

theorem exists_tile_of_layout {text : List Char} (layout : Layout text) :
    ∃ segments, cover segments = text ∧ (∀ tail, Tile segments tail) ∧
      ∀ segment ∈ segments, segment.IsLayout := by
  induction layout with
  | done => exact ⟨[], rfl, fun _ => trivial, by simp⟩
  | @blank c rest isBlank later ih =>
      rcases ih with ⟨segments, rfl, tile, inLayout⟩
      refine ⟨.blank c :: segments, rfl, fun tail => ⟨isBlank, tile tail⟩, ?_⟩
      exact List.forall_mem_cons.mpr ⟨trivial, inLayout⟩
  | @lineComment body rest inLine later ih =>
      rcases ih with ⟨segments, rfl, tile, inLayout⟩
      have newline : Text.isBlank '\n' = true := by decide
      refine ⟨.lineComment body :: .blank '\n' :: segments, rfl, ?_, ?_⟩
      · exact fun tail => ⟨⟨inLine, Text.ends_cons.mpr (by decide)⟩, newline, tile tail⟩
      · exact List.forall_mem_cons.mpr ⟨trivial, List.forall_mem_cons.mpr ⟨trivial, inLayout⟩⟩
  | @blockComment body rest first later ih =>
      rcases ih with ⟨segments, rfl, tile, inLayout⟩
      refine ⟨.blockComment body :: segments, ?_, fun tail => ⟨first, tile tail⟩, ?_⟩
      · simp [Segment.text]
      · exact List.forall_mem_cons.mpr ⟨trivial, inLayout⟩

theorem exists_tile_of_isGap {gap : List Char} (isGap : IsGap gap) :
    ∃ segments, cover segments = gap ∧ (∀ tail, Tile segments tail) ∧
      ∀ segment ∈ segments, segment.IsLayout := by
  rcases isGap with ⟨isBlank, layout⟩
  exact exists_tile_of_layout (.blank (by decide) (.blank isBlank layout))

/-- No quote stands behind the newline, so no character literal is closed by a gap. -/
theorem Tile.append_gap {segments : List Segment} {tail gap : List Char}
    (tile : Tile segments tail) (notOpen : ∀ segment ∈ segments, ¬ segment.IsOpenString)
    (isGap : IsGap gap) : Tile segments (gap ++ tail) := by
  rcases isGap with @⟨c, rest, isBlank, _⟩
  have notQuote : c ≠ '\'' := by
    intro same
    rw [same] at isBlank
    exact absurd isBlank (by decide)
  exact @Tile.append_newline segments [] tail (rest ++ tail) c tile notOpen notQuote

theorem not_isOpenString_of_last {segments : List Segment} (tile : Tile segments [])
    (closed : ∀ last, segments.getLast? = some last → ¬ last.IsOpenString) :
    ∀ segment ∈ segments, ¬ segment.IsOpenString := by
  rcases tile.closed_or_open with notOpen | ⟨front, content, rfl⟩
  · exact notOpen
  · exact absurd rfl (closed (.string content false) List.getLast?_concat)

end Segment

namespace Scanner

open Segment (cover Tile)

theorem alike_take_of_isLayout {segment : Segment} (inLayout : segment.IsLayout)
    (scanner : Scanner) :
    Alike scanner (scanner.take segment) ∧ scanner.tokenOf? segment = none := by
  cases segment with
  | blank c => exact ⟨⟨rfl, rfl⟩, rfl⟩
  | lineComment body => exact ⟨⟨rfl, rfl⟩, rfl⟩
  | blockComment body => exact ⟨⟨rfl, rfl⟩, rfl⟩
  | _ => exact inLayout.elim

theorem Alike.trans {first second third : Scanner} (left : Alike first second)
    (right : Alike second third) : Alike first third :=
  ⟨right.nextId.trans left.nextId, right.depth.trans left.depth⟩

theorem alike_takeAll_of_isLayout {segments : List Segment}
    (inLayout : ∀ segment ∈ segments, segment.IsLayout) (scanner : Scanner) :
    Alike scanner (scanner.takeAll segments) ∧ scanner.tokensOf segments = [] := by
  induction segments generalizing scanner with
  | nil => exact ⟨⟨rfl, rfl⟩, rfl⟩
  | cons segment segments ih =>
      rw [List.forall_mem_cons] at inLayout
      rcases alike_take_of_isLayout inLayout.1 scanner with ⟨here, silent⟩
      rcases ih inLayout.2 (scanner.take segment) with ⟨later, rest⟩
      refine ⟨here.trans later, ?_⟩
      rw [tokensOf_cons, silent, rest]
      rfl

theorem alike_insert {gap : List Segment} (inLayout : ∀ segment ∈ gap, segment.IsLayout)
    {base other : Scanner} (started : Alike base other) (front back : List Segment) :
    Alike (base.takeAll (front ++ back)) (other.takeAll (front ++ (gap ++ back))) ∧
      other.tokensOf (front ++ (gap ++ back)) = base.tokensOf (front ++ back) := by
  have before := started.takeAll front
  rcases alike_takeAll_of_isLayout inLayout (other.takeAll front) with ⟨across, silent⟩
  have behind := before.trans across
  constructor
  · rw [takeAll_append, takeAll_append, takeAll_append]
    exact behind.takeAll back
  · calc
      other.tokensOf (front ++ (gap ++ back))
        = other.tokensOf front ++ ((other.takeAll front).tokensOf gap ++
            ((other.takeAll front).takeAll gap).tokensOf back) := by
          rw [tokensOf_append, tokensOf_append]
      _ = base.tokensOf front ++ (base.takeAll front).tokensOf back := by
          rw [started.tokensOf, silent, behind.tokensOf, List.nil_append]
      _ = base.tokensOf (front ++ back) := (tokensOf_append base front back).symm

end Scanner

open Scanner Segment

variable {text : String} {place : Scanner} {gap : List Char}

def insertAt (text : String) (place : Scanner) (gap : List Char) : String :=
  String.ofList (text.toList.take place.offset ++ gap ++ text.toList.drop place.offset)

theorem toList_insertAt {front : List Segment} (covers : text.toList = cover front ++ place.rest)
    (place_eq : place = (ofText text.toList).takeAll front) (gap : List Char) :
    (insertAt text place gap).toList = cover front ++ (gap ++ place.rest) := by
  have offset_eq : place.offset = (cover front).length := by
    rw [place_eq, offset_takeAll]
    exact Nat.zero_add _
  rw [insertAt, String.toList_ofList, offset_eq, covers, List.take_left, List.drop_left,
    List.append_assoc]

theorem not_isOpenString_of_closed {front : List Segment}
    (covers : text.toList = cover front ++ place.rest) (tile : Tile front place.rest)
    (closed : place.rest = [] → ∀ content,
      ((scanText text).pieces.map (·.segment)).getLast? ≠ some (.string content false)) :
    ∀ segment ∈ front, ¬ segment.IsOpenString := by
  by_cases finished : place.rest = []
  · rw [finished] at covers tile
    have whole := scanText_eq_of_cover (covers.trans (List.append_nil _)) tile
    apply not_isOpenString_of_last tile
    intro last isLast isOpen
    cases last with
    | string content isClosed =>
        obtain rfl : isClosed = false := isOpen
        apply closed finished content
        rw [whole, map_segment_pieces, isLast]
    | _ => exact isOpen
  · exact not_isOpenString_of_tile tile finished

theorem tiles_insertAt {front layout back : List Segment} {behind : List Char}
    (reached : text.toList = cover front ++ place.rest)
    (place_eq : place = (ofText text.toList).takeAll front)
    (tile : Tile front (cover layout ++ place.rest)) (layoutTile : ∀ tail, Tile layout tail)
    (covers : place.rest = cover back ++ behind) (backTile : Tile back behind) :
    (insertAt text place (cover layout)).toList = cover (front ++ (layout ++ back)) ++ behind ∧
      Tile (front ++ (layout ++ back)) behind := by
  constructor
  · rw [toList_insertAt reached place_eq, covers, cover_append, cover_append, List.append_assoc,
      List.append_assoc]
  · rw [covers] at tile
    refine tile_append.mpr ⟨?_, tile_append.mpr ⟨layoutTile _, backTile⟩⟩
    rwa [cover_append, List.append_assoc]

theorem scanText_insertAt (reached : (ofText text.toList).Reaches place)
    (closed : place.rest = [] → ∀ content,
      ((scanText text).pieces.map (·.segment)).getLast? ≠ some (.string content false))
    (isGap : IsGap gap) :
    let whole := scanText (insertAt text place gap)
    whole.pieces.filterMap (·.token) = (scanText text).pieces.filterMap (·.token) ∧
      whole.error = (scanText text).error.map (ScanError.move (gap.count '\n') gap.length) ∧
      whole.final.depth = (scanText text).final.depth := by
  rcases reached.exists_tile with ⟨front, split, tile, place_eq⟩
  have notOpen := not_isOpenString_of_closed split tile closed
  have frontTile : Tile front (gap ++ place.rest) := tile.append_gap notOpen isGap
  rcases exists_tile_of_isGap isGap with ⟨layout, rfl, layoutTile, inLayout⟩
  have started : Alike (ofText text.toList)
      (ofText (insertAt text place (cover layout)).toList) := ⟨rfl, rfl⟩
  rcases Segment.covering place.rest with
    ⟨back, covers, backTile⟩ | ⟨back, fault, tail, covers, backTile, fits⟩
  · rcases alike_insert inLayout started front back with ⟨alike, tokens_eq⟩
    have ends : place.rest = cover back ++ [] := covers.trans (List.append_nil _).symm
    rcases tiles_insertAt split place_eq frontTile layoutTile ends backTile with
      ⟨whole_eq, wholeTile⟩
    have text_eq : text.toList = cover (front ++ back) := by
      rw [cover_append, ← covers]
      exact split
    rw [ends] at tile
    rw [scanText_eq_of_cover (whole_eq.trans (List.append_nil _)) wholeTile,
      scanText_eq_of_cover text_eq (tile_append.mpr ⟨tile, backTile⟩)]
    exact ⟨tokens_eq, rfl, alike.depth⟩
  · rcases alike_insert inLayout started front back with ⟨alike, tokens_eq⟩
    rcases tiles_insertAt split place_eq frontTile layoutTile covers backTile with
      ⟨whole_eq, wholeTile⟩
    have text_eq : text.toList = cover (front ++ back) ++ (fault.text ++ tail) := by
      rw [cover_append, List.append_assoc, ← covers]
      exact split
    rw [covers] at tile
    rw [scanText_eq_of_stopped whole_eq wholeTile fits,
      scanText_eq_of_stopped text_eq (tile_append.mpr ⟨tile, backTile⟩) fits]
    refine ⟨tokens_eq, ?_, alike.depth⟩
    simp only [cover_append, List.count_append, List.length_append, Option.map_some,
      ScanError.move, Option.some.injEq, ScanError.mk.injEq, true_and]
    omega

/-- Layout on a line of its own may stand between any two segments: the tokens, the numbers of their
states and the depth stay, and an error is met further down by as much. -/
theorem tokenize_insertAt (reached : (ofText text.toList).Reaches place)
    (closed : place.rest = [] → ∀ content,
      ((scanText text).pieces.map (·.segment)).getLast? ≠ some (.string content false))
    (isGap : IsGap gap) :
    (∀ tokens, tokenize text = .ok tokens → tokenize (insertAt text place gap) = .ok tokens) ∧
      (∀ error, tokenize text = .error error →
        tokenize (insertAt text place gap) = .error (error.move (gap.count '\n') gap.length)) ∧
      (scanText (insertAt text place gap)).final.depth = (scanText text).final.depth := by
  rcases scanText_insertAt reached closed isGap with ⟨tokens_eq, error_eq, depth_eq⟩
  refine ⟨?_, ?_, depth_eq⟩
  · intro tokens succeeded
    rcases Scan.tokens_eq_ok_iff.mp succeeded with ⟨finished, rfl⟩
    apply Scan.tokens_eq_ok_iff.mpr
    rw [error_eq, finished, tokens_eq]
    exact ⟨rfl, rfl⟩
  · intro error failed
    have stopped := Scan.tokens_eq_error_iff.mp failed
    apply Scan.tokens_eq_error_iff.mpr
    rw [error_eq, stopped, Option.map_some]

/-- A quote that stays alone, and a name that is not assigned any more. -/
theorem tokenize_insertAt_lone_quote :
    let place := ((ofText "'a=b".toList).take (.stray '\'')).take (.word ['a'])
    (ofText "'a=b".toList).Reaches place ∧ place.rest ≠ [] ∧ IsGap "\n\t//'\n/*'*/".toList ∧
      insertAt "'a=b" place "\n\t//'\n/*'*/".toList = "'a\n\t//'\n/*'*/=b" ∧
      ∃ tokens, tokenize "'a=b" = .ok tokens ∧ tokenize "'a\n\t//'\n/*'*/=b" = .ok tokens := by
  intro place
  have quote : (ofText "'a=b".toList).step? = some (.ok ⟨.stray '\'', none⟩,
      (ofText "'a=b".toList).take (.stray '\'')) := by decide +kernel
  have name : ((ofText "'a=b".toList).take (.stray '\'')).step? = some
      (.ok ⟨.word ['a'], some ⟨.identifier, "a", State.chain 0 [.char 'a', .epsilon],
        some .global⟩⟩, place) := by decide +kernel
  have reached : (ofText "'a=b".toList).Reaches place := .step quote (.step name (.here place))
  have more : place.rest ≠ [] := by decide +kernel
  have comments : Layout "//'\n/*'*/".toList :=
    @Layout.lineComment ['\''] _ (by decide) (@Layout.blockComment ['\''] _ (by decide) .done)
  have isGap : IsGap "\n\t//'\n/*'*/".toList := .intro (by decide) comments
  have whole : insertAt "'a=b" place "\n\t//'\n/*'*/".toList = "'a\n\t//'\n/*'*/=b" := by
    decide +kernel
  cases scanned : tokenize "'a=b" with
  | error error =>
      have finished : (tokenize "'a=b").isOk = true := by decide +kernel
      rw [scanned] at finished
      cases finished
  | ok tokens =>
      have same := (tokenize_insertAt reached (fun ends => absurd ends more) isGap).1 tokens scanned
      rw [whole] at same
      exact ⟨reached, more, isGap, whole, tokens, rfl, same⟩

end TracingLexer
