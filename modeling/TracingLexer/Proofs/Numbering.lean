import TracingLexer.Proofs.Scanner.Ids
import TracingLexer.Proofs.Text.Trimming

namespace TracingLexer

def Token.ids (token : Token) : List Nat := token.trace.map State.id

/-- The number of ids that a segment uses up without showing them: an empty output call is walked
through to its closing parenthesis before it is dropped. -/
def Segment.droppedIds : Segment → Nat
  | .call .output content =>
      if content.all Text.isBlank then
        (Text.collapse (Call.output.name ++ '(' :: content)).length + 1
      else 0
  | _ => 0

def droppedIds : List Piece → Nat
  | [] => 0
  | piece :: pieces => piece.segment.droppedIds + droppedIds pieces

structure Numbered (pieces : List Piece) (tokens : List Token) : Prop where
  ascending : (tokens.flatMap Token.ids).Pairwise (· < ·)
  consecutive : ∀ token ∈ tokens, ∃ first, token.ids = List.range' first token.trace.length
  start : ∀ (silent : List Piece) (piece : Piece) (rest : List Piece) (token : Token),
    pieces = silent ++ piece :: rest → (∀ other ∈ silent, other.token = none) →
      piece.token = some token → token.ids.head? = some (droppedIds silent)
  gap : ∀ (front : List Piece) (early : Piece) (silent : List Piece) (late : Piece)
      (rest : List Piece) (former latter : Token),
    pieces = front ++ early :: (silent ++ late :: rest) → early.token = some former →
      (∀ other ∈ silent, other.token = none) → late.token = some latter →
        ∃ last, former.ids.getLast? = some last ∧
          latter.ids.head? = some (last + 1 + droppedIds silent)

theorem Text.trim_eq_nil_iff {text : List Char} :
    Text.trim text = [] ↔ text.all Text.isBlank = true := by
  rw [List.all_eq_true]
  constructor
  · intro nothing c member
    obtain ⟨left, right, split, leftBlank, rightBlank⟩ := (Text.trimmed_trim text).sides
    rw [nothing, List.append_nil] at split
    rw [split, List.mem_append] at member
    exact member.elim (leftBlank c) (rightBlank c)
  · intro blank
    apply Text.Trimmed.eq_trim
    exact ⟨⟨text, [], by simp, blank, by simp⟩, Text.ends_nil _, Text.ends_nil _⟩

namespace Segment

theorem length_symbols_of_silent {segment : Segment} (silent : segment.reading? = none) :
    segment.symbols.length = segment.droppedIds := by
  cases segment with
  | call function content =>
      by_cases empty : function = .output ∧ Text.trim content = []
      · rcases empty with ⟨rfl, nothing⟩
        rw [droppedIds, if_pos (Text.trim_eq_nil_iff.mp nothing)]
        simp [symbols]
      · simp [reading?, empty] at silent
  | number run => simp [reading?, ite_eq_iff] at silent
  | blank | stray | lineComment | blockComment => rfl
  | _ => simp [reading?] at silent

theorem Reads.droppedIds_eq_zero {segment : Segment} {kind : Kind} {literal : String}
    (reads : Reads segment kind literal) : segment.droppedIds = 0 := by
  cases reads with
  | @call function content kept =>
      cases function with
      | input => rfl
      | output =>
          apply if_neg
          intro blank
          exact kept ⟨rfl, Text.trim_eq_nil_iff.mpr blank⟩
  | _ => rfl

/-- Two states at most for each character: only the last one of a run may come on top of one that
has a character of its own. -/
theorem length_symbols_le {segment : Segment} {rest : List Char} (fits : segment.Fits rest) :
    segment.symbols.length ≤ 2 * segment.text.length := by
  have positive := List.length_pos_iff.mpr (text_ne_nil fits)
  cases segment with
  | number run | word run =>
      have shorter := Text.length_collapse_le run
      simp only [text] at positive
      simp only [symbols, text, List.length_append, List.length_map, List.length_singleton]
      omega
  | string content closed =>
      have shorter := Text.length_collapse_le ('"' :: content)
      simp only [symbols, text, List.length_append, List.length_map, List.length_cons,
        List.length_nil] at shorter ⊢
      omega
  | call function content =>
      have shorter := Text.length_collapse_le (function.name ++ '(' :: content)
      simp only [symbols, text, List.length_append, List.length_map, List.length_cons,
        List.length_nil] at shorter ⊢
      omega
  | _ => simp [symbols, text]

end Segment

namespace Scanner

open Segment (cover Tile)

variable {scanner : Scanner} {segment : Segment} {segments : List Segment} {token : Token}

theorem reading?_of_tokenOf?_eq_none (silent : scanner.tokenOf? segment = none) :
    segment.reading? = none :=
  Option.map_eq_none_iff.mp silent

theorem ids_of_tokenOf? (found : scanner.tokenOf? segment = some token) :
    token.ids = List.range' scanner.nextId segment.symbols.length := by
  rw [Token.ids, trace_of_tokenOf? found, Segment.map_id_trace]

theorem head?_ids_of_tokenOf? (found : scanner.tokenOf? segment = some token) :
    token.ids.head? = some scanner.nextId := by
  have positive := List.length_pos_iff.mpr (reads_of_tokenOf? found).symbols_ne_nil
  rw [ids_of_tokenOf? found, List.head?_range', if_neg positive.ne']

theorem getLast?_ids_of_tokenOf? (found : scanner.tokenOf? segment = some token) :
    ∃ last, token.ids.getLast? = some last ∧ (scanner.take segment).nextId = last + 1 := by
  have positive := List.length_pos_iff.mpr (reads_of_tokenOf? found).symbols_ne_nil
  refine ⟨scanner.nextId + segment.symbols.length - 1, ?_, ?_⟩
  · rw [ids_of_tokenOf? found, List.getLast?_range', if_neg positive.ne']
  · rw [nextId_take]
    omega

theorem nextId_take_eq (scanner : Scanner) (segment : Segment) :
    (scanner.take segment).nextId =
      scanner.nextId + ((scanner.tokenOf? segment).toList.flatMap Token.ids).length +
        segment.droppedIds := by
  rw [nextId_take]
  cases found : scanner.tokenOf? segment with
  | none => simp [Segment.length_symbols_of_silent (reading?_of_tokenOf?_eq_none found)]
  | some token =>
      simp [ids_of_tokenOf? found, (reads_of_tokenOf? found).droppedIds_eq_zero]

theorem nextId_takeAll_eq (scanner : Scanner) (segments : List Segment) :
    (scanner.takeAll segments).nextId =
      scanner.nextId + ((scanner.tokensOf segments).flatMap Token.ids).length +
        droppedIds (scanner.pieces segments) := by
  induction segments generalizing scanner with
  | nil => rfl
  | cons segment segments ih =>
      have here := nextId_take_eq scanner segment
      rw [takeAll_cons, ih, tokensOf_cons, pieces, List.flatMap_append, List.length_append]
      simp only [droppedIds]
      omega

theorem nextId_takeAll_of_silent
    (silent : ∀ piece ∈ scanner.pieces segments, piece.token = none) :
    (scanner.takeAll segments).nextId =
      scanner.nextId + droppedIds (scanner.pieces segments) := by
  have nothing : scanner.tokensOf segments = [] := List.filterMap_eq_nil_iff.mpr silent
  rw [nextId_takeAll_eq, nothing]
  rfl

theorem pieces_eq_append {front back : List Piece}
    (split : scanner.pieces segments = front ++ back) :
    ∃ first second, segments = first ++ second ∧ scanner.pieces first = front ∧
      (scanner.takeAll first).pieces second = back := by
  have segments_eq : segments = front.map (·.segment) ++ back.map (·.segment) := by
    rw [← List.map_append, ← split, map_segment_pieces]
  refine ⟨_, _, segments_eq, List.append_inj ?_ ?_⟩
  · rw [← pieces_append, ← segments_eq, split]
  · rw [← List.length_map (f := fun piece : Piece => piece.segment), map_segment_pieces,
      List.length_map]

theorem pieces_eq_cons {piece : Piece} {rest : List Piece}
    (split : scanner.pieces segments = piece :: rest) :
    ∃ later, scanner.tokenOf? piece.segment = piece.token ∧
      (scanner.take piece.segment).pieces later = rest := by
  cases segments with
  | nil => cases split
  | cons segment later =>
      rw [pieces] at split
      obtain ⟨rfl, rfl⟩ := List.cons.inj split
      exact ⟨later, rfl, rfl⟩

theorem head?_ids_of_pieces {silent rest : List Piece} {piece : Piece}
    (split : scanner.pieces segments = silent ++ piece :: rest)
    (noToken : ∀ other ∈ silent, other.token = none) (found : piece.token = some token) :
    token.ids.head? = some (scanner.nextId + droppedIds silent) := by
  obtain ⟨first, second, rfl, rfl, behind⟩ := pieces_eq_append split
  obtain ⟨later, here, _⟩ := pieces_eq_cons behind
  rw [head?_ids_of_tokenOf? (here.trans found), nextId_takeAll_of_silent noToken]

theorem mem_ids_tokensOf {id : Nat} (member : id ∈ (scanner.tokensOf segments).flatMap Token.ids) :
    scanner.nextId ≤ id ∧ id < (scanner.takeAll segments).nextId := by
  induction segments generalizing scanner with
  | nil => exact absurd member List.not_mem_nil
  | cons segment segments ih =>
      rw [tokensOf_cons, List.flatMap_append, List.mem_append] at member
      have onwards := nextId_takeAll_eq (scanner.take segment) segments
      have here := nextId_take scanner segment
      rcases member with now | later
      · obtain ⟨token, found, inside⟩ := List.mem_flatMap.mp now
        rw [ids_of_tokenOf? (Option.mem_toList.mp found), List.mem_range'_1] at inside
        rw [takeAll_cons]
        omega
      · have bounds := ih later
        rw [takeAll_cons]
        omega

theorem pairwise_ids_tokensOf (scanner : Scanner) (segments : List Segment) :
    ((scanner.tokensOf segments).flatMap Token.ids).Pairwise (· < ·) := by
  induction segments generalizing scanner with
  | nil => exact .nil
  | cons segment segments ih =>
      rw [tokensOf_cons, List.flatMap_append]
      cases found : scanner.tokenOf? segment with
      | none => exact ih (scanner.take segment)
      | some token =>
          rw [Option.toList_some, List.flatMap_singleton, ids_of_tokenOf? found,
            List.pairwise_append]
          refine ⟨List.pairwise_lt_range', ih (scanner.take segment), ?_⟩
          intro former inside latter later
          exact (List.mem_range'_1.mp inside).2.trans_le (mem_ids_tokensOf later).1

theorem nextId_takeAll_le {tail : List Char} (tile : Tile segments tail) :
    (scanner.takeAll segments).nextId ≤ scanner.nextId + 2 * (cover segments).length := by
  induction segments generalizing scanner with
  | nil => exact Nat.le_refl _
  | cons segment segments ih =>
      have here := Segment.length_symbols_le tile.1
      have later := @ih (scanner.take segment) tile.2
      rw [nextId_take] at later
      rw [takeAll_cons, Segment.cover_cons, List.length_append]
      omega

theorem numbered_tokensOf (text : List Char) (segments : List Segment) :
    Numbered ((ofText text).pieces segments)
      ((ofText text).tokensOf segments ++ [Token.eof]) where
  ascending := by
    rw [List.flatMap_append]
    exact (List.append_nil _).symm ▸ pairwise_ids_tokensOf (ofText text) segments
  consecutive := by
    intro token member
    rcases List.mem_append.mp member with inside | last
    · obtain ⟨segment, _, reader, found⟩ := exists_of_mem_tokensOf inside
      refine ⟨reader.nextId, ?_⟩
      rw [ids_of_tokenOf? found, trace_of_tokenOf? found, Segment.length_trace]
    · rw [List.mem_singleton.mp last]
      exact ⟨0, rfl⟩
  start := by
    intro silent piece rest token split noToken found
    rw [head?_ids_of_pieces split noToken found]
    exact congrArg some (Nat.zero_add _)
  gap := by
    intro front early silent late rest former latter split early_eq noToken late_eq
    obtain ⟨first, second, rfl, rfl, behind⟩ := pieces_eq_append split
    obtain ⟨later, here, after⟩ := pieces_eq_cons behind
    obtain ⟨last, last_eq, counter⟩ := getLast?_ids_of_tokenOf? (here.trans early_eq)
    refine ⟨last, last_eq, ?_⟩
    rw [head?_ids_of_pieces after noToken late_eq, counter]

end Scanner

variable {text : String} {tokens : List Token}

/-- The ids of a scan. Nothing but tokens and empty output calls uses any, and two for each
character of the text are enough. -/
theorem numbered_of_tokenize (scanned : tokenize text = .ok tokens) :
    (scanText text).pieces.flatMap (·.segment.text) = text.toList ∧
      tokens = (scanText text).pieces.filterMap (·.token) ++ [Token.eof] ∧
      Numbered (scanText text).pieces tokens ∧
      (scanText text).final.nextId =
        (tokens.flatMap Token.ids).length + droppedIds (scanText text).pieces ∧
      (∀ id ∈ tokens.flatMap Token.ids, id < (scanText text).final.nextId) ∧
      (scanText text).final.nextId ≤ 2 * text.length := by
  obtain ⟨segments, covers, tile, tokens_eq⟩ := tokenize_eq_ok_iff.mp scanned
  have ids_eq : tokens.flatMap Token.ids =
      ((Scanner.ofText text.toList).tokensOf segments).flatMap Token.ids := by
    rw [tokens_eq, List.flatMap_append]
    exact List.append_nil _
  rw [scanText_eq_of_cover covers tile, ids_eq]
  refine ⟨?_, tokens_eq, tokens_eq ▸ Scanner.numbered_tokensOf _ segments, ?_, ?_, ?_⟩
  · rw [covers, Segment.cover, ← List.flatMap_map, Scanner.map_segment_pieces]
  · exact (Scanner.nextId_takeAll_eq _ segments).trans (by rw [Scanner.ofText, Nat.zero_add])
  · exact fun id member => (Scanner.mem_ids_tokensOf member).2
  · have bound := @Scanner.nextId_takeAll_le (Scanner.ofText text.toList) segments [] tile
    rw [← covers, String.length_toList] at bound
    exact bound.trans_eq (Nat.zero_add _)

theorem numbered_of_tokenize_empty_calls :
    ∃ tokens, tokenize "output(  )'a'output()\"" = .ok tokens ∧
      tokens.map Token.ids = [[9, 10, 11], [20, 21], []] ∧
      Numbered (scanText "output(  )'a'output()\"").pieces tokens ∧
      droppedIds (scanText "output(  )'a'output()\"").pieces = 17 ∧
      (scanText "output(  )'a'output()\"").final.nextId = 22 := by
  have ids_eq : (tokenize "output(  )'a'output()\"").map (·.map Token.ids) =
      .ok [[9, 10, 11], [20, 21], []] := by decide +kernel
  obtain ⟨tokens, scanned, ids_eq⟩ := exists_tokenize_of_map ids_eq
  have numbered := (numbered_of_tokenize scanned).2.2.1
  exact ⟨tokens, scanned, ids_eq, numbered, by decide +kernel, by decide +kernel⟩

end TracingLexer
