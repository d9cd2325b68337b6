import TracingLexer.Proofs.Source.Reading
import TracingLexer.Proofs.Source.Tiling
import TracingLexer.Scanner

namespace TracingLexer

theorem Scan.tokens_eq_ok_iff {scan : Scan} {tokens : List Token} :
    scan.tokens = .ok tokens ↔
      scan.error = none ∧ tokens = scan.pieces.filterMap (·.token) ++ [Token.eof] := by
  cases stopped : scan.error <;> simp [Scan.tokens, stopped, eq_comm]

theorem Scan.tokens_eq_error_iff {scan : Scan} {error : ScanError} :
    scan.tokens = .error error ↔ scan.error = some error := by
  cases stopped : scan.error <;> simp [Scan.tokens, stopped]

namespace Scanner

open Segment (cover Tile)

def takeAll (scanner : Scanner) (segments : List Segment) : Scanner := segments.foldl take scanner

def pieces (scanner : Scanner) : List Segment → List Piece
  | [] => []
  | segment :: segments =>
      ⟨segment, scanner.tokenOf? segment⟩ :: (scanner.take segment).pieces segments

@[simp] theorem takeAll_nil (scanner : Scanner) : scanner.takeAll [] = scanner := rfl

@[simp] theorem takeAll_cons (scanner : Scanner) (segment : Segment) (segments : List Segment) :
    scanner.takeAll (segment :: segments) = (scanner.take segment).takeAll segments := rfl

@[simp] theorem takeAll_append (scanner : Scanner) (first second : List Segment) :
    scanner.takeAll (first ++ second) = (scanner.takeAll first).takeAll second :=
  List.foldl_append

@[simp] theorem pieces_append (scanner : Scanner) (first second : List Segment) :
    scanner.pieces (first ++ second) =
      scanner.pieces first ++ (scanner.takeAll first).pieces second := by
  induction first generalizing scanner with
  | nil => rfl
  | cons segment first ih => simp [pieces, ih]

theorem map_segment_pieces (scanner : Scanner) (segments : List Segment) :
    (scanner.pieces segments).map (·.segment) = segments := by
  induction segments generalizing scanner with
  | nil => rfl
  | cons segment segments ih => rw [pieces, List.map_cons, ih]

@[simp] theorem rest_take (scanner : Scanner) (segment : Segment) :
    (scanner.take segment).rest = scanner.rest.drop segment.text.length := rfl

@[simp] theorem offset_take (scanner : Scanner) (segment : Segment) :
    (scanner.take segment).offset = scanner.offset + segment.text.length := rfl

@[simp] theorem line_take (scanner : Scanner) (segment : Segment) :
    (scanner.take segment).line = scanner.line + segment.text.count '\n' := rfl

@[simp] theorem nextId_take (scanner : Scanner) (segment : Segment) :
    (scanner.take segment).nextId = scanner.nextId + segment.symbols.length := rfl

@[simp] theorem depth_take (scanner : Scanner) (segment : Segment) :
    (scanner.take segment).depth = depthAfter scanner.depth segment := rfl

theorem tokenOf?_of_reading {segment : Segment} {kind : Kind} {literal : String}
    (found : segment.reading? = some (kind, literal)) (scanner : Scanner) :
    scanner.tokenOf? segment =
      some
        { kind, literal, trace := segment.trace scanner.nextId
          scope := if kind = .identifier then some scanner.scope else none } := by
  rw [tokenOf?, found, Option.map_some]

theorem tokenOf?_of_silent {segment : Segment} (silent : segment.reading? = none)
    (scanner : Scanner) : scanner.tokenOf? segment = none := by
  rw [tokenOf?, silent, Option.map_none]

def tokensOf (scanner : Scanner) (segments : List Segment) : List Token :=
  (scanner.pieces segments).filterMap (·.token)

theorem tokensOf_cons (scanner : Scanner) (segment : Segment) (segments : List Segment) :
    scanner.tokensOf (segment :: segments) =
      (scanner.tokenOf? segment).toList ++ (scanner.take segment).tokensOf segments := by
  rw [tokensOf, pieces, List.filterMap_cons]
  cases scanner.tokenOf? segment <;> rfl

theorem reads_of_tokenOf? {scanner : Scanner} {segment : Segment} {token : Token}
    (found : scanner.tokenOf? segment = some token) :
    Segment.Reads segment token.kind token.literal := by
  obtain ⟨reading, reads, rfl⟩ := Option.map_eq_some_iff.mp found
  exact Segment.reads_of_reading? reads

theorem trace_of_tokenOf? {scanner : Scanner} {segment : Segment} {token : Token}
    (found : scanner.tokenOf? segment = some token) :
    token.trace = segment.trace scanner.nextId := by
  obtain ⟨reading, _, rfl⟩ := Option.map_eq_some_iff.mp found
  rfl

theorem exists_of_mem_tokensOf {scanner : Scanner} {segments : List Segment} {token : Token}
    (member : token ∈ scanner.tokensOf segments) :
    ∃ segment ∈ segments, ∃ reader : Scanner, reader.tokenOf? segment = some token := by
  induction segments generalizing scanner with
  | nil => exact absurd member List.not_mem_nil
  | cons segment segments ih =>
      rw [tokensOf_cons, List.mem_append] at member
      rcases member with here | later
      · exact ⟨segment, List.mem_cons_self, scanner, Option.mem_toList.mp here⟩
      · obtain ⟨origin, present, reads⟩ := ih later
        exact ⟨origin, List.mem_cons_of_mem _ present, reads⟩

theorem filter_tokensOf (scanner : Scanner) (segments : List Segment) :
    (scanner.tokensOf segments ++ [Token.eof]).filter (·.kind ≠ .eof) =
      scanner.tokensOf segments := by
  have none : ∀ token ∈ scanner.tokensOf segments, decide (token.kind ≠ .eof) = true := by
    intro token member
    obtain ⟨segment, _, reader, reads⟩ := exists_of_mem_tokensOf member
    exact decide_eq_true (reads_of_tokenOf? reads).kind_ne_eof
  rw [List.filter_append, List.filter_eq_self.mpr none]
  exact List.append_nil _

theorem depthAfter_of_silent {segment : Segment} (silent : segment.reading? = none)
    (depth : Nat) : depthAfter depth segment = depth := by
  cases segment with
  | punctuator c => simp [Segment.reading?] at silent
  | _ => rfl

theorem mem_globalsAfter {scanner : Scanner} {token : Option Token} {next : Option Char}
    {name : String} :
    name ∈ scanner.globalsAfter token next ↔
      name ∈ scanner.globals ∨
        ∃ found, token = some found ∧ found.scope = some .global ∧ next = some '=' ∧
          name = found.literal := by
  cases token with
  | none => simp [globalsAfter]
  | some found =>
      by_cases assigned : found.scope = some .global ∧ next = some '='
      · rw [globalsAfter, if_pos assigned, List.mem_insert_iff]
        simp [assigned, or_comm]
      · rw [globalsAfter, if_neg assigned]
        simp only [Option.some.injEq, exists_eq_left', iff_self_or]
        exact fun holds => absurd ⟨holds.1, holds.2.1⟩ assigned

theorem rest_takeAll {scanner : Scanner} {segments : List Segment} {tail : List Char}
    (split : scanner.rest = cover segments ++ tail) : (scanner.takeAll segments).rest = tail := by
  induction segments generalizing scanner with
  | nil => exact split
  | cons segment segments ih =>
      apply ih
      rw [rest_take, split, Segment.cover_cons, List.append_assoc, List.drop_left]

@[simp] theorem offset_takeAll (scanner : Scanner) (segments : List Segment) :
    (scanner.takeAll segments).offset = scanner.offset + (cover segments).length := by
  induction segments generalizing scanner with
  | nil => rfl
  | cons segment segments ih =>
      rw [takeAll_cons, ih, offset_take, Segment.cover_cons, List.length_append, Nat.add_assoc]

@[simp] theorem line_takeAll (scanner : Scanner) (segments : List Segment) :
    (scanner.takeAll segments).line = scanner.line + (cover segments).count '\n' := by
  induction segments generalizing scanner with
  | nil => rfl
  | cons segment segments ih =>
      rw [takeAll_cons, ih, line_take, Segment.cover_cons, List.count_append, Nat.add_assoc]

theorem warnings_take_eq_nil_iff {scanner : Scanner} {segment : Segment} :
    (scanner.take segment).warnings = [] ↔ scanner.warnings = [] ∧ ¬ segment.IsOpenString := by
  cases segment with
  | string content closed => cases closed <;> simp [take, warningsAfter, Segment.IsOpenString]
  | _ => simp [take, warningsAfter, Segment.IsOpenString]

theorem warnings_takeAll_eq_nil_iff {scanner : Scanner} {segments : List Segment} :
    (scanner.takeAll segments).warnings = [] ↔
      scanner.warnings = [] ∧ ∀ segment ∈ segments, ¬ segment.IsOpenString := by
  induction segments generalizing scanner with
  | nil => simp
  | cons segment segments ih =>
      rw [takeAll_cons, ih, warnings_take_eq_nil_iff, List.forall_mem_cons, and_assoc]

theorem step?_of_fits {scanner : Scanner} {segment : Segment} {tail : List Char}
    (split : scanner.rest = segment.text ++ tail) (fits : segment.Fits tail) :
    scanner.step? =
      some (.ok ⟨segment, scanner.tokenOf? segment⟩, scanner.take segment) := by
  obtain ⟨c, rest, rest_eq⟩ : ∃ c rest, scanner.rest = c :: rest := by
    apply List.exists_cons_of_ne_nil
    simp [split, Segment.text_ne_nil fits]
  have reading := Segment.read_of_fits fits (rest_eq ▸ split)
  simp only [step?, rest_eq, reading]

theorem step?_of_fault_fits {scanner : Scanner} {fault : Fault} {tail : List Char}
    (split : scanner.rest = fault.text ++ tail) (fits : fault.Fits tail) :
    scanner.step? =
      some (.error ⟨fault, scanner.line, scanner.offset⟩, scanner.skip fault.text) := by
  obtain ⟨c, rest, rest_eq⟩ : ∃ c rest, scanner.rest = c :: rest := by
    apply List.exists_cons_of_ne_nil
    simp [split, Segment.fault_text_ne_nil fits]
  have reading := Segment.read_of_fault_fits fits (rest_eq ▸ split)
  simp only [step?, rest_eq, reading]

theorem run_of_end {scanner : Scanner} (finished : scanner.rest = []) :
    scanner.run = ⟨[], none, scanner⟩ := by
  have noStep : scanner.step? = none := by simp only [step?, finished]
  rw [run]
  split <;> simp_all

theorem run_of_error {scanner next : Scanner} {error : ScanError}
    (stepped : scanner.step? = some (.error error, next)) :
    scanner.run = ⟨[], some error, next⟩ := by
  rw [run]
  split <;> simp_all

theorem run_of_ok {scanner next : Scanner} {piece : Piece}
    (stepped : scanner.step? = some (.ok piece, next)) :
    scanner.run = { next.run with pieces := piece :: next.run.pieces } := by
  rw [run]
  split <;> simp_all

theorem run_of_tile {scanner : Scanner} {segments : List Segment} {tail : List Char}
    (split : scanner.rest = cover segments ++ tail) (tile : Tile segments tail) :
    scanner.run =
      { (scanner.takeAll segments).run with
        pieces := scanner.pieces segments ++ (scanner.takeAll segments).run.pieces } := by
  induction segments generalizing scanner with
  | nil => rfl
  | cons segment segments ih =>
      rcases tile with ⟨fits, later⟩
      rw [Segment.cover_cons, List.append_assoc] at split
      have behind : (scanner.take segment).rest = cover segments ++ tail := by
        rw [rest_take, split, List.drop_left]
      rw [run_of_ok (step?_of_fits split fits), ih behind later]
      rfl

theorem run_of_complete {scanner : Scanner} {segments : List Segment}
    (split : scanner.rest = cover segments) (tile : Tile segments []) :
    scanner.run = ⟨scanner.pieces segments, none, scanner.takeAll segments⟩ := by
  rw [← List.append_nil (cover segments)] at split
  rw [run_of_tile split tile, run_of_end (rest_takeAll split), List.append_nil]

theorem run_of_stopped {scanner : Scanner} {segments : List Segment} {fault : Fault}
    {tail : List Char} (split : scanner.rest = cover segments ++ (fault.text ++ tail))
    (tile : Tile segments (fault.text ++ tail)) (fits : fault.Fits tail) :
    scanner.run =
      ⟨scanner.pieces segments,
        some ⟨fault, scanner.line + (cover segments).count '\n',
          scanner.offset + (cover segments).length⟩,
        (scanner.takeAll segments).skip fault.text⟩ := by
  have stepped := step?_of_fault_fits (rest_takeAll split) fits
  rw [run_of_tile split tile, run_of_error stepped, List.append_nil, line_takeAll, offset_takeAll]

end Scanner

open Scanner Segment

theorem scanText_eq_run (text : String) : scanText text = (ofText text.toList).run := rfl

theorem scanText_eq_of_cover {text : String} {segments : List Segment}
    (covers : text.toList = cover segments) (tile : Tile segments []) :
    scanText text =
      ⟨(ofText text.toList).pieces segments, none, (ofText text.toList).takeAll segments⟩ :=
  run_of_complete covers tile

theorem error_scanText_eq_none_iff {text : String} :
    (scanText text).error = none ↔
      ∃ segments, text.toList = cover segments ∧ Tile segments [] := by
  constructor
  · intro finished
    rcases Segment.covering text.toList with
      ⟨segments, covers, tile⟩ | ⟨segments, fault, tail, covers, tile, fits⟩
    · exact ⟨segments, covers, tile⟩
    · rw [scanText_eq_run, run_of_stopped covers tile fits] at finished
      simp at finished
  · intro holds
    rcases holds with ⟨segments, covers, tile⟩
    rw [scanText_eq_of_cover covers tile]

theorem tokenize_eq_ok_iff {text : String} {tokens : List Token} :
    tokenize text = .ok tokens ↔
      ∃ segments, text.toList = cover segments ∧ Tile segments [] ∧
        tokens = (ofText text.toList).tokensOf segments ++ [Token.eof] := by
  rw [tokenize, Scan.tokens_eq_ok_iff, error_scanText_eq_none_iff]
  constructor
  · intro holds
    rcases holds with ⟨⟨segments, covers, tile⟩, tokens_eq⟩
    rw [scanText_eq_of_cover covers tile] at tokens_eq
    exact ⟨segments, covers, tile, tokens_eq⟩
  · intro holds
    rcases holds with ⟨segments, covers, tile, rfl⟩
    rw [scanText_eq_of_cover covers tile]
    exact ⟨⟨segments, covers, tile⟩, rfl⟩

theorem exists_tokenize_of_map {β : Type} {text : String} {view : List Token → β} {seen : β}
    (shown : (tokenize text).map view = .ok seen) :
    ∃ tokens, tokenize text = .ok tokens ∧ view tokens = seen := by
  cases scanned : tokenize text with
  | error error =>
      rw [scanned] at shown
      cases shown
  | ok tokens =>
      rw [scanned] at shown
      exact ⟨tokens, rfl, Except.ok.inj shown⟩

theorem scanText_eq_of_stopped {text : String} {segments : List Segment} {fault : Fault}
    {tail : List Char} (covers : text.toList = cover segments ++ (fault.text ++ tail))
    (tile : Tile segments (fault.text ++ tail)) (fits : fault.Fits tail) :
    scanText text =
      ⟨(ofText text.toList).pieces segments,
        some ⟨fault, 1 + (cover segments).count '\n', (cover segments).length⟩,
        ((ofText text.toList).takeAll segments).skip fault.text⟩ := by
  rw [scanText_eq_run, run_of_stopped covers tile fits]
  simp [ofText]

theorem tokenize_eq_error_iff {text : String} {error : ScanError} :
    tokenize text = .error error ↔
      ∃ segments tail, text.toList = cover segments ++ (error.fault.text ++ tail) ∧
        Tile segments (error.fault.text ++ tail) ∧ error.fault.Fits tail ∧
        error.line = 1 + (cover segments).count '\n' ∧ error.offset = (cover segments).length := by
  rw [tokenize, Scan.tokens_eq_error_iff]
  constructor
  · intro failed
    rcases Segment.covering text.toList with
      ⟨segments, covers, tile⟩ | ⟨segments, fault, tail, covers, tile, fits⟩
    · rw [scanText_eq_of_cover covers tile] at failed
      simp at failed
    · rw [scanText_eq_of_stopped covers tile fits] at failed
      obtain rfl := Option.some.inj failed
      exact ⟨segments, tail, covers, tile, fits, rfl, rfl⟩
  · intro holds
    rcases holds with ⟨segments, tail, covers, tile, fits, line, offset⟩
    rw [scanText_eq_of_stopped covers tile fits, ← line, ← offset]

end TracingLexer
