import TracingLexer.Proofs.Scanner.Renumber
import TracingLexer.Proofs.Scanner.Run

namespace TracingLexer

/-- How far one scanner is ahead of another, and the global names that only it may know. -/
structure Shift where
  offset : Nat
  lines : Nat
  states : Nat
  globals : List String

def Warning.lower (lines : Nat) (warning : Warning) : Warning := ⟨warning.line + lines⟩

def ScanError.move (lines offset : Nat) (error : ScanError) : ScanError :=
  { error with line := error.line + lines, offset := error.offset + offset }

def Piece.raise (count : Nat) (piece : Piece) : Piece :=
  { piece with token := piece.token.map (Token.raise count) }

theorem Piece.raise_zero (piece : Piece) : piece.raise 0 = piece := by
  have same : piece.token.map (Token.raise 0) = piece.token := by
    rw [funext Token.raise_zero, Option.map_id']
  rw [raise, same]

namespace Scanner

open Segment (cover Tile)

/-- The second scanner is ahead of the first one by the shift; their rests are not compared. -/
structure Shifted (shift : Shift) (base ahead : Scanner) : Prop where
  offset : ahead.offset = base.offset + shift.offset
  line : ahead.line = base.line + shift.lines
  nextId : ahead.nextId = base.nextId + shift.states
  depth : ahead.depth = base.depth
  globals : ∀ name, name ∈ ahead.globals ↔ name ∈ base.globals ∨ name ∈ shift.globals
  warnings : ahead.warnings = base.warnings.map (Warning.lower shift.lines)

variable {shift : Shift} {base ahead : Scanner}

theorem Shifted.tokenOf? (shifted : Shifted shift base ahead) (segment : Segment) :
    ahead.tokenOf? segment = (base.tokenOf? segment).map (Token.raise shift.states) := by
  have sameScope : ahead.scope = base.scope := by rw [scope, scope, shifted.depth]
  cases reading : segment.reading? with
  | none => simp only [Scanner.tokenOf?, reading, Option.map_none]
  | some found =>
      simp only [Scanner.tokenOf?, reading, Option.map_some, shifted.nextId, Segment.trace_add,
        sameScope, Token.raise]

theorem Shifted.globalsAfter (shifted : Shifted shift base ahead) (token : Option Token)
    {next aheadNext : Option Char} (alike : next = some '=' ↔ aheadNext = some '=')
    (name : String) :
    name ∈ ahead.globalsAfter (token.map (Token.raise shift.states)) aheadNext ↔
      name ∈ base.globalsAfter token next ∨ name ∈ shift.globals := by
  have sameToken : (∃ found, token.map (Token.raise shift.states) = some found ∧
        found.scope = some .global ∧ aheadNext = some '=' ∧ name = found.literal) ↔
      ∃ found, token = some found ∧ found.scope = some .global ∧ next = some '=' ∧
        name = found.literal := by
    cases token with
    | none => simp
    | some found => simp [Token.raise, alike]
  rw [mem_globalsAfter, mem_globalsAfter, shifted.globals, sameToken, or_right_comm]

theorem Shifted.warningsAfter (shifted : Shifted shift base ahead) (segment : Segment) :
    ahead.warningsAfter segment =
      (base.warningsAfter segment).map (Warning.lower shift.lines) := by
  unfold Scanner.warningsAfter
  split
  · rw [shifted.warnings, List.map_append, shifted.line]
    rfl
  · exact shifted.warnings

theorem Shifted.take (shifted : Shifted shift base ahead) {segment : Segment}
    (alike : (base.take segment).rest.head? = some '=' ↔
      (ahead.take segment).rest.head? = some '=') :
    Shifted shift (base.take segment) (ahead.take segment) where
  offset := by rw [offset_take, offset_take, shifted.offset, Nat.add_right_comm]
  line := by rw [line_take, line_take, shifted.line, Nat.add_right_comm]
  nextId := by rw [nextId_take, nextId_take, shifted.nextId, Nat.add_right_comm]
  depth := by rw [depth_take, depth_take, shifted.depth]
  globals := by
    intro name
    simp only [Scanner.take, shifted.tokenOf?]
    exact shifted.globalsAfter _ alike name
  warnings := shifted.warningsAfter segment

theorem head?_append_iff {front old new : List Char} {mark : Char}
    (alike : old.head? = some mark ↔ new.head? = some mark) :
    (front ++ old).head? = some mark ↔ (front ++ new).head? = some mark := by
  cases front with
  | nil => exact alike
  | cons c front => rfl

theorem Shifted.takeAll {segments : List Segment} {tail aheadTail : List Char}
    (shifted : Shifted shift base ahead) (split : base.rest = cover segments ++ tail)
    (aheadSplit : ahead.rest = cover segments ++ aheadTail)
    (alike : tail.head? = some '=' ↔ aheadTail.head? = some '=') :
    Shifted shift (base.takeAll segments) (ahead.takeAll segments) ∧
      ahead.pieces segments = (base.pieces segments).map (Piece.raise shift.states) := by
  induction segments generalizing base ahead with
  | nil => exact ⟨shifted, rfl⟩
  | cons segment segments ih =>
      rw [Segment.cover_cons, List.append_assoc] at split aheadSplit
      have behind : (base.take segment).rest = cover segments ++ tail := by
        rw [rest_take, split, List.drop_left]
      have aheadBehind : (ahead.take segment).rest = cover segments ++ aheadTail := by
        rw [rest_take, aheadSplit, List.drop_left]
      have stepped : Shifted shift (base.take segment) (ahead.take segment) := by
        apply shifted.take
        rw [behind, aheadBehind]
        exact head?_append_iff alike
      obtain ⟨later, pieces_eq⟩ := ih stepped behind aheadBehind
      refine ⟨later, ?_⟩
      rw [pieces, pieces, pieces_eq, shifted.tokenOf?]
      rfl

theorem Shifted.skip (shifted : Shifted shift base ahead) (covered : List Char) :
    Shifted shift (base.skip covered) (ahead.skip covered) where
  offset := by simp only [Scanner.skip, shifted.offset, Nat.add_right_comm]
  line := by simp only [Scanner.skip, shifted.line, Nat.add_right_comm]
  nextId := shifted.nextId
  depth := shifted.depth
  globals := shifted.globals
  warnings := shifted.warnings

theorem Shifted.run (shifted : Shifted shift base ahead) (same : ahead.rest = base.rest) :
    ahead.run.pieces = base.run.pieces.map (Piece.raise shift.states) ∧
      ahead.run.error = base.run.error.map (ScanError.move shift.lines shift.offset) ∧
      Shifted shift base.run.final ahead.run.final := by
  rcases Segment.covering base.rest with
    ⟨segments, covers, tile⟩ | ⟨segments, fault, tail, covers, tile, fits⟩
  · have split : base.rest = cover segments ++ [] := covers.trans (List.append_nil _).symm
    obtain ⟨later, pieces_eq⟩ := shifted.takeAll split (same.trans split) Iff.rfl
    rw [run_of_complete covers tile, run_of_complete (same.trans covers) tile]
    exact ⟨pieces_eq, rfl, later⟩
  · obtain ⟨later, pieces_eq⟩ := shifted.takeAll covers (same.trans covers) Iff.rfl
    rw [run_of_stopped covers tile fits, run_of_stopped (same.trans covers) tile fits]
    refine ⟨pieces_eq, ?_, later.skip fault.text⟩
    rw [shifted.line, shifted.offset, Nat.add_right_comm base.line,
      Nat.add_right_comm base.offset]
    rfl

theorem Shifted.refl_of_eq (same : ahead = { base with text := ahead.text, rest := ahead.rest }) :
    Shifted ⟨0, 0, 0, []⟩ base ahead := by
  have unmoved : Warning.lower 0 = id := rfl
  rw [same]
  refine ⟨rfl, rfl, rfl, rfl, by simp, ?_⟩
  rw [unmoved, List.map_id]

end Scanner
end TracingLexer
