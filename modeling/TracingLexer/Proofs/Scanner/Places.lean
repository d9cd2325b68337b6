import TracingLexer.Proofs.Scanner.Run

namespace TracingLexer.Scanner

open Segment (cover Tile)

inductive Reaches : Scanner → Scanner → Prop where
  | here (scanner : Scanner) : Reaches scanner scanner
  | step {scanner next place : Scanner} {piece : Piece}
      (stepped : scanner.step? = some (.ok piece, next)) (later : Reaches next place) :
      Reaches scanner place

theorem exists_fits_of_step? {scanner next : Scanner} {piece : Piece}
    (stepped : scanner.step? = some (.ok piece, next)) :
    ∃ tail, scanner.rest = piece.segment.text ++ tail ∧ piece.segment.Fits tail ∧
      next = scanner.take piece.segment := by
  cases here : scanner.rest with
  | nil =>
      rw [step?, here] at stepped
      cases stepped
  | cons c rest =>
      rcases Segment.stands_read c rest with ⟨tail, split, stands⟩
      cases found : Segment.read c rest with
      | error fault =>
          simp only [step?, here, found] at stepped
          cases stepped
      | ok segment =>
          rw [found] at split stands
          simp only [step?, here, found, Option.some.injEq, Prod.mk.injEq,
            Except.ok.injEq] at stepped
          rcases stepped with ⟨rfl, rfl⟩
          exact ⟨tail, split.symm, stands, rfl⟩

theorem Reaches.exists_tile {scanner place : Scanner} (reached : scanner.Reaches place) :
    ∃ segments, scanner.rest = cover segments ++ place.rest ∧ Tile segments place.rest ∧
      place = scanner.takeAll segments := by
  induction reached with
  | here scanner => exact ⟨[], rfl, trivial, rfl⟩
  | @step scanner next place piece stepped later ih =>
      rcases exists_fits_of_step? stepped with ⟨tail, split, fits, rfl⟩
      rcases ih with ⟨segments, covers, tile, place_eq⟩
      have behind : (scanner.take piece.segment).rest = tail := by
        rw [rest_take, split, List.drop_left]
      have tail_eq : tail = cover segments ++ place.rest := behind.symm.trans covers
      refine ⟨piece.segment :: segments, ?_, ⟨tail_eq ▸ fits, tile⟩, place_eq⟩
      rw [split, tail_eq, Segment.cover_cons, List.append_assoc]

theorem token_of_step? {scanner next : Scanner} {segment : Segment} {token : Option Token}
    (stepped : scanner.step? = some (.ok ⟨segment, token⟩, next)) :
    scanner.tokenOf? segment = token := by
  rcases exists_fits_of_step? stepped with ⟨tail, split, fits, rfl⟩
  rw [step?_of_fits split fits] at stepped
  simpa using stepped

theorem reaches_takeAll {scanner : Scanner} {segments : List Segment} {tail : List Char}
    (split : scanner.rest = cover segments ++ tail) (tile : Tile segments tail) :
    scanner.Reaches (scanner.takeAll segments) := by
  induction segments generalizing scanner with
  | nil => exact .here scanner
  | cons segment segments ih =>
      rcases tile with ⟨fits, later⟩
      rw [Segment.cover_cons, List.append_assoc] at split
      have behind : (scanner.take segment).rest = cover segments ++ tail := by
        rw [rest_take, split, List.drop_left]
      exact .step (step?_of_fits split fits) (ih behind later)

theorem tokensOf_append (scanner : Scanner) (first second : List Segment) :
    scanner.tokensOf (first ++ second) =
      scanner.tokensOf first ++ (scanner.takeAll first).tokensOf second := by
  rw [tokensOf, pieces_append, List.filterMap_append]
  rfl

structure Alike (base other : Scanner) : Prop where
  nextId : other.nextId = base.nextId
  depth : other.depth = base.depth

namespace Alike

variable {base other : Scanner}

theorem tokenOf? (alike : Alike base other) (segment : Segment) :
    other.tokenOf? segment = base.tokenOf? segment := by
  have sameScope : other.scope = base.scope := by rw [scope, scope, alike.depth]
  rw [Scanner.tokenOf?, Scanner.tokenOf?, alike.nextId, sameScope]

theorem take (alike : Alike base other) (segment : Segment) :
    Alike (base.take segment) (other.take segment) where
  nextId := by rw [nextId_take, nextId_take, alike.nextId]
  depth := by rw [depth_take, depth_take, alike.depth]

theorem takeAll (alike : Alike base other) (segments : List Segment) :
    Alike (base.takeAll segments) (other.takeAll segments) := by
  induction segments generalizing base other with
  | nil => exact alike
  | cons segment segments ih => exact ih (alike.take segment)

/-- Tokens depend on nothing else: neither on the place in the text nor on the names assigned. -/
theorem tokensOf (alike : Alike base other) (segments : List Segment) :
    other.tokensOf segments = base.tokensOf segments := by
  induction segments generalizing base other with
  | nil => rfl
  | cons segment segments ih =>
      rw [tokensOf_cons, tokensOf_cons, alike.tokenOf?, ih (alike.take segment)]

end Alike
end TracingLexer.Scanner
