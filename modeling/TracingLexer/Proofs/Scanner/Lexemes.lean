import TracingLexer.Proofs.Scanner.Run

namespace TracingLexer

structure Lexed where
  token : Token
  lexeme : List Char

namespace Scanner

open Segment (cover Tile)

/-- The tokens read on to the end or to an error, each with the text between the offsets before it
and behind it. -/
def lexed (scanner : Scanner) : List Lexed :=
  match _stepped : scanner.step? with
  | some (.ok piece, next) =>
      let lexeme := (scanner.text.drop scanner.offset).take (next.offset - scanner.offset)
      (piece.token.map fun token => ⟨token, lexeme⟩).toList ++ next.lexed
  | _ => []
termination_by scanner.rest.length
decreasing_by exact length_rest_of_step? _stepped

def InPlace (scanner : Scanner) : Prop := scanner.text.drop scanner.offset = scanner.rest

theorem inPlace_ofText (text : List Char) : (ofText text).InPlace := rfl

theorem InPlace.take {scanner : Scanner} (inPlace : scanner.InPlace) (segment : Segment) :
    (scanner.take segment).InPlace := by
  have moved : (scanner.take segment).text = scanner.text := rfl
  rw [InPlace, moved, offset_take, rest_take, ← List.drop_drop, inPlace]

theorem lexed_of_end {scanner : Scanner} (finished : scanner.rest = []) : scanner.lexed = [] := by
  have noStep : scanner.step? = none := by simp only [step?, finished]
  rw [lexed]
  split <;> simp_all

theorem lexed_of_fits {scanner : Scanner} {segment : Segment} {tail : List Char}
    (inPlace : scanner.InPlace) (split : scanner.rest = segment.text ++ tail)
    (fits : segment.Fits tail) :
    scanner.lexed =
      ((scanner.tokenOf? segment).map fun token => ⟨token, segment.text⟩).toList ++
        (scanner.take segment).lexed := by
  have stepped := step?_of_fits split fits
  have length : (scanner.take segment).offset - scanner.offset = segment.text.length := by
    rw [offset_take]
    omega
  have lexeme : (scanner.text.drop scanner.offset).take
      ((scanner.take segment).offset - scanner.offset) = segment.text := by
    rw [length, inPlace, split, List.take_left]
  rw [lexed]
  split <;> simp_all

def lexedOf (scanner : Scanner) : List Segment → List Lexed
  | [] => []
  | segment :: segments =>
      ((scanner.tokenOf? segment).map fun token => ⟨token, segment.text⟩).toList ++
        (scanner.take segment).lexedOf segments

theorem lexed_of_tile {scanner : Scanner} {segments : List Segment} (inPlace : scanner.InPlace)
    (split : scanner.rest = cover segments) (tile : Tile segments []) :
    scanner.lexed = scanner.lexedOf segments := by
  induction segments generalizing scanner with
  | nil => exact lexed_of_end split
  | cons segment segments ih =>
      rcases tile with ⟨fits, later⟩
      rw [List.append_nil] at fits
      have behind : (scanner.take segment).rest = cover segments := by
        rw [rest_take, split, Segment.cover_cons, List.drop_left]
      rw [lexed_of_fits inPlace split fits, ih (inPlace.take segment) behind later, lexedOf]

theorem map_token_lexedOf (scanner : Scanner) (segments : List Segment) :
    (scanner.lexedOf segments).map (·.token) = scanner.tokensOf segments := by
  induction segments generalizing scanner with
  | nil => rfl
  | cons segment segments ih =>
      rw [lexedOf, tokensOf_cons, List.map_append, ih]
      cases scanner.tokenOf? segment <;> rfl

theorem exists_of_mem_lexedOf {scanner : Scanner} {segments : List Segment} {rest : List Char}
    {entry : Lexed} (tile : Tile segments rest) (member : entry ∈ scanner.lexedOf segments) :
    ∃ (segment : Segment) (tail : List Char) (reader : Scanner), segment.Fits tail ∧
      reader.tokenOf? segment = some entry.token ∧ entry.lexeme = segment.text := by
  induction segments generalizing scanner with
  | nil => exact absurd member List.not_mem_nil
  | cons segment segments ih =>
      rw [lexedOf, List.mem_append] at member
      rcases member with here | later
      · obtain ⟨token, found, rfl⟩ := Option.map_eq_some_iff.mp (Option.mem_toList.mp here)
        exact ⟨segment, _, scanner, tile.1, found, rfl⟩
      · exact ih tile.2 later

end Scanner
end TracingLexer
