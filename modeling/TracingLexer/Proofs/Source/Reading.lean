import Mathlib.Tactic.SplitIfs
import TracingLexer.Source.Segment

namespace TracingLexer.Segment

inductive Reads : Segment → Kind → String → Prop where
  | integer {run : List Char} (plain : '.' ∉ run) :
      Reads (number run) .integer (String.ofList run)
  | decimal {run : List Char} (point : '.' ∈ run) :
      Reads (number run) .decimal (String.ofList ((Text.Decimal.round? run).getD run))
  | character (value : Char) : Reads (character value) .character (String.ofList [value])
  | string (content : List Char) (closed : Bool) :
      Reads (string content closed) .string (String.ofList content)
  | word (letters : List Char) :
      Reads (word letters) (wordKind (String.ofList letters)) (String.ofList letters)
  | call (function : Call) {content : List Char}
      (kept : ¬ (function = .output ∧ Text.trim content = [])) :
      Reads (call function content) function.kind
        (String.ofList (function.name ++ '(' :: Text.trim content ++ [')']))
  | operator (c : Char) : Reads (operator c) .operator (String.ofList [c])
  | punctuator (c : Char) : Reads (punctuator c) .punctuator (String.ofList [c])

theorem reads_of_reading? {segment : Segment} {kind : Kind} {literal : String}
    (found : segment.reading? = some (kind, literal)) : Reads segment kind literal := by
  cases segment with
  | blank c => simp [reading?] at found
  | stray c => simp [reading?] at found
  | lineComment body => simp [reading?] at found
  | blockComment body => simp [reading?] at found
  | number run =>
      by_cases point : '.' ∈ run
      · rw [reading?, if_pos point, Option.some.injEq, Prod.mk.injEq] at found
        rcases found with ⟨rfl, rfl⟩
        exact .decimal point
      · rw [reading?, if_neg point, Option.some.injEq, Prod.mk.injEq] at found
        rcases found with ⟨rfl, rfl⟩
        exact .integer point
  | call function content =>
      simp only [reading?] at found
      split_ifs at found with dropped
      rw [Option.some.injEq, Prod.mk.injEq] at found
      rcases found with ⟨rfl, rfl⟩
      exact .call function dropped
  | _ =>
      simp only [reading?, Option.some.injEq, Prod.mk.injEq] at found
      rcases found with ⟨rfl, rfl⟩
      constructor

theorem wordKind_mem (word : String) :
    wordKind word ∈ [Kind.keyword, .datatype, .boolean, .identifier] := by
  unfold wordKind
  split_ifs <;> decide

theorem wordKind_ne {kind : Kind}
    (other : kind ∉ [Kind.keyword, .datatype, .boolean, .identifier]) (word : String) :
    wordKind word ≠ kind := by
  intro same
  exact other (same ▸ wordKind_mem word)

variable {segment : Segment} {kind : Kind} {literal : String}

theorem Reads.kind_ne_eof (reads : Reads segment kind literal) : kind ≠ .eof := by
  cases reads with
  | word letters => exact wordKind_ne (by decide) _
  | call function kept => cases function <;> decide
  | _ => decide

theorem Reads.of_string {content : List Char} {closed : Bool}
    (reads : Reads (Segment.string content closed) kind literal) :
    kind = .string ∧ literal = String.ofList content := by
  cases reads
  exact ⟨rfl, rfl⟩

theorem Reads.eq_string (reads : Reads segment kind literal) (isString : kind = .string) :
    ∃ content closed, segment = Segment.string content closed := by
  cases reads with
  | string content closed => exact ⟨content, closed, rfl⟩
  | word letters => exact absurd isString (wordKind_ne (by decide) _)
  | call function kept => cases function <;> exact absurd isString (by decide)
  | _ => exact absurd isString (by decide)

theorem Reads.of_character {value : Char} (reads : Reads (Segment.character value) kind literal) :
    kind = .character := by
  cases reads
  rfl

theorem Reads.eq_character (reads : Reads segment kind literal) (isCharacter : kind = .character) :
    ∃ value, segment = Segment.character value ∧ literal = String.ofList [value] := by
  cases reads with
  | character value => exact ⟨value, rfl, rfl⟩
  | word letters => exact absurd isCharacter (wordKind_ne (by decide) _)
  | call function kept => cases function <;> exact absurd isCharacter (by decide)
  | _ => exact absurd isCharacter (by decide)

theorem Reads.symbols_ne_nil (reads : Reads segment kind literal) : segment.symbols ≠ [] := by
  cases reads <;> simp [symbols]

end TracingLexer.Segment
