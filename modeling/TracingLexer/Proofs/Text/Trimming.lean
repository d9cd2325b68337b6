import TracingLexer.Proofs.Text.Runs
import TracingLexer.Text.Trim

namespace TracingLexer.Text

/-- The inner text is the whole one without the blank characters at its two ends. -/
structure Trimmed (whole inner : List Char) : Prop where
  sides : ∃ left right, whole = left ++ inner ++ right ∧ (∀ c ∈ left, isBlank c = true) ∧
    ∀ c ∈ right, isBlank c = true
  front : Ends isBlank inner
  back : Ends isBlank inner.reverse

theorem trimLeft_append {left rest : List Char} (blank : ∀ c ∈ left, isBlank c = true)
    (front : Ends isBlank rest) : trimLeft (left ++ rest) = rest :=
  dropWhile_append_of_ends blank front

theorem trimRight_append {rest right : List Char} (blank : ∀ c ∈ right, isBlank c = true)
    (back : Ends isBlank rest.reverse) : trimRight (rest ++ right) = rest := by
  rw [trimRight, List.reverse_append, trimLeft_append (by simpa using blank) back,
    List.reverse_reverse]

theorem Trimmed.eq_trim {whole inner : List Char} (trimmed : Trimmed whole inner) :
    trim whole = inner := by
  rcases trimmed.sides with ⟨left, right, rfl, leftBlank, rightBlank⟩
  cases inner with
  | nil =>
      have blank : ∀ c ∈ left ++ right, isBlank c = true := by
        intro c member
        exact (List.mem_append.mp member).elim (leftBlank c) (rightBlank c)
      have nothing : trimLeft (left ++ right) = [] := by
        simpa using trimLeft_append blank (ends_nil isBlank)
      rw [List.append_nil, trim, nothing]
      rfl
  | cons c inner =>
      have front : Ends isBlank (c :: inner ++ right) := by
        simpa using trimmed.front
      rw [trim, List.append_assoc, trimLeft_append leftBlank front,
        trimRight_append rightBlank trimmed.back]

theorem takeWhile_append_trimLeft (text : List Char) :
    text.takeWhile isBlank ++ trimLeft text = text :=
  List.takeWhile_append_dropWhile

theorem trimRight_append_takeWhile (text : List Char) :
    trimRight text ++ (text.reverse.takeWhile isBlank).reverse = text := by
  calc
    _ = (text.reverse.takeWhile isBlank ++ trimLeft text.reverse).reverse := by
      rw [trimRight, List.reverse_append]
    _ = text := by rw [takeWhile_append_trimLeft, List.reverse_reverse]

theorem trimmed_trim (whole : List Char) : Trimmed whole (trim whole) := by
  have right : trim whole ++ ((trimLeft whole).reverse.takeWhile isBlank).reverse =
      trimLeft whole := trimRight_append_takeWhile (trimLeft whole)
  refine ⟨⟨whole.takeWhile isBlank, ((trimLeft whole).reverse.takeWhile isBlank).reverse,
    ?_, ?_, ?_⟩, ?_, ?_⟩
  · rw [List.append_assoc, right, takeWhile_append_trimLeft]
  · exact fun c member => List.mem_takeWhile_imp member
  · exact fun c member => List.mem_takeWhile_imp (List.mem_reverse.mp member)
  · intro c head
    have front : Ends isBlank (trimLeft whole) := ends_dropWhile isBlank whole
    apply front
    rw [← right, List.head?_append, head]
    rfl
  · rw [trim, trimRight, List.reverse_reverse]
    exact ends_dropWhile isBlank _

theorem trim_eq_iff {whole inner : List Char} : trim whole = inner ↔ Trimmed whole inner :=
  ⟨fun same => same ▸ trimmed_trim whole, Trimmed.eq_trim⟩

theorem trim_trim (whole : List Char) : trim (trim whole) = trim whole := by
  have trimmed := trimmed_trim whole
  exact Trimmed.eq_trim ⟨⟨[], [], by simp, by simp, by simp⟩, trimmed.front, trimmed.back⟩

theorem mem_of_mem_trim {c : Char} {whole : List Char} (member : c ∈ trim whole) : c ∈ whole := by
  obtain ⟨left, right, split, _⟩ := (trimmed_trim whole).sides
  rw [split]
  exact List.mem_append_left right (List.mem_append_right left member)

end TracingLexer.Text
