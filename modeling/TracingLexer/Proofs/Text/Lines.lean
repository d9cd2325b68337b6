import TracingLexer.Proofs.Text.Runs
import TracingLexer.Text.Layout

namespace TracingLexer.Text

theorem toList_lines_cons (item : String) (items : List String) :
    (lines (item :: items)).toList = item.toList ++ '\n' :: (lines items).toList := by
  simp [toList_lines]

theorem lines_inj {items others : List String} (whole : ∀ item ∈ items, '\n' ∉ item.toList)
    (othersWhole : ∀ other ∈ others, '\n' ∉ other.toList) (same : lines items = lines others) :
    items = others := by
  induction items generalizing others with
  | nil =>
      cases others with
      | nil => rfl
      | cons other others =>
          have texts := congrArg String.toList same
          rw [toList_lines_cons] at texts
          exact absurd texts.symm (List.append_ne_nil_of_right_ne_nil _ (List.cons_ne_nil _ _))
  | cons item items ih =>
      cases others with
      | nil =>
          have texts := congrArg String.toList same
          rw [toList_lines_cons] at texts
          exact absurd texts (List.append_ne_nil_of_right_ne_nil _ (List.cons_ne_nil _ _))
      | cons other others =>
          rw [List.forall_mem_cons] at whole othersWhole
          have texts := congrArg String.toList same
          rw [toList_lines_cons, toList_lines_cons] at texts
          have first : item.toList = other.toList := by
            rw [← takeWhile_ne_append whole.1, texts, takeWhile_ne_append othersWhole.1]
          rw [first] at texts
          have later := List.tail_eq_of_cons_eq (List.append_cancel_left texts)
          rw [String.toList_inj.mp first, ih whole.2 othersWhole.2 (String.toList_inj.mp later)]

/-- The lines of a text. A newline ends each of them, but the last one may do without. -/
def splitLines (text : String) : List String :=
  let parts := text.toList.splitOn '\n'
  (if parts.getLast? = some [] then parts.dropLast else parts).map String.ofList

theorem intercalate_newline (items : List String) :
    ['\n'].intercalate (items.map String.toList ++ [[]]) = (lines items).toList := by
  induction items with
  | nil => rfl
  | cons item items ih =>
      rw [toList_lines_cons, ← ih, List.map_cons, List.cons_append,
        List.intercalate_cons_of_ne_nil (List.append_ne_nil_of_right_ne_nil _ (List.cons_ne_nil _ _)),
        List.append_assoc]
      rfl

theorem splitLines_lines {items : List String} (whole : ∀ item ∈ items, '\n' ∉ item.toList) :
    splitLines (lines items) = items := by
  have parts : (lines items).toList.splitOn '\n' = items.map String.toList ++ [[]] := by
    rw [← intercalate_newline]
    apply List.splitOn_intercalate
    · rw [List.forall_mem_append, List.forall_mem_map]
      exact ⟨whole, by simp⟩
    · exact List.append_ne_nil_of_right_ne_nil _ (List.cons_ne_nil _ _)
  rw [splitLines, parts, if_pos List.getLast?_concat, List.dropLast_concat, List.map_map]
  exact (List.map_congr_left fun item _ => String.ofList_toList).trans (List.map_id items)

theorem toList_padRight (width : Nat) (cell : String) :
    (padRight width cell).toList =
      cell.toList ++ List.replicate (width - cell.length) ' ' := by
  simp [padRight]

theorem length_padRight {width : Nat} {cell : String} (fits : cell.length ≤ width) :
    (padRight width cell).length = width := by
  rw [← String.length_toList, toList_padRight, List.length_append, List.length_replicate,
    String.length_toList]
  omega

theorem append_replicate_inj {mark : Char} {front other : List Char} {count otherCount : Nat}
    (ends : front.getLast? ≠ some mark) (otherEnds : other.getLast? ≠ some mark)
    (same : front ++ List.replicate count mark = other ++ List.replicate otherCount mark) :
    front = other := by
  have strip {text : List Char} (stops : text.getLast? ≠ some mark) (times : Nat) :
      (List.replicate times mark ++ text.reverse).dropWhile (· = mark) = text.reverse := by
    refine dropWhile_append_of_ends (by simp) ?_
    intro c head
    rw [List.head?_reverse] at head
    exact decide_eq_false fun isMark => stops (isMark ▸ head)
  have backwards := congrArg List.reverse same
  rw [List.reverse_append, List.reverse_append, List.reverse_replicate,
    List.reverse_replicate] at backwards
  apply List.reverse_inj.mp
  rw [← strip ends count, backwards, strip otherEnds otherCount]

theorem padRight_append_inj {width : Nat} {cell other : String} {rest otherRest : List Char}
    (fits : cell.length ≤ width) (otherFits : other.length ≤ width)
    (ends : cell.toList.getLast? ≠ some ' ') (otherEnds : other.toList.getLast? ≠ some ' ')
    (same : (padRight width cell).toList ++ rest = (padRight width other).toList ++ otherRest) :
    cell = other ∧ rest = otherRest := by
  have widths : (padRight width cell).toList.length = (padRight width other).toList.length := by
    rw [String.length_toList, String.length_toList, length_padRight fits,
      length_padRight otherFits]
  rcases List.append_inj same widths with ⟨filled, rest_eq⟩
  rw [toList_padRight, toList_padRight] at filled
  exact ⟨String.toList_inj.mp (append_replicate_inj ends otherEnds filled), rest_eq⟩

end TracingLexer.Text
