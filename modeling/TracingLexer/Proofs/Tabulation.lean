import TracingLexer.Proofs.Lists
import TracingLexer.Proofs.Text.Lines
import TracingLexer.SymbolTable

namespace TracingLexer

namespace Entry

def cells (entry : Entry) : List String :=
  [entry.name, entry.category, entry.scope, entry.value]

def OneLine (entry : Entry) : Prop := ∀ cell ∈ entry.cells, '\n' ∉ cell.toList

instance (entry : Entry) : Decidable entry.OneLine :=
  inferInstanceAs (Decidable (∀ cell ∈ entry.cells, '\n' ∉ cell.toList))

structure Fits (entry : Entry) : Prop where
  name : entry.name.length ≤ 10
  category : entry.category.length ≤ 10
  scope : entry.scope.length ≤ 8
  value : entry.value.length ≤ 10

instance (entry : Entry) : Decidable entry.Fits :=
  decidable_of_iff
    (entry.name.length ≤ 10 ∧ entry.category.length ≤ 10 ∧ entry.scope.length ≤ 8 ∧
      entry.value.length ≤ 10)
    ⟨fun ⟨name, category, scope, value⟩ => ⟨name, category, scope, value⟩,
      fun fits => ⟨fits.name, fits.category, fits.scope, fits.value⟩⟩

/-- The cells fit, and what fills up their columns can be told from their own text. -/
structure Legible (entry : Entry) : Prop where
  oneLine : entry.OneLine
  fits : entry.Fits
  ends : ∀ cell ∈ entry.cells, cell.toList.getLast? ≠ some ' '

instance (entry : Entry) : Decidable entry.Legible :=
  decidable_of_iff
    (entry.OneLine ∧ entry.Fits ∧ ∀ cell ∈ entry.cells, cell.toList.getLast? ≠ some ' ')
    ⟨fun ⟨oneLine, fits, ends⟩ => ⟨oneLine, fits, ends⟩,
      fun legible => ⟨legible.oneLine, legible.fits, legible.ends⟩⟩

end Entry

namespace SymbolTable

theorem entries_foldl_add (table : SymbolTable) (added : List Entry) :
    (added.foldl add table).entries = table.entries ++ added := by
  induction added generalizing table with
  | nil => exact (List.append_nil _).symm
  | cons entry added ih => rw [List.foldl_cons, ih, add, List.append_assoc, List.singleton_append]

theorem toList_row (entry : Entry) :
    (row entry).toList =
      ['|', ' '] ++ ((Text.padRight 10 entry.name).toList ++
        ([' ', '|', ' '] ++ ((Text.padRight 10 entry.category).toList ++
          ([' ', '|', ' '] ++ ((Text.padRight 8 entry.scope).toList ++
            ([' ', '|', ' '] ++ ((Text.padRight 10 entry.value).toList ++ [' ', '|']))))))) := by
  simp [row]

theorem length_border : border.length = 51 := by decide

theorem length_header : header.length = 51 := by decide

theorem length_row {entry : Entry} (fits : entry.Fits) : (row entry).length = 51 := by
  calc
    (row entry).length
      = 2 + ((Text.padRight 10 entry.name).length + (3 +
          ((Text.padRight 10 entry.category).length + (3 +
            ((Text.padRight 8 entry.scope).length + (3 +
              ((Text.padRight 10 entry.value).length + 2))))))) := by
        rw [← String.length_toList, toList_row]
        simp only [List.length_append, String.length_toList, List.length_cons, List.length_nil]
    _ = 2 + (10 + (3 + (10 + (3 + (8 + (3 + (10 + 2))))))) := by
        rw [Text.length_padRight fits.name, Text.length_padRight fits.category,
          Text.length_padRight fits.scope, Text.length_padRight fits.value]

theorem row_inj {entry other : Entry} (legible : entry.Legible) (otherLegible : other.Legible)
    (same : row entry = row other) : entry = other := by
  have ends := legible.ends
  have otherEnds := otherLegible.ends
  simp only [Entry.cells, List.forall_mem_cons] at ends otherEnds
  have texts := congrArg String.toList same
  rw [toList_row, toList_row] at texts
  -- The bars have fixed places, so the cells come off one after the other.
  rcases Text.padRight_append_inj legible.fits.name otherLegible.fits.name ends.1 otherEnds.1
    (List.append_cancel_left texts) with ⟨names, texts⟩
  rcases Text.padRight_append_inj legible.fits.category otherLegible.fits.category ends.2.1
    otherEnds.2.1 (List.append_cancel_left texts) with ⟨categories, texts⟩
  rcases Text.padRight_append_inj legible.fits.scope otherLegible.fits.scope ends.2.2.1
    otherEnds.2.2.1 (List.append_cancel_left texts) with ⟨scopes, texts⟩
  rcases Text.padRight_append_inj legible.fits.value otherLegible.fits.value ends.2.2.2.1
    otherEnds.2.2.2.1 (List.append_cancel_left texts) with ⟨values, _⟩
  cases entry
  cases other
  simp_all

def head : List String := ["", "Symbol Table:", border, header, border]

theorem newline_notMem_row {entry : Entry} (oneLine : entry.OneLine) :
    '\n' ∉ (row entry).toList := by
  simp only [Entry.OneLine, Entry.cells, List.forall_mem_cons] at oneLine
  rw [toList_row]
  simp [Text.toList_padRight, oneLine]

theorem newline_notMem_lines {table : SymbolTable}
    (whole : ∀ entry ∈ table.entries, entry.OneLine) :
    ∀ line ∈ head ++ table.entries.map row ++ [border], '\n' ∉ line.toList := by
  have frame : (∀ line ∈ head, '\n' ∉ line.toList) ∧ '\n' ∉ border.toList := by decide
  rw [List.forall_mem_append, List.forall_mem_append, List.forall_mem_map]
  refine ⟨⟨frame.1, fun entry member => newline_notMem_row (whole entry member)⟩, ?_⟩
  simpa using frame.2

theorem splitLines_render {table : SymbolTable}
    (whole : ∀ entry ∈ table.entries, entry.OneLine) :
    Text.splitLines table.render = head ++ table.entries.map row ++ [border] :=
  Text.splitLines_lines (newline_notMem_lines whole)

theorem render_inj {table other : SymbolTable} (legible : ∀ entry ∈ table.entries, entry.Legible)
    (otherLegible : ∀ entry ∈ other.entries, entry.Legible)
    (same : table.render = other.render) : table.entries = other.entries := by
  have shown : head ++ table.entries.map row ++ [border] =
      head ++ other.entries.map row ++ [border] :=
    Text.lines_inj (newline_notMem_lines fun entry member => (legible entry member).oneLine)
      (newline_notMem_lines fun entry member => (otherLegible entry member).oneLine) same
  have rows := List.append_cancel_left (List.append_cancel_right shown)
  exact eq_of_map_eq_map row_inj legible otherLegible rows

/-- A table whose cells hold no newline is printed in six lines and one for each entry, in the order
in which the entries were added. If the cells fit their columns, all lines below the title are 51
characters long; if besides no cell ends in a blank, the text tells the entries. -/
theorem render_in_lines (table : SymbolTable)
    (whole : ∀ entry ∈ table.entries, entry.OneLine) :
    let lines := Text.splitLines table.render
    table.entries.foldl add {} = table ∧
      lines.length = table.entries.length + 6 ∧
      lines = ["", "Symbol Table:", border, header, border] ++ table.entries.map row ++ [border] ∧
      ((∀ entry ∈ table.entries, entry.Fits) → ∀ line ∈ lines.drop 2, line.length = 51) ∧
      ∀ other : SymbolTable, (∀ entry ∈ table.entries, entry.Legible) →
        (∀ entry ∈ other.entries, entry.Legible) →
        (table.render = other.render ↔ table.entries = other.entries) := by
  intro lines
  have lines_eq : lines = head ++ table.entries.map row ++ [border] := splitLines_render whole
  refine ⟨?_, ?_, lines_eq, ?_, ?_⟩
  · exact congrArg SymbolTable.mk (entries_foldl_add {} table.entries)
  · rw [lines_eq, List.length_append, List.length_append, List.length_map]
    simp only [head, List.length_cons, List.length_nil]
    omega
  · intro fits line member
    rw [lines_eq] at member
    simp only [head, List.cons_append, List.nil_append, List.drop_succ_cons, List.drop_zero,
      List.mem_cons, List.mem_append, List.mem_map, List.not_mem_nil, or_false] at member
    rcases member with rfl | rfl | rfl | ⟨entry, present, rfl⟩ | rfl
    · exact length_border
    · exact length_header
    · exact length_border
    · exact length_row (fits entry present)
    · exact length_border
  · intro other legible otherLegible
    constructor
    · exact render_inj legible otherLegible
    · intro same
      rw [render, render, same]

/-- Bars and blanks in the cells do not move the columns: the same characters in other cells make
another text. -/
theorem render_in_lines_bars :
    let table : SymbolTable := ⟨[⟨"é | | b", "", " c", "|"⟩, ⟨"", "", "", ""⟩]⟩
    let other : SymbolTable := ⟨[⟨"é |", "| b", " c", "|"⟩, ⟨"", "", "", ""⟩]⟩
    let lines := Text.splitLines table.render
    (∀ entry ∈ table.entries, entry.OneLine ∧ entry.Fits ∧ entry.Legible) ∧
      (∀ entry ∈ other.entries, entry.Legible) ∧ lines.length = 8 ∧
      lines[6]? = some "|            |            |          |            |" ∧
      (∀ line ∈ lines.drop 2, line.length = 51) ∧ table.render ≠ other.render := by
  intro table other lines
  have kept : ∀ entry ∈ table.entries, entry.OneLine ∧ entry.Fits ∧ entry.Legible := by decide
  have otherLegible : ∀ entry ∈ other.entries, entry.Legible := by decide
  have printed := render_in_lines table fun entry member => (kept entry member).1
  refine ⟨kept, otherLegible, printed.2.1, ?_, ?_, ?_⟩
  · exact (congrArg (·[6]?) printed.2.2.1).trans (by decide)
  · exact printed.2.2.2.1 fun entry member => (kept entry member).2.1
  · have told := printed.2.2.2.2 other (fun entry member => (kept entry member).2.2) otherLegible
    exact mt told.mp (by decide)

end SymbolTable
end TracingLexer
