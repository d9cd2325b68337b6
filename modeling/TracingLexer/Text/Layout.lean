namespace TracingLexer.Text

def lines (items : List String) : String := String.join (items.map (· ++ "\n"))

def rule (mark : Char) (width : Nat) : String := String.ofList (List.replicate width mark)

/-- Spaces fill the cell up to its width; a longer cell stays whole. Widths count code points. -/
def padRight (width : Nat) (cell : String) : String :=
  cell ++ rule ' ' (width - cell.length)

theorem lines_nil : lines [] = "" := rfl

theorem lines_cons (item : String) (items : List String) :
    lines (item :: items) = item ++ "\n" ++ lines items := by
  simp [lines]

theorem lines_append (first second : List String) :
    lines (first ++ second) = lines first ++ lines second := by
  simp [lines]

theorem lines_map {Item : Type} (view : Item → String) (items : List Item) :
    lines (items.map view) = String.join (items.map fun item => view item ++ "\n") := by
  rw [lines, List.map_map, Function.comp_def]

theorem lines_flatMap {Item : Type} (view : Item → List String) (items : List Item) :
    lines (items.flatMap view) = String.join (items.map fun item => lines (view item)) := by
  induction items with
  | nil => rfl
  | cons item items ih => rw [List.flatMap_cons, lines_append, ih, List.map_cons, String.join_cons]

theorem toList_lines (items : List String) :
    (lines items).toList = items.flatMap (fun item => item.toList ++ ['\n']) := by
  simp [lines, String.toList_join, List.flatMap_map]

@[simp] theorem toList_rule (mark : Char) (width : Nat) :
    (rule mark width).toList = List.replicate width mark := by
  simp [rule]

end TracingLexer.Text
