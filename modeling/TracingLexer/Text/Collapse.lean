namespace TracingLexer.Text

/-- Each run of equal characters keeps its last member. -/
def collapse : List Char → List Char
  | [] => []
  | c :: rest => if rest.head? = some c then collapse rest else c :: collapse rest

theorem head?_collapse (text : List Char) : (collapse text).head? = text.head? := by
  induction text with
  | nil => rfl
  | cons c rest ih =>
      simp only [collapse]
      split
      · simp_all
      · rfl

theorem collapse_eq_nil_iff {text : List Char} : collapse text = [] ↔ text = [] := by
  rw [← List.head?_eq_none_iff, head?_collapse, List.head?_eq_none_iff]

theorem length_collapse_le (text : List Char) : (collapse text).length ≤ text.length := by
  induction text with
  | nil => simp [collapse]
  | cons c rest ih =>
      simp only [collapse, List.length_cons]
      split
      · omega
      · simp [ih]

end TracingLexer.Text
