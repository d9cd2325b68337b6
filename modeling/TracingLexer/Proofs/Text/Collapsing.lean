import Mathlib.Data.List.Destutter
import TracingLexer.Text.Collapse

namespace TracingLexer.Text

theorem collapse_cons_cons (c next : Char) (rest : List Char) :
    collapse (c :: next :: rest) =
      if next = c then collapse (next :: rest) else c :: collapse (next :: rest) := by
  rw [collapse, List.head?_cons]
  simp only [Option.some.injEq]

theorem collapse_eq_destutter (text : List Char) : collapse text = text.destutter (· ≠ ·) := by
  cases text with
  | nil => rfl
  | cons first rest =>
      rw [List.destutter_cons']
      induction rest generalizing first with
      | nil => rfl
      | cons next rest ih =>
          rw [collapse_cons_cons]
          by_cases same : next = first
          · rw [if_pos same, same, ih, List.destutter'_cons_neg _ (not_not.mpr rfl)]
          · rw [if_neg same, ih, List.destutter'_cons_pos _ (Ne.symm same)]

theorem isChain_collapse (text : List Char) : (collapse text).IsChain (· ≠ ·) := by
  rw [collapse_eq_destutter]
  exact List.isChain_destutter _ text

theorem getLast?_collapse (text : List Char) : (collapse text).getLast? = text.getLast? := by
  cases text with
  | nil => rfl
  | cons first rest =>
      induction rest generalizing first with
      | nil => rfl
      | cons next rest ih =>
          have present : collapse (next :: rest) ≠ [] := by simp [collapse_eq_nil_iff]
          rw [collapse_cons_cons, List.getLast?_cons_cons]
          split_ifs
          · exact ih next
          · rw [← ih next, List.getLast?_cons_of_ne_nil present]

theorem collapse_concat (text : List Char) (c : Char) :
    collapse (text ++ [c]) =
      if text.getLast? = some c then collapse text else collapse text ++ [c] := by
  cases text with
  | nil => rfl
  | cons first rest =>
      induction rest generalizing first with
      | nil =>
          rw [List.cons_append, List.nil_append, collapse_cons_cons]
          by_cases same : c = first
          · simp [same]
          · simp [same, Ne.symm same, collapse]
      | cons next rest ih =>
          rw [List.getLast?_cons_cons, collapse_cons_cons, List.cons_append, List.cons_append,
            collapse_cons_cons, ← List.cons_append, ih next]
          split_ifs <;> rfl

end TracingLexer.Text
