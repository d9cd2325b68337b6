import TracingLexer.Proofs.Lists
import TracingLexer.Proofs.Text.Lines
import TracingLexer.Report

namespace TracingLexer

namespace Kind

theorem name_injective : Function.Injective name := by
  intro left right
  cases left <;> cases right <;> decide

theorem blank_notMem_name (kind : Kind) : ' ' ∉ kind.name.toList := by
  cases kind <;> decide

theorem newline_notMem_name (kind : Kind) : '\n' ∉ kind.name.toList := by
  cases kind <;> decide

end Kind

namespace Report

theorem toList_tokenLine (token : Token) :
    (tokenLine token).toList =
      ('(' :: token.literal.toList ++ [',']) ++ ' ' :: (token.kind.name.toList ++ [')']) := by
  simp [tokenLine]

theorem newline_notMem_tokenLine {token : Token} (whole : '\n' ∉ token.literal.toList) :
    '\n' ∉ (tokenLine token).toList := by
  rw [toList_tokenLine]
  simp [whole, token.kind.newline_notMem_name]

/-- A literal may hold what looks like the end of a line. The kind stands behind the last blank, for
no kind has a blank in its name. -/
theorem tokenLine_inj {token other : Token} (same : tokenLine token = tokenLine other) :
    token.literal = other.literal ∧ token.kind = other.kind := by
  have noBlank (kind : Kind) : ' ' ∉ kind.name.toList ++ [')'] := by
    simp [kind.blank_notMem_name]
  have texts := congrArg String.toList same
  rw [toList_tokenLine, toList_tokenLine] at texts
  rcases Text.append_mark_inj (noBlank token.kind) (noBlank other.kind) texts with
    ⟨literals, names⟩
  have literal_eq : token.literal.toList = other.literal.toList :=
    List.append_cancel_right (List.tail_eq_of_cons_eq literals)
  have name_eq : token.kind.name.toList = other.kind.name.toList := List.append_cancel_right names
  exact ⟨String.toList_inj.mp literal_eq, Kind.name_injective (String.toList_inj.mp name_eq)⟩

theorem tokenLine_eq_iff {token other : Token} :
    tokenLine token = tokenLine other ↔
      (token.literal, token.kind) = (other.literal, other.kind) := by
  rw [Prod.mk.injEq]
  constructor
  · exact tokenLine_inj
  · intro same
    rw [tokenLine, tokenLine, same.1, same.2]

/-- Two token files have the same content exactly if the tokens have the same literals and kinds one
after the other, provided that no literal goes over the end of its line. -/
theorem tokenFile_eq_iff {tokens others : List Token}
    (whole : ∀ token ∈ tokens, '\n' ∉ token.literal.toList)
    (othersWhole : ∀ other ∈ others, '\n' ∉ other.literal.toList) :
    (tokenFile tokens).toUTF8 = (tokenFile others).toUTF8 ↔
      tokens.map (fun token => (token.literal, token.kind)) =
        others.map fun token => (token.literal, token.kind) := by
  have lines_iff : tokens.map tokenLine = others.map tokenLine ↔
      tokens.map (fun token => (token.literal, token.kind)) =
        others.map fun token => (token.literal, token.kind) :=
    (map_eq_map_iff tokenLine_eq_iff).trans (map_eq_map_iff Iff.rfl).symm
  rw [← lines_iff]
  constructor
  · intro same
    apply Text.lines_inj _ _ (String.toByteArray_inj.mp same)
    · exact List.forall_mem_map.mpr fun token member => newline_notMem_tokenLine (whole token member)
    · exact List.forall_mem_map.mpr fun other member =>
        newline_notMem_tokenLine (othersWhole other member)
  · intro same
    rw [tokenFile, tokenFile, same]

/-- A text in quotes that looks like the line of another token. Where it was found, and by which
states, leaves no mark in the file; its kind does. -/
theorem tokenFile_eq_iff_imitation :
    let quoted : Token := ⟨.string, "x, STRING)(y, IDENTIFIER", State.chain 0 [.char '"'], none⟩
    let later : Token := { quoted with trace := State.chain 7 [.char '"', .epsilon] }
    let named : Token := ⟨.identifier, "x, STRING)(y", [], some .global⟩
    (∀ token ∈ [quoted, Token.eof], '\n' ∉ token.literal.toList) ∧
      (∀ token ∈ [later, Token.eof], '\n' ∉ token.literal.toList) ∧
      (∀ token ∈ [named, Token.eof], '\n' ∉ token.literal.toList) ∧
      (tokenFile [quoted, Token.eof]).toUTF8 = (tokenFile [later, Token.eof]).toUTF8 ∧
      (tokenFile [quoted, Token.eof]).toUTF8 ≠ (tokenFile [named, Token.eof]).toUTF8 := by
  intro quoted later named
  have quotedWhole : ∀ token ∈ [quoted, Token.eof], '\n' ∉ token.literal.toList := by decide
  have laterWhole : ∀ token ∈ [later, Token.eof], '\n' ∉ token.literal.toList := by decide
  have namedWhole : ∀ token ∈ [named, Token.eof], '\n' ∉ token.literal.toList := by decide
  refine ⟨quotedWhole, laterWhole, namedWhole, ?_, ?_⟩
  · exact (tokenFile_eq_iff quotedWhole laterWhole).mpr rfl
  · exact mt (tokenFile_eq_iff quotedWhole namedWhole).mp (by decide)

end Report
end TracingLexer
