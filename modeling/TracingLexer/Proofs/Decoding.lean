import TracingLexer.Json
import TracingLexer.Proofs.Text.Runs

namespace TracingLexer.Json

open Text (Ends)

def hexValue (c : Char) : Nat := if c.toNat < 58 then c.toNat - 48 else c.toNat - 87

def unescape : List Char → Option (Char × List Char)
  | '\\' :: 'n' :: rest => some ('\n', rest)
  | '\\' :: 't' :: rest => some ('\t', rest)
  | '\\' :: 'r' :: rest => some ('\r', rest)
  | '\\' :: 'b' :: rest => some (Char.ofNat 8, rest)
  | '\\' :: 'f' :: rest => some (Char.ofNat 12, rest)
  | '\\' :: 'u' :: _ :: _ :: high :: low :: rest =>
      some (Char.ofNat (16 * hexValue high + hexValue low), rest)
  | '\\' :: c :: rest => some (c, rest)
  | c :: rest => some (c, rest)
  | [] => none

theorem hexValue_hexDigit : ∀ value < 16, hexValue (hexDigit value) = value := by
  decide

theorem unescape_escape (c : Char) (rest : List Char) :
    unescape (escape c ++ rest) = some (c, rest) := by
  by_cases named : c ∈ ['"', '\\', '\n', '\t', '\r', Char.ofNat 8, Char.ofNat 12]
  · simp only [List.mem_cons, List.not_mem_nil, or_false] at named
    rcases named with rfl | rfl | rfl | rfl | rfl | rfl | rfl <;> rfl
  · simp only [List.mem_cons, List.not_mem_nil, or_false, not_or] at named
    by_cases below : c.toNat < 32
    · have high := hexValue_hexDigit (c.toNat / 16) (by omega)
      have low := hexValue_hexDigit (c.toNat % 16) (by omega)
      have restored : Char.ofNat (16 * (c.toNat / 16) + c.toNat % 16) = c := by
        rw [Nat.div_add_mod, Char.ofNat_toNat]
      simp [escape, named, below, unescape, high, low, restored]
    · have plain : escape c = [c] := by simp [escape, named, below]
      rw [plain, List.singleton_append, unescape.eq_def]
      split <;> simp_all

theorem head?_escaped_ne_quote (c : Char) (text rest : List Char) :
    ((c :: text).flatMap escape ++ rest).head? ≠ some '"' := by
  rw [List.flatMap_cons, List.append_assoc]
  unfold escape
  grind

theorem quote_toList (text : String) :
    (quote text).toList = '"' :: (text.toList.flatMap escape ++ ['"']) := by
  simp [quote]

theorem escaped_inj {text other rest otherRest : List Char}
    (same : text.flatMap escape ++ '"' :: rest = other.flatMap escape ++ '"' :: otherRest) :
    text = other ∧ rest = otherRest := by
  induction text generalizing other with
  | nil =>
      cases other with
      | nil => exact ⟨rfl, List.tail_eq_of_cons_eq same⟩
      | cons d other =>
          exact absurd (congrArg List.head? same.symm) (head?_escaped_ne_quote d other _)
  | cons c text ih =>
      cases other with
      | nil => exact absurd (congrArg List.head? same) (head?_escaped_ne_quote c text _)
      | cons d other =>
          simp only [List.flatMap_cons, List.append_assoc] at same
          have read := congrArg unescape same
          rw [unescape_escape, unescape_escape, Option.some.injEq, Prod.mk.injEq] at read
          rcases ih read.2 with ⟨rfl, rest_eq⟩
          exact ⟨congrArg (· :: text) read.1, rest_eq⟩

/-- The text printed for the value tells the value and where it ends, if no digit follows it. -/
def Decodes {α : Type} (print : α → String) (value : α) : Prop :=
  ∀ other rest otherRest, Ends Char.isDigit rest → Ends Char.isDigit otherRest →
    (print value).toList ++ rest = (print other).toList ++ otherRest →
      value = other ∧ rest = otherRest

theorem decodes_quote (text : String) : Decodes quote text := by
  intro other rest otherRest _ _ same
  simp only [quote_toList, List.cons_append, List.append_assoc, List.nil_append] at same
  rcases escaped_inj (List.tail_eq_of_cons_eq same) with ⟨content, rest_eq⟩
  exact ⟨String.toList_inj.mp content, rest_eq⟩

theorem decodes_repr (value : Nat) : Decodes Nat.repr value := by
  have digits : ∀ number, ∀ c ∈ Nat.toDigits 10 number, c.isDigit = true := by
    intro number c member
    exact Nat.isDigit_of_mem_toDigits (by decide) (by decide) member
  intro other rest otherRest ends otherEnds same
  simp only [Nat.toList_repr] at same
  have number : Nat.toDigits 10 value = Nat.toDigits 10 other := by
    rw [← Text.takeWhile_append_of_ends (digits value) ends, same,
      Text.takeWhile_append_of_ends (digits other) otherEnds]
  constructor
  · calc
      value = Nat.ofDigitChars 10 (Nat.toDigits 10 value) 0 :=
        Nat.ofDigitChars_ten_toDigits.symm
      _ = Nat.ofDigitChars 10 (Nat.toDigits 10 other) 0 := by rw [number]
      _ = other := Nat.ofDigitChars_ten_toDigits
  · rw [number] at same
    exact List.append_cancel_left same

def printField (field : String × Json) : String := quote field.1 ++ ":" ++ compact field.2

theorem Decodes.field {field : String × Json} (decodes : Decodes compact field.2) :
    Decodes printField field := by
  intro other rest otherRest ends otherEnds same
  simp only [printField, String.toList_append, List.append_assoc] at same
  rcases decodes_quote field.1 other.1 _ _ (by simp) (by simp) same with ⟨name, behind⟩
  rcases decodes other.2 rest otherRest ends otherEnds (List.append_cancel_left behind) with
    ⟨value, rest_eq⟩
  exact ⟨Prod.ext name value, rest_eq⟩

theorem compactItems_eq_map (items : List Json) : compactItems items = items.map compact := by
  induction items with
  | nil => rfl
  | cons item items ih => rw [compactItems, ih, List.map_cons]

theorem compactFields_eq_map (fields : List (String × Json)) :
    compactFields fields = fields.map printField := by
  induction fields with
  | nil => rfl
  | cons field fields ih => rw [compactFields, ih, List.map_cons, printField]

section Separated

variable {α : Type} {print : α → String} {close : Char}

def behind (print : α → String) (close : Char) (items : List α) (rest : List Char) : List Char :=
  match items with
  | [] => close :: rest
  | item :: items => ',' :: ((print item).toList ++ behind print close items rest)

def closed (print : α → String) (close : Char) (items : List α) (rest : List Char) : List Char :=
  (",".intercalate (items.map print)).toList ++ close :: rest

theorem closed_cons (item : α) (items : List α) (rest : List Char) :
    closed print close (item :: items) rest =
      (print item).toList ++ behind print close items rest := by
  induction items generalizing item with
  | nil => simp [closed, behind]
  | cons next items ih =>
      have later := ih next
      simp only [closed, String.toList_intercalate, List.map_cons] at later ⊢
      rw [List.intercalate_cons_of_ne_nil (by simp), behind, ← later]
      simp

theorem ends_behind (notDigit : close.isDigit = false) (items : List α) (rest : List Char) :
    Ends Char.isDigit (behind print close items rest) := by
  cases items <;> simp [behind, notDigit]

theorem behind_inj (notDigit : close.isDigit = false) (notComma : close ≠ ',')
    {items others : List α} {rest otherRest : List Char}
    (decodes : ∀ item ∈ items, Decodes print item)
    (same : behind print close items rest = behind print close others otherRest) :
    items = others ∧ rest = otherRest := by
  induction items generalizing others with
  | nil =>
      cases others with
      | nil => exact ⟨rfl, List.tail_eq_of_cons_eq same⟩
      | cons _ _ => exact absurd (List.head_eq_of_cons_eq same) notComma
  | cons item items ih =>
      cases others with
      | nil => exact absurd (List.head_eq_of_cons_eq same).symm notComma
      | cons other others =>
          rw [List.forall_mem_cons] at decodes
          rcases decodes.1 other _ _ (ends_behind notDigit items rest)
              (ends_behind notDigit others otherRest) (List.tail_eq_of_cons_eq same) with
            ⟨rfl, further⟩
          rcases ih decodes.2 further with ⟨rfl, rest_eq⟩
          exact ⟨rfl, rest_eq⟩

theorem closed_inj (notDigit : close.isDigit = false) (notComma : close ≠ ',')
    (opens : ∀ item rest, ((print item).toList ++ rest).head? ≠ some close)
    {items others : List α} {rest otherRest : List Char}
    (decodes : ∀ item ∈ items, Decodes print item)
    (same : closed print close items rest = closed print close others otherRest) :
    items = others ∧ rest = otherRest := by
  cases items with
  | nil =>
      cases others with
      | nil => exact ⟨rfl, List.tail_eq_of_cons_eq same⟩
      | cons other others =>
          rw [closed_cons] at same
          exact absurd (congrArg List.head? same.symm) (opens other _)
  | cons item items =>
      cases others with
      | nil =>
          rw [closed_cons] at same
          exact absurd (congrArg List.head? same) (opens item _)
      | cons other others =>
          -- The lists are not empty, so both go on as if behind an earlier item.
          rw [closed_cons, closed_cons] at same
          exact behind_inj notDigit notComma decodes (congrArg (',' :: ·) same)

end Separated

/-- What tells a value's constructor: its first character, all digits taken for one. -/
def mark : Json → Char
  | null => 'n'
  | bool value => if value then 't' else 'f'
  | nat _ => '0'
  | text _ => '"'
  | list _ => '['
  | record _ => '\x7b'

theorem exists_compact_eq_cons (value : Json) :
    ∃ c rest, value.compact.toList = c :: rest ∧
      (if c.isDigit then '0' else c) = value.mark := by
  cases value with
  | null => exact ⟨_, _, rfl, rfl⟩
  | bool value => cases value <;> exact ⟨_, _, rfl, rfl⟩
  | text value => exact ⟨_, _, quote_toList value, rfl⟩
  | list items => exact ⟨'[', _, by simp [compact]; rfl, rfl⟩
  | record fields => exact ⟨'\x7b', _, by simp [compact]; rfl, rfl⟩
  | nat value =>
      rcases List.exists_cons_of_ne_nil (@Nat.toDigits_ne_nil value 10) with ⟨c, rest, split⟩
      have digit : c.isDigit = true :=
        Nat.isDigit_of_mem_toDigits (by decide) (by decide) (split ▸ List.mem_cons_self)
      exact ⟨c, rest, by rw [compact, Nat.toList_repr, split], if_pos digit⟩

theorem mark_eq_of_append_eq {value other : Json} {rest otherRest : List Char}
    (same : value.compact.toList ++ rest = other.compact.toList ++ otherRest) :
    value.mark = other.mark := by
  rcases exists_compact_eq_cons value with ⟨c, behind, text, marked⟩
  rcases exists_compact_eq_cons other with ⟨d, otherBehind, otherText, otherMarked⟩
  rw [text, otherText] at same
  rw [← marked, ← otherMarked, List.head_eq_of_cons_eq same]

theorem mark_ne_bracket (value : Json) : value.mark ≠ ']' := by
  cases value with
  | bool value => cases value <;> decide
  | _ => simp [mark]

theorem head?_compact_ne_bracket (value : Json) (rest : List Char) :
    (value.compact.toList ++ rest).head? ≠ some ']' := by
  rcases exists_compact_eq_cons value with ⟨c, behind, text, marked⟩
  rw [text]
  rintro ⟨⟩
  exact mark_ne_bracket value marked.symm

theorem head?_printField_ne_brace (field : String × Json) (rest : List Char) :
    ((printField field).toList ++ rest).head? ≠ some '\x7d' := by
  simp [printField, quote_toList]

theorem decodes_null : Decodes compact null := by
  intro other rest otherRest _ _ same
  have marks := mark_eq_of_append_eq same
  cases other with
  | null => exact ⟨rfl, List.append_cancel_left same⟩
  | _ => grind [mark]

theorem decodes_bool (value : Bool) : Decodes compact (bool value) := by
  intro other rest otherRest _ _ same
  have marks := mark_eq_of_append_eq same
  cases other with
  | bool other =>
      have equal : value = other := by cases value <;> cases other <;> simp_all [mark]
      rw [equal] at same ⊢
      exact ⟨rfl, List.append_cancel_left same⟩
  | _ => grind [mark]

theorem decodes_nat (value : Nat) : Decodes compact (nat value) := by
  intro other rest otherRest ends otherEnds same
  have marks := mark_eq_of_append_eq same
  cases other with
  | nat other =>
      rcases decodes_repr value other rest otherRest ends otherEnds same with ⟨equal, rest_eq⟩
      exact ⟨congrArg nat equal, rest_eq⟩
  | _ => grind [mark]

theorem decodes_text (value : String) : Decodes compact (text value) := by
  intro other rest otherRest ends otherEnds same
  have marks := mark_eq_of_append_eq same
  cases other with
  | text other =>
      rcases decodes_quote value other rest otherRest ends otherEnds same with ⟨equal, rest_eq⟩
      exact ⟨congrArg text equal, rest_eq⟩
  | _ => grind [mark]

theorem compact_list_append (items : List Json) (rest : List Char) :
    (list items).compact.toList ++ rest = '[' :: closed compact ']' items rest := by
  simp [compact, compactItems_eq_map, closed]

theorem compact_record_append (fields : List (String × Json)) (rest : List Char) :
    (record fields).compact.toList ++ rest = '\x7b' :: closed printField '\x7d' fields rest := by
  simp [compact, compactFields_eq_map, closed]

theorem decodes_list {items : List Json} (decodes : ∀ item ∈ items, Decodes compact item) :
    Decodes compact (list items) := by
  intro other rest otherRest _ _ same
  have marks := mark_eq_of_append_eq same
  cases other with
  | list others =>
      rw [compact_list_append, compact_list_append] at same
      rcases closed_inj (by decide) (by decide) head?_compact_ne_bracket decodes
          (List.tail_eq_of_cons_eq same) with ⟨equal, rest_eq⟩
      exact ⟨congrArg list equal, rest_eq⟩
  | _ => grind [mark]

theorem decodes_record {fields : List (String × Json)}
    (decodes : ∀ field ∈ fields, Decodes printField field) : Decodes compact (record fields) := by
  intro other rest otherRest _ _ same
  have marks := mark_eq_of_append_eq same
  cases other with
  | record others =>
      rw [compact_record_append, compact_record_append] at same
      rcases closed_inj (by decide) (by decide) head?_printField_ne_brace decodes
          (List.tail_eq_of_cons_eq same) with ⟨equal, rest_eq⟩
      exact ⟨congrArg record equal, rest_eq⟩
  | _ => grind [mark]

mutual

theorem decodes_compact : ∀ value : Json, Decodes compact value
  | null => decodes_null
  | bool value => decodes_bool value
  | nat value => decodes_nat value
  | text value => decodes_text value
  | list items => decodes_list (decodes_items items)
  | record fields => decodes_record (decodes_fields fields)

theorem decodes_items : ∀ items : List Json, ∀ item ∈ items, Decodes compact item
  | [] => List.forall_mem_nil _
  | item :: items => List.forall_mem_cons.mpr ⟨decodes_compact item, decodes_items items⟩

theorem decodes_fields :
    ∀ fields : List (String × Json), ∀ field ∈ fields, Decodes printField field
  | [] => List.forall_mem_nil _
  | (_, value) :: fields =>
      List.forall_mem_cons.mpr ⟨(decodes_compact value).field, decodes_fields fields⟩

end

theorem compact_injective : Function.Injective compact := by
  intro value other same
  have texts : value.compact.toList ++ [] = other.compact.toList ++ [] := by rw [same]
  exact (decodes_compact value other [] [] (Text.ends_nil _) (Text.ends_nil _) texts).1

end TracingLexer.Json
