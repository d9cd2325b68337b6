import Mathlib.Data.List.Forall2
import TracingLexer.Proofs.Scanner.Run
import TracingLexer.SymbolTable

namespace TracingLexer

/-- The depth of blocks behind a punctuation mark, or behind what is none. A closing brace too many
is ignored. -/
def depthBehind (depth : Nat) (mark : Option String) : Nat :=
  if mark = some "\x7b" then depth + 1
  else if mark = some "\x7d" then depth - 1
  else depth

def depthOver (depth : Nat) (marks : List (Option String)) : Nat := marks.foldl depthBehind depth

def Scope.atDepth (depth : Nat) : Scope := if depth = 0 then .global else .nested

def Token.mark? (token : Token) : Option String :=
  if token.kind = .punctuator then some token.literal else none

def Entry.mark? (entry : Entry) : Option String :=
  if entry.category = "Punctuator" then some entry.name else none

inductive Entry.Shows (name : String) (depth : Nat) : Kind → Entry → Prop where
  | identifier :
      Shows name depth .identifier
        ⟨name, "Identifier", if depth = 0 then "Global" else "Local", "-"⟩
  | integer : Shows name depth .integer ⟨name, "Integer", "Constant", name⟩
  | decimal : Shows name depth .decimal ⟨name, "Decimal", "Constant", name⟩
  | boolean : Shows name depth .boolean ⟨name, "Boolean", "Constant", name⟩
  | string : Shows name depth .string ⟨name, "String", "Global", name⟩
  | character : Shows name depth .character ⟨name, "CHARACTER", "Local", "-"⟩
  | datatype : Shows name depth .datatype ⟨name, "DATATYPE", "Global", "-"⟩
  | keyword : Shows name depth .keyword ⟨name, "Keyword", "Global", "-"⟩
  | operator : Shows name depth .operator ⟨name, "Operator", "Global", "-"⟩
  | punctuator : Shows name depth .punctuator ⟨name, "Punctuator", "Global", "-"⟩
  | input : Shows name depth .input ⟨name, "INPUT", "Global", "-"⟩
  | output : Shows name depth .output ⟨name, "OUTPUT", "Global", "-"⟩

/-- One row for each token in order. The depth that decides the scopes of the identifiers is counted
over the braces among the rows. -/
structure SymbolTable.Shows (tokens : List Token) (rows : List Entry) : Prop where
  length : rows.length = tokens.length
  marks : rows.map Entry.mark? = tokens.map Token.mark?
  row : ∀ (index : Nat) (token : Token) (row : Entry),
    tokens[index]? = some token → rows[index]? = some row →
      Entry.Shows token.literal (depthOver 0 ((rows.take index).map Entry.mark?)) token.kind row
  scope : ∀ (index : Nat) (row : Entry), rows[index]? = some row → row.category = "Identifier" →
    row.scope =
      if depthOver 0 ((rows.take index).map Entry.mark?) = 0 then "Global" else "Local"

/-- An equals sign stands right behind the text of a global identifier with the name. -/
def Piece.Assigned (pieces : List Piece) (name : String) : Prop :=
  ∃ piece after token, piece :: after <:+ pieces ∧ piece.token = some token ∧
    token.scope = some .global ∧ token.literal = name ∧
    (Segment.cover (after.map (·.segment))).head? = some '='

theorem Segment.Reads.depthAfter_eq {segment : Segment} {kind : Kind} {literal : String}
    (reads : Reads segment kind literal) (depth : Nat) :
    Scanner.depthAfter depth segment =
      depthBehind depth (if kind = .punctuator then some literal else none) := by
  cases reads with
  | word letters =>
      rw [if_neg (wordKind_ne (by decide) _)]
      rfl
  | call function kept => cases function <;> rfl
  | punctuator c =>
      by_cases opening : c = '\x7b'
      · subst opening
        rfl
      · by_cases closing : c = '\x7d'
        · subst closing
          rfl
        · simp [Scanner.depthAfter, depthBehind, String.ext_iff, opening, closing]
  | _ => rfl

namespace Scanner

open Segment (cover Tile)

theorem depth_take_of_token {scanner : Scanner} {segment : Segment} {token : Token}
    (found : scanner.tokenOf? segment = some token) :
    (scanner.take segment).depth = depthBehind scanner.depth token.mark? := by
  rw [depth_take, (reads_of_tokenOf? found).depthAfter_eq]
  rfl

theorem depth_take_of_none {scanner : Scanner} {segment : Segment}
    (nothing : scanner.tokenOf? segment = none) :
    (scanner.take segment).depth = scanner.depth := by
  rw [depth_take, depthAfter_of_silent (Option.map_eq_none_iff.mp nothing)]

theorem depth_takeAll (scanner : Scanner) (segments : List Segment) :
    (scanner.takeAll segments).depth =
      depthOver scanner.depth ((scanner.tokensOf segments).map Token.mark?) := by
  induction segments generalizing scanner with
  | nil => rfl
  | cons segment segments ih =>
      rw [takeAll_cons, ih, tokensOf_cons]
      cases found : scanner.tokenOf? segment with
      | none =>
          rw [depth_take_of_none found]
          rfl
      | some token =>
          rw [depth_take_of_token found]
          rfl

theorem scope_of_tokenOf? {scanner : Scanner} {segment : Segment} {token : Token}
    (found : scanner.tokenOf? segment = some token) :
    token.scope = if token.kind = .identifier then some (.atDepth scanner.depth) else none := by
  obtain ⟨reading, _, rfl⟩ := Option.map_eq_some_iff.mp found
  rfl

theorem scope_of_getElem? {scanner : Scanner} {segments : List Segment} {index : Nat}
    {token : Token} (present : (scanner.tokensOf segments)[index]? = some token) :
    token.scope =
      if token.kind = .identifier then
        some (.atDepth
          (depthOver scanner.depth (((scanner.tokensOf segments).take index).map Token.mark?)))
      else none := by
  induction segments generalizing scanner index with
  | nil => cases present
  | cons segment segments ih =>
      rw [tokensOf_cons] at present ⊢
      cases found : scanner.tokenOf? segment with
      | none =>
          rw [found] at present
          rw [← depth_take_of_none found]
          exact ih present
      | some first =>
          rw [found] at present
          cases index with
          | zero =>
              obtain rfl : first = token := Option.some.inj present
              exact scope_of_tokenOf? found
          | succ index =>
              have later := ih present
              rw [depth_take_of_token found] at later
              exact later

theorem mem_globals_takeAll {scanner : Scanner} {segments : List Segment} {name : String}
    (split : scanner.rest = cover segments) :
    name ∈ (scanner.takeAll segments).globals ↔
      name ∈ scanner.globals ∨ Piece.Assigned (scanner.pieces segments) name := by
  induction segments generalizing scanner with
  | nil => simp [pieces, Piece.Assigned]
  | cons segment segments ih =>
      have behind : (scanner.take segment).rest = cover segments := by
        rw [rest_take, split, Segment.cover_cons, List.drop_left]
      have noted : name ∈ (scanner.take segment).globals ↔ name ∈ scanner.globals ∨
          ∃ token, scanner.tokenOf? segment = some token ∧ token.scope = some .global ∧
            (cover segments).head? = some '=' ∧ name = token.literal := by
        rw [← behind]
        exact mem_globalsAfter
      rw [takeAll_cons, ih behind, noted, or_assoc]
      apply or_congr_right
      simp only [Piece.Assigned, pieces, List.suffix_cons_iff]
      constructor
      · rintro (⟨token, found, isGlobal, equals, rfl⟩ | ⟨piece, after, token, later, rest⟩)
        · refine ⟨_, _, token, .inl rfl, found, isGlobal, rfl, ?_⟩
          rwa [map_segment_pieces]
        · exact ⟨piece, after, token, .inr later, rest⟩
      · rintro ⟨piece, after, token, here | later, found, isGlobal, literal_eq, equals⟩
        · rw [List.cons.injEq] at here
          rw [here.1] at found
          rw [here.2, map_segment_pieces] at equals
          exact .inl ⟨token, found, isGlobal, equals, literal_eq.symm⟩
        · exact .inr ⟨piece, after, token, later, found, isGlobal, literal_eq, equals⟩

end Scanner

namespace Entry

variable {token : Token} {row : Entry}

theorem ofToken?_eq_none_iff : ofToken? token = none ↔ token.kind = .eof := by
  unfold ofToken?
  split <;> simp_all

theorem mark?_of_ofToken? (found : ofToken? token = some row) : row.mark? = token.mark? := by
  obtain ⟨kind, literal, trace, scope⟩ := token
  cases kind <;> cases found <;> rfl

theorem Shows.scope_eq {name : String} {depth : Nat} {kind : Kind} {row : Entry}
    (shown : Shows name depth kind row) (isIdentifier : row.category = "Identifier") :
    row.scope = if depth = 0 then "Global" else "Local" := by
  cases shown with
  | identifier => rfl
  | _ => simp at isIdentifier

theorem shows_of_ofToken? {depth : Nat} (found : ofToken? token = some row)
    (inScope : token.kind = .identifier → token.scope = some (.atDepth depth)) :
    Shows token.literal depth token.kind row := by
  obtain ⟨kind, literal, trace, scope⟩ := token
  cases kind with
  | identifier =>
      obtain rfl : scope = some (.atDepth depth) := inScope rfl
      cases found
      have scope_eq : (Scope.atDepth depth).name = if depth = 0 then "Global" else "Local" := by
        rw [Scope.atDepth]
        split <;> rfl
      rw [Option.getD_some, scope_eq]
      exact .identifier
  | eof => cases found
  | _ =>
      cases found
      constructor

end Entry

namespace SymbolTable

theorem forall₂_filterMap (tokens : List Token) :
    List.Forall₂ (fun token row => Entry.ofToken? token = some row)
      (tokens.filter (·.kind ≠ .eof)) (tokens.filterMap Entry.ofToken?) := by
  induction tokens with
  | nil => exact .nil
  | cons token tokens ih =>
      cases found : Entry.ofToken? token with
      | none =>
          have isEnd := Entry.ofToken?_eq_none_iff.mp found
          rw [List.filterMap_cons_none found, List.filter_cons_of_neg (by simp [isEnd])]
          exact ih
      | some row =>
          have notEnd : token.kind ≠ .eof := fun isEnd => by
            rw [Entry.ofToken?_eq_none_iff.mpr isEnd] at found
            cases found
          rw [List.filterMap_cons_some found, List.filter_cons_of_pos (by simp [notEnd])]
          exact .cons found ih

variable {tokens : List Token} {rows : List Entry}

theorem map_mark?_of_forall₂
    (rowsOf : List.Forall₂ (fun token row => Entry.ofToken? token = some row) tokens rows) :
    rows.map Entry.mark? = tokens.map Token.mark? := by
  induction rowsOf with
  | nil => rfl
  | cons here _ ih => rw [List.map_cons, List.map_cons, ih, Entry.mark?_of_ofToken? here]

theorem shows_of_forall₂
    (rowsOf : List.Forall₂ (fun token row => Entry.ofToken? token = some row) tokens rows)
    (inScope : ∀ (index : Nat) (token : Token), tokens[index]? = some token →
      token.kind = .identifier →
        token.scope = some (.atDepth (depthOver 0 ((tokens.take index).map Token.mark?)))) :
    Shows tokens rows := by
  have marks := map_mark?_of_forall₂ rowsOf
  have row : ∀ (index : Nat) (token : Token) (row : Entry),
      tokens[index]? = some token → rows[index]? = some row →
        Entry.Shows token.literal (depthOver 0 ((rows.take index).map Entry.mark?))
          token.kind row := by
    intro index token row inTokens inRows
    obtain ⟨inside, rfl⟩ := List.getElem?_eq_some_iff.mp inTokens
    obtain ⟨below, rfl⟩ := List.getElem?_eq_some_iff.mp inRows
    -- The rows have the marks of the tokens, so the two counts agree at each index.
    rw [List.map_take, marks, ← List.map_take]
    exact Entry.shows_of_ofToken? (rowsOf.get inside below) (inScope index _ inTokens)
  refine ⟨rowsOf.length_eq.symm, marks, row, ?_⟩
  intro index shown inRows isIdentifier
  have inside : index < tokens.length :=
    rowsOf.length_eq ▸ (List.getElem?_eq_some_iff.mp inRows).1
  exact (row index _ shown (List.getElem?_eq_getElem inside) inRows).scope_eq isIdentifier

end SymbolTable

open Scanner

/-- Scopes and depths are those of the braces among the tokens, and global names those of the
identifiers before an equals sign. The rows of the symbol table follow the braces among them. -/
theorem scopes_of_tokenize {text : String} {tokens : List Token}
    (scanned : tokenize text = .ok tokens) :
    (∀ (index : Nat) (token : Token), tokens[index]? = some token →
      token.scope =
        if token.kind = .identifier then
          some (.atDepth (depthOver 0 ((tokens.take index).map Token.mark?)))
        else none) ∧
      (scanText text).final.depth = depthOver 0 (tokens.map Token.mark?) ∧
      text.toList = Segment.cover ((scanText text).pieces.map (·.segment)) ∧
      (∀ name, name ∈ (scanText text).final.globals ↔
        Piece.Assigned (scanText text).pieces name) ∧
      ∀ table : SymbolTable, ∃ rows, (table.addTokens tokens).entries = table.entries ++ rows ∧
        SymbolTable.Shows (tokens.filter (·.kind ≠ .eof)) rows := by
  obtain ⟨segments, covers, tile, rfl⟩ := tokenize_eq_ok_iff.mp scanned
  have whole := scanText_eq_of_cover covers tile
  refine ⟨?_, ?_, ?_, ?_, ?_⟩
  · intro index token present
    rcases Nat.lt_or_ge index ((ofText text.toList).tokensOf segments).length with below | behind
    · rw [List.getElem?_append_left below] at present
      rw [List.take_append_of_le_length below.le]
      exact scope_of_getElem? present
    · rw [List.getElem?_append_right behind] at present
      rw [List.mem_singleton.mp (List.mem_of_getElem? present)]
      rfl
  · rw [whole, depth_takeAll, List.map_append, depthOver, depthOver, List.foldl_append]
    rfl
  · rw [whole, map_segment_pieces, covers]
  · intro name
    have started : name ∉ (ofText text.toList).globals := List.not_mem_nil
    rw [whole, mem_globals_takeAll covers, or_iff_right started]
  · intro table
    refine ⟨_, rfl, SymbolTable.shows_of_forall₂ (SymbolTable.forall₂_filterMap _) ?_⟩
    rw [filter_tokensOf]
    intro index token inTokens isIdentifier
    rw [scope_of_getElem? inTokens, if_pos isIdentifier]
    rfl

/-- One closing brace too many, and an opening one between quotes. -/
theorem scopes_of_tokenize_extra_brace :
    let text := "x=\x7by=1\x7d\x7d\"\x7b\"z="
    ∃ tokens, tokenize text = .ok tokens ∧
      tokens.map (fun token => (token.literal, token.scope)) =
        [("x", some .global), ("=", none), ("\x7b", none), ("y", some .nested), ("=", none),
          ("1", none), ("\x7d", none), ("\x7d", none), ("\x7b", none), ("z", some .global),
          ("=", none), ("EOF", none)] ∧
      (scanText text).final.depth = depthOver 0 (tokens.map Token.mark?) ∧
      Piece.Assigned (scanText text).pieces "x" ∧ Piece.Assigned (scanText text).pieces "z" ∧
      ¬ Piece.Assigned (scanText text).pieces "y" ∧
      ∃ rows, (({} : SymbolTable).addTokens tokens).entries = rows ∧
        SymbolTable.Shows (tokens.filter (·.kind ≠ .eof)) rows := by
  intro text
  have read : (tokenize text).map (·.map fun token => (token.literal, token.scope)) =
      .ok [("x", some .global), ("=", none), ("\x7b", none), ("y", some .nested), ("=", none),
        ("1", none), ("\x7d", none), ("\x7d", none), ("\x7b", none), ("z", some .global),
        ("=", none), ("EOF", none)] := by decide +kernel
  rcases exists_tokenize_of_map read with ⟨tokens, scanned, seen⟩
  obtain ⟨_, depth_eq, _, assigned, rows⟩ := scopes_of_tokenize scanned
  refine ⟨tokens, scanned, seen, depth_eq, ?_, ?_, ?_, rows {}⟩
  · exact (assigned "x").mp (by decide +kernel)
  · exact (assigned "z").mp (by decide +kernel)
  · exact fun holds => absurd ((assigned "y").mpr holds) (by decide +kernel)

end TracingLexer
