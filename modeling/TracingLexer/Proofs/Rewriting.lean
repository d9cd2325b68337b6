import Mathlib.Data.List.Forall2
import TracingLexer.Proofs.Scanner.Run
import TracingLexer.Proofs.Source.Trace
import TracingLexer.Proofs.Text.Rounding
import TracingLexer.Proofs.Text.Trimming

namespace TracingLexer

def Token.source (token : Token) : String :=
  match token.kind with
  | .character => "'" ++ token.literal ++ "'"
  | .string => "\"" ++ token.literal ++ "\""
  | _ => token.literal

/-- The tokens as source text, one space between any two; the end token is not written. -/
def Token.write (tokens : List Token) : String :=
  " ".intercalate ((tokens.filter (·.kind ≠ .eof)).map source)

namespace Segment

def numberLiteral (run : List Char) : List Char :=
  if '.' ∈ run then (Text.Decimal.round? run).getD run else run

def rewritten : Segment → Segment
  | number run => number (numberLiteral run)
  | string content _ => string content true
  | call function content => call function (Text.trim content)
  | segment => segment

def Spaced (rest : List Char) : Prop := ∀ c, rest.head? = some c → c = ' '

theorem Spaced.ends {rest : List Char} {inClass : Char → Bool} (spaced : Spaced rest)
    (apart : inClass ' ' = false) : Text.Ends inClass rest := by
  intro c head
  rw [spaced c head]
  exact apart

theorem Spaced.head?_ne {rest : List Char} {mark : Char} (spaced : Spaced rest)
    (apart : mark ≠ ' ') : rest.head? ≠ some mark := by
  intro head
  exact apart (spaced mark head)

theorem point_mem_numberLiteral_iff {run : List Char} : '.' ∈ numberLiteral run ↔ '.' ∈ run := by
  unfold numberLiteral
  split_ifs with point
  · cases found : Text.Decimal.round? run with
    | none => rfl
    | some rounded =>
        obtain ⟨number, rfl⟩ := Text.Decimal.exists_render_of_round? found
        exact iff_of_true (Text.Decimal.point_mem_render number) point
  · rfl

theorem numberLiteral_numberLiteral (run : List Char) :
    numberLiteral (numberLiteral run) = numberLiteral run := by
  by_cases point : '.' ∈ run
  · cases found : Text.Decimal.round? run with
    | none => simp [numberLiteral, point, found]
    | some rounded =>
        have written : numberLiteral run = rounded := by simp [numberLiteral, point, found]
        have pointAgain : '.' ∈ rounded := written ▸ point_mem_numberLiteral_iff.mpr point
        rw [written, numberLiteral, if_pos pointAgain, Text.Decimal.round?_of_round? found]
        rfl
  · simp [numberLiteral, point]

theorem reading?_number (run : List Char) :
    (number run).reading? =
      some (if '.' ∈ run then .decimal else .integer, String.ofList (numberLiteral run)) := by
  by_cases point : '.' ∈ run <;> simp [reading?, numberLiteral, point]

theorem reading?_rewritten (segment : Segment) :
    segment.rewritten.reading? = segment.reading? := by
  cases segment with
  | number run =>
      rw [rewritten, reading?_number, reading?_number, numberLiteral_numberLiteral]
      simp only [point_mem_numberLiteral_iff]
  | call function content => simp only [rewritten, reading?, Text.trim_trim]
  | _ => rfl

theorem text_rewritten {segment : Segment} {kind : Kind} {literal : String}
    (reads : Reads segment kind literal) (trace : List State) (scope : Option Scope) :
    segment.rewritten.text = (Token.source ⟨kind, literal, trace, scope⟩).toList := by
  cases reads with
  | integer plain => simp [rewritten, text, Token.source, numberLiteral, plain]
  | decimal point => simp [rewritten, text, Token.source, numberLiteral, point]
  | word letters =>
      unfold wordKind
      split_ifs <;> simp [rewritten, text, Token.source]
  | call function kept => cases function <;> simp [rewritten, text, Token.source, Call.kind]
  | _ => simp [rewritten, text, Token.source]

theorem fits_number_numberLiteral {run rest tail : List Char} (fits : (number run).Fits rest)
    (spaced : Spaced tail) : (number (numberLiteral run)).Fits tail := by
  have ends : Text.Ends isNumberChar tail := spaced.ends (by decide)
  unfold numberLiteral
  split_ifs
  · cases found : Text.Decimal.round? run with
    | none => exact ⟨fits.1, fits.2.1, ends⟩
    | some rounded =>
        obtain ⟨number, rfl⟩ := Text.Decimal.exists_render_of_round? found
        refine ⟨Text.Decimal.exists_digit_render number, ?_, ends⟩
        intro c member
        simpa [isNumberChar] using Text.Decimal.isDigit_or_of_mem_render member
  · exact ⟨fits.1, fits.2.1, ends⟩

theorem fits_rewritten {segment : Segment} {rest tail : List Char} (fits : segment.Fits rest)
    (gives : segment.reading? ≠ none) (spaced : Spaced tail) : segment.rewritten.Fits tail := by
  cases segment with
  | blank c => exact fits
  | stray c => exact absurd rfl gives
  | lineComment body => exact absurd rfl gives
  | blockComment body => exact fits
  | number run => exact fits_number_numberLiteral fits spaced
  | character value => exact fits
  | string content closed => exact ⟨fits.1, fun isOpen => absurd isOpen (by decide)⟩
  | word letters =>
      rcases fits with ⟨isWord, lower, _⟩
      refine ⟨⟨isWord.first, isWord.all, spaced.ends (by decide)⟩, lower, ?_⟩
      exact fun _ => spaced.head?_ne (by decide)
  | call function content => exact fun inside => fits (Text.mem_of_mem_trim inside)
  | operator c =>
      exact ⟨fits.1, fun _ => ⟨spaced.head?_ne (by decide), spaced.head?_ne (by decide)⟩⟩
  | punctuator c => exact fits

theorem not_isOpenString_rewritten (segment : Segment) : ¬ segment.rewritten.IsOpenString := by
  cases segment <;> simp [rewritten, IsOpenString]

def reshapedKinds : List Kind := [.decimal, .input, .output]

theorem symbols_rewritten {segment : Segment} {kind : Kind} {literal : String}
    (reads : Reads segment kind literal) (plain : kind ∉ reshapedKinds) :
    segment.rewritten.symbols = segment.symbols := by
  cases reads with
  | integer noPoint => rw [rewritten, numberLiteral, if_neg noPoint]
  | decimal point => exact absurd (by decide) plain
  | call function kept => exact absurd (by cases function <;> decide) plain
  | _ => rfl

end Segment

namespace Scanner

theorem depthAfter_rewritten (depth : Nat) (segment : Segment) :
    depthAfter depth segment.rewritten = depthAfter depth segment := by
  cases segment <;> rfl

end Scanner

namespace Segment

def kept (segments : List Segment) : List Segment :=
  (segments.filter (·.reading?.isSome)).map rewritten

def spread (segments : List Segment) : List Segment := segments.intersperse (blank ' ')

theorem spread_cons (segment : Segment) (segments : List Segment) :
    spread (segment :: segments) =
      segment :: if segments = [] then [] else blank ' ' :: spread segments := by
  cases segments <;> simp [spread]

theorem cover_spread (segments : List Segment) :
    cover (spread segments) = [' '].intercalate (segments.map text) := by
  induction segments with
  | nil => rfl
  | cons segment segments ih =>
      cases segments with
      | nil => simp [spread]
      | cons next rest =>
          have later : (next :: rest).map text ≠ [] := by simp
          calc
            cover (spread (segment :: next :: rest))
              = segment.text ++ ([' '] ++ cover (spread (next :: rest))) := by
                rw [spread_cons, if_neg (List.cons_ne_nil next rest), cover_cons, cover_cons]
                rfl
            _ = [' '].intercalate ((segment :: next :: rest).map text) := by
                rw [ih, @List.map_cons _ _ text segment, List.intercalate_cons_of_ne_nil later,
                  List.append_assoc]

theorem tile_spread {segments : List Segment}
    (lasting : ∀ segment ∈ segments, ∀ tail, Spaced tail → segment.Fits tail) :
    Tile (spread segments) [] := by
  induction segments with
  | nil => trivial
  | cons segment segments ih =>
      have here := lasting segment List.mem_cons_self
      have later := ih fun member present => lasting member (List.mem_cons_of_mem _ present)
      rw [spread_cons]
      split_ifs
      · exact ⟨here [] (by simp [Spaced]), trivial⟩
      · refine ⟨here _ ?_, (by decide : Text.isBlank ' ' = true), later⟩
        intro c head
        simpa [text, eq_comm] using head

theorem lasting_kept {segments : List Segment} {rest : List Char} (tile : Tile segments rest) :
    ∀ segment ∈ kept segments, ∀ tail, Spaced tail → segment.Fits tail := by
  induction segments with
  | nil => simp [kept]
  | cons segment segments ih =>
      intro member present tail spaced
      obtain ⟨origin, chosen, rfl⟩ := List.mem_map.mp present
      obtain ⟨listed, gives⟩ := List.mem_filter.mp chosen
      rcases List.mem_cons.mp listed with rfl | later
      · exact fits_rewritten tile.1 (Option.isSome_iff_ne_none.mp gives) spaced
      · refine ih tile.2 origin.rewritten ?_ tail spaced
        exact List.mem_map_of_mem (List.mem_filter.mpr ⟨later, gives⟩)

theorem not_isOpenString_spread {segments : List Segment}
    (closed : ∀ segment ∈ segments, ¬ segment.IsOpenString) :
    ∀ segment ∈ spread segments, ¬ segment.IsOpenString := by
  induction segments with
  | nil => exact closed
  | cons segment segments ih =>
      rw [List.forall_mem_cons] at closed
      rw [spread_cons, List.forall_mem_cons]
      refine ⟨closed.1, ?_⟩
      split_ifs
      · simp
      · rw [List.forall_mem_cons]
        exact ⟨id, ih closed.2⟩

theorem not_isOpenString_kept (segments : List Segment) :
    ∀ segment ∈ kept segments, ¬ segment.IsOpenString := by
  intro segment present
  obtain ⟨origin, _, rfl⟩ := List.mem_map.mp present
  exact not_isOpenString_rewritten origin

end Segment

/-- What a token and its copy from the rewritten text have in common. -/
structure Token.Agrees (token copy : Token) : Prop where
  kind : copy.kind = token.kind
  literal : copy.literal = token.literal
  scope : copy.scope = token.scope
  shape : token.kind ∉ Segment.reshapedKinds → copy.shape = token.shape

namespace Scanner

open Segment (cover Tile)

theorem tokensOf_spread_cons (scanner : Scanner) (segment : Segment) (segments : List Segment) :
    ∃ next : Scanner, next.depth = depthAfter scanner.depth segment ∧
      scanner.tokensOf (Segment.spread (segment :: segments)) =
        (scanner.tokenOf? segment).toList ++ next.tokensOf (Segment.spread segments) := by
  rw [Segment.spread_cons]
  split_ifs with last
  · refine ⟨scanner.take segment, rfl, ?_⟩
    rw [tokensOf_cons, last]
    rfl
  · refine ⟨(scanner.take segment).take (.blank ' '), rfl, ?_⟩
    rw [tokensOf_cons, tokensOf_cons]
    rfl

theorem agrees_of_reading {base again : Scanner} (level : again.depth = base.depth)
    {segment : Segment} {kind : Kind} {literal : String}
    (found : segment.reading? = some (kind, literal)) :
    ∃ token copy, base.tokenOf? segment = some token ∧
      again.tokenOf? segment.rewritten = some copy ∧ token.Agrees copy := by
  have copied : segment.rewritten.reading? = some (kind, literal) :=
    (Segment.reading?_rewritten segment).trans found
  have sameScope : again.scope = base.scope := by rw [scope, scope, level]
  refine ⟨_, _, tokenOf?_of_reading found base, tokenOf?_of_reading copied again, rfl, rfl, ?_, ?_⟩
  · simp only [sameScope]
  · intro plain
    rw [Token.shape, Token.shape, Segment.map_symbol_trace, Segment.map_symbol_trace]
    exact Segment.symbols_rewritten (Segment.reads_of_reading? found) plain

theorem depth_ofText (text : List Char) : (ofText text).depth = 0 := rfl

theorem forall₂_agrees {base again : Scanner} (level : again.depth = base.depth)
    (segments : List Segment) :
    List.Forall₂ Token.Agrees (base.tokensOf segments)
      (again.tokensOf (Segment.spread (Segment.kept segments))) := by
  -- The scopes depend on the depth alone: nothing else has to be carried from token to token.
  induction segments generalizing base again with
  | nil => exact .nil
  | cons segment segments ih =>
      rw [tokensOf_cons]
      cases found : segment.reading? with
      | none =>
          have skipped : Segment.kept (segment :: segments) = Segment.kept segments := by
            simp [Segment.kept, found]
          rw [skipped, tokenOf?_of_silent found]
          apply ih
          rw [level, depth_take, depthAfter_of_silent found]
      | some reading =>
          have written : Segment.kept (segment :: segments) =
              segment.rewritten :: Segment.kept segments := by
            simp [Segment.kept, found]
          obtain ⟨token, copy, token_eq, copy_eq, agrees⟩ := agrees_of_reading level found
          obtain ⟨next, nextLevel, tokens_eq⟩ :=
            tokensOf_spread_cons again segment.rewritten (Segment.kept segments)
          rw [written, tokens_eq, token_eq, copy_eq]
          refine .cons agrees (ih ?_)
          rw [nextLevel, depthAfter_rewritten, level, depth_take]

theorem map_text_kept (scanner : Scanner) (segments : List Segment) :
    (Segment.kept segments).map Segment.text =
      (scanner.tokensOf segments).map (·.source.toList) := by
  induction segments generalizing scanner with
  | nil => rfl
  | cons segment segments ih =>
      have later := ih (scanner.take segment)
      rw [tokensOf_cons]
      cases found : segment.reading? with
      | none =>
          rw [tokenOf?_of_silent found, Option.toList_none, List.nil_append, ← later]
          simp [Segment.kept, found]
      | some reading =>
          have token_eq := tokenOf?_of_reading found scanner
          rw [token_eq, Option.toList_some, List.singleton_append, List.map_cons, ← later,
            ← Segment.text_rewritten (Segment.reads_of_reading? found)]
          simp [Segment.kept, found]

end Scanner

open Scanner Segment

theorem toList_write (scanner : Scanner) (segments : List Segment) :
    (Token.write (scanner.tokensOf segments ++ [Token.eof])).toList =
      cover (spread (kept segments)) := by
  rw [cover_spread, map_text_kept scanner, Token.write, filter_tokensOf,
    String.toList_intercalate, List.map_map]
  rfl

theorem map_of_agrees {tokens copies : List Token}
    (agrees : List.Forall₂ Token.Agrees tokens copies) :
    copies.map (fun token => (token.kind, token.literal, token.scope)) =
      tokens.map (fun token => (token.kind, token.literal, token.scope)) := by
  induction agrees with
  | nil => rfl
  | cons here _ ih => rw [List.map_cons, List.map_cons, ih, here.kind, here.literal, here.scope]

theorem agrees_of_getElem? {tokens copies : List Token}
    (agrees : List.Forall₂ Token.Agrees tokens copies) {index : Nat} {token copy : Token}
    (inTokens : tokens[index]? = some token) (inCopies : copies[index]? = some copy) :
    token.Agrees copy := by
  obtain ⟨below, rfl⟩ := List.getElem?_eq_some_iff.mp inTokens
  obtain ⟨copyBelow, rfl⟩ := List.getElem?_eq_some_iff.mp inCopies
  exact agrees.get below copyBelow

/-- The tokens written as a text with single spaces are scanned as they were. -/
theorem tokenize_write {text : String} {tokens : List Token}
    (scanned : tokenize text = .ok tokens) :
    ∃ again, tokenize (Token.write tokens) = .ok again ∧
      (scanText (Token.write tokens)).final.warnings = [] ∧
      again.map (fun token => (token.kind, token.literal, token.scope)) =
        tokens.map (fun token => (token.kind, token.literal, token.scope)) ∧
      ∀ (index : Nat) (token copy : Token), tokens[index]? = some token →
        again[index]? = some copy → token.kind ∉ reshapedKinds → copy.shape = token.shape := by
  obtain ⟨segments, covers, tile, tokens_eq⟩ := tokenize_eq_ok_iff.mp scanned
  have written : (Token.write tokens).toList = cover (spread (kept segments)) :=
    tokens_eq ▸ toList_write (ofText text.toList) segments
  have tileAgain : Tile (spread (kept segments)) [] := tile_spread (lasting_kept tile)
  have body : List.Forall₂ Token.Agrees ((ofText text.toList).tokensOf segments)
      ((ofText (Token.write tokens).toList).tokensOf (spread (kept segments))) :=
    forall₂_agrees ((depth_ofText _).trans (depth_ofText _).symm) segments
  have last : Token.eof.Agrees Token.eof := ⟨rfl, rfl, rfl, fun _ => rfl⟩
  have agrees : List.Forall₂ Token.Agrees tokens
      ((ofText (Token.write tokens).toList).tokensOf (spread (kept segments)) ++ [Token.eof]) := by
    rw [tokens_eq] at body ⊢
    exact List.rel_append body (.cons last .nil)
  refine ⟨_, tokenize_eq_ok_iff.mpr ⟨_, written, tileAgain, rfl⟩, ?_, map_of_agrees agrees, ?_⟩
  · rw [scanText_eq_of_cover written tileAgain]
    exact warnings_takeAll_eq_nil_iff.mpr
      ⟨rfl, not_isOpenString_spread (not_isOpenString_kept segments)⟩
  · intro index token copy inTokens inCopies plain
    exact (agrees_of_getElem? agrees inTokens inCopies).shape plain

/-- Rounded, trimmed and closed on the way, without the comment. -/
theorem tokenize_write_open_string :
    ∃ tokens again, tokenize "x\x7b2.5/*c*/input( y )1.2.3\"s" = .ok tokens ∧
      Token.write tokens = "x \x7b 2.50000 input(y) 1.2.3 \"s\"" ∧
      tokenize "x \x7b 2.50000 input(y) 1.2.3 \"s\"" = .ok again ∧
      (scanText "x \x7b 2.50000 input(y) 1.2.3 \"s\"").final.warnings = [] ∧
      again.map (fun token => (token.kind, token.literal, token.scope)) =
        tokens.map (fun token => (token.kind, token.literal, token.scope)) := by
  have written : (tokenize "x\x7b2.5/*c*/input( y )1.2.3\"s").map Token.write =
      .ok "x \x7b 2.50000 input(y) 1.2.3 \"s\"" := by decide +kernel
  cases scanned : tokenize "x\x7b2.5/*c*/input( y )1.2.3\"s" with
  | error error =>
      rw [scanned] at written
      cases written
  | ok tokens =>
      rw [scanned] at written
      have text_eq := Except.ok.inj written
      obtain ⟨again, rescanned, quiet, same, _⟩ := tokenize_write scanned
      rw [text_eq] at rescanned quiet
      exact ⟨tokens, again, rfl, text_eq, rescanned, quiet, same⟩

end TracingLexer
