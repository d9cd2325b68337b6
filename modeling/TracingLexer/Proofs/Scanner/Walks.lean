import TracingLexer.Proofs.Rescanning
import TracingLexer.Proofs.Scanner.Lexemes
import TracingLexer.Proofs.Text.Collapsing
import TracingLexer.Scanner.ByCharacter

namespace TracingLexer

namespace State

def path (first : Nat) : List Symbol → List State
  | [] => []
  | symbol :: symbols => { id := first, accepting := false, symbol } :: path (first + 1) symbols

theorem map_symbol_path (first : Nat) (symbols : List Symbol) :
    (path first symbols).map State.symbol = symbols := by
  induction symbols generalizing first with
  | nil => rfl
  | cons symbol symbols ih => rw [path, List.map_cons, ih]

theorem path_concat (first : Nat) (symbols : List Symbol) (last : Symbol) :
    path first (symbols ++ [last]) =
      path first symbols ++
        [{ id := first + symbols.length, accepting := false, symbol := last }] := by
  induction symbols generalizing first with
  | nil => rfl
  | cons symbol symbols ih =>
      have next : first + 1 + symbols.length = first + (symbols.length + 1) := by omega
      rw [List.cons_append, path, ih, next]
      rfl

theorem chain_concat (first : Nat) (symbols : List Symbol) (last : Symbol) :
    chain first (symbols ++ [last]) =
      path first symbols ++
        [{ id := first + symbols.length, accepting := true, symbol := last }] := by
  induction symbols generalizing first with
  | nil => rfl
  | cons symbol symbols ih =>
      have next : first + 1 + symbols.length = first + (symbols.length + 1) := by omega
      have inner : (symbols ++ [last]).isEmpty = false := by simp
      rw [List.cons_append, chain, ih, next, inner]
      rfl

end State

namespace Scanner

variable {scanner : Scanner} {c : Char}

theorem peekNth_eq (inPlace : scanner.InPlace) (places : Nat) :
    scanner.peekNth places = scanner.rest[places]? := by
  rw [peekNth, ← inPlace, List.getElem?_drop]

theorem peek_eq (inPlace : scanner.InPlace) : scanner.peek = scanner.rest.head? := by
  rw [peek, peekNth_eq inPlace, List.head?_eq_getElem?]

theorem offset_lt_of_rest {tail : List Char} (inPlace : scanner.InPlace)
    (split : scanner.rest = c :: tail) : scanner.offset < scanner.text.length := by
  have left : scanner.text.length - scanner.offset = tail.length + 1 := by
    rw [← List.length_drop, inPlace, split, List.length_cons]
  omega

theorem InPlace.skip (inPlace : scanner.InPlace) (covered : List Char) :
    (scanner.skip covered).InPlace := by
  calc
    scanner.text.drop (scanner.offset + covered.length)
      = (scanner.text.drop scanner.offset).drop covered.length := List.drop_drop.symm
    _ = scanner.rest.drop covered.length := by rw [inPlace]

theorem rest_skip {covered tail : List Char} (split : scanner.rest = covered ++ tail) :
    (scanner.skip covered).rest = tail := by
  rw [skip, split, List.drop_left]

theorem skip_skip (scanner : Scanner) (first second : List Char) :
    (scanner.skip first).skip second = scanner.skip (first ++ second) := by
  simp only [skip, List.drop_drop, List.length_append, List.count_append, Nat.add_assoc]

theorem bump_eq {tail : List Char} (inPlace : scanner.InPlace)
    (split : scanner.rest = c :: tail) : scanner.bump = scanner.skip [c] := by
  rw [bump, peek_eq inPlace, split]
  rfl

theorem bump_bump_eq {next : Char} {tail : List Char} (inPlace : scanner.InPlace)
    (split : scanner.rest = c :: next :: tail) : scanner.bump.bump = scanner.skip [c, next] := by
  have behind : (scanner.skip [c]).rest = next :: tail := @rest_skip scanner [c] _ split
  rw [bump_eq inPlace split, bump_eq (inPlace.skip [c]) behind, skip_skip]
  rfl

def spend (scanner : Scanner) (count : Nat) : Scanner :=
  { scanner with nextId := scanner.nextId + count }

theorem skip_spend (scanner : Scanner) (count : Nat) (covered : List Char) :
    (scanner.spend count).skip covered = (scanner.skip covered).spend count := rfl

theorem spend_spend (scanner : Scanner) (count more : Nat) :
    (scanner.spend count).spend more = scanner.spend (count + more) := by
  rw [spend, spend, spend, Nat.add_assoc]

theorem InPlace.spend (inPlace : scanner.InPlace) (count : Nat) : (scanner.spend count).InPlace :=
  inPlace

theorem skipWhile_eq {inClass : Char → Bool} {run tail : List Char} (inPlace : scanner.InPlace)
    (split : scanner.rest = run ++ tail) (inRun : ∀ c ∈ run, inClass c = true)
    (ends : Text.Ends inClass tail) : scanner.skipWhile inClass = scanner.skip run := by
  induction run generalizing scanner with
  | nil =>
      rw [skipWhile, peek_eq inPlace, split]
      cases tail with
      | nil => rfl
      | cons c tail => simp [Text.ends_cons.mp ends, skip]
  | cons c run ih =>
      rw [List.forall_mem_cons] at inRun
      have bumped := bump_eq inPlace split
      have behind : scanner.bump.rest = run ++ tail := bumped ▸ @rest_skip scanner [c] _ split
      have later := ih (bumped ▸ inPlace.skip [c]) behind inRun.2
      rw [skipWhile, peek_eq inPlace, split]
      simp only [List.cons_append, List.head?_cons, inRun.1, if_true]
      rw [later, bumped, skip_skip]
      rfl

theorem seekCommentEnd_eq (inPlace : scanner.InPlace) :
    scanner.seekCommentEnd =
      match Segment.commentBody? scanner.rest with
      | some body => (true, scanner.skip (body ++ ['*', '/']))
      | none => (false, scanner.skip scanner.rest) := by
  generalize split : scanner.rest = rest
  induction rest generalizing scanner with
  | nil =>
      rw [seekCommentEnd, peek_eq inPlace, split]
      simp [Segment.commentBody?, skip]
  | cons c rest ih =>
      have bumped := bump_eq inPlace split
      have behind : scanner.bump.rest = rest := bumped ▸ @rest_skip scanner [c] _ split
      have later := ih (bumped ▸ inPlace.skip [c]) behind
      have here : scanner.peek = some c := by rw [peek_eq inPlace, split, List.head?_cons]
      have next : scanner.peekNth 1 = rest.head? := by
        rw [peekNth_eq inPlace, split, List.getElem?_cons_succ, List.head?_eq_getElem?]
      by_cases closes : c = '*' ∧ rest.head? = some '/'
      · rcases closes with ⟨rfl, slash⟩
        rcases List.head?_eq_some_iff.mp slash with ⟨tail, rfl⟩
        rw [seekCommentEnd, here, next]
        simp [Segment.commentBody?, bump_bump_eq inPlace split]
      · have onward : scanner.seekCommentEnd = scanner.bump.seekCommentEnd := by
          rw [seekCommentEnd]
          split
          next star slash =>
            exact absurd ⟨Option.some.inj (here.symm.trans star), next.symm.trans slash⟩ closes
          next => rfl
          next ended => exact absurd (here.symm.trans ended) (Option.some_ne_none c)
        rw [onward, later, bumped, Segment.commentBody?, if_neg closes]
        cases Segment.commentBody? rest <;> simp [skip_skip]

namespace Walk

/-- The walk that has gone over the text, from the scanner on. -/
def along (scanner : Scanner) (seen : List Char) : Walk where
  scanner := (scanner.skip seen).spend (Text.collapse seen).length
  trace := State.path scanner.nextId ((Text.collapse seen).map .char)

theorem text_along (scanner : Scanner) (seen : List Char) :
    (along scanner seen).scanner.text = scanner.text := rfl

theorem push_along (scanner : Scanner) (seen : List Char) (c : Char) :
    (along scanner seen).push c =
      { scanner := (scanner.skip seen).spend (Text.collapse (seen ++ [c])).length
        trace := State.path scanner.nextId ((Text.collapse (seen ++ [c])).map .char) } := by
  have last : (along scanner seen).trace.getLast?.map State.symbol = seen.getLast?.map .char := by
    rw [along, ← List.getLast?_map, State.map_symbol_path, List.getLast?_map,
      Text.getLast?_collapse]
  have same_iff : seen.getLast?.map Symbol.char = some (.char c) ↔ seen.getLast? = some c := by
    simp
  rw [push, last, Text.collapse_concat]
  simp only [same_iff]
  split
  · rfl
  · rw [List.map_append, List.map_singleton, State.path_concat, List.length_map,
      List.length_append, List.length_singleton]
    rfl

theorem peek_along {seen tail : List Char} (inPlace : scanner.InPlace)
    (split : scanner.rest = seen ++ tail) : (along scanner seen).scanner.peek = tail.head? := by
  have here : (along scanner seen).scanner.peek = (scanner.skip seen).rest.head? :=
    peek_eq (inPlace.skip seen)
  rw [here, rest_skip split]

theorem bump_along {seen tail : List Char} (inPlace : scanner.InPlace)
    (split : scanner.rest = seen ++ c :: tail) :
    (along scanner seen).scanner.bump =
      (scanner.skip (seen ++ [c])).spend (Text.collapse seen).length := by
  rw [along, bump_eq ((inPlace.skip seen).spend _) (rest_skip split), skip_spend, skip_skip]

theorem bump_push_along {seen tail : List Char} (inPlace : scanner.InPlace)
    (split : scanner.rest = seen ++ c :: tail) :
    ((along scanner seen).push c).bump = along scanner (seen ++ [c]) := by
  have bumped := bump_eq ((inPlace.skip seen).spend (Text.collapse (seen ++ [c])).length)
    (rest_skip split)
  rw [push_along, bump, bumped, skip_spend, skip_skip]
  rfl

theorem follow_along {inClass : Char → Bool} {seen run tail : List Char}
    (inPlace : scanner.InPlace) (split : scanner.rest = seen ++ (run ++ tail))
    (inRun : ∀ c ∈ run, inClass c = true) (ends : Text.Ends inClass tail) :
    (along scanner seen).follow inClass = along scanner (seen ++ run) := by
  induction run generalizing seen with
  | nil =>
      rw [follow, peek_along inPlace split, List.append_nil]
      cases tail with
      | nil => rfl
      | cons c tail => simp [Text.ends_cons.mp ends]
  | cons c run ih =>
      rw [List.forall_mem_cons] at inRun
      have further : scanner.rest = (seen ++ [c]) ++ (run ++ tail) := by
        rw [split, List.append_assoc]
        rfl
      rw [follow, peek_along inPlace split]
      simp only [List.cons_append, List.head?_cons, inRun.1, if_true]
      rw [bump_push_along inPlace split, ih further inRun.2, List.append_assoc]
      rfl

theorem cut_along {front part tail : List Char} (inPlace : scanner.InPlace)
    (inside : scanner.offset ≤ scanner.text.length)
    (split : scanner.rest = front ++ (part ++ tail)) :
    (along scanner (front ++ part)).scanner.cut (scanner.offset + front.length)
      (along scanner (front ++ part)).scanner.offset = .ok part := by
  have stop : (along scanner (front ++ part)).scanner.offset =
      scanner.offset + front.length + part.length := by
    rw [along, spend, skip, List.length_append, Nat.add_assoc]
  have left : scanner.text.length - scanner.offset =
      front.length + (part.length + tail.length) := by
    rw [← List.length_drop, inPlace, split, List.length_append, List.length_append]
  rw [stop, cut, text_along, if_pos (by omega), List.drop_take, Nat.add_sub_cancel_left,
    ← List.drop_drop, inPlace, split, List.drop_left, List.take_left]

theorem length_closed (seen : List Char) (last : Symbol) :
    ((Text.collapse seen).map Symbol.char ++ [last]).length = (Text.collapse seen).length + 1 := by
  rw [List.length_append, List.length_map, List.length_singleton]

theorem enter_along {behind : Scanner} {seen : List Char}
    (numbered : behind.nextId = scanner.nextId + (Text.collapse seen).length) (last : Symbol) :
    enter ⟨behind, (along scanner seen).trace⟩ true last =
      { scanner := behind.spend 1
        trace :=
          State.chain scanner.nextId ((Text.collapse seen).map Symbol.char ++ [last]) } := by
  rw [State.chain_concat, List.length_map, ← numbered]
  rfl

end Walk
end Scanner
end TracingLexer
