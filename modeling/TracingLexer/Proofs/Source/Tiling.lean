import TracingLexer.Proofs.Source.Fit

namespace TracingLexer.Segment

def cover (segments : List Segment) : List Char := segments.flatMap text

def Tile : List Segment → List Char → Prop
  | [], _ => True
  | segment :: segments, tail => segment.Fits (cover segments ++ tail) ∧ Tile segments tail

@[simp] theorem cover_nil : cover [] = [] := rfl

@[simp] theorem cover_cons (segment : Segment) (segments : List Segment) :
    cover (segment :: segments) = segment.text ++ cover segments := rfl

@[simp] theorem cover_append (first second : List Segment) :
    cover (first ++ second) = cover first ++ cover second := by
  simp [cover]

theorem tile_append {first second : List Segment} {tail : List Char} :
    Tile (first ++ second) tail ↔ Tile first (cover second ++ tail) ∧ Tile second tail := by
  induction first with
  | nil => simp [Tile]
  | cons segment first ih =>
      rw [List.cons_append, Tile, Tile, ih, cover_append, List.append_assoc, and_assoc]

theorem text_ne_nil {segment : Segment} {rest : List Char} (fits : segment.Fits rest) :
    segment.text ≠ [] := by
  cases segment with
  | number run =>
      rcases fits with ⟨⟨c, tail, rfl, _⟩, _⟩
      simp [text]
  | word letters =>
      rcases fits.1.first with ⟨c, tail, rfl, _⟩
      simp [text]
  | _ => simp [text]

theorem fault_text_ne_nil {fault : Fault} {rest : List Char} (fits : fault.Fits rest) :
    fault.text ≠ [] := by
  cases fault with
  | uppercaseWord word =>
      rcases fits.1.first with ⟨c, tail, rfl, _⟩
      simp [Fault.text]
  | _ => simp [Fault.text]

/-- A text is covered up to its end, or up to a fault. -/
inductive Covering (text : List Char) : Prop where
  | complete (segments : List Segment) (covers : text = cover segments) (tile : Tile segments [])
  | stopped (segments : List Segment) (fault : Fault) (tail : List Char)
      (covers : text = cover segments ++ (fault.text ++ tail))
      (tile : Tile segments (fault.text ++ tail)) (fits : fault.Fits tail)

theorem covering (text : List Char) : Covering text := by
  -- A reading covers at least one character, so what is left to cover becomes shorter.
  induction size : text.length using Nat.strong_induction_on generalizing text with
  | _ size ih =>
    cases text with
    | nil => exact .complete [] rfl trivial
    | cons c rest =>
        obtain ⟨tail, split, stands⟩ := stands_read c rest
        cases found : read c rest with
        | error fault =>
            rw [found] at split stands
            exact .stopped [] fault tail split.symm trivial stands
        | ok segment =>
            rw [found] at split stands
            have nonempty : 0 < segment.text.length :=
              List.length_pos_iff.mpr (text_ne_nil stands)
            have lengths := congrArg List.length split
            rw [consumed, List.length_append] at lengths
            rcases ih tail.length (by omega) tail rfl with
              ⟨segments, rfl, tile⟩ | ⟨segments, fault, after, rfl, tile, fits⟩
            · refine .complete (segment :: segments) split.symm ⟨?_, tile⟩
              rwa [List.append_nil]
            · refine .stopped (segment :: segments) fault after ?_ ⟨stands, tile⟩ fits
              rw [← split, consumed, cover_cons, List.append_assoc]

theorem eq_of_fits {first second : Segment} {firstTail secondTail : List Char}
    (firstFits : first.Fits firstTail) (secondFits : second.Fits secondTail)
    (same : first.text ++ firstTail = second.text ++ secondTail) : first = second := by
  obtain ⟨c, rest, split⟩ := List.exists_cons_of_ne_nil (text_ne_nil firstFits)
  have firstRead : read c (rest ++ firstTail) = .ok first :=
    read_of_fits firstFits (by rw [split]; rfl)
  have secondRead : read c (rest ++ firstTail) = .ok second :=
    read_of_fits secondFits (by rw [← same, split]; rfl)
  exact Except.ok.inj (firstRead.symm.trans secondRead)

theorem eq_of_cover {first second : List Segment} (firstTile : Tile first [])
    (secondTile : Tile second []) (same : cover first = cover second) : first = second := by
  induction first generalizing second with
  | nil =>
      cases second with
      | nil => rfl
      | cons segment second =>
          have nonempty := text_ne_nil secondTile.1
          simp_all
  | cons segment first ih =>
      cases second with
      | nil =>
          have nonempty := text_ne_nil firstTile.1
          simp_all
      | cons other second =>
          rw [Tile, List.append_nil] at firstTile secondTile
          have equal : segment = other := eq_of_fits firstTile.1 secondTile.1 same
          subst equal
          rw [ih firstTile.2 secondTile.2 (List.append_cancel_left same)]

def IsOpenString : Segment → Prop
  | string _ closed => closed = false
  | _ => False

theorem eq_nil_of_isOpenString {segment : Segment} {rest : List Char}
    (fits : segment.Fits rest) (isOpen : segment.IsOpenString) : rest = [] := by
  cases segment with
  | string content closed => exact fits.2 isOpen
  | _ => exact isOpen.elim

theorem not_isOpenString_of_tile {segments : List Segment} {tail : List Char}
    (tile : Tile segments tail) (more : tail ≠ []) :
    ∀ segment ∈ segments, ¬ segment.IsOpenString := by
  induction segments with
  | nil => simp
  | cons segment segments ih =>
      intro member present isOpen
      rcases List.mem_cons.mp present with rfl | later
      · have nothing := eq_nil_of_isOpenString tile.1 isOpen
        exact more (List.append_eq_nil_iff.mp nothing).2
      · exact ih tile.2 member later isOpen

theorem Tile.closed_or_open {segments : List Segment} (tile : Tile segments []) :
    (∀ segment ∈ segments, ¬ segment.IsOpenString) ∨
      ∃ front content, segments = front ++ [string content false] := by
  rcases List.eq_nil_or_concat segments with rfl | ⟨front, last, rfl⟩
  · exact .inl (by simp)
  · rw [List.concat_eq_append] at tile ⊢
    rcases tile_append.mp tile with ⟨frontTile, lastTile⟩
    have more : cover [last] ++ [] ≠ [] := by simpa using text_ne_nil lastTile.1
    by_cases isOpen : last.IsOpenString
    · cases last with
      | string content closed =>
          obtain rfl : closed = false := isOpen
          exact .inr ⟨front, content, rfl⟩
      | _ => exact isOpen.elim
    · refine .inl fun segment member => ?_
      rcases List.mem_append.mp member with before | final
      · exact not_isOpenString_of_tile frontTile more segment before
      · rw [List.mem_singleton.mp final]
        exact isOpen

theorem head?_append_ne {mark c : Char} {front old more : List Char}
    (notMark : (front ++ old).head? ≠ some mark) (different : c ≠ mark) :
    (front ++ c :: more).head? ≠ some mark := by
  cases front with
  | nil => simpa using different
  | cons first front => exact notMark

theorem head?_ne_of_append {mark : Char} {front old : List Char}
    (notMark : (front ++ old).head? ≠ some mark) : front.head? ≠ some mark := by
  cases front with
  | nil => simp
  | cons c front => exact notMark

/-- A newline that no quote follows closes no character literal. -/
theorem not_closesCharacter_append {front old more : List Char} {c : Char}
    (lone : ¬ ClosesCharacter (front ++ old)) (notQuote : c ≠ '\'') :
    ¬ ClosesCharacter (front ++ '\n' :: c :: more) := by
  intro holds
  rcases holds with ⟨value, tail, different, closes⟩
  match front with
  | [] =>
      simp only [List.nil_append, List.cons.injEq] at closes
      exact notQuote closes.2.1
  | [first] =>
      simp only [List.cons_append, List.nil_append, List.cons.injEq] at closes
      exact absurd closes.2.1 (by decide)
  | first :: second :: front =>
      simp only [List.cons_append, List.cons.injEq] at closes
      rcases closes with ⟨rfl, rfl, _⟩
      exact lone ⟨first, front ++ old, different, rfl⟩

theorem IsWord.append_newline {letters front old more : List Char}
    (isWord : IsWord letters (front ++ old)) : IsWord letters (front ++ '\n' :: more) :=
  ⟨isWord.first, isWord.all, isWord.longest.append (Text.ends_cons.mpr (by decide))⟩

/-- A newline ends every segment but an open string, and so does anything behind it but a quote. -/
theorem Fits.append_newline {segment : Segment} {front old more : List Char} {c : Char}
    (fits : segment.Fits (front ++ old)) (notOpen : ¬ segment.IsOpenString)
    (notQuote : c ≠ '\'') : segment.Fits (front ++ '\n' :: c :: more) := by
  cases segment with
  | stray mark =>
      refine fits.imp_left fun lone => ⟨lone.1, ?_⟩
      exact not_closesCharacter_append lone.2 notQuote
  | lineComment body => exact ⟨fits.1, fits.2.append (Text.ends_cons.mpr (by decide))⟩
  | number run => exact ⟨fits.1, fits.2.1, fits.2.2.append (Text.ends_cons.mpr (by decide))⟩
  | string content closed => exact ⟨fits.1, fun isOpen => (notOpen isOpen).elim⟩
  | word letters =>
      rcases fits with ⟨isWord, lower, noCall⟩
      exact ⟨isWord.append_newline, lower,
        fun named => head?_append_ne (noCall named) (by decide)⟩
  | operator op =>
      rcases fits with ⟨member, alone⟩
      exact ⟨member, fun slash => ⟨head?_append_ne (alone slash).1 (by decide),
        head?_append_ne (alone slash).2 (by decide)⟩⟩
  | _ => exact fits

theorem Tile.append_newline {segments : List Segment} {front old more : List Char} {c : Char}
    (tile : Tile segments (front ++ old))
    (notOpen : ∀ segment ∈ segments, ¬ segment.IsOpenString) (notQuote : c ≠ '\'') :
    Tile segments (front ++ '\n' :: c :: more) := by
  induction segments with
  | nil => trivial
  | cons segment segments ih =>
      rcases tile with ⟨fits, later⟩
      rw [← List.append_assoc] at fits
      refine ⟨?_, ih later fun member present => notOpen member (List.mem_cons_of_mem _ present)⟩
      rw [← List.append_assoc]
      exact fits.append_newline (notOpen segment List.mem_cons_self) notQuote

theorem Fits.of_append {segment : Segment} {front old : List Char}
    (fits : segment.Fits (front ++ old)) (notOpen : ¬ segment.IsOpenString) :
    segment.Fits front := by
  cases segment with
  | stray mark =>
      refine fits.imp_left fun lone => ⟨lone.1, ?_⟩
      rintro ⟨value, tail, different, rfl⟩
      exact lone.2 ⟨value, tail ++ old, different, rfl⟩
  | lineComment body => exact ⟨fits.1, fits.2.of_append⟩
  | number run => exact ⟨fits.1, fits.2.1, fits.2.2.of_append⟩
  | string content closed => exact ⟨fits.1, fun isOpen => (notOpen isOpen).elim⟩
  | word letters =>
      rcases fits with ⟨isWord, lower, noCall⟩
      exact ⟨⟨isWord.first, isWord.all, isWord.longest.of_append⟩, lower,
        fun named => head?_ne_of_append (noCall named)⟩
  | operator op =>
      rcases fits with ⟨member, alone⟩
      exact ⟨member, fun slash => ⟨head?_ne_of_append (alone slash).1,
        head?_ne_of_append (alone slash).2⟩⟩
  | _ => exact fits

theorem Tile.of_append {segments : List Segment} {front old : List Char}
    (tile : Tile segments (front ++ old))
    (notOpen : ∀ segment ∈ segments, ¬ segment.IsOpenString) : Tile segments front := by
  induction segments with
  | nil => trivial
  | cons segment segments ih =>
      rcases tile with ⟨fits, later⟩
      rw [← List.append_assoc] at fits
      constructor
      · exact fits.of_append (notOpen segment List.mem_cons_self)
      · exact ih later fun member present => notOpen member (List.mem_cons_of_mem _ present)

end TracingLexer.Segment
