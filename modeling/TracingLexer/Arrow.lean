import TracingLexer.Symbol

namespace TracingLexer

structure Arrow where
  symbol : Symbol
  target : Nat
  deriving DecidableEq, Repr, Inhabited

namespace Arrow

def Before (left right : Arrow) : Prop :=
  left.symbol.rank < right.symbol.rank ∨
    left.symbol.rank = right.symbol.rank ∧ left.target < right.target

instance (left right : Arrow) : Decidable (left.Before right) :=
  inferInstanceAs (Decidable (_ ∨ _))

theorem Before.irrefl (arrow : Arrow) : ¬ arrow.Before arrow := by
  simp [Before]

theorem Before.trans {first second third : Arrow} (left : first.Before second)
    (right : second.Before third) : first.Before third := by
  simp only [Before] at *
  omega

theorem Before.asymm {left right : Arrow} (before : left.Before right) : ¬ right.Before left :=
  fun after => Before.irrefl left (before.trans after)

theorem before_or_eq_or_before (left right : Arrow) :
    left.Before right ∨ left = right ∨ right.Before left := by
  rcases Nat.lt_trichotomy left.symbol.rank right.symbol.rank with below | same | above
  · exact .inl (.inl below)
  · rcases Nat.lt_trichotomy left.target right.target with low | equal | high
    · exact .inl (.inr ⟨same, low⟩)
    · refine .inr (.inl ?_)
      cases left
      cases right
      simp_all only [mk.injEq, and_true]
      exact Symbol.rank_injective same
    · exact .inr (.inr (.inr ⟨same.symm, high⟩))
  · exact .inr (.inr (.inl above))

def atMost (left right : Arrow) : Bool := !decide (right.Before left)

/-- The arrows in ascending order; a repeated arrow stays repeated. -/
def sort (arrows : List Arrow) : List Arrow := arrows.mergeSort atMost

def insertInto (arrow : Arrow) : List Arrow → List Arrow
  | [] => [arrow]
  | first :: rest =>
      if arrow.Before first then arrow :: first :: rest
      else if arrow = first then first :: rest
      else first :: insertInto arrow rest

theorem mem_insertInto {arrow member : Arrow} {arrows : List Arrow} :
    member ∈ insertInto arrow arrows ↔ member = arrow ∨ member ∈ arrows := by
  induction arrows with
  | nil => simp [insertInto]
  | cons first rest ih =>
      simp only [insertInto]
      split
      · simp
      · split
        · simp_all
        · simp only [List.mem_cons, ih]
          constructor <;> rintro (h | h | h) <;> simp_all

theorem pairwise_insertInto (arrow : Arrow) {arrows : List Arrow}
    (ordered : arrows.Pairwise Before) : (insertInto arrow arrows).Pairwise Before := by
  induction arrows with
  | nil => simp [insertInto]
  | cons first rest ih =>
      simp only [insertInto]
      have ⟨above, restOrdered⟩ := List.pairwise_cons.mp ordered
      split
      next below =>
        refine List.pairwise_cons.mpr ⟨?_, ordered⟩
        intro member present
        rcases List.mem_cons.mp present with rfl | later
        · exact below
        · exact below.trans (above member later)
      next notBelow =>
        split
        · exact ordered
        next different =>
          refine List.pairwise_cons.mpr ⟨?_, ih restOrdered⟩
          intro member present
          rcases mem_insertInto.mp present with rfl | later
          · rcases before_or_eq_or_before member first with below | same | after
            · exact absurd below notBelow
            · exact absurd same different
            · exact after
          · exact above member later

end Arrow

structure ArrowSet where
  toList : List Arrow
  ordered : toList.Pairwise Arrow.Before
  deriving DecidableEq

namespace ArrowSet

def empty : ArrowSet := ⟨[], .nil⟩

instance : EmptyCollection ArrowSet := ⟨empty⟩
instance : Inhabited ArrowSet := ⟨empty⟩

instance : Membership Arrow ArrowSet := ⟨fun arrows arrow => arrow ∈ arrows.toList⟩

def insert (arrows : ArrowSet) (arrow : Arrow) : ArrowSet :=
  ⟨Arrow.insertInto arrow arrows.toList, Arrow.pairwise_insertInto arrow arrows.ordered⟩

def insertAll (arrows : ArrowSet) (more : List Arrow) : ArrowSet := more.foldl insert arrows

def filter (arrows : ArrowSet) (keep : Arrow → Bool) : ArrowSet :=
  ⟨arrows.toList.filter keep, arrows.ordered.filter keep⟩

/-- The set in which the symbol leads to the target and nowhere else. -/
def redirect (arrows : ArrowSet) (arrow : Arrow) : ArrowSet :=
  (arrows.filter (·.symbol ≠ arrow.symbol)).insert arrow

def bySymbol (arrows : ArrowSet) : List (Symbol × List Nat) := group arrows.toList
where
  group : List Arrow → List (Symbol × List Nat)
    | [] => []
    | arrow :: rest =>
        match group rest with
        | (symbol, targets) :: more =>
            if symbol = arrow.symbol then (symbol, arrow.target :: targets) :: more
            else (arrow.symbol, [arrow.target]) :: (symbol, targets) :: more
        | [] => [(arrow.symbol, [arrow.target])]

theorem mem_def {arrow : Arrow} {arrows : ArrowSet} : arrow ∈ arrows ↔ arrow ∈ arrows.toList :=
  Iff.rfl

@[simp] theorem not_mem_empty (arrow : Arrow) : ¬ arrow ∈ (∅ : ArrowSet) := by
  intro present
  exact List.not_mem_nil (mem_def.mp present)

@[simp] theorem mem_insert {arrow member : Arrow} {arrows : ArrowSet} :
    member ∈ arrows.insert arrow ↔ member = arrow ∨ member ∈ arrows :=
  Arrow.mem_insertInto

@[simp] theorem mem_filter {arrow : Arrow} {arrows : ArrowSet} {keep : Arrow → Bool} :
    arrow ∈ arrows.filter keep ↔ arrow ∈ arrows ∧ keep arrow = true :=
  List.mem_filter

theorem mem_redirect {arrow member : Arrow} {arrows : ArrowSet} :
    member ∈ arrows.redirect arrow ↔
      member = arrow ∨ member ∈ arrows ∧ member.symbol ≠ arrow.symbol := by
  simp [redirect]

theorem mem_insertAll {member : Arrow} {arrows : ArrowSet} {more : List Arrow} :
    member ∈ arrows.insertAll more ↔ member ∈ more ∨ member ∈ arrows := by
  induction more generalizing arrows with
  | nil => simp [insertAll]
  | cons first rest ih =>
      have step : arrows.insertAll (first :: rest) = (arrows.insert first).insertAll rest := rfl
      rw [step, ih]
      simp only [mem_insert, List.mem_cons]
      exact ⟨fun
        | .inl later => .inl (.inr later)
        | .inr (.inl same) => .inl (.inl same)
        | .inr (.inr old) => .inr old, fun
        | .inl (.inl same) => .inr (.inl same)
        | .inl (.inr later) => .inl later
        | .inr old => .inr (.inr old)⟩

theorem nodup_toList (arrows : ArrowSet) : arrows.toList.Nodup := by
  refine arrows.ordered.imp ?_
  rintro left right before rfl
  exact Arrow.Before.irrefl left before

theorem ext {left right : ArrowSet} (same : ∀ arrow, arrow ∈ left ↔ arrow ∈ right) :
    left = right := by
  have permuted : left.toList.Perm right.toList :=
    (List.perm_ext_iff_of_nodup left.nodup_toList right.nodup_toList).mpr same
  have equal : left.toList = right.toList := by
    refine permuted.eq_of_pairwise ?_ left.ordered right.ordered
    intro first second _ _ before after
    exact absurd after before.asymm
  cases left
  cases right
  simp_all

end ArrowSet
end TracingLexer
