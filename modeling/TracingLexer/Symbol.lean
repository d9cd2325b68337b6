namespace TracingLexer

inductive Symbol where
  | epsilon
  | char (value : Char)
  deriving DecidableEq, Repr, Inhabited

namespace Symbol

def rank : Symbol → Nat
  | epsilon => 0
  | char value => value.toNat + 1

def display : Symbol → String
  | epsilon => "ε"
  | char '\n' => "\\n"
  | char '\t' => "\\t"
  | char '\r' => "\\r"
  | char value => value.toString

theorem rank_injective {left right : Symbol} (same : left.rank = right.rank) : left = right := by
  cases left with
  | epsilon => cases right with
    | epsilon => rfl
    | char _ => simp [rank] at same
  | char left => cases right with
    | epsilon => simp [rank] at same
    | char right => simp [rank, Char.toNat_inj] at same; rw [same]

end Symbol
end TracingLexer
