/-!
Sets of code points, written as closed intervals: the form in which character properties are
tabulated.
-/

namespace Tabular.Text

/-- Closed intervals of code points in ascending order. -/
abbrev CodePoints := List (Nat × Nat)

namespace CodePoints

/-- Whether the character lies in one of the intervals. -/
def has (points : CodePoints) (c : Char) : Bool :=
  points.any fun interval => interval.1 ≤ c.toNat && c.toNat ≤ interval.2

theorem has_iff (points : CodePoints) (c : Char) :
    points.has c = true ↔ ∃ interval ∈ points, interval.1 ≤ c.toNat ∧ c.toNat ≤ interval.2 := by
  simp [has]

theorem has_append (left right : CodePoints) (c : Char) :
    has (left ++ right) c = (left.has c || right.has c) := by
  simp [has]

end CodePoints

end Tabular.Text
