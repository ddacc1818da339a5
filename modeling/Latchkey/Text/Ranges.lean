/-
Classes of characters given as ranges of code points.
-/
namespace Latchkey.Text

/-- Whether a character lies in one of the ranges, whose ends belong to them. -/
def isWithin (ranges : List (Nat × Nat)) (c : Char) : Bool :=
  ranges.any fun (lo, hi) => lo ≤ c.toNat && c.toNat ≤ hi

end Latchkey.Text
