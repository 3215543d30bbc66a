/-
Classes of characters given by a table of ranges.
-/
namespace Reckon.Text

/-- Whether the number of `c` lies in one of the ranges, both ends included. -/
def inRanges (ranges : List (Nat × Nat)) (c : Char) : Bool :=
  ranges.any fun (first, last) => first ≤ c.toNat && c.toNat ≤ last

end Reckon.Text
