/-!
# Sets of code points

A character property is kept as a list of closed ranges of code points, in ascending order and
without overlap.
-/

namespace LoaderGen.Text

/-- Closed ranges of code points. -/
abbrev Ranges := List (Nat × Nat)

/-- The character lies in one of the ranges. -/
def Ranges.contains (ranges : Ranges) (c : Char) : Bool :=
  ranges.any fun (first, last) => first ≤ c.toNat && c.toNat ≤ last

end LoaderGen.Text
