/-
  Blocks — sets of characters given by the ranges of their code points.
-/

namespace Switchboard.Quote

/-- The first and the last code points of ranges, in ascending order. -/
abbrev Blocks := List (Nat × Nat)

/-- Whether a character lies in one of the ranges. -/
def Blocks.hold (blocks : Blocks) (c : Char) : Bool :=
  blocks.any fun (first, last) => first ≤ c.toNat && c.toNat ≤ last

end Switchboard.Quote
