/-!
# Ranges of characters

A class of characters is told by the first and the last code point of each of its ranges.
-/

namespace Songbook.Text

/-- The character lies in one of the ranges. -/
def within (ranges : List (Nat × Nat)) (c : Char) : Bool :=
  ranges.any fun r => r.1 ≤ c.toNat && c.toNat ≤ r.2

end Songbook.Text
