import Songbook.Text.Blank

/-!
# Integers in text

Two readings of an integer: the number that a text begins with, limited to 32 bits, and a whole
text that must be an integer of a given range.
-/

namespace Songbook.Decimal

/-- The largest number that a directive can give. -/
def largest : Nat := 2147483647

def digitValue (c : Char) : Nat :=
  c.toNat - '0'.toNat

/-- The number that the digits write. -/
def digitsValue (cs : List Char) : Nat :=
  cs.foldl (fun n c => 10 * n + digitValue c) 0

/-- The number that the digits write, held at `largest` at every digit. -/
def limitedValue (cs : List Char) : Nat :=
  cs.foldl (fun n c => min largest (10 * n + digitValue c)) 0

/-- Takes a sign off the text: whether it was a minus, and the rest. -/
def splitSign : List Char → Bool × List Char
  | '-' :: cs => (true, cs)
  | '+' :: cs => (false, cs)
  | cs => (false, cs)

/-- The integer that the text begins with, after blanks; zero when there is none. -/
def leadingInteger (s : String) : Int :=
  let (negative, cs) := splitSign (s.toList.dropWhile Text.isBlank)
  let value := limitedValue (cs.takeWhile Char.isDigit)
  if negative then -(value : Int) else value

/-- The whole text as an integer from `low` to `high`: a sign and at least one digit. A minus sign
stands only where negative numbers are in range. -/
def integerIn? (low high : Int) (s : String) : Option Int :=
  let (negative, cs) := splitSign s.toList
  if cs.isEmpty || !cs.all Char.isDigit || (negative && 0 ≤ low) then none
  else
    let value : Int := if negative then -(digitsValue cs : Int) else digitsValue cs
    if low ≤ value ∧ value ≤ high then some value else none

end Songbook.Decimal
