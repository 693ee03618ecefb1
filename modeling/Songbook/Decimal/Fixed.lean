import Songbook.Decimal.Binary64

/-!
# Six decimal places

The text of a binary64 number with exactly six decimal places, rounded from its exact value, a tie
to the even last place. The sign of a zero is kept.
-/

namespace Songbook.Decimal

/-- A number of millionths with the point set. -/
def millionths (n : Nat) : String :=
  let places := Nat.toDigits 10 (n % 1000000)
  toString (n / 1000000) ++ "." ++ String.ofList (List.replicate (6 - places.length) '0' ++ places)

def Binary64.sixPlaces : Binary64 → String
  | .nan => "NaN"
  | .infinite negative => if negative then "-inf" else "inf"
  | .finite negative significand exponent =>
    let (num, den) := Binary64.scaled (significand * 1000000) 1 (-exponent)
    (if negative then "-" else "") ++ millionths (roundHalfEven num den)

end Songbook.Decimal
