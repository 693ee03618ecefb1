import Songbook.Decimal.Binary64
import Songbook.Decimal.Integer

/-!
# Decimal numerals

How the extents of a form are written: a sign, digits with at most one point, and an exponent, or
a name for infinity or for no number. A numeral keeps the exact decimal value;
`Numeral.toBinary64` rounds it.
-/

namespace Songbook.Decimal

/-- A numeral as written; the decimal ones are `± digits * 10 ^ power`. -/
inductive Numeral where
  | nan
  | infinity (negative : Bool)
  | decimal (negative : Bool) (digits : Nat) (power : Int)
deriving DecidableEq, Repr

namespace Numeral

/-- The power of ten after the digits: none, or `e` and an integer. -/
def exponent? : List Char → Option Int
  | [] => some 0
  | e :: cs =>
    let (negative, ds) := splitSign cs
    if (e == 'e' || e == 'E') && !ds.isEmpty && ds.all Char.isDigit then
      some (if negative then -(digitsValue ds : Int) else digitsValue ds)
    else none

/-- Digits with at most one point and at least one digit, then the exponent. -/
def unsigned? (negative : Bool) (cs : List Char) : Option Numeral :=
  let whole := cs.takeWhile Char.isDigit
  let rest := cs.dropWhile Char.isDigit
  let (fraction, rest) := match rest with
    | '.' :: ds => (ds.takeWhile Char.isDigit, ds.dropWhile Char.isDigit)
    | _ => ([], rest)
  if whole.isEmpty && fraction.isEmpty then none
  else (exponent? rest).map fun e =>
    .decimal negative (digitsValue (whole ++ fraction)) (e - fraction.length)

/-- Reads a numeral; letter case does not matter. -/
def read? (s : String) : Option Numeral :=
  let (negative, cs) := splitSign s.toList
  match String.ofList (cs.map Char.toLower) with
  | "nan" => some .nan
  | "inf" | "infinity" => some (.infinity negative)
  | _ => unsigned? negative cs

/-- The nearest binary64 number. Decimals beyond `10 ^ 400` and below `10 ^ -400` are out of the
format's reach on both sides, so their powers of ten are not computed. -/
def toBinary64 : Numeral → Binary64
  | .nan => .nan
  | .infinity negative => .infinite negative
  | .decimal negative digits power =>
    let size : Int := (Nat.toDigits 10 digits).length + power
    if digits = 0 ∨ size < -400 then .finite negative 0 Binary64.leastExponent
    else if 400 < size then .infinite negative
    else Binary64.ofRatio negative (digits * tenTo power.toNat) (tenTo (-power).toNat)

def toFloat (n : Numeral) : Float :=
  n.toBinary64.toFloat

end Numeral

end Songbook.Decimal
