import Songbook.Decimal.Fixed
import Songbook.Decimal.Numeral
import Songbook.Decimal.Shortest

/-!
# Lengths

Positions and sizes on a page, in points. Everything that lays out a page is written over any type
of lengths: sheets are printed with binary64 numbers, and what holds of the layout itself can be
said over the rational numbers, where no length is rounded.
-/

namespace Songbook

/-- The operations of lengths. Equality is the numbers' own, so it may fail on one that is none. -/
class Length (L : Type) extends Add L, Sub L, Mul L, Div L, Neg L, LT L, LE L, BEq L,
    OfScientific L where
  [decidableLT : DecidableLT L]
  [decidableLE : DecidableLE L]
  [ofNat : (n : Nat) → OfNat L n]
  /-- A whole number of points. -/
  ofInt : Int → L
  /-- The length that a numeral writes, if the type has one. -/
  ofNumeral? : Decimal.Numeral → Option L
  /-- How messages and drawings show a length. -/
  text : L → String
  /-- How a change of coordinates shows a length. -/
  sixPlaces : L → String

attribute [reducible] Length.decidableLT Length.decidableLE Length.ofNat
attribute [instance] Length.decidableLT Length.decidableLE Length.ofNat

namespace Length

/-- The lower of two lengths; one that is no number is passed over. -/
def lower {L : Type} [Length L] (a b : L) : L :=
  if a ≤ b then a else if b == b then b else a

instance : Length Float where
  ofInt := Float.ofInt
  ofNumeral? n := some n.toFloat
  text x := (Decimal.Binary64.ofFloat x).shortestText
  sixPlaces x := (Decimal.Binary64.ofFloat x).sixPlaces

/-- The exact value of a decimal. -/
def decimalRat (negative : Bool) (digits : Nat) (power : Int) : Rat :=
  let value := mkRat (digits * Decimal.tenTo power.toNat) (Decimal.tenTo (-power).toNat)
  if negative then -value else value

/-- Rational lengths are shown as quotients. -/
instance : Length Rat where
  ofInt n := (n : Rat)
  ofNumeral?
    | .decimal negative digits power => some (decimalRat negative digits power)
    | _ => none
  text x := toString x.num ++ "/" ++ toString x.den
  sixPlaces x := toString x.num ++ "/" ++ toString x.den

end Length

end Songbook
