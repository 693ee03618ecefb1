/-!
# Binary64 numbers

A number of the binary64 format is taken apart into sign, significand and exponent, and a quotient
of naturals is rounded to the nearest such number, a tie to the even significand. `roundHalfEven`
is that rounding on quotients, shared with the fixed-point text of a number.
-/

namespace Songbook.Decimal

/-- Two to the power `n`. -/
def twoTo (n : Nat) : Nat := Nat.pow 2 n

/-- Ten to the power `n`. -/
def tenTo (n : Nat) : Nat := Nat.pow 10 n

/-- The quotient rounded to the nearest natural, a tie to the even one. -/
def roundHalfEven (num den : Nat) : Nat :=
  let q := num / den
  let r := num % den
  if 2 * r < den then q else if den < 2 * r then q + 1 else q + q % 2

/-- A number of the format; the finite ones are `± significand * 2 ^ exponent`. -/
inductive Binary64 where
  | nan
  | infinite (negative : Bool)
  | finite (negative : Bool) (significand : Nat) (exponent : Int)
deriving DecidableEq, Repr

namespace Binary64

/-- The exponent of the smallest numbers. -/
def leastExponent : Int := -1074

/-- The number that the 64 bits stand for. -/
def ofBits (bits : Nat) : Binary64 :=
  let negative := bits / twoTo 63 % 2 == 1
  let field : Nat := bits / twoTo 52 % twoTo 11
  let fraction := bits % twoTo 52
  if field = 2047 then if fraction = 0 then .infinite negative else .nan
  else if field = 0 then .finite negative fraction leastExponent
  else .finite negative (twoTo 52 + fraction) ((field : Int) - 1 + leastExponent)

/-- The 64 bits of a number; `ofBits` takes them back. -/
def toBits : Binary64 → Nat
  | .nan => 0x7ff8000000000000
  | .infinite negative => negative.toNat * twoTo 63 + 2047 * twoTo 52
  | .finite negative significand exponent =>
    let field := if significand < twoTo 52 then 0 else (exponent - leastExponent + 1).toNat
    negative.toNat * twoTo 63 + field * twoTo 52 + significand % twoTo 52

def ofFloat (x : Float) : Binary64 :=
  ofBits x.toBits.toNat

def toFloat (x : Binary64) : Float :=
  Float.ofBits (UInt64.ofNat x.toBits)

/-- `num / den` as a quotient of naturals whose value is `num / den / 2 ^ exponent`. -/
def scaled (num den : Nat) (exponent : Int) : Nat × Nat :=
  (num * twoTo (-exponent).toNat, den * twoTo exponent.toNat)

/-- The nearest number to `num / den`, a tie to the even significand. -/
def ofRatio (negative : Bool) (num den : Nat) : Binary64 :=
  if num = 0 then .finite negative 0 leastExponent
  else
    let low : Int := (num.log2 : Int) - den.log2 - 53
    let (n, d) := scaled num den low
    let exponent := max leastExponent (if n < twoTo 53 * d then low else low + 1)
    let (n, d) := scaled num den exponent
    let rounded := roundHalfEven n d
    let (significand, exponent) :=
      if rounded < twoTo 53 then (rounded, exponent) else (twoTo 52, exponent + 1)
    if 971 < exponent then .infinite negative else .finite negative significand exponent

end Binary64

end Songbook.Decimal
