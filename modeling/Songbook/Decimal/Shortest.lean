import Songbook.Decimal.Binary64

/-!
# Shortest decimal text

A binary64 number is written with the fewest digits that read back as the same number, and of
those with the digits nearest to it; of two equally near ones the larger is taken. The text is
always positional: no exponent, and no point after a whole number.
-/

namespace Songbook.Decimal

/-- The decimals that read back as a number: those strictly between `low` and `high`, the ends
included for an even significand. All three are in units of `2 ^ unit`. -/
structure ReadBack where
  low : Nat
  value : Nat
  high : Nat
  unit : Int
  closed : Bool
deriving DecidableEq, Repr

namespace ReadBack

/-- Half a step above and below; below a power of two the steps are half as wide. -/
def ofFinite (significand : Nat) (exponent : Int) : ReadBack where
  low := 4 * significand -
    if significand = twoTo 52 ∧ Binary64.leastExponent < exponent then 1 else 2
  value := 4 * significand
  high := 4 * significand + 2
  unit := exponent - 2
  closed := significand % 2 == 0

/-- The unit measured in steps of `10 ^ power`, as a quotient. -/
def unitIn (r : ReadBack) (power : Int) : Nat × Nat :=
  (twoTo r.unit.toNat * tenTo (-power).toNat, twoTo (-r.unit).toNat * tenTo power.toNat)

/-- `digits * 10 ^ power` reads back. -/
def holds (r : ReadBack) (power : Int) (digits : Nat) : Bool :=
  let (num, den) := r.unitIn power
  if r.closed then r.low * num ≤ digits * den && digits * den ≤ r.high * num
  else r.low * num < digits * den && digits * den < r.high * num

/-- The nearest multiple of `10 ^ power` that reads back, if there is one. -/
def onGrid? (r : ReadBack) (power : Int) : Option Nat :=
  let (num, den) := r.unitIn power
  let below := r.value * num / den
  let above := below + 1
  if r.holds power below then
    if r.holds power above && 2 * (r.value * num) ≥ (below + above) * den then some above
    else some below
  else if r.holds power above then some above
  else none

/-- The first grid from `power` downwards that has a decimal which reads back. -/
def search (r : ReadBack) : Nat → Int → Nat × Int
  | 0, power => let (num, den) := r.unitIn power; (r.value * num / den, power)
  | fuel + 1, power =>
    match r.onGrid? power with
    | some digits => if digits = 0 then search r fuel (power - 1) else (digits, power)
    | none => search r fuel (power - 1)

/-- A power of ten above the value. -/
def startPower (r : ReadBack) : Int :=
  ((r.value.log2 + 1 : Int) + r.unit) * 30103 / 100000 + 2

/-- The shortest decimal `digits * 10 ^ power`. Seventeen digits always read back, and the search
begins at most four grids above the first of them. -/
def shortest (r : ReadBack) : Nat × Int :=
  r.search 21 r.startPower

end ReadBack

/-- The decimal `digits * 10 ^ power` in positional form. -/
def positional (digits : Nat) (power : Int) : String :=
  let text := Nat.toDigits 10 digits
  if 0 ≤ power then String.ofList (text ++ List.replicate power.toNat '0')
  else
    let places := (-power).toNat
    let padded := List.replicate (places + 1 - text.length) '0' ++ text
    let whole := padded.length - places
    String.ofList (padded.take whole ++ '.' :: padded.drop whole)

/-- The shortest text of a number. -/
def Binary64.shortestText : Binary64 → String
  | .nan => "NaN"
  | .infinite negative => if negative then "-inf" else "inf"
  | .finite negative significand exponent =>
    let sign := if negative then "-" else ""
    if significand = 0 then sign ++ "0"
    else
      let (digits, power) := (ReadBack.ofFinite significand exponent).shortest
      sign ++ positional digits power

end Songbook.Decimal
