import Songbook.Pattern.CharSet

/-!
# Ranges of bytes

The characters of a range as sequences of byte ranges. A range of characters is cut where the
number of bytes changes and where blocks of 64, of 64 blocks and so on begin, as far as it takes
to let each byte be chosen by itself.
-/

namespace Songbook.Pattern

/-- The first and the last value of each byte of a character. -/
abbrev ByteRanges := List (Nat × Nat)

namespace ByteRanges

/-- The bytes of a character. -/
def encode (n : Nat) : List Nat := (String.utf8EncodeChar (Char.ofNat n)).map UInt8.toNat

/-- The part of a range up to a code point, and the part after it. -/
def cutAfter (n : Nat) (r : Nat × Nat) : CharSet :=
  if r.1 ≤ n ∧ n < r.2 then [(r.1, n), (n + 1, r.2)] else [r]

/-- The parts of a range before and after the surrogates. -/
def cutSurrogates (r : Nat × Nat) : CharSet :=
  if r.1 < 0xE000 ∧ 0xD7FF < r.2 then
    [(r.1, 0xD7FF), (0xE000, r.2)].filter fun q => q.1 ≤ q.2
  else [r]

/-- The range lies in one block of `size` code points. -/
def inOneBlock (size : Nat) (r : Nat × Nat) : Bool := r.1 / size = r.2 / size

/-- The parts of a range in its first block, in whole blocks and in its last block. -/
def cutBlocks (size : Nat) (r : Nat × Nat) : CharSet :=
  let fromStart :=
    if inOneBlock size r ∨ r.1 % size = 0 then [r] else cutAfter (r.1 / size * size + size - 1) r
  fromStart.flatMap fun q =>
    if inOneBlock size q ∨ q.2 % size = size - 1 then [q] else cutAfter (q.2 / size * size - 1) q

/-- The parts of a range, the bytes of which can be chosen one by one. -/
def parts (r : Nat × Nat) : CharSet :=
  let sameLength := (cutSurrogates r).flatMap (cutAfter 0x7F) |>.flatMap (cutAfter 0x7FF)
    |>.flatMap (cutAfter 0xFFFF)
  sameLength.flatMap fun q =>
    if q.2 ≤ 0x7F then [q]
    else (cutBlocks 0x40 q).flatMap (cutBlocks 0x1000) |>.flatMap (cutBlocks 0x40000)

/-- The byte ranges of the characters of a set, in the order of the characters. -/
def ofSet (s : CharSet) : List ByteRanges :=
  (s.flatMap parts).map fun r => (encode r.1).zip (encode r.2)

example : ofSet [(0x7F, 0x10FFFF)] =
    [[(0x7F, 0x7F)],
      [(0xC2, 0xDF), (0x80, 0xBF)],
      [(0xE0, 0xE0), (0xA0, 0xBF), (0x80, 0xBF)],
      [(0xE1, 0xEC), (0x80, 0xBF), (0x80, 0xBF)],
      [(0xED, 0xED), (0x80, 0x9F), (0x80, 0xBF)],
      [(0xEE, 0xEF), (0x80, 0xBF), (0x80, 0xBF)],
      [(0xF0, 0xF0), (0x90, 0xBF), (0x80, 0xBF), (0x80, 0xBF)],
      [(0xF1, 0xF3), (0x80, 0xBF), (0x80, 0xBF), (0x80, 0xBF)],
      [(0xF4, 0xF4), (0x80, 0x8F), (0x80, 0xBF), (0x80, 0xBF)]] := by
  decide +kernel

end ByteRanges

end Songbook.Pattern
