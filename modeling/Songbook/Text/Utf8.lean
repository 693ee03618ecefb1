/-!
# Decoding UTF-8

Input files are read as UTF-8. Bytes that form no character are not an error: every maximal part
that could begin a character, or else the single byte, becomes one replacement character.
-/

namespace Songbook.Text

/-- What stands for bytes that are no character. -/
def replacement : Char := '\ufffd'

/-- A byte that goes on with a character. -/
def isContinuation (b : Nat) : Bool :=
  0x80 ≤ b && b ≤ 0xBF

/-- The bytes after `lead` that may come second: shorter forms, surrogates and code points above
U+10FFFF are left out. -/
def secondRange (lead : Nat) : Nat × Nat :=
  if lead = 0xE0 then (0xA0, 0xBF)
  else if lead = 0xED then (0x80, 0x9F)
  else if lead = 0xF0 then (0x90, 0xBF)
  else if lead = 0xF4 then (0x80, 0x8F)
  else (0x80, 0xBF)

/-- The number of bytes that `lead` announces, none if it begins no character. -/
def sequenceLength (lead : Nat) : Nat :=
  if lead < 0x80 then 1
  else if 0xC2 ≤ lead && lead ≤ 0xDF then 2
  else if 0xE0 ≤ lead && lead ≤ 0xEF then 3
  else if 0xF0 ≤ lead && lead ≤ 0xF4 then 4
  else 0

/-- The payload of the first byte of a sequence of `n` bytes. -/
def leadBits (n lead : Nat) : Nat :=
  match n with
  | 1 => lead
  | 2 => lead % 0x20
  | 3 => lead % 0x10
  | _ => lead % 0x08

/-- Takes up to `n` continuation bytes into the code point `acc`, with how many were taken. -/
def takeContinuation : Nat → Nat → List Nat → Nat × Nat
  | n + 1, acc, b :: bs =>
    if isContinuation b then
      let (code, taken) := takeContinuation n (acc * 0x40 + b % 0x40) bs
      (code, taken + 1)
    else (acc, 0)
  | _, acc, _ => (acc, 0)

/-- The first character of a byte sequence that begins with `lead`, and how many of the bytes
`rest` belong to it. -/
def decodeChar (lead : Nat) (rest : List Nat) : Char × Nat :=
  match sequenceLength lead, rest with
  | 0, _ => (replacement, 0)
  | 1, _ => (Char.ofNat lead, 0)
  | n + 2, b :: _ =>
    let (low, high) := secondRange lead
    if low ≤ b && b ≤ high then
      let (code, taken) := takeContinuation (n + 1) (leadBits (n + 2) lead) rest
      (if taken = n + 1 then Char.ofNat code else replacement, taken)
    else (replacement, 0)
  | _, [] => (replacement, 0)

/-- Decodes with `skip` bytes still belonging to the character before. -/
def decodeBytes : Nat → List Nat → List Char
  | _, [] => []
  | skip + 1, _ :: bs => decodeBytes skip bs
  | 0, b :: bs =>
    let (c, taken) := decodeChar b bs
    c :: decodeBytes taken bs

/-- The text of a file. -/
def decodeUtf8 (bytes : ByteArray) : String :=
  String.ofList (decodeBytes 0 (bytes.toList.map UInt8.toNat))

example : decodeBytes 0 [0xE2, 0x82, 0x0A, 0x78] = ['\ufffd', '\n', 'x'] := by decide +kernel

example : decodeBytes 0 [0xED, 0xA0, 0x80] = ['\ufffd', '\ufffd', '\ufffd'] := by decide +kernel

end Songbook.Text
