/-!
# PostScript strings

How a text stands between the parentheses of a PostScript string: in ASCII, with parentheses and
backslashes escaped. Characters up to U+00FF are written by their Latin-1 code and all others as a
question mark.
-/

namespace Songbook.PostScript

/-- The code in three octal digits, for codes from 64 to 511. -/
def octalEscape (code : Nat) : List Char :=
  '\\' :: Nat.toDigits 8 code

def escapeChar (c : Char) : List Char :=
  if c = '(' ∨ c = ')' ∨ c = '\\' then ['\\', c]
  else if c.toNat < 0x80 then [c]
  else if c.toNat ≤ 0xFF then octalEscape c.toNat
  else ['?']

/-- The body of the string that shows a text. -/
def escape (s : String) : String :=
  String.ofList (s.toList.flatMap escapeChar)

example : escape "a(b)é€" = "a\\(b\\)\\351?" := by decide +kernel

end Songbook.PostScript
