import Songbook.PostScript.Quoted

/-!
# Strings read back

How a device reads a string. A parenthesis inside counts, so that those of the string balance; a
backslash gives the next character another meaning; up to three octal digits after one are a code;
every line end is a line feed. An escaped text is read as one string, of the codes of its characters
(`literal_readsBack`).
-/

namespace Songbook.PostScript

/-- The value of an octal digit. -/
def octalDigit? (c : Char) : Option Nat :=
  if '0' ≤ c ∧ c ≤ '7' then some (c.toNat - '0'.toNat) else none

/-- The code that a character has after a backslash. One without a meaning of its own is itself. -/
def escapedCode : Char → Nat
  | 'n' => 10
  | 'r' => 13
  | 't' => 9
  | 'b' => 8
  | 'f' => 12
  | c => c.toNat

/-- What a reader has come to in a string. -/
inductive Scan where
  | plain
  /-- A carriage return, which a line feed may follow in the same line end. -/
  | afterReturn
  | afterBackslash
  /-- Some digits of an octal code, and what they make. -/
  | afterDigits (digits code : Nat)
deriving DecidableEq, Repr

/-- What a character of a string does to it. -/
inductive Scanned where
  /-- Adds these codes. The string goes on, with so many of its own parentheses open. -/
  | more (codes : List Nat) (depth : Nat) (scan : Scan)
  /-- Adds these codes and ends the string. -/
  | closed (codes : List Nat)
deriving DecidableEq, Repr

/-- A character that nothing before it changes. The codes are still to be added. -/
def scanPlain (codes : List Nat) (depth : Nat) (c : Char) : Scanned :=
  if c = ')' ∧ depth = 0 then .closed codes
  else if c = '\\' then .more codes depth .afterBackslash
  else if c = '\r' then .more (codes ++ ['\n'.toNat]) depth .afterReturn
  else .more (codes ++ [c.toNat])
    (if c = '(' then depth + 1 else if c = ')' then depth - 1 else depth) .plain

/-- A character after what the reader has come to. A line end after a backslash is left out, and so
is what an octal code has beyond eight bits. -/
def scanNext (depth : Nat) (c : Char) : Scan → Scanned
  | .plain => scanPlain [] depth c
  | .afterReturn => if c = '\n' then .more [] depth .plain else scanPlain [] depth c
  | .afterBackslash =>
    match octalDigit? c with
    | some digit => .more [] depth (.afterDigits 1 digit)
    | none =>
      if c = '\n' then .more [] depth .plain
      else if c = '\r' then .more [] depth .afterReturn
      else .more [escapedCode c] depth .plain
  | .afterDigits digits code =>
    match octalDigit? c with
    | some digit =>
      if digits = 2 then .more [(8 * code + digit) % 256] depth .plain
      else .more [] depth (.afterDigits (digits + 1) (8 * code + digit))
    | none => scanPlain [code] depth c

/-- The codes of a string from here on, and what stands behind its closing parenthesis. -/
def scanString (depth : Nat) (scan : Scan) : List Char → Option (List Nat × List Char)
  | [] => none
  | c :: cs =>
    match scanNext depth c scan with
    | .closed codes => some (codes, cs)
    | .more codes depth scan =>
      (scanString depth scan cs).map fun (value, rest) => (codes ++ value, rest)

/-- Reads a string: its codes, and what follows it. -/
def readLiteral? : List Char → Option (List Nat × List Char)
  | '(' :: cs => scanString 0 .plain cs
  | _ => none

example : readLiteral? "(a(\\\\)\\1013\\7)\r\n\\\n)) show".toList =
    some ([97, 40, 92, 41, 65, 51, 7], "\r\n\\\n)) show".toList) := by decide

example : readLiteral? "(\\(\\n\\%\r\n\\\nb\\501".toList = none := by decide

/-- The Latin-1 code of a character, or that of a question mark. -/
def latin1 (c : Char) : Nat := if c.toNat ≤ 0xFF then c.toNat else '?'.toNat

variable {c : Char} {depth code : Nat} {scan : Scan}

/-- A string whose next code is known. -/
def withCode (code : Nat) (read? : Option (List Nat × List Char)) :
    Option (List Nat × List Char) :=
  read?.map fun (value, rest) => (code :: value, rest)

theorem scanString_silent {depth' : Nat} {scan' : Scan}
    (h : scanNext depth c scan = .more [] depth' scan') (cs : List Char) :
    scanString depth scan (c :: cs) = scanString depth' scan' cs := by
  rw [scanString, h]
  exact congrFun Option.map_id _

theorem scanString_code {depth' : Nat} {scan' : Scan}
    (h : scanNext depth c scan = .more [code] depth' scan') (cs : List Char) :
    scanString depth scan (c :: cs) = withCode code (scanString depth' scan' cs) := by
  rw [scanString, h]
  rfl

/-- After a backslash, a character that is no digit and no line end is a code. -/
theorem scanString_escaped (hdigit : octalDigit? c = none) (hbreak : c ≠ '\n') (hreturn : c ≠ '\r')
    (cs : List Char) : scanString depth .plain ('\\' :: c :: cs) =
      withCode (escapedCode c) (scanString depth .plain cs) := by
  rw [scanString_silent rfl]
  refine scanString_code ?_ cs
  simp only [scanNext, hdigit, if_neg hbreak, if_neg hreturn]

theorem scanString_plain (hspecial : c ≠ '(' ∧ c ≠ ')' ∧ c ≠ '\\' ∧ c ≠ '\r') (cs : List Char) :
    scanString depth .plain (c :: cs) = withCode c.toNat (scanString depth .plain cs) := by
  obtain ⟨hopen, hclose, hbackslash, hreturn⟩ := hspecial
  refine scanString_code ?_ cs
  simp [scanNext, scanPlain, hopen, hclose, hbackslash, hreturn]

/-! ## Octal codes -/

theorem octalDigit?_digitChar {digit : Nat} (h : digit < 8) :
    octalDigit? digit.digitChar = some digit := by
  have hall : ∀ d : Fin 8, octalDigit? (d : Nat).digitChar = some (d : Nat) := by decide
  exact hall ⟨digit, h⟩

/-- A code from 64 to 511 has three octal digits. -/
theorem toDigits_octal (hlow : 64 ≤ code) (hhigh : code < 512) : Nat.toDigits 8 code =
    [(code / 64).digitChar, (code / 8 % 8).digitChar, (code % 8).digitChar] := by
  have hhundreds : code / 8 / 8 = code / 64 := Nat.div_div_eq_div_mul code 8 8
  rw [Nat.toDigits_of_base_le (by decide) (by omega),
    Nat.toDigits_of_base_le (by decide) (by omega), Nat.toDigits_of_lt_base (by omega), hhundreds]
  rfl

/-- Three digits are all of a code, whatever follows. -/
theorem scanString_octalEscape (hlow : 64 ≤ code) (hhigh : code < 256) (cs : List Char) :
    scanString depth .plain (octalEscape code ++ cs) =
      withCode code (scanString depth .plain cs) := by
  have hcode : 8 * (8 * (code / 64) + code / 8 % 8) + code % 8 = code := by omega
  have hhundreds : scanNext depth (code / 64).digitChar .afterBackslash =
      .more [] depth (.afterDigits 1 (code / 64)) := by
    simp only [scanNext, octalDigit?_digitChar (by omega : code / 64 < 8)]
  have heights : scanNext depth (code / 8 % 8).digitChar (.afterDigits 1 (code / 64)) =
      .more [] depth (.afterDigits 2 (8 * (code / 64) + code / 8 % 8)) := by
    simp only [scanNext, octalDigit?_digitChar (Nat.mod_lt (code / 8) (by decide : 8 > 0))]
    rfl
  rw [octalEscape, toDigits_octal hlow (by omega)]
  show scanString depth .plain ('\\' :: _ :: _ :: _ :: cs) = _
  rw [scanString_silent rfl, scanString_silent hhundreds, scanString_silent heights]
  refine scanString_code ?_ cs
  simp only [scanNext, octalDigit?_digitChar (Nat.mod_lt code (by decide : 8 > 0)), hcode,
    Nat.mod_eq_of_lt hhigh, if_true]

/-! ## Texts -/

/-- What is written for a character is read as its code, whatever follows. -/
theorem scanString_escapeChar (hreturn : c ≠ '\r') (cs : List Char) :
    scanString depth .plain (escapeChar c ++ cs) =
      withCode (latin1 c) (scanString depth .plain cs) := by
  by_cases hspecial : c = '(' ∨ c = ')' ∨ c = '\\'
  · rw [escapeChar, if_pos hspecial]
    rcases hspecial with rfl | rfl | rfl <;>
      exact scanString_escaped (by decide) (by decide) (by decide) cs
  rw [escapeChar, if_neg hspecial]
  rw [not_or, not_or] at hspecial
  by_cases hascii : c.toNat < 0x80
  · rw [if_pos hascii, latin1, if_pos (by omega)]
    exact scanString_plain ⟨hspecial.1, hspecial.2.1, hspecial.2.2, hreturn⟩ cs
  rw [if_neg hascii, latin1]
  by_cases hbyte : c.toNat ≤ 0xFF
  · rw [if_pos hbyte, if_pos hbyte]
    exact scanString_octalEscape (by omega) (by omega) cs
  · rw [if_neg hbyte, if_neg hbyte]
    exact scanString_plain (by decide) cs

theorem scanString_escape {text : List Char} (h : '\r' ∉ text) (rest : List Char) :
    scanString 0 .plain (text.flatMap escapeChar ++ ')' :: rest) =
      some (text.map latin1, rest) := by
  induction text with
  | nil => rfl
  | cons c text ih =>
    rw [List.mem_cons, not_or] at h
    rw [List.flatMap_cons, List.append_assoc, scanString_escapeChar (Ne.symm h.1), ih h.2]
    rfl

theorem isAscii_digitChar {digit : Nat} (h : digit < 8) : digit.digitChar.toNat < 0x80 := by
  have hall : ∀ d : Fin 8, (d : Nat).digitChar.toNat < 0x80 := by decide
  exact hall ⟨digit, h⟩

theorem isAscii_escapeChar (c : Char) : ∀ d ∈ escapeChar c, d.toNat < 0x80 := by
  intro d hd
  by_cases hspecial : c = '(' ∨ c = ')' ∨ c = '\\'
  · simp only [escapeChar, if_pos hspecial, List.mem_cons, List.not_mem_nil, or_false] at hd
    rcases hd with rfl | rfl
    · decide
    · rcases hspecial with rfl | rfl | rfl <;> decide
  rw [escapeChar, if_neg hspecial] at hd
  by_cases hascii : c.toNat < 0x80
  · rw [if_pos hascii] at hd
    rwa [List.mem_singleton.1 hd]
  rw [if_neg hascii] at hd
  by_cases hbyte : c.toNat ≤ 0xFF
  · simp only [if_pos hbyte, octalEscape, toDigits_octal (by omega : 64 ≤ c.toNat) (by omega),
      List.mem_cons, List.not_mem_nil, or_false] at hd
    rcases hd with rfl | rfl | rfl | rfl
    · decide
    all_goals exact isAscii_digitChar (by omega)
  · rw [if_neg hbyte] at hd
    rw [List.mem_singleton.1 hd]
    decide

/-- Between parentheses an escaped text is ASCII, and is read as one string that ends with the
second of them, whatever follows: the Latin-1 codes of its characters, with that of a question mark
for each that has none. -/
theorem literal_readsBack {text : String} (h : '\r' ∉ text.toList) :
    (∀ c ∈ ("(" ++ escape text ++ ")").toList, c.toNat < 0x80) ∧
      ∀ rest, readLiteral? (("(" ++ escape text ++ ")").toList ++ rest) =
        some (text.toList.map latin1, rest) := by
  have hliteral : ("(" ++ escape text ++ ")").toList =
      '(' :: (text.toList.flatMap escapeChar ++ [')']) := by
    simp [escape]
  rw [hliteral]
  refine ⟨fun c hc => ?_, fun rest => ?_⟩
  · simp only [List.mem_cons, List.mem_append, List.mem_flatMap, List.not_mem_nil, or_false] at hc
    rcases hc with rfl | ⟨d, -, hc⟩ | rfl
    · decide
    · exact isAscii_escapeChar d c hc
    · decide
  · show scanString 0 .plain (text.toList.flatMap escapeChar ++ [')'] ++ rest) = _
    rw [List.append_assoc]
    exact scanString_escape h rest

/-- Digits after an octal code, parentheses that do not balance and a backslash at the end. -/
theorem literal_readsBack_unbalanced :
    '\r' ∉ "é7)(\n€\\".toList ∧
      escape "é7)(\n€\\" = "\\3517\\)\\(\n?\\\\" ∧
      readLiteral? (("(" ++ escape "é7)(\n€\\" ++ ")").toList ++ ")".toList) =
        some ([0xE9, 55, 41, 40, 10, 63, 92], ")".toList) := by
  have hreturn : '\r' ∉ "é7)(\n€\\".toList := by decide
  exact ⟨hreturn, by decide +kernel, ((literal_readsBack hreturn).2 _).trans (by decide)⟩

end Songbook.PostScript
