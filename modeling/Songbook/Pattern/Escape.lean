import Songbook.Pattern.Reading

/-!
# Escapes

What a backslash and the characters after it stand for: a character, a class or an assertion.
-/

namespace Songbook.Pattern

/-- What an escape stands for. -/
inductive Escape where
  | literal (l : Literal)
  | chars (c : CharClass)
  | assertion (span : Span) (kind : Assertion)
deriving Repr

namespace Escape

def span : Escape → Span
  | .literal l => l.span
  | .chars c => c.span
  | .assertion span _ => span

end Escape

/-- The characters with a meaning of their own, which a backslash takes from them. -/
def metaCharacters : List Char :=
  ['\\', '.', '+', '*', '?', '(', ')', '|', '[', ']', '\x7b', '\x7d', '^', '$', '#', '&', '-', '~']

/-- With a backslash the character stands for itself: ASCII characters other than letters, digits
and angles do. -/
def standsForItself (c : Char) : Bool :=
  metaCharacters.contains c || (c.toNat < 0x80 && !c.isAlphanum && c != '<' && c != '>')

/-- The control characters that have a letter. -/
def controlCharacter? : Char → Option Char
  | 'a' => some '\x07'
  | 'f' => some '\x0c'
  | 't' => some '\t'
  | 'n' => some '\n'
  | 'r' => some '\r'
  | 'v' => some '\x0b'
  | _ => none

/-- The assertions that have a letter. -/
def assertion? : Char → Option Assertion
  | 'A' => some .textStart
  | 'z' => some .textEnd
  | 'b' => some .wordBoundary
  | 'B' => some .noWordBoundary
  | '<' => some .wordStart
  | '>' => some .wordEnd
  | _ => none

/-- The classes that have a letter, and whether it means the complement. -/
def letteredClass? : Char → Option (AsciiClass × Bool)
  | 'd' => some (.digit, false)
  | 'D' => some (.digit, true)
  | 's' => some (.space, false)
  | 'S' => some (.space, true)
  | 'w' => some (.word, false)
  | 'W' => some (.word, true)
  | _ => none

def hexDigit? (c : Char) : Option Nat :=
  if c.isDigit then some (c.toNat - '0'.toNat)
  else if 'a' ≤ c && c ≤ 'f' then some (c.toNat - 'a'.toNat + 10)
  else if 'A' ≤ c && c ≤ 'F' then some (c.toNat - 'A'.toNat + 10)
  else none

/-- The character of a code point, if it is one. -/
def scalar? (digits : List Nat) : Option Char :=
  let n := digits.foldl (fun n d => 16 * n + d) 0
  if n < 0xD800 || (0xDFFF < n && n < 0x110000) then some (Char.ofNat n) else none

namespace Reading

/-- Reads a given number of hexadecimal digits. -/
def fixedDigits : Nat → Reading (List Nat)
  | 0 => return []
  | n + 1 => do
    match ← next? with
    | none => fail .escapeUnfinished (← here)
    | some c =>
      match hexDigit? c with
      | none => fail .hexDigit (← nextSpan)
      | some d =>
        step
        return d :: (← fixedDigits n)

/-- Reads hexadecimal digits up to a closing brace, at most as many as characters are left. -/
def bracedDigits : Nat → Reading (List Nat)
  | 0 => return []
  | n + 1 => do
    match ← next? with
    | none | some '\x7d' => return []
    | some c =>
      match hexDigit? c with
      | none => fail .hexDigit (← nextSpan)
      | some d =>
        step
        return d :: (← bracedDigits n)

/-- Reads a code point between braces. -/
def bracedCharacter (start : Place) : Reading Literal := do
  let brace ← place
  let inside := (← nextSpan).stop
  step
  let digits ← bracedDigits (← remaining)
  if (← next?).isNone then fail .escapeUnfinished (← since brace)
  let stop ← place
  step
  if digits.isEmpty then fail .hexEmpty (← since brace)
  match scalar? digits with
  | some c => return ⟨← since start, c, false⟩
  | none => fail .hexNoCharacter ⟨inside, stop⟩

/-- Reads a code point of a given number of digits. -/
def fixedCharacter (start : Place) (count : Nat) : Reading Literal := do
  let inside ← place
  let digits ← fixedDigits count
  match scalar? digits with
  | some c => return ⟨← since start, c, count = 2⟩
  | none => fail .hexNoCharacter (← since inside)

/-- Reads a character by its code point, after the letter that tells the number of digits. -/
def hexCharacter (start : Place) (count : Nat) : Reading Literal := do
  step
  match ← next? with
  | none => fail .escapeUnfinished (← here)
  | some '\x7b' => bracedCharacter start
  | some _ => fixedCharacter start count

/-- Reads a Unicode property: one letter, or a name between braces. -/
def property (start : Place) : Reading CharClass := do
  step
  match ← next? with
  | none => fail .escapeUnfinished (← here)
  | some '\x7b' =>
    step
    let name ← takeWhile (· != '\x7d') step
    if (← next?).isNone then fail .escapeUnfinished (← here)
    advance
    return .property (← since start) (String.ofList name)
  | some '\\' => fail .property (← nextSpan)
  | some c =>
    step
    return .property (← since start) c.toString

def isBoundaryCharacter (c : Char) : Bool := c.isAlpha || c == '-'

/-- The word boundaries that have a name. -/
def boundary? : String → Option Assertion
  | "start" => some .wordStart
  | "end" => some .wordEnd
  | "start-half" => some .wordStartHalf
  | "end-half" => some .wordEndHalf
  | _ => none

/-- Reads the name of a word boundary between braces. Braces that hold no name are left to be read
as a count. -/
def boundaryName? (start : Place) : Reading (Option Assertion) := do
  let before ← get
  step
  match ← next? with
  | none => fail .boundaryUnfinished (← since start)
  | some c =>
    if !isBoundaryCharacter c then
      set before
      return none
    let inside ← place
    let name ← takeWhile isBoundaryCharacter step
    if (← next?) != some '\x7d' then fail .boundaryUnclosed (← since before.place)
    let stop ← place
    advance
    match boundary? (String.ofList name) with
    | some kind => return some kind
    | none => fail .boundaryUnknown ⟨inside, stop⟩

/-- Reads an escape whose meaning is in its one letter. -/
def letter (start : Place) (c : Char) : Reading Escape := do
  advance
  let span ← since start
  if standsForItself c then return .literal ⟨span, c, false⟩
  match controlCharacter? c, letteredClass? c, assertion? c with
  | some d, _, _ => return .literal ⟨span, d, false⟩
  | _, some (name, negated), _ => return .chars (.lettered span name negated)
  | _, _, some kind =>
    if c = 'b' && (← next?) = some '\x7b' then
      match ← boundaryName? start with
      | some named => return .assertion (← since start) named
      | none => return .assertion span kind
    else return .assertion span kind
  | none, none, none => fail .escapeUnknown span

/-- Reads an escape. -/
def escape : Reading Escape := do
  let start ← place
  advance
  match ← next? with
  | none => fail .escapeUnfinished (← since start)
  | some c =>
    if c.isDigit then fail .backreference ⟨start, (← nextSpan).stop⟩
    match c with
    | 'x' => return .literal (← hexCharacter start 2)
    | 'u' => return .literal (← hexCharacter start 4)
    | 'U' => return .literal (← hexCharacter start 8)
    | 'p' | 'P' => return .chars (← property start)
    | _ => letter start c

end Reading

end Songbook.Pattern
