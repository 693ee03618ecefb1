import Songbook.Pattern.Tree
import Songbook.Text.Blank

/-!
# Reading a pattern

The steps that readers of patterns are made of: looking at the character that comes next, going
past it, and refusing what is wrong. In verbose patterns blanks and comments may stand between
the characters.
-/

namespace Songbook.Pattern

/-- What is left to read, and what has to be known of what was read. -/
structure Cursor where
  rest : List Char
  place : Place
  verbose : Bool
  /-- The names of groups and where they stand. -/
  names : List (String × Span)

namespace Cursor

def start (pattern : String) : Cursor := ⟨pattern.toList, .start, false, []⟩

/-- Goes past one character. -/
def advance (c : Cursor) : Cursor :=
  match c.rest with
  | [] => c
  | d :: ds => { c with rest := ds, place := c.place.next d }

/-- Skips blanks and comments, which go from a hash to the end of the line. -/
def skipComments : Bool → List Char → Place → List Char × Place
  | _, [], p => ([], p)
  | true, d :: ds, p => skipComments (d != '\n') ds (p.next d)
  | false, d :: ds, p =>
    if Text.isBlank d then skipComments false ds (p.next d)
    else if d = '#' then skipComments true ds (p.next d)
    else (d :: ds, p)

/-- Skips blanks and comments if the pattern is verbose. -/
def skip (c : Cursor) : Cursor :=
  if c.verbose then
    let (rest, place) := skipComments false c.rest c.place
    { c with rest, place }
  else c

/-- The character after the next one. In a verbose pattern it is the first that is neither blank
nor the hash of a comment, if there is one. -/
def second? (c : Cursor) : Option Char :=
  let after := c.rest.drop 1
  if c.verbose then (skipToComment after).or after.head? else after.head?
where
  skipToComment (cs : List Char) : Option Char :=
    match cs.dropWhile Text.isBlank with
    | '#' :: ds => (ds.dropWhile Text.isBlank).head?
    | ds => ds.head?

end Cursor

/-- A step of a reader. -/
abbrev Reading := EStateM Flaw Cursor

namespace Reading

def next? : Reading (Option Char) := return (← get).rest.head?

def place : Reading Place := return (← get).place

/-- The empty part at this place. -/
def here : Reading Span := return .empty (← get).place

/-- The part that the next character takes. -/
def nextSpan : Reading Span := do
  let c ← get
  return ⟨c.place, c.advance.place⟩

/-- From a place to this one. -/
def since (start : Place) : Reading Span := return ⟨start, (← get).place⟩

def advance : Reading Unit := modify Cursor.advance

def skip : Reading Unit := modify Cursor.skip

/-- Goes past one character and what is skipped after it. -/
def step : Reading Unit := modify fun c => c.advance.skip

/-- Goes past a text if it comes next. -/
def accept (text : String) : Reading Bool := do
  let c ← get
  if text.toList.isPrefixOf c.rest then
    set (text.toList.foldl (fun c _ => c.advance) c)
    return true
  else return false

def fail {α : Type} (kind : FlawKind) (span : Span) : Reading α := throw ⟨kind, span, none⟩

/-- The number of characters left, which bounds every loop. -/
def remaining : Reading Nat := return (← get).rest.length

/-- Takes characters as long as they are wanted, with a move after each. -/
def takeSome (wanted : Char → Bool) (move : Reading Unit) : Nat → Reading (List Char)
  | 0 => return []
  | n + 1 => do
    match ← next? with
    | some c =>
      if wanted c then
        move
        return c :: (← takeSome wanted move n)
      else return []
    | none => return []

def takeWhile (wanted : Char → Bool) (move : Reading Unit) : Reading (List Char) := do
  takeSome wanted move (← remaining)

/-- The largest count that can be written. -/
def largestCount : Nat := 4294967295

/-- Reads a decimal number with blanks around it. What is wrong with it is answered and not yet
thrown, since a flaw that comes later may be told instead. -/
def decimal (noDigits : FlawKind) : Reading (Except Flaw Nat) := do
  let _ ← takeWhile Text.isBlank advance
  let start ← place
  let digits ← takeWhile Char.isDigit step
  let span ← since start
  let _ ← takeWhile Text.isBlank step
  if digits.isEmpty then return .error ⟨noDigits, span, none⟩
  let value := digits.foldl (fun n d => 10 * n + (d.toNat - '0'.toNat)) 0
  if largestCount < value then return .error ⟨.decimalTooLarge, span, none⟩
  return .ok value

end Reading

end Songbook.Pattern
