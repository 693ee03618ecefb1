import Songbook.Pattern.Escape

/-!
# Classes between brackets

Reads `[...]`. Classes may stand inside classes, and two classes may be joined by `&&`, `--` or
`~~`, which bind from left to right and less tightly than standing side by side.
-/

namespace Songbook.Pattern

/-- The parts of a class that stand side by side, the last first. -/
structure Members where
  span : Span
  parts : List CharClass

namespace Members

def empty (p : Place) : Members := ⟨.empty p, []⟩

def push (m : Members) (part : CharClass) : Members :=
  let start := if m.parts.isEmpty then part.span.start else m.span.start
  ⟨⟨start, part.span.stop⟩, part :: m.parts⟩

def toClass (m : Members) : CharClass :=
  match m.parts with
  | [] => .empty m.span
  | [part] => part
  | parts => .union m.span parts.reverse

end Members

/-- A class that has not been closed yet. -/
structure OpenClass where
  /-- The opening bracket and what belongs to it. -/
  opening : Span
  negated : Bool
  /-- The operation whose right side is being read, with its left side. -/
  pending : Option (SetOperation × CharClass)
  members : Members

namespace OpenClass

def push (c : OpenClass) (part : CharClass) : OpenClass :=
  { c with members := c.members.push part }

/-- What has been read, with the pending operation done. -/
def body (c : OpenClass) : CharClass :=
  let right := c.members.toClass
  match c.pending with
  | none => right
  | some (operation, left) => .combined (left.span.through right.span) operation left right

/-- An operation follows, with its right side still to be read. -/
def operate (c : OpenClass) (operation : SetOperation) (p : Place) : OpenClass :=
  { c with pending := some (operation, c.body), members := .empty p }

/-- The class between its brackets. -/
def close (c : OpenClass) (stop : Place) : CharClass :=
  .bracketed ⟨c.opening.start, stop⟩ c.negated c.body

end OpenClass

namespace Reading

/-- Goes past one character and what is skipped; the class must go on after it. -/
def stepInClass (unclosed : Reading Span) : Reading Unit := do
  step
  if (← next?).isNone then fail .classUnclosed (← unclosed)

/-- Reads the hyphens at the beginning of a class, which stand for themselves. -/
def leadingHyphens (start : Place) : Nat → Members → Reading Members
  | 0, members => return members
  | n + 1, members => do
    if (← next?) = some '-' then
      let span ← nextSpan
      stepInClass (return .empty start)
      leadingHyphens start n (members.push (.literal ⟨span, '-', false⟩))
    else return members

/-- Reads an opening bracket, a caret if the class is negated, and the characters that stand for
themselves there: hyphens, or else one closing bracket. -/
def openClass : Reading OpenClass := do
  let start ← place
  stepInClass (since start)
  let negated := (← next?) = some '^'
  if negated then stepInClass (since start)
  let members ← leadingHyphens start (← remaining) (.empty (← place))
  if members.parts.isEmpty && (← next?) = some ']' then
    let span ← nextSpan
    stepInClass (since start)
    return ⟨← since start, negated, none, members.push (.literal ⟨span, ']', false⟩)⟩
  else return ⟨← since start, negated, none, members⟩

/-- Reads `[:name:]`. What is not that is left to be read as a class. -/
def asciiClass? : Reading (Option CharClass) := do
  let before ← get
  let given : Reading (Option CharClass) := do
    if !(← accept "[:") then return none
    let negated ← accept "^"
    let name ← takeWhile (· != ':') advance
    if !(← accept ":]") then return none
    match AsciiClass.ofName? (String.ofList name) with
    | some kind => return some (.named (← since before.place) kind negated)
    | none => return none
  match ← given with
  | some c => return some c
  | none =>
    set before
    return none

/-- Reads a character or an escape inside a class. -/
def classItem (c : Char) : Reading Escape := do
  if c = '\\' then escape
  else
    let span ← nextSpan
    advance
    return .literal ⟨span, c, false⟩

/-- What may stand at either side of a range. -/
def rangeBoundary : Escape → Reading Literal
  | .literal l => return l
  | e => fail .classRangeBoundary e.span

/-- Reads a part of a class: a range, a character or an escape. -/
def classPart (unclosed : Span) (c : Char) : Reading CharClass := do
  let first ← classItem c
  skip
  match ← next? with
  | none => fail .classUnclosed unclosed
  | some d =>
    let after := (← get).second?
    if d != '-' || after = some ']' || after = some '-' then
      match first with
      | .literal l => return .literal l
      | .chars chars => return chars
      | .assertion span _ => fail .classEscape span
    else
      stepInClass (return unclosed)
      let last ← classItem ((← next?).getD ']')
      let span := first.span.through last.span
      let low ← rangeBoundary first
      let high ← rangeBoundary last
      if high.char < low.char then fail .classRangeOrder span
      return .range span low high

/-- The operation that comes next between two classes. -/
def setOperation? : Reading (Option SetOperation) := do
  if ← accept "&&" then return some .intersection
  if ← accept "--" then return some .difference
  if ← accept "~~" then return some .symmetricDifference
  return none

/-- Reads the inside of a class that stands in other open classes, the innermost first. Each
round goes past a character. -/
def classBody : Nat → OpenClass → List OpenClass → Reading CharClass
  | 0, c, _ => fail .classUnclosed c.opening
  | n + 1, c, outer => do
    skip
    match ← next? with
    | none => fail .classUnclosed c.opening
    | some '[' =>
      match ← asciiClass? with
      | some part => classBody n (c.push part) outer
      | none => classBody n (← openClass) (c :: outer)
    | some ']' =>
      advance
      let closed := c.close (← place)
      match outer with
      | [] => return closed
      | parent :: others => classBody n (parent.push closed) others
    | some d =>
      match ← setOperation? with
      | some operation => classBody n (c.operate operation (← place)) outer
      | none => classBody n (c.push (← classPart c.opening d)) outer

/-- Reads a class between brackets. -/
def bracket : Reading CharClass := do
  let c ← openClass
  classBody ((← remaining) + 1) c []

end Reading

end Songbook.Pattern
