import Songbook.Pattern.Bracket
import Songbook.Text.Alphanumeric

/-!
# Reading patterns

Reads a whole pattern into its tree. Groups that have not been closed wait on a stack with what
stands around them.
-/

namespace Songbook.Pattern

/-- What has been read between two parentheses: the finished branches and the items of the one
being read, the last first. -/
structure Inside where
  start : Place
  branches : List Tree
  branchStart : Place
  items : List Tree

namespace Inside

def empty (p : Place) : Inside := ⟨p, [], p, []⟩

def push (i : Inside) (item : Tree) : Inside := { i with items := item :: i.items }

/-- The branch being read, which stops here. -/
def branch (i : Inside) (stop : Place) : Tree :=
  .ofItems ⟨i.branchStart, stop⟩ i.items.reverse

/-- Another branch follows after the bar at `stop`. -/
def nextBranch (i : Inside) (stop next : Place) : Inside :=
  { i with branches := i.branch stop :: i.branches, branchStart := next, items := [] }

/-- All that has been read, up to here. -/
def toTree (i : Inside) (stop : Place) : Tree :=
  match i.branches with
  | [] => i.branch stop
  | branches => .alternation ⟨i.start, stop⟩ (i.branch stop :: branches).reverse

end Inside

/-- A group that has not been closed, with what stands before it. -/
structure OpenGroup where
  /-- The opening parenthesis. -/
  opening : Span
  kind : Group
  /-- Whether the pattern is verbose around the group. -/
  verbose : Bool
  outside : Inside

/-- What an opening parenthesis begins. -/
inductive Opening where
  | group (opening : Span) (kind : Group)
  /-- Flags for the rest of the group around. -/
  | flags (span : Span) (changes : FlagChanges)

namespace Reading

/-! ## Groups -/

/-- What names of groups are made of; the first character is a letter or an underscore. -/
def isGroupNameChar (first : Bool) (c : Char) : Bool :=
  c == '_' || (if first then Text.isAlphabetic c
    else c == '.' || c == '[' || c == ']' || Text.isAlphanumeric c)

/-- Goes past the characters of a group's name, at most as many as are left. -/
def groupNameChars (first : Bool) : Nat → Reading (List Char)
  | 0 => return []
  | n + 1 => do
    match ← next? with
    | none | some '>' => return []
    | some c =>
      if !isGroupNameChar first c then fail .nameCharacter (← nextSpan)
      advance
      return c :: (← groupNameChars false n)

/-- Reads the name of a group up to the closing angle and remembers it. -/
def groupName : Reading Unit := do
  let start ← place
  let name := String.ofList (← groupNameChars true (← remaining))
  let span ← since start
  if (← next?).isNone then fail .nameUnfinished (← here)
  advance
  if name.isEmpty then fail .nameEmpty (.empty start)
  match (← get).names.lookup name with
  | some first => throw ⟨.nameTwice, span, some first⟩
  | none => modify fun c => { c with names := (name, span) :: c.names }

/-- One of the characters between a question mark and the end of flags. -/
inductive FlagMark where
  | negation
  | flag (f : Flag)
deriving DecidableEq

/-- Reads the marks of flags, at most as many as characters are left. `seen` holds those that came
before, the last first. -/
def flagMarks (seen : List (FlagMark × Span)) : Nat → Reading (List (FlagMark × Span))
  | 0 => return seen.reverse
  | n + 1 => do
    match ← next? with
    | none => fail .flagMissing (← here)
    | some c =>
      if c = ':' || c = ')' then
        match seen with
        | (.negation, span) :: _ => fail .flagDanglingNegation span
        | _ => return seen.reverse
      let span ← nextSpan
      let mark ← if c = '-' then pure .negation else
        match Flag.ofLetter? c with
        | some f => pure (.flag f)
        | none => fail .flagUnknown span
      match seen.lookup mark with
      | some first =>
        throw ⟨if mark = .negation then .flagNegatedTwice else .flagTwice, span, some first⟩
      | none =>
        advance
        if (← next?).isNone then fail .flagMissing (← here)
        flagMarks ((mark, span) :: seen) n

/-- The flags with what they are set to: those after the hyphen are taken away. -/
def changesOf : Bool → List FlagMark → FlagChanges
  | _, [] => []
  | _, .negation :: marks => changesOf false marks
  | on, .flag f :: marks => (f, on) :: changesOf on marks

/-- Reads an opening parenthesis and what tells the kind of the group. -/
def opening : Reading Opening := do
  let span ← nextSpan
  step
  if (← accept "?=") || (← accept "?!") || (← accept "?<=") || (← accept "?<!") then
    fail .lookAround (← since span.start)
  let mark ← here
  if (← accept "?P<") || (← accept "?<") then
    groupName
    return .group span .capturing
  if ← accept "?" then
    if (← next?).isNone then fail .groupUnclosed span
    let marks ← flagMarks [] ((← remaining) + 1)
    let changes := changesOf true (marks.map Prod.fst)
    let last ← next?
    advance
    if last = some ')' then
      if marks.isEmpty then fail .repetitionOfNothing mark
      return .flags (← since span.start) changes
    else return .group span (.plain changes)
  else return .group span .capturing

/-- Whether the pattern is verbose once flags are set. -/
def verboseAfter (changes : FlagChanges) (before : Bool) : Bool :=
  (changes.lookup .verbose).getD before

/-! ## Repetitions -/

/-- The item that a repetition mark repeats. -/
def repeated (i : Inside) : Reading (Tree × Inside) := do
  match i.items with
  | [] | .empty _ :: _ | .flags .. :: _ => fail .repetitionOfNothing (← here)
  | item :: items => return (item, { i with items })

/-- The item repeated, and a question mark behind the mark taken in. -/
def repetition (item : Tree) (least : Nat) (most : Option Nat) : Reading Tree := do
  let lazy ← accept "?"
  return .repetition ⟨item.span.start, ← place⟩ item least most lazy

/-- Reads `?`, `*` or `+`. -/
def shortRepetition (i : Inside) (least : Nat) (most : Option Nat) : Reading Inside := do
  let (item, i) ← repeated i
  advance
  return i.push (← repetition item least most)

/-- Reads the numbers of a counted repetition up to the closing brace. -/
def counts (start : Place) : Reading (Nat × Option Nat) := do
  let unclosed {α : Type} : Reading α := do fail .countUnclosed (← since start)
  let first ← decimal .countEmpty
  match ← next? with
  | none => unclosed
  | some ',' =>
    step
    match ← next? with
    | none => unclosed
    | some '\x7d' => return (← ofExcept first, none)
    | some _ =>
      let least ← ofExcept first
      return (least, some (← ofExcept (← decimal .countEmpty)))
  | some _ =>
    let count ← ofExcept first
    return (count, some count)

/-- Reads a counted repetition. -/
def countedRepetition (i : Inside) : Reading Inside := do
  let start ← place
  let (item, i) ← repeated i
  step
  if (← next?).isNone then fail .countUnclosed (← since start)
  let (least, most) ← counts start
  if (← next?) != some '\x7d' then fail .countUnclosed (← since start)
  step
  let tree ← repetition item least most
  if most.any (· < least) then fail .countOrder (← since start)
  return i.push tree

/-! ## The whole -/

/-- Reads an item that begins with none of the characters that join or repeat items. -/
def item (c : Char) : Reading Tree := do
  let span ← nextSpan
  match c with
  | '[' => return .oneOf (← bracket)
  | '\\' =>
    match ← escape with
    | .literal l => return .literal l
    | .chars chars => return .oneOf chars
    | .assertion span kind => return .assertion span kind
  | _ =>
    advance
    match c with
    | '.' => return .dot span
    | '^' => return .assertion span .lineStart
    | '$' => return .assertion span .lineEnd
    | _ => return .literal ⟨span, c, false⟩

/-- Reads the rest of a pattern, inside groups that have not been closed, the innermost first. Each
round goes past a character. -/
def groups : Nat → List OpenGroup → Inside → Reading Tree
  | 0, _, i => return i.toTree (← place)
  | n + 1, outer, i => do
    skip
    match ← next? with
    | none =>
      match outer with
      | [] => return i.toTree (← place)
      | g :: _ => fail .groupUnclosed g.opening
    | some '(' =>
      match ← opening with
      | .flags span changes =>
        modify fun c => { c with verbose := verboseAfter changes c.verbose }
        groups n outer (i.push (.flags span changes))
      | .group span kind =>
        let verbose := (← get).verbose
        modify fun c => { c with verbose := verboseAfter kind.changes verbose }
        groups n (⟨span, kind, verbose, i⟩ :: outer) (.empty (← place))
    | some ')' =>
      match outer with
      | [] => fail .groupUnopened (← nextSpan)
      | g :: others =>
        let body := i.toTree (← place)
        modify fun c => { c with verbose := g.verbose }
        advance
        groups n others (g.outside.push (.group (← since g.opening.start) g.kind body))
    | some '|' =>
      let stop ← place
      advance
      groups n outer (i.nextBranch stop (← place))
    | some '?' => groups n outer (← shortRepetition i 0 (some 1))
    | some '*' => groups n outer (← shortRepetition i 0 none)
    | some '+' => groups n outer (← shortRepetition i 1 none)
    | some '\x7b' => groups n outer (← countedRepetition i)
    | some c => groups n outer (i.push (← item c))

end Reading

/-- The tree of a pattern, or what is wrong with it. -/
def Tree.read (pattern : String) : Except Flaw Tree :=
  let cursor := Cursor.start pattern
  match (Reading.groups (cursor.rest.length + 1) [] (.empty .start)).run cursor with
  | .error flaw _ => .error flaw
  | .ok tree _ =>
    match tree.tooDeep? depthLimit with
    | some span => .error ⟨.tooDeep, span, none⟩
    | none => .ok tree

end Songbook.Pattern
