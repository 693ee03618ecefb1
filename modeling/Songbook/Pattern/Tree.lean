import Songbook.Pattern.Flaw

/-!
# Patterns as they are written

The parts of a pattern with their places. What a part means depends on the flags in force there;
see the module on meaning.
-/

namespace Songbook.Pattern

/-- A character that stands for itself, however it is written. -/
structure Literal where
  span : Span
  char : Char
  /-- Written as `\x` and two digits, which among bytes means a byte. -/
  asByte : Bool
deriving DecidableEq, Repr

/-- The named classes of ASCII characters. -/
inductive AsciiClass where
  | alnum
  | alpha
  | ascii
  | blank
  | cntrl
  | digit
  | graph
  | lower
  | print
  | punct
  | space
  | upper
  | word
  | xdigit
deriving DecidableEq, Repr

namespace AsciiClass

/-- The class of a name between colons. -/
def ofName? : String → Option AsciiClass
  | "alnum" => some .alnum
  | "alpha" => some .alpha
  | "ascii" => some .ascii
  | "blank" => some .blank
  | "cntrl" => some .cntrl
  | "digit" => some .digit
  | "graph" => some .graph
  | "lower" => some .lower
  | "print" => some .print
  | "punct" => some .punct
  | "space" => some .space
  | "upper" => some .upper
  | "word" => some .word
  | "xdigit" => some .xdigit
  | _ => none

end AsciiClass

/-- How two classes make one. -/
inductive SetOperation where
  | intersection
  | difference
  | symmetricDifference
deriving DecidableEq, Repr

/-- A class of characters. -/
inductive CharClass where
  | empty (span : Span)
  | literal (l : Literal)
  | range (span : Span) (first last : Literal)
  /-- A class between brackets and colons. -/
  | named (span : Span) (name : AsciiClass) (negated : Bool)
  /-- A class with a letter and a backslash: digits, blanks and word characters. -/
  | lettered (span : Span) (name : AsciiClass) (negated : Bool)
  /-- A Unicode property. -/
  | property (span : Span) (name : String)
  | bracketed (span : Span) (negated : Bool) (body : CharClass)
  | union (span : Span) (parts : List CharClass)
  | combined (span : Span) (operation : SetOperation) (left right : CharClass)
deriving Repr

namespace CharClass

def span : CharClass → Span
  | .empty span | .range span .. | .named span .. | .lettered span .. | .property span _
  | .bracketed span .. | .union span _ | .combined span .. => span
  | .literal l => l.span

end CharClass

/-- What is asked of a place between two characters. -/
inductive Assertion where
  | lineStart
  | lineEnd
  | textStart
  | textEnd
  | wordBoundary
  | noWordBoundary
  | wordStart
  | wordEnd
  /-- No word character before. -/
  | wordStartHalf
  /-- No word character after. -/
  | wordEndHalf
deriving DecidableEq, Repr

inductive Flag where
  /-- Letter case does not matter. -/
  | anyCase
  /-- Line assertions hold at every line. -/
  | multiLine
  /-- The dot matches line ends. -/
  | dotAll
  /-- Repetitions prefer to be short. -/
  | lazy
  /-- Classes are of characters, not of bytes. -/
  | unicode
  /-- Carriage returns end lines too. -/
  | carriageReturns
  /-- Blanks and comments in the pattern are skipped. -/
  | verbose
deriving DecidableEq, Repr

/-- The letters of flags. -/
def Flag.ofLetter? : Char → Option Flag
  | 'i' => some .anyCase
  | 'm' => some .multiLine
  | 's' => some .dotAll
  | 'U' => some .lazy
  | 'u' => some .unicode
  | 'R' => some .carriageReturns
  | 'x' => some .verbose
  | _ => none

/-- Flags with what they are set to. -/
abbrev FlagChanges := List (Flag × Bool)

inductive Group where
  /-- The text that the group matches is remembered. -/
  | capturing
  | plain (changes : FlagChanges)
deriving DecidableEq, Repr

/-- The flags that hold inside a group. -/
def Group.changes : Group → FlagChanges
  | .capturing => []
  | .plain changes => changes

inductive Tree where
  | empty (span : Span)
  /-- Sets flags for the rest of the group around. -/
  | flags (span : Span) (changes : FlagChanges)
  | literal (l : Literal)
  | dot (span : Span)
  | assertion (span : Span) (kind : Assertion)
  | oneOf (chars : CharClass)
  | repetition (span : Span) (body : Tree) (least : Nat) (most : Option Nat) (lazy : Bool)
  | group (span : Span) (kind : Group) (body : Tree)
  | alternation (span : Span) (branches : List Tree)
  | sequence (span : Span) (items : List Tree)
deriving Repr

namespace Tree

def span : Tree → Span
  | .empty span | .flags span _ | .dot span | .assertion span _ | .repetition span ..
  | .group span .. | .alternation span _ | .sequence span _ => span
  | .literal l => l.span
  | .oneOf chars => chars.span

/-- Items one after the other. -/
def ofItems (span : Span) : List Tree → Tree
  | [] => .empty span
  | [item] => item
  | items => .sequence span items

end Tree

/-! ## Depth -/

mutual

/-- The first part of a class that is nested deeper than `room` allows. -/
def CharClass.tooDeep? : Nat → CharClass → Option Span
  | 0, .bracketed span .. | 0, .union span _ | 0, .combined span .. => some span
  | room + 1, .bracketed _ _ body => body.tooDeep? room
  | room + 1, .union _ parts => tooDeepParts? room parts
  | room + 1, .combined _ _ left right => (left.tooDeep? room).or (right.tooDeep? room)
  | _, _ => none

def tooDeepParts? (room : Nat) : List CharClass → Option Span
  | [] => none
  | part :: parts => (part.tooDeep? room).or (tooDeepParts? room parts)

end

mutual

/-- The first part of a pattern that is nested deeper than `room` allows. -/
def Tree.tooDeep? : Nat → Tree → Option Span
  | 0, .repetition span .. | 0, .group span .. | 0, .alternation span _ | 0, .sequence span _ =>
    some span
  | room, .oneOf chars => chars.tooDeep? room
  | room + 1, .repetition _ body .. => body.tooDeep? room
  | room + 1, .group _ _ body => body.tooDeep? room
  | room + 1, .alternation _ branches => tooDeepItems? room branches
  | room + 1, .sequence _ items => tooDeepItems? room items
  | _, _ => none

def tooDeepItems? (room : Nat) : List Tree → Option Span
  | [] => none
  | item :: items => (item.tooDeep? room).or (tooDeepItems? room items)

end

end Songbook.Pattern
