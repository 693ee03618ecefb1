import Songbook.Pattern.ByteRanges
import Songbook.Pattern.Joining

/-!
# The room that expressions take

How many bytes an expression takes when it is made ready for matching: the states of an automaton
over bytes, with what leads from each to others. There is one automaton that reads forward and
remembers groups, and one that reads backward and does not.
-/

namespace Songbook.Pattern

inductive Direction where
  | forward
  | backward
deriving DecidableEq, Repr

/-! ## Sizes -/

/-- A state, with one way on at most. -/
def stateRoom : Nat := 32

/-- A way on for some bytes, where there are several. -/
def arrowRoom : Nat := 8

/-- A way on for no bytes, where there are several. -/
def forkRoom : Nat := 4

/-- A state that chooses between two ways. -/
def choiceRoom : Nat := stateRoom + 2 * forkRoom

/-- A state with a way on for each of several ranges of bytes. -/
def rangesRoom (count : Nat) : Nat := stateRoom + arrowRoom * count

/-! ## Sets of characters -/

/-- What may follow each range that byte ranges begin with. Equal ranges stand together. -/
def followers (rows : List ByteRanges) : List (List ByteRanges) :=
  (rows.splitBy fun a b => a.head? == b.head?).map fun group => group.map (List.drop 1)

/-- All that is left to read at some place between the bytes of a character: characters have at
most four. -/
def states : Nat → List ByteRanges → List (List ByteRanges)
  | 0, _ => []
  | bytes + 1, rows =>
    if rows.all List.isEmpty then [] else rows :: (followers rows).flatMap (states bytes)

/-- The room of a set. Forward, places with the same left to read are one state; backward, places
with the same read. -/
def CharSet.room (d : Direction) (s : CharSet) : Nat :=
  if s.isAscii then stateRoom + rangesRoom s.length
  else
    let rows := ByteRanges.ofSet s
    match d with
    | .forward =>
      (states 4 rows).eraseDups.foldl
        (fun room rest => room + rangesRoom (followers rest).length) stateRoom
    | .backward =>
      let read := rows.flatMap fun row => (List.range row.length).map fun i => row.take (i + 1)
      2 * stateRoom + forkRoom * rows.length + stateRoom * read.eraseDups.length

example : CharSet.room .forward [(0x00, 0x09), (0x0B, 0x10FFFF)] = 424 := by decide +kernel

/-! ## Words -/

/-- The bytes of a text, in the order they are read in. -/
def bytesOf (d : Direction) (chars : List Char) : List UInt8 :=
  let bytes := chars.flatMap String.utf8EncodeChar
  match d with
  | .forward => bytes
  | .backward => bytes.reverse

/-- The words without the empty ones, in parts between which the empty ones stood. One of several
empty words in front counts. -/
def chunks (words : List (List UInt8)) : List (List (List UInt8)) :=
  let later := words.dropWhile List.isEmpty
  let parts := later.foldr (fun word parts =>
    if word.isEmpty then [] :: parts
    else (word :: parts.headD []) :: parts.drop 1) [[]]
  if words.head?.any List.isEmpty then [] :: parts else parts

/-- The words that begin with each byte, without that byte. -/
def byFirst (words : List (List UInt8)) : List (List (List UInt8)) :=
  (words.filterMap List.head?).eraseDups.map fun b =>
    (words.filter fun word => word.head? = some b).map (List.drop 1)

/-- The room of a choice between words of at most `length` bytes. Words that begin alike share
states as long as no word between them ends there. -/
def wordsRoom : Nat → List (List UInt8) → Nat
  | 0, _ => 0
  | length + 1, words =>
    if words.all List.isEmpty then 0
    else
      let parts := chunks words
      let filled := parts.filter (!·.isEmpty)
      let fork := stateRoom + forkRoom * (filled.length + parts.length - 1)
      filled.foldl (fun room part =>
        let next := byFirst part
        let way := if next.length = 1 then stateRoom else rangesRoom next.length
        next.foldl (fun room rests => room + wordsRoom length rests) (room + way)) fork

namespace Expression

/-- The branches of an alternative, if all are literals. -/
def words? : Expression → Option (List (List Char))
  | .literal chars => some [chars]
  | .either (.literal chars) second => second.words?.map (chars :: ·)
  | _ => none

/-- The fewest bytes that can match, if anything can. -/
def minLength : Expression → Option Nat
  | .empty | .look _ => some 0
  | .literal chars => some (chars.flatMap String.utf8EncodeChar).length
  | .oneOf set => if set.isEmpty then none else some 1
  | .sequence first second => return (← first.minLength) + (← second.minLength)
  | .either first second => return min (← first.minLength) (← second.minLength)
  | .repetition body least .. => return (← body.minLength) * least
  | .captured _ body => body.minLength

/-- The room of a repetition. -/
def repetitionRoom (body : Expression) (room : Nat) (least : Nat) : Option Nat → Nat
  | none =>
    if 0 < least then least * room + choiceRoom
    else if body.minLength.any (0 < ·) then room + choiceRoom
    else room + 2 * choiceRoom + stateRoom
  | some most =>
    if least = 0 ∧ most = 1 then room + choiceRoom + stateRoom
    else if least = most then least * room
    else
      let needed := if least = 0 then stateRoom else least * room
      needed + stateRoom + (most - least) * (room + choiceRoom)

/-- The room of an expression. `counted` tells that it is the rest of an alternative, the first
branch of which has been counted. -/
def bodyRoom (d : Direction) (counted : Bool) : Expression → Nat
  | .empty | .look _ => stateRoom
  | .literal chars => stateRoom * (bytesOf d chars).length
  | .oneOf set => set.room d
  | .sequence first second => first.bodyRoom d false + second.bodyRoom d false
  | .either first second =>
    match if counted then none else (Expression.either first second).words? with
    | some words =>
      let words := words.map (bytesOf d)
      stateRoom + wordsRoom ((words.map List.length).foldl max 0) words
    | none =>
      let branch := forkRoom + first.bodyRoom d false
      let ends := if counted then 0 else 2 * stateRoom + forkRoom
      ends + branch + second.bodyRoom d true
  | .repetition body least most _ =>
    repetitionRoom body (body.bodyRoom d false) least most
  | .captured _ body =>
    let marks := match d with
      | .forward => 2 * stateRoom
      | .backward => 0
    marks + body.bodyRoom d false

/-- A match can only be where the text begins. -/
def startsText : Expression → Bool
  | .look l => l = .textStart
  | .captured _ body => body.startsText
  | .repetition body least .. => 0 < least && body.startsText
  | .sequence first second =>
    first.startsText || (first.matchesOnlyEmpty && second.startsText)
  | .either first second => first.startsText && second.startsText
  | .empty | .literal _ | .oneOf _ => false

/-- A match can only be where the text ends. -/
def endsText : Expression → Bool
  | .look l => l = .textEnd
  | .captured _ body => body.endsText
  | .repetition body least .. => 0 < least && body.endsText
  | .sequence first second =>
    second.endsText || (second.matchesOnlyEmpty && first.endsText)
  | .either first second => first.endsText && second.endsText
  | .empty | .literal _ | .oneOf _ => false

/-- The room of the automaton for an expression, with a state for the match and, forward, two
that remember where it is. Any bytes may come before, unless the match has to be at the end of the
text that the automaton starts from. -/
def room (d : Direction) (e : Expression) : Nat :=
  let anything := stateRoom + rangesRoom 1 + choiceRoom
  let around := match d with
    | .forward => 3 * stateRoom + if e.startsText then stateRoom else anything
    | .backward => stateRoom + if e.endsText then stateRoom else anything
  around + e.bodyRoom d false

example : Expression.bodyRoom .forward false
    (.either (.literal ['f', 'o', 'o']) (.either (.literal ['f', 'o', 'o', 'b', 'a', 'r'])
      (.literal ['b', 'a', 'r']))) = 596 := by
  decide +kernel

end Expression

end Songbook.Pattern
