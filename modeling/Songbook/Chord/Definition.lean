import Songbook.Chord.Fingering
import Songbook.Decimal.Integer
import Songbook.Problem
import Songbook.Text.Blank
import Songbook.Text.Case

/-!
# Chord definitions

A chord's fingering as a song or a configuration file defines it. The arguments are a name, then
either the words `base-fret` and `frets` with their values or six frets and a base fret in a fixed
order.
-/

namespace Songbook

/-- Where a definition comes from. -/
inductive Origin where
  | builtin
  | configuration
  | song
deriving DecidableEq, Repr

inductive Difficulty where
  | easy
  | hard
deriving DecidableEq, Repr

/-- A chord known by name, with its fingering unless only the name is known. -/
structure ChordDefinition where
  name : String
  origin : Origin
  difficulty : Difficulty
  fingering : Option Fingering
deriving DecidableEq, Repr

/-- Where the base fret stands when no words tell it. -/
inductive FretOrder where
  | baseFirst
  | baseLast
deriving DecidableEq, Repr

namespace ChordDefinition

/-- A chord of which only the name is known. -/
def stub (name : String) : ChordDefinition :=
  ⟨name, .song, .hard, none⟩

def isStub (d : ChordDefinition) : Bool := d.fingering.isNone

/-- What is printed beside the diagram of a chord that the song defines. -/
def label? (d : ChordDefinition) : Option String :=
  if d.origin = .song ∧ d.fingering.isSome then some "*" else none

/-- The definition as it could be written in a song. -/
def text (d : ChordDefinition) : String :=
  match d.fingering with
  | none => d.name
  | some f =>
    " ".intercalate ([d.name, "base-fret", toString f.baseFret, "frets"] ++ f.relativeText)

/-- A row of the diagram: a mark for a muted string or a number that is not negative. -/
def readFret (name word : String) : Except Problem Int :=
  if word = "x" ∨ word = "X" ∨ word = "-" then .ok (-1)
  else match Decimal.integerIn? (-128) 127 word with
    | some n =>
      if 0 ≤ n then .ok n else .error (.invalidChordDefinition name (.badFret word))
    | none => .error (.invalidChordDefinition name (.badFret word))

def readBase (name word : String) : Except Problem Nat :=
  match Decimal.integerIn? 0 lastFret word with
  | some n =>
    if 1 ≤ n then .ok n.toNat else .error (.invalidChordDefinition name (.badBase word))
  | none => .error (.invalidChordDefinition name (.badBase word))

/-- The first six words as rows, read from the first to the last. -/
def readFrets (name : String) : List String → Except Problem (Vector Int strings)
  | a :: b :: c :: d :: e :: f :: _ => do
    let a ← readFret name a
    let b ← readFret name b
    let c ← readFret name c
    let d ← readFret name d
    let e ← readFret name e
    let f ← readFret name f
    return #v[a, b, c, d, e, f]
  | words => .error (.invalidChordDefinition name (.tooFewFrets words.length))

def isBaseWord (word : String) : Bool := Text.sameLetters word "base-fret"

def isFretsWord (word : String) : Bool := Text.sameLetters word "frets"

/-- Reads `base-fret` and `frets` with their values in any order; the last of each counts. -/
def readNamed (name : String) (words : List String) (base : Nat)
    (frets : Option (Vector Int strings)) : Except Problem (Nat × Vector Int strings) :=
  match words with
  | [] =>
    match frets with
    | some frets => .ok (base, frets)
    | none => .error (.invalidChordDefinition name .noFrets)
  | word :: rest =>
    if isBaseWord word then
      match rest with
      | [] => .error (.invalidChordDefinition name .baseWithoutValue)
      | value :: rest => do
        let base ← readBase name value
        readNamed name rest base frets
    else if isFretsWord word then do
      let frets ← readFrets name (rest.take strings)
      readNamed name (rest.drop strings) base (some frets)
    else .error (.invalidChordDefinition name (.unexpected word))
termination_by words.length
decreasing_by
  all_goals simp only [List.length_cons, List.length_drop]
  all_goals omega

/-- Reads six frets and a base fret in the given order. At the end the base fret may be left out. -/
def readOrdered (name : String) (words : List String) :
    FretOrder → Except Problem (Nat × Vector Int strings)
  | .baseFirst => do
    let base ← readBase name (words.headD "")
    let frets ← readFrets name words.tail
    return (base, frets)
  | .baseLast => do
    let frets ← readFrets name words
    match words[strings]? with
    | some word =>
      let base ← readBase name word
      return (base, frets)
    | none => return (1, frets)

/-- Reads the arguments of a definition. -/
def read (args : String) (order : FretOrder) (origin : Origin) : Except Problem ChordDefinition :=
  match Text.words args with
  | [] => .error (.missingArgument "define")
  | name :: words =>
    if words.isEmpty then .error (.invalidChordDefinition name .noFingering)
    else do
      let (base, rows) ←
        if words.any fun w => isBaseWord w || isFretsWord w then readNamed name words 1 none
        else readOrdered name words order
      match Fingering.ofRows? base rows with
      | some fingering => return ⟨name, origin, .hard, some fingering⟩
      | none => .error (.invalidChordDefinition name (.outOfRange base))

end ChordDefinition

end Songbook
