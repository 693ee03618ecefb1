import Songbook.Chord.Note
import Songbook.Problem
import Songbook.Text.Blank
import Songbook.Text.Case

/-!
# Chord names

A chord name is a root note, a quality and perhaps a bass note after a slash, all of it in
parentheses or not. Moving a name by a number of semitones moves root and bass and leaves the rest.
-/

namespace Songbook

/-- A chord name in parts. `lead` is an opening parenthesis or nothing, `tail` what follows the
bass note. -/
structure ChordName where
  lead : String
  root : Note
  quality : String
  bass : Option Note
  tail : String
deriving DecidableEq, Repr

namespace ChordName

/-- A bass note after the last slash, at the end of the name or before a closing parenthesis. -/
def readBass? (cs : List Char) : Option (List Char × Note × List Char) := do
  let (quality, after) ← Text.splitLast? '/' cs
  let (bass, tail) ← Note.read? after
  if tail = [] ∨ tail = [')'] then some (quality, bass, tail) else none

/-- Takes an opening parenthesis off the text. -/
def splitLead : List Char → List Char × List Char
  | '(' :: cs => (['('], cs)
  | cs => ([], cs)

def read? (name : String) : Option ChordName :=
  let (lead, body) := splitLead name.toList
  (Note.read? body).map fun (root, rest) =>
    match readBass? rest with
    | some (quality, bass, tail) =>
      ⟨String.ofList lead, root, String.ofList quality, some bass, String.ofList tail⟩
    | none => ⟨String.ofList lead, root, String.ofList rest, none, ""⟩

def text (n : ChordName) : String :=
  n.lead ++ n.root.text ++ n.quality ++
    (match n.bass with
      | some bass => "/" ++ bass.text
      | none => "") ++ n.tail

def transpose (n : ChordName) (semitones : Int) : ChordName :=
  let spelling := Spelling.ofShift semitones
  { n with
    root := n.root.transpose semitones spelling
    bass := n.bass.map (·.transpose semitones spelling) }

/-- The mark for playing no chord, which is neither moved nor looked up. -/
def isNoChord (name : String) : Bool :=
  Text.sameLetters name "N.C."

/-- Moves a name by a number of semitones. Whole octaves leave it as it is written. -/
def transposeText (name : String) (semitones : Int) : Except Problem String :=
  if isNoChord name || semitones % 12 == 0 then .ok name
  else match read? name with
    | some n => .ok (n.transpose semitones).text
    | none => .error (.transpose name)

theorem splitLead_append (cs : List Char) : (splitLead cs).1 ++ (splitLead cs).2 = cs := by
  unfold splitLead
  split <;> simp_all

end ChordName

end Songbook
