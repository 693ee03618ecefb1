import Songbook.Chord.Builtin

/-!
# The chord book

The chords that definitions have given so far, and those that the current song uses. A name that a
song uses without a definition is entered as a stub.
-/

namespace Songbook

/-- One definition a name, the latest first, and the names used in order of first use. -/
structure ChordBook where
  definitions : List ChordDefinition
  used : List String
  autoAdjust : Bool
deriving DecidableEq, Repr

namespace ChordBook

def empty (autoAdjust : Bool) : ChordBook := ⟨[], [], autoAdjust⟩

/-- The definition entered for a name. -/
def defined? (b : ChordBook) (name : String) : Option ChordDefinition :=
  b.definitions.find? (·.name == name)

/-- The definition in force: the one entered, else the builtin one. -/
def get? (b : ChordBook) (name : String) : Option ChordDefinition :=
  b.defined? name <|> ChordDefinition.builtin? name

/-- Enters a definition in place of any other of its name. -/
def insert (b : ChordBook) (d : ChordDefinition) : ChordBook :=
  { b with definitions := d :: b.definitions.filter (·.name != d.name) }

/-- Counts a name as used and makes sure that it is known. -/
def use (b : ChordBook) (name : String) : ChordBook :=
  let b := if b.used.contains name then b else { b with used := b.used ++ [name] }
  if (b.get? name).isSome then b else b.insert (.stub name)

/-- The definition fitted to a diagram, if the book does so, and what that did. -/
def fitted (b : ChordBook) (d : ChordDefinition) : ChordDefinition × Adjustment :=
  match b.autoAdjust, d.fingering with
  | true, some f =>
    let (f, adjustment) := f.adjust diagramRows
    ({ d with fingering := some f }, adjustment)
  | _, _ => (d, .kept)

/-- Enters a definition, fitted. One that cannot be fitted is entered all the same. -/
def define (b : ChordBook) (d : ChordDefinition) : ChordBook × Adjustment :=
  let (d, adjustment) := b.fitted d
  (b.insert d, adjustment)

/-- The problem of a definition whose fingering is too wide. -/
def problem? (name : String) : Adjustment → Option Problem
  | .tooWide span => some (.ungridable name span)
  | _ => none

/-- The definitions of the chords used, in order of first use. -/
def usedDefinitions (b : ChordBook) : List ChordDefinition :=
  b.used.filterMap b.get?

/-- Forgets the chords used, and the song's definitions if they are not kept. -/
def startSong (b : ChordBook) (dropSongDefinitions : Bool) : ChordBook :=
  { b with
    used := []
    definitions :=
      if dropSongDefinitions then b.definitions.filter (·.origin != .song) else b.definitions }

/-- A builtin chord that no other definition has replaced. -/
def keepsBuiltin (b : ChordBook) (d : ChordDefinition) : Bool :=
  match b.defined? d.name with
  | some other => other.origin == .builtin
  | none => true

/-- The definitions of the configuration, sorted by name. -/
def configured (b : ChordBook) : List ChordDefinition :=
  (b.definitions.filter fun d => d.origin == .configuration && !d.isStub).mergeSort
    fun d e => !decide (e.name < d.name)

/-- Every chord known outside songs: the builtin ones, then those of the configuration. -/
def known (b : ChordBook) : List ChordDefinition :=
  ChordDefinition.builtins.filter b.keepsBuiltin ++ b.configured

/-- How a listing names an origin, in eight columns. -/
def originColumn : Origin → String
  | .builtin => "builtin "
  | .configuration => "chordrc "
  | .song => "song    "

/-- One line for each chord known. -/
def listing (b : ChordBook) : String :=
  String.join (b.known.map fun d => originColumn d.origin ++ " " ++ d.text ++ "\n")

theorem defined?_insert (b : ChordBook) (d : ChordDefinition) (name : String) :
    (b.insert d).defined? name = if d.name = name then some d else b.defined? name := by
  unfold defined? insert
  by_cases h : d.name = name
  · simp [h]
  · have : (d.name == name) = false := by simpa using h
    simp only [List.find?_cons, this, if_neg h, List.find?_filter]
    congr 1
    funext e
    by_cases he : e.name = name
    · simp [he, Ne.symm h]
    · simp [he]

end ChordBook

end Songbook
