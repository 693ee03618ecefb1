import Songbook.PostScript.Pen

/-!
# Chord diagrams in PostScript

The strings are six upright lines and the frets six level ones, from the base fret down. Over a
string stands a ring if it is open and a cross if it is muted; a dot marks where it is held.
-/

namespace Songbook.PostScript

variable {L : Type} [Length L]

/-- Where the parts of a diagram are. -/
structure DiagramFrame (L : Type) where
  left : L
  top : L
  size : L
deriving Repr

namespace DiagramFrame

/-- The distance of two strings. -/
def step (f : DiagramFrame L) : L := f.size / Length.ofInt (strings - 1 : Nat)

/-- The distance of two frets. -/
def row (f : DiagramFrame L) : L := f.size / Length.ofInt diagramRows

def marker (f : DiagramFrame L) : L := f.step / 4

/-- The frame under a name whose baseline is at `nameLine`. -/
def below (left nameLine size : L) : DiagramFrame L :=
  let marker := DiagramFrame.marker ⟨left, nameLine, size⟩
  ⟨left, nameLine - 4 - 2 * marker - 2, size⟩

def right (f : DiagramFrame L) : L := f.left + f.size

def bottom (f : DiagramFrame L) : L := f.top - f.size

/-- The place of a string, counted from zero. -/
def stringAt (f : DiagramFrame L) (string : Nat) : L := f.left + Length.ofInt string * f.step

/-- The place of the fret under so many rows. -/
def fretAt (f : DiagramFrame L) (rows : Nat) : L := f.top - Length.ofInt rows * f.row

/-- The baseline of what is written beside the first row. -/
def beside (f : DiagramFrame L) : L := f.top - f.row + 2

def lines (f : DiagramFrame L) : List (Row L) :=
  [code [.op .gsave, .length 0.5, .op .setlinewidth, .op .newpath]] ++
  ((List.range strings).map fun s =>
    code (moveTo (f.stringAt s) f.top ++ lineTo (f.stringAt s) f.bottom)) ++
  ((List.range (diagramRows + 1)).map fun r =>
    code (moveTo f.left (f.fretAt r) ++ lineTo f.right (f.fretAt r))) ++
  [code [.op .stroke]]

/-- The nut of the neck as a thick line, or the number of the base fret beside its row. -/
def base (f : DiagramFrame L) (baseFret : Nat) : List (Row L) :=
  if baseFret = 1 then
    [code [.integer 2, .op .setlinewidth, .op .newpath],
     code (moveTo f.left f.top ++ lineTo f.right f.top ++ [.op .stroke])]
  else
    [code (moveTo (f.left - f.marker) f.beside),
     code (showAligned (toString baseFret) .right)]

/-- The base fret as it was written, if it has been moved. -/
def written (f : DiagramFrame L) : Option Nat → List (Row L)
  | none => []
  | some base =>
    [code (moveTo (f.right + f.marker) f.beside),
     code (showAligned ("was " ++ toString base) .left)]

def ring (f : DiagramFrame L) (x : L) : Row L :=
  code [.op .newpath, .length x, .length (f.top + f.marker + 1), .length f.marker, .call "ring"]

def cross (f : DiagramFrame L) (x : L) : Row L :=
  let low := f.top + 1
  let high := low + 2 * f.marker
  code ([.op .newpath] ++
    moveTo (x - f.marker) low ++ lineTo (x + f.marker) high ++
    moveTo (x + f.marker) low ++ lineTo (x - f.marker) high ++ [.op .stroke])

/-- A dot in the middle of a row, counted from one. -/
def dot (f : DiagramFrame L) (x : L) (row : Int) : Row L :=
  code [.op .newpath, .length x, .length (f.top - (Length.ofInt row - 0.5) * f.row),
    .length (f.marker * 1.5), .call "dot"]

/-- The mark of a string. Frets outside the diagram have none. -/
def mark? (f : DiagramFrame L) (fingering : Fingering) (string : Nat) (fret : Fret) :
    Option (Row L) :=
  let x := f.stringAt string
  match fret with
  | .openString => some (f.ring x)
  | .muted => some (f.cross x)
  | .held n =>
    let row := fingering.row n
    if 1 ≤ row ∧ row ≤ diagramRows then some (f.dot x row) else none

def marks (f : DiagramFrame L) (fingering : Fingering) : List (Row L) :=
  fingering.frets.toList.zipIdx.filterMap fun (fret, string) => f.mark? fingering string fret

/-- All of a diagram but its name. -/
def rows (f : DiagramFrame L) (fingering : Fingering) : List (Row L) :=
  f.lines ++ f.base fingering.baseFret ++ f.written fingering.adjustedFrom ++
    [code [.length 0.5, .op .setlinewidth]] ++ f.marks fingering ++ [code [.op .grestore]]

end DiagramFrame

/-- A chord's name, its label, and the diagram under them if its fingering is known. -/
def diagram (current : Option Font) (chord : ChordDefinition) (label : Option String) (font : Font)
    (size : L) (origin : Point L) : List (Row L) :=
  let nameLine := origin.v - Length.ofInt font.size
  selectFont current font ++
  [code (moveTo (origin.h + size / 2) nameLine), code (showAligned chord.name .center)] ++
  (match label with
    | some text => [code (showAligned text .left)]
    | none => []) ++
  (match chord.fingering with
    | some fingering => (DiagramFrame.below origin.h nameLine size).rows fingering
    | none => [])

end Songbook.PostScript
