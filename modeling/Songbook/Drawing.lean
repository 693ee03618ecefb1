import Songbook.Chord.Definition
import Songbook.Line
import Songbook.Page.Geometry
import Songbook.Style.Font

/-!
# Drawings

What a document is made of. Only the device knows how wide a text is, so it places the chords over
a line and aligns and decorates texts itself; everything else is placed by whoever draws.
-/

namespace Songbook

/-- A point of a page, from its bottom left corner. -/
structure Point (L : Type) where
  h : L
  v : L
deriving DecidableEq, Repr

/-- A change of coordinates: a shift, then a scale, then a turn in degrees. -/
structure Transform (L : Type) where
  shift : L × L
  scale : L
  rotation : L
deriving Repr

namespace Transform

variable {L : Type} [Length L]

def translate (h v : L) : Transform L := ⟨(h, v), 1, 0⟩

def scaleRotate (scale rotation : L) : Transform L := ⟨(0, 0), scale, rotation⟩

end Transform

/-- Where a text stands relative to the current point. -/
inductive Align where
  | left
  | center
  /-- The text ends at the current point. -/
  | right
deriving DecidableEq, Repr

inductive Decoration where
  | plain
  /-- On a grey band. -/
  | shaded
  /-- In a frame. -/
  | boxed
deriving DecidableEq, Repr

inductive Drawing (L : Type) where
  | beginDocument (geometry : PageGeometry L)
  | endDocument (sheets : Nat)
  | beginSheet (number : Nat)
  | endSheet (number : Nat)
  /-- Applies on top of the changes already made on this sheet. -/
  | transform (change : Transform L)
  /-- Takes back every change made on this sheet. -/
  | resetTransform
  | moveTo (point : Point L)
  | text (text : String) (slot : FontSlot) (font : Font) (align : Align) (decoration : Decoration)
  /-- The chords of a line on a row of their own. Each begins over its place in the lyrics, or
  where the chord before it ends if that is further right. -/
  | chords (line : Line) (textFont chordFont : Font)
  | stroke (points : List (Point L)) (width : L)
  /-- The diagram of a chord, its top left corner at the current point. -/
  | diagram (chord : ChordDefinition) (label : Option String) (font : Font) (size : L)
deriving Repr

/-- Where a device ends: how many drawings there is room for, and why it refuses the next. -/
structure Limit where
  capacity : Nat
  reason : String
deriving DecidableEq, Repr

/-- What drawings are handed to. It remembers all of them, and once it is full it refuses every
further one. -/
structure Device (L : Type) where
  received : Array (Drawing L)
  limit : Option Limit

namespace Device

variable {L : Type}

def unlimited : Device L := ⟨#[], none⟩

def limited (limit : Limit) : Device L := ⟨#[], some limit⟩

/-- Why the next drawing will be refused, if it will be. -/
def refusal? (d : Device L) : Option String :=
  match d.limit with
  | some limit => if limit.capacity ≤ d.received.size then some limit.reason else none
  | none => none

/-- Hands over a drawing, and tells why it was refused if it was. -/
def draw (d : Device L) (drawing : Drawing L) : Device L × Option String :=
  ({ d with received := d.received.push drawing }, d.refusal?)

/-- The number of drawings it has taken. -/
def accepted (d : Device L) : Nat :=
  match d.limit with
  | some limit => min limit.capacity d.received.size
  | none => d.received.size

end Device

end Songbook
