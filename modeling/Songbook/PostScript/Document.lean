import Songbook.PostScript.Diagram

/-!
# PostScript documents

Each drawing as rows of code. Sheets are set apart by comments; a sheet begins by saving the
graphics state, and going back to that state takes back every change of coordinates.
-/

namespace Songbook.PostScript

/-- The program that documents say they come from. -/
def creator : String := "chordsheet 0.3.0"

variable {L : Type} [Length L]

/-- The beginning of a document. -/
def prologue (g : PageGeometry L) : List (Row L) :=
  [.comment "Title: A song",
   .comment ("Creator: " ++ creator),
   .comment "Pages: (atend)",
   .comment ("BoundingBox: 5 5 " ++ Length.text (g.width - 7) ++ " " ++ Length.text (g.top + 31)),
   .comment "EndComments",
   code [.symbol "inch", .procedure [.integer 72, .op .mul], .op .define],
   code [.symbol "dot", .procedure [.integer 0, .integer 360, .op .arc, .op .fill], .op .define],
   code [.symbol "ring", .procedure [.integer 0, .integer 360, .op .arc, .op .stroke],
     .op .define],
   .comment "EndProlog"]

def trailer (sheets : Nat) : List (Row L) :=
  [.comment "Trailer", .comment ("Pages: " ++ toString sheets ++ " 1"), .comment "EOF"]

def beginSheet (number : Nat) : List (Row L) :=
  [.comment ("Page: \"" ++ toString number ++ "\" " ++ toString number),
   .comment "BeginPageSetup",
   code [.op .gsave],
   .comment "EndPageSetup"]

/-- A change of coordinates; what would change nothing is left out. -/
def transform (t : Transform L) : List (Row L) :=
  let (h, v) := t.shift
  (if h == 0 && v == 0 then [] else [code [.fixed h, .fixed v, .op .translate]]) ++
  (if t.scale == 1 then [] else [code [.fixed t.scale, .fixed t.scale, .op .scale]]) ++
  (if t.rotation == 0 then [] else [code [.fixed t.rotation, .op .rotate]])

/-- The rows of a drawing, and the pen after it. -/
def draw (pen : Pen L) : Drawing L → List (Row L) × Pen L
  | .beginDocument g => (.header :: prologue g, pen)
  | .endDocument sheets => (trailer sheets, pen)
  | .beginSheet number => (beginSheet number, { pen with font := none })
  | .endSheet _ => ([code [.op .grestore], code [.op .showpage]], pen)
  | .transform t => (transform t, pen)
  | .resetTransform => ([code [.op .grestore, .op .gsave]], { pen with font := none })
  | .moveTo point => ([code (moveTo point.h point.v)], { pen with point })
  | .text text _ font align decoration =>
    (selectFont pen.font font ++ decorate pen.point text font.size decoration ++
      [code (showAligned text align)], { pen with font := some font })
  | .chords line textFont chordFont =>
    (chordRow pen.font line textFont chordFont pen.point,
      { pen with font := fontAfterChords pen.font line chordFont })
  | .stroke points width => (stroke width points, pen)
  | .diagram chord label font size =>
    (diagram pen.font chord label font size pen.point, { pen with font := some font })

/-- The rows of drawings one after the other, and the pen after them. -/
def drawAll (pen : Pen L) : List (Drawing L) → List (Row L) × Pen L
  | [] => ([], pen)
  | d :: ds =>
    let (rows, pen) := draw pen d
    let (rest, pen) := drawAll pen ds
    (rows ++ rest, pen)

/-- The text of a document from its drawings. -/
def document (drawings : List (Drawing L)) : String :=
  rowsText (drawAll Pen.start drawings).1

end Songbook.PostScript
