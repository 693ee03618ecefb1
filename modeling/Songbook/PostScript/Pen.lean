import Songbook.Drawing
import Songbook.PostScript.Code

/-!
# Texts and lines in PostScript

What texts, chords over a line and strokes are in code. The pen remembers the point moved to and
the font selected, so a font is selected only where it changes.
-/

namespace Songbook.PostScript

/-- The font is the one in force where the pen is, if that is known. -/
structure Pen (L : Type) where
  font : Option Font
  point : Point L
deriving Repr

variable {L : Type} [Length L]

/-- The pen before anything is drawn. -/
def Pen.start : Pen L := ⟨none, ⟨0, 0⟩⟩

/-- A row of code. -/
abbrev code (tokens : List (Token L)) : Row L := .code tokens

abbrev moveTo (h v : L) : List (Token L) := [.length h, .length v, .op .moveto]

abbrev lineTo (h v : L) : List (Token L) := [.length h, .length v, .op .lineto]

/-- Selects a font where another one is in force. -/
def selectFont (current : Option Font) (font : Font) : List (Row L) :=
  if current = some font then []
  else [code [.symbol font.family, .op .findfont, .integer font.size, .op .scalefont,
    .op .setfont]]

/-- A grey band as wide as a text, half of a line high. -/
def shade (origin : Point L) (text : String) (size : Int) : List (Row L) :=
  [code [.op .gsave, .tenths 9, .op .setgray, .integer size, .op .setlinewidth, .op .newpath],
   code (moveTo (origin.h - 2) (origin.v + Length.ofInt (size.tdiv 2 - 2))),
   code [.string (text ++ " "), .op .stringwidth, .op .rlineto, .op .stroke, .op .grestore]]

/-- A frame around a text. -/
def frame (origin : Point L) (text : String) (size : Int) : List (Row L) :=
  [code [.op .gsave, .integer 1, .op .setlinewidth, .op .newpath],
   code (moveTo (origin.h - 2) (origin.v - 2)),
   code [.string text, .op .stringwidth, .op .pop, .integer 4, .op .add, .symbol "hdelta",
     .op .exch, .op .define],
   code [.call "hdelta", .integer 0, .op .rlineto, .integer 0, .integer size, .op .rlineto,
     .call "hdelta", .op .neg, .integer 0, .op .rlineto, .op .closepath, .op .stroke,
     .op .grestore]]

def decorate (origin : Point L) (text : String) (size : Int) : Decoration → List (Row L)
  | .plain => []
  | .shaded => shade origin text size
  | .boxed => frame origin text size

/-- Shows a text at the current point, centred on it, or so that it ends there. -/
def showAligned (text : String) : Align → List (Token L)
  | .left => [.string text, .op .showText]
  | .center =>
    [.string text, .op .dup, .op .stringwidth, .op .pop, .integer 2, .op .divide, .op .neg,
     .integer 0, .op .rmoveto, .op .showText]
  | .right =>
    [.string text, .op .dup, .op .stringwidth, .op .pop, .op .neg, .integer 0, .op .rmoveto,
     .op .showText]

/-- Leaves the place of a chord on the stack: over its place in the lyrics, or `minhpos` if that is
further right. -/
def chordPlace (lyrics : String) (origin : Point L) (mark : ChordMark) : List (Row L) :=
  [code [.string (String.ofList (lyrics.toList.take mark.offset)), .op .stringwidth, .op .pop,
     .length origin.h, .op .add],
   code [.op .dup, .call "minhpos", .op .lt, .procedure [.op .pop, .call "minhpos"],
     .op .ifTrue]]

/-- Shows a chord at the place on the stack and sets `minhpos` to its end. -/
def chordAtPlace (origin : Point L) (mark : ChordMark) : List (Row L) :=
  [code [.op .dup, .string mark.name, .op .stringwidth, .op .pop, .op .add, .symbol "minhpos",
     .op .exch, .op .define],
   code [.length origin.v, .op .moveto, .string mark.name, .op .showText]]

/-- One chord over a line. -/
def placeChord (current : Option Font) (lyrics : String) (textFont chordFont : Font)
    (origin : Point L) (mark : ChordMark) : List (Row L) :=
  selectFont current textFont ++ chordPlace lyrics origin mark ++
    selectFont (some textFont) chordFont ++ chordAtPlace origin mark

/-- The chords over a line from left to right. -/
def placeChords (lyrics : String) (textFont chordFont : Font) (origin : Point L) :
    Option Font → List ChordMark → List (Row L)
  | _, [] => []
  | current, mark :: marks =>
    placeChord current lyrics textFont chordFont origin mark ++
      placeChords lyrics textFont chordFont origin (some chordFont) marks

/-- The font in force after the chords over a line. -/
def fontAfterChords (current : Option Font) (line : Line) (chordFont : Font) : Option Font :=
  if line.hasChords then some chordFont else current

def chordRow (current : Option Font) (line : Line) (textFont chordFont : Font) (origin : Point L) :
    List (Row L) :=
  code [.symbol "minhpos", .length origin.h, .op .define] ::
    placeChords line.text textFont chordFont origin current line.chords

/-- A line through points. -/
def stroke (width : L) : List (Point L) → List (Row L)
  | [] => []
  | first :: rest =>
    [code [.length width, .op .setlinewidth, .integer 0, .op .setgray, .op .newpath],
     code (moveTo first.h first.v)] ++
    (rest.map fun p => code (lineTo p.h p.v)) ++
    [code [.op .stroke]]

end Songbook.PostScript
