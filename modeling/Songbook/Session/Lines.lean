import Songbook.Session.Pages

/-!
# Lines, comments and titles

What directives and lines of lyrics print. A line with chords takes a row for the chords and a row
for the lyrics, and looks ahead for the room that the lyrics will take.
-/

namespace Songbook.Typeset

variable {L : Type} [Length L]

/-- The size of a font as a length. -/
def size (font : Font) : L := Length.ofInt font.size

/-- How much larger than the text a title is. -/
def titleIncrement : Int := 5

/-- The font of titles. -/
def titleFont (styles : StyleSheet) : Font :=
  let font := styles.current .text
  { font with size := wrapSize (font.size + titleIncrement) }

theorem titleFont_size {styles : StyleSheet} (hsize : 0 ≤ (styles.current .text).size)
    (hfits : (styles.current .text).size + titleIncrement ≤ largestSize) :
    (titleFont styles).size = (styles.current .text).size + titleIncrement := by
  have hlow : -2147483648 ≤ (styles.current .text).size + titleIncrement := by
    unfold titleIncrement
    omega
  exact wrapSize_eq_self hlow hfits

/-- Begins the bar of a pending chorus with a row of that size. -/
def openChorus (rowSize : L) : Typeset L Unit := modifyCursor (·.openChorus rowSize)

/-- Where a line begins: at the left of its column, indented inside a block. -/
def lineOrigin (d : Document L) : L × L :=
  let indent : L := if d.modes.inBlock then Length.ofInt d.modes.indent.current else 0
  (d.cursor.horizontal + indent, d.cursor.vertical)

/-- Moves the pen to where a line begins. -/
def moveToLine : Typeset L Unit := do
  let (h, v) := lineOrigin (← document)
  moveTo h v

/-- The row of chords over a line. If its lyrics would not fit below, both go to the next
column. -/
def chordRow (line : Line) (textFont chordFont : Font) : Typeset L Unit := do
  payBlankSpace
  advance (size chordFont + 1)
  let d ← document
  if !line.isBlank && d.cursor.vertical - size textFont ≤ d.geometry.bottom then
    advance (size textFont)
  openChorus (size chordFont)
  if !(← get).settings.lyricsOnly && line.hasChords then
    moveToLine
    draw (.chords line textFont chordFont)

/-- The lyrics of a line. Blank ones only ask for room. -/
def lyricsRow (line : Line) (slot : FontSlot) (font : Font) : Typeset L Unit := do
  if line.isBlank then
    modifyCursor fun c => { c with blankSpace := c.blankSpace + (size font - 2) }
  else
    payBlankSpace
    advance (size font - 1)
    openChorus (size font)
    moveToLine
    draw (.text line.text slot font .left .plain)

/-- Prints a line. There is a row for chords unless the line has none and stands in a tablature or
is to be spaced closely. -/
def setLine (line : Line) : Typeset L Unit := do
  let d ← document
  let slot : FontSlot := if d.modes.inTab then .tab else .text
  let textFont := d.styles.current slot
  let close := d.modes.autoSpace.current || d.modes.inTab
  if !(close && !line.hasChords) then chordRow line textFont (d.styles.current .chord)
  lyricsRow line slot textFont

/-- The slot and the decoration of a comment. -/
def commentLook : CommentStyle → FontSlot × Decoration
  | .shaded => (.comment, .shaded)
  | .italic => (.commentItalic, .plain)
  | .boxed => (.comment, .boxed)

/-- Prints a comment, which must not be empty. -/
def comment (style : CommentStyle) (text : String) : Typeset L Unit := do
  if text.isEmpty then
    report .emptyComment
  else
    payBlankSpace
    let (slot, decoration) := commentLook style
    let font := (← document).styles.current slot
    advance (size font)
    let c := (← document).cursor
    moveTo c.horizontal c.vertical
    draw (.text text slot font .left decoration)

/-- Prints a centred text at the cursor and moves below it. -/
def centred (text : String) (font : Font) : Typeset L Unit := do
  let d ← document
  moveTo (d.geometry.width / 2) d.cursor.vertical
  draw (.text text .text font .center .plain)
  modifyCursor (·.down (size font))

/-- Prints a title; it becomes the running title. -/
def title (text : String) : Typeset L Unit := do
  centred text (titleFont (← document).styles)
  modifyModes fun m => { m with title := some text }

def subtitle (text : String) : Typeset L Unit := do
  centred text ((← document).styles.current .text)

end Songbook.Typeset
