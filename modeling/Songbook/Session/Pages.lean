import Songbook.Session.Basic

/-!
# Columns, pages and sheets

The cursor moves down its column, to the next column, to the next page. A page ends with its
footer, its number and the bar of an open chorus; a sheet ends when it holds all its pages, or
earlier when that is asked for.
-/

namespace Songbook.Typeset

variable {L : Type} [Length L]

/-- How far left of the text the bar of a chorus stands. -/
def barOffset : L := 10

/-- The distance of page numbers from the edge of the paper. -/
def numberInset : L := 72

/-- The size of titles and numbers at the foot of a page. -/
def footerSize : Int := defaultTextSize - 2

def footerFont (d : Document L) : Font := ⟨(d.styles.current .text).family, footerSize⟩

/-- Draws the bar of a chorus from its top down to the cursor. -/
def chorusBar (top : L) : Typeset L Unit := do
  let c := (← document).cursor
  let h := c.horizontal - barOffset
  draw (.stroke [⟨h, top⟩, ⟨h, c.vertical⟩] 1)

/-- Prints a number under a rule at the foot of the page. -/
def pageNumber (number : Int) : Typeset L Unit := do
  let s ← get
  let g := s.document.geometry
  let rule := g.bottom - 10
  let (h, align) :=
    if s.settings.evenPagesLeft && number % 2 == 0 then (numberInset, Align.left)
    else (g.width - numberInset, .right)
  draw (.stroke [⟨g.left, rule⟩, ⟨g.width - g.left, rule⟩] 1)
  moveTo h (g.bottom / 3)
  draw (.text ("Page " ++ toString number) .text (footerFont s.document) align .plain)

/-- Begins a page, and a sheet if none is open. -/
def startPage : Typeset L Unit := do
  modifyCursor Cursor.countPage
  let d ← document
  let g := d.geometry
  let pagination := d.cursor.pagination
  if d.cursor.slot = 1 then
    note (.sheet d.cursor.sheets)
    draw (.beginSheet d.cursor.sheets)
    if pagination ≠ .one then
      draw (.transform (.scaleRotate (g.scale pagination) (PageGeometry.rotation pagination)))
  match g.shift? pagination d.cursor.slot with
  | some (h, v) => draw (.transform (.translate h v))
  | none => pure ()
  modifyCursor (·.toPageTop g)

/-- The number that a page or sheet gets: its label when all are numbered, else its place in the
song from the second page on. -/
def number? (all : Bool) (label : Int) (songPages : Nat) : Option Int :=
  if all then some label else if 1 < songPages then some songPages else none

/-- Prints a number, if there is one. -/
def numbered (number : Option Int) : Typeset L Unit :=
  match number with
  | some n => pageNumber n
  | none => pure ()

/-- Ends the open sheet. -/
def endSheet : Typeset L Unit := do
  let s ← get
  let c := s.document.cursor
  if c.slot = 0 then return
  if c.pagination ≠ .one then draw .resetTransform
  if !s.settings.numberPages then
    numbered (number? s.settings.numberAll c.sheetLabel c.songPages)
  draw (.endSheet c.sheets)
  modifyCursor Cursor.leaveSheet

/-- Repeats the song's title at the foot of its later pages. -/
def runningTitle : Typeset L Unit := do
  let d ← document
  match d.modes.title with
  | some title =>
    if 1 < d.cursor.songPages then
      moveTo (d.geometry.width / 2) (d.geometry.bottom / 3)
      draw (.text title .text (footerFont d) .center .plain)
  | none => pure ()

/-- Ends the open page, and its sheet when it is full or `sheetToo`. -/
def endPage (sheetToo : Bool) : Typeset L Unit := do
  let s ← get
  let c := s.document.cursor
  if c.slot = 0 then return
  runningTitle
  if s.settings.numberPages then
    numbered (number? s.settings.numberAll c.pageLabel c.songPages)
  match c.chorus with
  | .running top => chorusBar top
  | _ => pure ()
  if c.pagination.perSheet ≤ c.slot || sheetToo then endSheet
  modifyCursor (·.leavePage s.document.geometry)

/-- Goes to the next column, or to the next page from the last one. -/
def breakColumn : Typeset L Unit := do
  let d ← document
  if d.cursor.onLastColumn then
    endPage false
    startPage
  else
    modifyCursor (·.nextColumn d.geometry)
    note (.column (d.cursor.column + 1))

/-- Moves the cursor down; below the bottom margin it goes to the next column. -/
def advance (amount : L) : Typeset L Unit := do
  modifyCursor (·.down amount)
  let d ← document
  if d.cursor.vertical < d.geometry.bottom then breakColumn

/-- Leaves the room that blank lines have asked for. -/
def payBlankSpace : Typeset L Unit := do
  let owed := (← document).cursor.blankSpace
  modifyCursor fun c => { c with blankSpace := 0 }
  if !(owed == 0) then advance owed

end Songbook.Typeset
