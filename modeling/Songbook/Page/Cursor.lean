import Songbook.Page.Geometry

/-!
# The cursor

Where the next thing is printed: the place in the column, the column on the page, the page on the
sheet. Positions are measured from the bottom left corner of the page. A page has columns side by
side; those to the left have been filled, and `lowest` remembers how far down they reached.
-/

namespace Songbook

/-- The bar beside a chorus. -/
inductive Chorus (L : Type) where
  | off
  /-- The bar begins with the next line printed. -/
  | pending
  /-- The bar on this page begins at `top`. -/
  | running (top : L)
deriving Repr

structure Cursor (L : Type) where
  vertical : L
  horizontal : L
  /-- The column, from zero. -/
  column : Nat
  /-- The number of columns. -/
  columns : Nat
  /-- Where the columns begin. -/
  columnTop : L
  columnWidth : L
  /-- The lowest place that the columns to the left have reached. -/
  lowest : L
  pagination : Pagination
  /-- The page on the open sheet, from one; zero when no sheet is open. -/
  slot : Nat
  /-- Sheets begun. -/
  sheets : Nat
  /-- Pages begun. -/
  pages : Nat
  /-- Pages begun in the current song. -/
  songPages : Nat
  /-- The printed number of the sheet. -/
  sheetLabel : Int
  /-- The printed number of the page. -/
  pageLabel : Int
  /-- Room that blank lines have asked for; it is left before the next thing printed. -/
  blankSpace : L
  chorus : Chorus L
deriving Repr

namespace Cursor

variable {L : Type} [Length L]

/-- The cursor before the first page, which will have the number `firstPage`. -/
def start (g : PageGeometry L) (pagination : Pagination) (firstPage : Int) : Cursor L where
  vertical := g.top
  horizontal := g.left
  column := 0
  columns := 1
  columnTop := g.top
  columnWidth := g.textWidth
  lowest := g.top
  pagination := pagination
  slot := 0
  sheets := 0
  pages := 0
  songPages := 0
  sheetLabel := firstPage - 1
  pageLabel := 0
  blankSpace := 0
  chorus := .off

/-- Divides the rest of the page into columns that begin here. There is at least one. -/
def setColumns (c : Cursor L) (columns : Nat) (g : PageGeometry L) : Cursor L :=
  { c with
    columns := max 1 columns
    column := 0
    columnTop := c.vertical
    columnWidth := g.textWidth / Length.ofInt (max 1 columns : Nat)
    horizontal := g.left }

def onLastColumn (c : Cursor L) : Bool := c.columns ≤ c.column + 1

def down (c : Cursor L) (amount : L) : Cursor L := { c with vertical := c.vertical - amount }

/-- Goes to the top of the column to the right. -/
def nextColumn (c : Cursor L) (g : PageGeometry L) : Cursor L :=
  { c with
    column := c.column + 1
    lowest := Length.lower c.lowest c.vertical
    vertical := c.columnTop
    horizontal := g.left + Length.ofInt (c.column + 1 : Nat) * c.columnWidth }

/-- Counts a page, and a sheet if none is open. -/
def countPage (c : Cursor L) : Cursor L :=
  let c := { c with slot := c.slot + 1, pageLabel := c.pageLabel + 1, pages := c.pages + 1 }
  if c.slot = 1 then { c with sheets := c.sheets + 1, sheetLabel := c.sheetLabel + 1 } else c

/-- Goes to the top left of a page. The bar of a chorus begins anew there. -/
def toPageTop (c : Cursor L) (g : PageGeometry L) : Cursor L :=
  { c with
    vertical := g.top
    lowest := g.top
    horizontal := g.left
    column := 0
    songPages := c.songPages + 1
    chorus := match c.chorus with
      | .running _ => .running g.top
      | other => other }

/-- Leaves the columns of a page behind. -/
def leavePage (c : Cursor L) (g : PageGeometry L) : Cursor L :=
  { c with column := 0, lowest := g.top, columnTop := g.top }

/-- Closes the sheet; the numbers of pages that it has no more room for are passed over. -/
def leaveSheet (c : Cursor L) : Cursor L :=
  { c with pageLabel := c.pageLabel + ((c.pagination.perSheet : Int) - c.slot), slot := 0 }

/-- Goes below all columns of the page. -/
def belowColumns (c : Cursor L) : Cursor L :=
  { c with vertical := Length.lower c.vertical c.lowest }

/-- Back to a single column of full width. -/
def resetColumns (c : Cursor L) (g : PageGeometry L) : Cursor L :=
  { c with columns := 1, column := 0, columnWidth := g.textWidth }

/-- Begins the bar of a pending chorus with a line of text of that size. -/
def openChorus (c : Cursor L) (size : L) : Cursor L :=
  match c.chorus with
  | .pending => { c with chorus := .running (c.vertical + size) }
  | _ => c

end Cursor

end Songbook
