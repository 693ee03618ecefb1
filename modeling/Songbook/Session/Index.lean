import Songbook.Session.Lines

/-!
# The index

Titles are collected with their subtitles and page numbers while songs are printed, and printed
after them, sorted by title.
-/

namespace Songbook.Typeset

variable {L : Type} [Length L]

def indexTitle : String := "Index"

/-- How far subtitles are indented under their title. -/
def subtitleIndent : L := 20

/-- Titles and subtitles on the first page of a song go into the index. -/
def isIndexed (s : Session L) : Bool :=
  s.settings.tableOfContents && s.document.cursor.songPages == 1

/-- The number of the page, or of the sheet if sheets are numbered. -/
def currentLabel (s : Session L) : Int :=
  if s.settings.numberPages then s.document.cursor.pageLabel else s.document.cursor.sheetLabel

/-- Adds a subtitle to the last entry, if there is one. -/
def addSubtitle (text : String) : List IndexEntry → List IndexEntry
  | [] => []
  | [e] => [{ e with subtitles := e.subtitles ++ [text] }]
  | e :: es => e :: addSubtitle text es

/-- Enters a title that was printed. -/
def indexTitled (text : String) : Typeset L Unit := do
  let s ← get
  if isIndexed s then
    modifyDocument fun d => { d with index := d.index ++ [⟨text, [], currentLabel s⟩] }

/-- Enters a subtitle that was printed. -/
def indexSubtitled (text : String) : Typeset L Unit := do
  if isIndexed (← get) then
    modifyDocument fun d => { d with index := addSubtitle text d.index }

/-- Prints a text on a line of its own. -/
def indexLine (font : Font) (h : L) (text : String) : Typeset L Unit := do
  advance (size font)
  moveTo h (← document).cursor.vertical
  draw (.text text .text font .left .plain)

/-- Prints an entry: its title with the number on the right, and its subtitles. -/
def indexEntry (font : Font) (e : IndexEntry) : Typeset L Unit := do
  let g := (← document).geometry
  indexLine font g.left e.title
  moveTo (g.width - g.left) (← document).cursor.vertical
  draw (.text (toString e.page) .text font .right .plain)
  e.subtitles.forM (indexLine font (g.left + subtitleIndent))

/-- Entries in the order of their titles; entries of one title stay in order of their songs. -/
def sortedByTitle (entries : List IndexEntry) : List IndexEntry :=
  entries.mergeSort fun a b => !decide (b.title < a.title)

/-- Prints the index on pages of its own, if there is anything in it. -/
def printIndex : Typeset L Unit := do
  let entries := sortedByTitle (← document).index
  if entries.isEmpty then return
  note (.index entries.length)
  modifyDocument fun d => { d with index := entries }
  modifyCursor fun c => { c with songPages := 0 }
  modifyModes fun m => { m with title := none }
  startPage
  title indexTitle
  let font := (← document).styles.current .text
  entries.forM (indexEntry font)
  endPage false

end Songbook.Typeset
