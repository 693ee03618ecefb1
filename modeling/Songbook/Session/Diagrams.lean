import Songbook.Session.Pages

/-!
# Chord diagrams

The diagrams of a song's chords follow the song, from left to right in rows. Each has a cell of
its own; a row that does not fit above the bottom margin begins a page.
-/

namespace Songbook.Typeset

variable {L : Type} [Length L]

/-- The width of a diagram's cell. -/
def cellWidth (gridSize : L) : L := gridSize * 1.7

/-- The height of a diagram's cell, with its name over it. -/
def cellHeight (gridSize : L) (font : Font) : L :=
  gridSize * 1.5 + Length.ofInt font.size + 4

/-- Begins a page unless so much room is left on this one. -/
def ensureRoom (height : L) : Typeset L Unit := do
  let d ← document
  if d.cursor.vertical - height < d.geometry.bottom then
    endPage false
    startPage

/-- Draws a diagram at the given place, or in a new row if it is too wide for the rest of this
one. Returns the place of the next. -/
def layOutDiagram (font : Font) (gridSize h : L) (chord : ChordDefinition) : Typeset L L := do
  let g := (← document).geometry
  let h ← if g.width < h + cellWidth gridSize then do
      modifyCursor (·.down (cellHeight gridSize font))
      ensureRoom (cellHeight gridSize font)
      pure g.left
    else pure h
  moveTo h (← document).cursor.vertical
  draw (.diagram chord chord.label? font gridSize)
  return h + cellWidth gridSize

/-- Draws diagrams in rows and goes below them. -/
def layOutDiagrams (chords : List ChordDefinition) : Typeset L Unit := do
  if chords.isEmpty then return
  let gridSize := (← get).settings.gridSize
  let font := (← document).styles.current .chord
  payBlankSpace
  let left := (← document).geometry.left
  ensureRoom (cellHeight gridSize font)
  let _ ← chords.foldlM (layOutDiagram font gridSize) left
  modifyCursor (·.down (cellHeight gridSize font))

/-- The chord gets a diagram. -/
def wantsDiagram (settings : Settings L) (d : ChordDefinition) : Bool :=
  !(settings.noEasyGrids && d.origin == .builtin && d.difficulty == .easy)

/-- Draws the chords used in the song, in order of first use. -/
def songDiagrams : Typeset L Unit := do
  let s ← get
  layOutDiagrams (s.document.chords.usedDefinitions.filter (wantsDiagram s.settings))

/-- Ends a song with its diagrams, if it has them, and its page. -/
def endSong : Typeset L Unit := do
  let s ← get
  if !s.settings.lyricsOnly && s.document.modes.grids.current then
    modifyCursor Cursor.belowColumns
    songDiagrams
  endPage false

end Songbook.Typeset
