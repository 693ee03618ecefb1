import Songbook.Page.Geometry

/-!
# Settings

What is fixed for a whole run, and the values that take precedence over the configuration.
-/

namespace Songbook

structure Settings (L : Type) where
  pagination : Pagination
  /-- Semitones by which every chord is moved. -/
  transpose : Int
  lyricsOnly : Bool
  /-- Lines without chords take no room for chords. -/
  autoSpace : Bool
  /-- Songs begin without diagrams. -/
  noGrids : Bool
  /-- Easy builtin chords get no diagram. -/
  noEasyGrids : Bool
  autoAdjust : Bool
  /-- An index of the titles follows the songs. -/
  tableOfContents : Bool
  /-- Pages are numbered, not sheets. -/
  numberPages : Bool
  firstPage : Option Nat
  /-- Even numbers stand on the left. -/
  evenPagesLeft : Bool
  /-- The width of a diagram. -/
  gridSize : L
  warningLevel : Nat
  extensions : Bool
  /-- The chords that a song defines are forgotten after it. -/
  dropSongDefinitions : Bool
deriving Repr

namespace Settings

variable {L : Type}

def default [Length L] : Settings L where
  pagination := .one
  transpose := 0
  lyricsOnly := false
  autoSpace := false
  noGrids := false
  noEasyGrids := false
  autoAdjust := true
  tableOfContents := false
  numberPages := false
  firstPage := none
  evenPagesLeft := false
  gridSize := 30
  warningLevel := 0
  extensions := false
  dropSongDefinitions := false

/-- Every page has a number, not only those that continue a song. -/
def numberAll (s : Settings L) : Bool :=
  s.firstPage.isSome || s.tableOfContents || s.evenPagesLeft

end Settings

/-- Values for songs to begin with, whatever the configuration says. -/
structure Overrides where
  textFont : Option String
  textSize : Option Int
  chordFont : Option String
  chordSize : Option Int
  extensions : Option Bool
  paper : Option String
deriving DecidableEq, Repr

end Songbook
