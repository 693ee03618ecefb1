import Songbook.Chord.Book
import Songbook.Drawing
import Songbook.Page.Cursor
import Songbook.Session.Log
import Songbook.Settings
import Songbook.Style.Sheet

/-!
# Sessions

A session reads configuration files and songs and draws them on a device. Its document is what
directives change. An action on a session keeps the session also when a fault ends it: what was
drawn and reported before the fault stays.
-/

namespace Songbook

/-- A switch with the value that songs begin with and the value in force. -/
structure Switch (α : Type) where
  initial : α
  current : α
deriving DecidableEq, Repr

namespace Switch

variable {α : Type}

def of (a : α) : Switch α := ⟨a, a⟩

def reset (s : Switch α) : Switch α := of s.initial

/-- Sets the value in force, and for every song to come if it is initial. -/
def set (s : Switch α) (a : α) : Scope → Switch α
  | .initial => of a
  | .current => { s with current := a }

end Switch

/-- The version of the markup language unless a song asks for another. -/
def defaultVersion : Int := 5

/-- What directives switch. -/
structure Modes where
  extensions : Bool
  /-- Inside a tablature. -/
  inTab : Bool
  /-- Inside a block. -/
  inBlock : Bool
  /-- Diagrams follow the song. -/
  grids : Switch Bool
  /-- Lines without chords take no room for chords. -/
  autoSpace : Switch Bool
  /-- How far blocks are indented, in points. -/
  indent : Switch Int
  version : Switch Int
  fretOrder : FretOrder
  /-- The title of the song, repeated at the foot of its later pages. -/
  title : Option String
deriving DecidableEq, Repr

namespace Modes

def start {L : Type} (settings : Settings L) : Modes where
  extensions := settings.extensions
  inTab := false
  inBlock := false
  grids := .of !settings.noGrids
  autoSpace := .of settings.autoSpace
  indent := .of 0
  version := .of defaultVersion
  fretOrder := .baseFirst
  title := none

/-- Goes back to what songs begin with. -/
def reset (m : Modes) : Modes :=
  { m with
    grids := m.grids.reset
    autoSpace := m.autoSpace.reset
    indent := m.indent.reset
    version := m.version.reset }

/-- Leaves tablature and block and forgets the title. -/
def leaveSong (m : Modes) : Modes :=
  { m with inTab := false, inBlock := false, title := none }

end Modes

/-- A title with its subtitles and the number of its page. -/
structure IndexEntry where
  title : String
  subtitles : List String
  page : Int
deriving DecidableEq, Repr

/-- Everything that directives and lines change. -/
structure Document (L : Type) where
  geometry : PageGeometry L
  styles : StyleSheet
  cursor : Cursor L
  chords : ChordBook
  modes : Modes
  index : List IndexEntry

def Document.start {L : Type} [Length L] (settings : Settings L) : Document L where
  geometry := .letter
  styles := .default
  cursor := .start .letter settings.pagination (settings.firstPage.getD 1 : Nat)
  chords := .empty settings.autoAdjust
  modes := .start settings
  index := []

structure Session (L : Type) where
  settings : Settings L
  document : Document L
  device : Device L
  /-- A configuration file is being read. -/
  startup : Bool
  /-- The file being read. -/
  file : String
  /-- The line being read. -/
  line : Nat
  /-- The document has been begun. -/
  started : Bool
  /-- The number of songs begun. -/
  songs : Nat
  log : Array (LogEntry L)

namespace Session

variable {L : Type}

def start [Length L] (settings : Settings L) (device : Device L) : Session L where
  settings := settings
  document := .start settings
  device := device
  startup := false
  file := ""
  line := 0
  started := false
  songs := 0
  log := #[]

/-- The problems reported so far. -/
def diagnostics (s : Session L) : List Diagnostic :=
  s.log.toList.filterMap LogEntry.problem?

/-- Changes in a configuration file are meant for every song. -/
def scope (s : Session L) : Scope :=
  if s.startup then .initial else .current

def note (s : Session L) (e : LogEntry L) : Session L := { s with log := s.log.push e }

/-- Notes a problem at the place being read. -/
def report (s : Session L) (p : Problem) : Session L :=
  s.note (.problem ⟨s.file, s.line, p⟩)

end Session

/-- An action on a session. -/
abbrev Typeset (L : Type) := EStateM Fault (Session L)

namespace Typeset

variable {L : Type}

def document : Typeset L (Document L) := return (← get).document

def modifyDocument (f : Document L → Document L) : Typeset L Unit :=
  modify fun s => { s with document := f s.document }

def modifyCursor (f : Cursor L → Cursor L) : Typeset L Unit :=
  modifyDocument fun d => { d with cursor := f d.cursor }

def modifyModes (f : Modes → Modes) : Typeset L Unit :=
  modifyDocument fun d => { d with modes := f d.modes }

def modifyStyles (f : StyleSheet → StyleSheet) : Typeset L Unit :=
  modifyDocument fun d => { d with styles := f d.styles }

def note (e : LogEntry L) : Typeset L Unit := modify (·.note e)

def report (p : Problem) : Typeset L Unit := modify (·.report p)

/-- Hands a drawing to the device. A refusal is a fault. -/
def draw (d : Drawing L) : Typeset L Unit := fun s =>
  match s.device.draw d with
  | (device, none) => .ok () { s with device }
  | (device, some reason) => .error (.device reason) { s with device }

/-- Moves the pen to a point. -/
def moveTo (h v : L) : Typeset L Unit := draw (.moveTo ⟨h, v⟩)

end Typeset

end Songbook
