import Songbook.Chord.Name
import Songbook.Markup.Reader
import Songbook.Session.Directives

/-!
# Runs

A run reads configuration files, applies the overrides, prints songs and finishes the document.
The session is the sink of the reader: chords are moved and entered in the chord book, directives
are performed and lines are printed.
-/

namespace Songbook.Typeset

variable {L : Type} [Length L]

/-- The name as it is printed: moved by the session's semitones. A name without a known root is a
problem and stays as it is. -/
def shownChord (name : String) (s : Session L) : String × Session L :=
  let semitones := s.settings.transpose
  match ChordName.read? name with
  | some n => (if semitones % 12 = 0 then name else (n.transpose semitones).text, s)
  | none =>
    (name, s.report (if semitones ≠ 0 then .transpose name else .unknownChordRoot name))

/-- Enters a chord as used in the song. -/
def useChord (name : String) (s : Session L) : Session L :=
  let book := s.document.chords
  let s := if (book.get? name).isNone then s.note (.noFingering name) else s
  { s with document := { s.document with chords := book.use name } }

/-- A chord was closed in a song: the name to print. The mark for no chord is printed only. -/
def resolveChord (name : String) (s : Session L) : String × Session L :=
  if ChordName.isNoChord name then (name, s)
  else
    let (shown, s) := shownChord name s
    (shown, useChord shown s)

/-- A line was read. Configuration files have no lines but blank ones. -/
def readLine (line : Line) : Typeset L Unit := do
  let s ← get
  if s.startup then
    if !line.text.isEmpty then report .notADirective
  else if !(s.document.modes.inTab && s.settings.lyricsOnly) then setLine line

/-- Remembers the line being read. -/
def atLine (n : Nat) (s : Session L) : Session L := { s with line := n }

/-- The session as the sink of a reader. -/
def sink : Markup.Sink Fault (Session L) where
  chord n name s := if s.startup then (name, atLine n s) else resolveChord name (atLine n s)
  directive n text := do
    modify (atLine n)
    dispatch text
  line n content := do
    modify (atLine n)
    readLine content
  problem n p s := (atLine n s).report p
  inTab s := s.document.modes.inTab

/-- Runs an action with configuration files being read. -/
def inStartup (x : Typeset L Unit) : Typeset L Unit := fun s =>
  match x { s with startup := true } with
  | .ok _ s => .ok () { s with startup := false }
  | .error e s => .error e { s with startup := false }

/-- Reads a configuration file. -/
def readConfiguration (name text : String) : Typeset L Unit := do
  note (.readingConfiguration name)
  modify fun s => { s with file := name }
  inStartup (Markup.Reader.readText sink text)

/-- Sets a slot of the font that songs begin with, if a value is given. -/
def override {α : Type} (value : Option α) (f : α → StyleSheet → StyleSheet) :
    Typeset L Unit :=
  match value with
  | some a => modifyStyles (f a)
  | none => pure ()

/-- Applies values that come before the configuration. -/
def applyOverrides (o : Overrides) : Typeset L Unit := do
  match o.paper with
  | some name =>
    match PageGeometry.paper? name with
    | some g => setGeometry g
    | none => throw (.unknownPaperType name)
  | none => pure ()
  let extensions := (← document).modes.extensions
  override o.textFont fun family styles => styles.setFamily .text family .initial extensions
  override o.textSize fun points styles => styles.setSize .text points .initial extensions
  override o.chordFont fun family styles => styles.setFamily .chord family .initial extensions
  override o.chordSize fun points styles => styles.setSize .chord points .initial extensions
  match o.extensions with
  | some on => modifyModes fun m => { m with extensions := on }
  | none => pure ()

/-- Begins the document and its first page, unless that has been done. -/
def begin : Typeset L Unit := do
  if (← get).started then return
  modify fun s => { s with started := true }
  draw (.beginDocument (← document).geometry)
  modifyDocument resetDocument
  startPage

/-- Prints a song file. Each after the first begins a new song. -/
def readSong (name text : String) : Typeset L Unit := do
  begin
  if 0 < (← get).songs then newSong
  modify fun s => { s with songs := s.songs + 1 }
  note (.typesetting name)
  modify fun s => { s with file := name, line := 0 }
  Markup.Reader.readText sink text

/-- Ends the last sheet and the document. -/
def closeDocument : Typeset L Unit := do
  endSheet
  draw (.endDocument (← document).cursor.sheets)

/-- Ends the last song, prints the index if there is to be one, and ends the document. -/
def finish : Typeset L Unit := do
  begin
  endSong
  if (← get).settings.tableOfContents then printIndex
  closeDocument

/-- Prints the diagrams of all known chords as a document of their own. -/
def printKnownChords : Typeset L Unit := do
  begin
  layOutDiagrams (← document).chords.known
  endPage false
  closeDocument

end Songbook.Typeset
