import Songbook.Session.Diagrams
import Songbook.Session.Index

/-!
# Directives at work

What each directive does to a session. A directive that does not belong where it stands, or whose
arguments make no sense, is reported and does nothing.
-/

namespace Songbook.Typeset

variable {L : Type} [Length L]

/-- Why a keyword may not be used: songs and configuration files have keywords of their own, and
some need the extensions. -/
def refusal? (k : Keyword) (startup extensions : Bool) : Option Problem :=
  if startup && k.isContent then some (.notInStartup k.name)
  else if !startup && k.startupOnly then some (.startupOnly k.name)
  else if !extensions && (k.alwaysGated || !startup && k.gatedInSong) then
    some (.extensionsDisabled k.name)
  else none

/-- Sets fonts, modes and columns back to what songs begin with. -/
def resetDocument (d : Document L) : Document L :=
  { d with
    styles := d.styles.reset
    modes := d.modes.reset
    cursor := d.cursor.resetColumns d.geometry }

/-- Ends the song and begins another one on a page of its own. -/
def newSong : Typeset L Unit := do
  endSong
  let drop := (← get).settings.dropSongDefinitions
  modifyDocument fun d =>
    { d with
      chords := d.chords.startSong drop
      modes := d.modes.leaveSong
      cursor := { d.cursor with songPages := 0, chorus := .off } }
  startPage
  modifyDocument resetDocument

/-- Ends the page and begins the next one. -/
def turnPage (sheetToo : Bool) : Typeset L Unit := do
  endPage sheetToo
  startPage

def endOfChorus : Typeset L Unit := do
  match (← document).cursor.chorus with
  | .off => report .notInChorus
  | .pending => modifyCursor fun c => { c with chorus := .off }
  | .running top => do
    chorusBar top
    modifyCursor fun c => { c with chorus := .off }

/-- The text of a number with its sign. -/
def signed (n : Int) : String := if n < 0 then toString n else "+" ++ toString n

/-- Sets a font size. Changes by a number of points need the extensions, and none of them may
leave a font without size. -/
def resize (k : Keyword) (slot : FontSlot) (size : SizeArgument) : Typeset L Unit := do
  let s ← get
  let extensions := s.document.modes.extensions
  match size with
  | .absolute points => modifyStyles (·.setSize slot points s.scope extensions)
  | .relative delta =>
    if !extensions then report (.relativeSizeNotEnabled k.name)
    else match s.document.styles.adjustSize? slot delta s.scope extensions with
      | some (styles, _) => modifyStyles fun _ => styles
      | none => report (.invalidValue k.name (signed delta))

/-- Where the definitions of a file come from. -/
def definitionOrigin (s : Session L) : Origin :=
  if s.startup then .configuration else .song

/-- Enters a definition. One that is too wide for a diagram is entered and reported. -/
def define (args : String) (order : FretOrder) : Typeset L Unit := do
  match ChordDefinition.read args order (definitionOrigin (← get)) with
  | .error p => report p
  | .ok definition =>
    let (book, adjustment) := (← document).chords.define definition
    modifyDocument fun d => { d with chords := book }
    match adjustment with
    | .moved base => note (.baseFretMoved definition.name base)
    | other => (ChordBook.problem? definition.name other).forM report

/-- Changes the paper. The cursor goes to the top of a page of the new paper; sheets go on being
numbered from where they were. -/
def setGeometry (g : PageGeometry L) : Typeset L Unit :=
  modifyDocument fun d =>
    { d with
      geometry := g
      cursor := .start g d.cursor.pagination (d.cursor.sheetLabel + 1) }

def changePaper (g : PageGeometry L) : Typeset L Unit := do
  note (.paper g.name)
  setGeometry g

/-- The height of a line of lyrics with its chords, in points. -/
def lineHeight (s : Session L) : Int :=
  let styles := s.document.styles
  if s.document.modes.inTab then (styles.current .tab).size
  else if s.settings.lyricsOnly then (styles.current .text).size
  else wrapSize ((styles.current .text).size + (styles.current .chord).size + 1)

/-- Goes to the next column unless so many lines fit above the bottom margin. -/
def conditionalBreak (lines : Nat) : Typeset L Unit := do
  let s ← get
  let needed : L := Length.ofInt lines * Length.ofInt (lineHeight s)
  note (.roomNeeded needed)
  let d := s.document
  if d.cursor.vertical - needed ≤ d.geometry.bottom then breakColumn

def startOfTab : Typeset L Unit := do
  if (← document).modes.inTab then report .alreadyInTab
  else modifyModes fun m => { m with inTab := true }

def endOfTab : Typeset L Unit := do
  if (← document).modes.inTab then modifyModes fun m => { m with inTab := false }
  else report .notInTab

/-- Begins a block under its label. -/
def startOfBlock (label : String) : Typeset L Unit := do
  if (← document).modes.inBlock then report .alreadyInBlock
  else
    comment .shaded label
    modifyModes fun m => { m with inBlock := true }

def endOfBlock : Typeset L Unit := do
  if (← document).modes.inBlock then modifyModes fun m => { m with inBlock := false }
  else report .notInBlock

/-- Divides the rest of the page into columns. -/
def setColumns (count : Nat) : Typeset L Unit :=
  modifyDocument fun d => { d with cursor := d.cursor.setColumns count d.geometry }

def twoColumn (on : Bool) : Typeset L Unit := do
  match on, decide (1 < (← document).cursor.columns) with
  | true, true => report .alreadyMultiColumn
  | false, false => report .notMultiColumn
  | true, false => setColumns 2
  | false, true => setColumns 1

def setExtensions (on : Bool) : Typeset L Unit := do
  if 6 < (← get).settings.warningLevel then
    report (.notice (if on then "extensions enabled" else "extensions disabled"))
  modifyModes fun m => { m with extensions := on }

/-- Sets close spacing. A song can switch it off only if songs begin without it. -/
def setAutoSpace (on : Bool) : Typeset L Unit := do
  let s ← get
  modifyModes fun m =>
    match s.scope with
    | .initial => { m with autoSpace := .of on }
    | .current => { m with autoSpace := m.autoSpace.set (on || m.autoSpace.initial) .current }

/-- Does what a directive says. -/
def apply (k : Keyword) (directive : Directive L) : Typeset L Unit := do
  let s ← get
  match directive with
  | .startOfChorus => modifyCursor fun c => { c with chorus := .pending }
  | .endOfChorus => endOfChorus
  | .font slot family =>
    modifyStyles (·.setFamily slot family s.scope s.document.modes.extensions)
  | .size slot size => resize k slot size
  | .comment style text => comment style text
  | .newSong => newSong
  | .title text => do
    title text
    indexTitled text
  | .subtitle text => do
    subtitle text
    indexSubtitled text
  | .define args => define args s.document.modes.fretOrder
  | .chord args => define args .baseLast
  | .grid on => modifyModes fun m => { m with grids := m.grids.set on s.scope }
  | .newPage => turnPage false
  | .newPhysicalPage => turnPage true
  | .startOfTab => startOfTab
  | .endOfTab => endOfTab
  | .columnBreak => breakColumn
  | .columns count => setColumns count
  | .twoColumn on => twoColumn on
  | .oldDefine => modifyModes fun m => { m with fretOrder := .baseFirst }
  | .newDefine => modifyModes fun m => { m with fretOrder := .baseLast }
  | .startOfBlock label => startOfBlock label
  | .endOfBlock => endOfBlock
  | .bridge keyword => report (.unimplemented keyword.name)
  | .indent keyword => report (.unsupported keyword.name)
  | .autoSpace on => setAutoSpace on
  | .paperType name =>
    match PageGeometry.paper? name with
    | some g => changePaper g
    | none => report (.unknownPaperType name)
  | .formSpec spec =>
    match PageGeometry.ofForm spec with
    | .ok g => do
      note (.form spec)
      changePaper g
    | .error p => report p
  | .conditionalBreak lines => conditionalBreak lines
  | .setIndent points => modifyModes fun m => { m with indent := m.indent.set points s.scope }
  | .extensions on => setExtensions on
  | .version version => do
    note (.languageVersion version)
    modifyModes fun m => { m with version := m.version.set version s.scope }

/-- Applies a directive that is in its place and has sound arguments; reports any other. -/
def perform (k : Keyword) (args : String) : Typeset L Unit := do
  let s ← get
  match refusal? k s.startup s.document.modes.extensions with
  | some p => report p
  | none =>
    match Directive.read k args with
    | .ok directive => apply k directive
    | .error p => report p

/-- Interprets the text of a directive. -/
def dispatch (text : String) : Typeset L Unit := do
  match Keyword.splitText? text with
  | none => throw .brokenCharacter
  | some (name, args) =>
    match Keyword.ofName? name with
    | none => report (.unknownDirective name)
    | some k => do
      if 4 < (← get).settings.warningLevel then
        match k.notice? with
        | some text => report (.notice text)
        | none => pure ()
      perform k args

end Songbook.Typeset
