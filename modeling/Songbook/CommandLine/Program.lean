import Songbook.CommandLine.Arguments
import Songbook.CommandLine.LogLine
import Songbook.CommandLine.Path
import Songbook.PostScript.Spool
import Songbook.Session.Run
import Songbook.Text.Utf8

/-!
# The program

The program reads its arguments and the configuration files, prints the songs, and writes the
document. It runs on a `Host`, which has the files and the environment. The document is handed on
while it is drawn: where the host refuses a part of it, the drawing that the part belongs to is
refused. What was drawn before a failure is written all the same.
-/

namespace Songbook.CommandLine

/-- What a program needs of the system it runs on. Failures are told in the system's words. -/
structure Host (m : Type → Type) where
  /-- The value of a variable of the environment. -/
  lookup : String → m (Option String)
  /-- The home directory of the user's account. -/
  home : m (Option String)
  read : String → m (Except String ByteArray)
  input : m ByteArray
  /-- Makes a file empty. -/
  create : String → m (Except String Unit)
  /-- Writes a text at the end of a file. -/
  append : String → String → m (Except String Unit)
  print : String → m (Except String Unit)

/-- How a run ends. -/
inductive Ending where
  | success
  | failure
  /-- The arguments were refused. -/
  | refused
  /-- A directive's text was cut inside a character. -/
  | crash
deriving DecidableEq, Repr

def Ending.exitCode : Ending → UInt32
  | .success => 0
  | .failure | .refused => 1
  | .crash => 101

/-- How a run ended, what it told on the way, and why it failed if it did. -/
structure Report where
  ending : Ending
  log : String
  reason : String
deriving DecidableEq, Repr

/-- A run that ended well with nothing to tell. -/
def Report.quiet : Report := ⟨.success, "", ""⟩

/-- Why a run ended early. -/
inductive Failure where
  | error (message : String) (cause : Option String)
  | crash
deriving DecidableEq, Repr

namespace Failure

def ofFault (f : Fault) : Failure :=
  match f with
  | .brokenCharacter => .crash
  | _ => .error f.message none

def ending : Failure → Ending
  | .error .. => .failure
  | .crash => .crash

def message : Failure → String
  | .error message none => "Error: " ++ message ++ "\n"
  | .error message (some cause) => "Error: " ++ message ++ "\n\nCaused by:\n    " ++ cause ++ "\n"
  | .crash => Fault.brokenCharacter.message ++ "\n"

end Failure

def aboutText : String :=
  "chordsheet: a lyrics and chords formatting program.\n\n" ++
    "chordsheet reads text files holding the lyrics of one or many songs plus\n" ++
    "chord information, and produces a print-ready PostScript song sheet with\n" ++
    "chords set above the lyrics and chord diagrams at the end of every song.\n\n" ++
    "Run \"chordsheet -h\" for the list of options.\n"

def versionText : String := PostScript.creator ++ "\n"

def usageText : String := "Usage: chordsheet [options] file [file ...]\n"

/-- The options, one on a line. -/
def helpText : String :=
  "Lyrics and chords formatter\n\n" ++ usageText ++ "\nOptions:\n" ++
    String.join (Flag.all.map fun f => "  -" ++ f.letter.toString ++ "      " ++ f.help ++ "\n") ++
    String.join
      (Parameter.all.map fun p => "  -" ++ p.letter.toString ++ " ARG  " ++ p.help ++ "\n") ++
    "  -h      Print help\n  -V      Print version\n"

namespace Arguments

/-- A number that must not be zero if it is given. -/
def nonzero? (a : Arguments) (p : Parameter) (what : String) : Except String (Option Int) :=
  if a.integer? p = some 0 then .error ("invalid value for " ++ what) else .ok (a.integer? p)

def pagination (a : Arguments) : Pagination :=
  if a.has .fourUp then .four else if a.has .twoUp then .two else .one

def settings (a : Arguments) : Except String (Settings Float) := do
  let transpose ← a.nonzero? .transpose "transposition"
  let firstPage ← a.nonzero? .firstPage "initial page number"
  let gridSize ← a.nonzero? .gridSize "grid_size"
  return {
    pagination := a.pagination
    transpose := transpose.getD 0
    lyricsOnly := a.has .lyricsOnly
    autoSpace := a.has .autoSpace
    noGrids := a.has .noGrids
    noEasyGrids := a.has .noEasyGrids
    autoAdjust := !a.has .noAutoAdjust
    tableOfContents := a.has .index
    numberPages := a.has .numberPages
    firstPage := firstPage.map Int.toNat
    evenPagesLeft := a.has .evenPagesLeft
    gridSize := (gridSize.map Length.ofInt).getD Settings.default.gridSize
    warningLevel := ((a.integer? .warningLevel).getD 0).toNat
    extensions := false
    dropSongDefinitions := false }

def extensions? (a : Arguments) : Option Bool :=
  if a.has .enableExtensions then some true
  else if a.has .disableExtensions then some false
  else none

def overrides (a : Arguments) : Except String Overrides := do
  let textSize ← a.nonzero? .textSize "text_size"
  let chordSize ← a.nonzero? .chordSize "chord_size"
  return ⟨a.text? .textFont, textSize, a.text? .chordFont, chordSize, a.extensions?,
    a.text? .paper⟩

end Arguments

/-- Where configuration files are: each in the place that a variable tells, or else in a place of
its own. -/
def configurationPlaces : List (String × String) :=
  [("CHORDRCSYS", "/usr/local/etc/chordrc"), ("CHORDRC", "~/.chordrc"),
   ("CHORDRCLOCAL", "./.chordrc")]

/-- How the standard input is called in messages. -/
def inputName : String := "<stdin>"

/-- What a run works on: its session, and what of the document is not handed on yet. -/
structure Work where
  session : Session Float
  spool : PostScript.Spool Float

/-- A step of the program, which keeps its work when it fails. -/
abbrev Program (m : Type → Type) := ExceptT Failure (StateT Work m)

namespace Program

variable {m : Type → Type} [Monad m] (host : Host m)

def ask {α : Type} (x : m α) : Program m α := ExceptT.lift (StateT.lift x)

/-- Adds a message to the log. -/
def note (e : LogEntry Float) : Program m Unit :=
  modify fun w => { w with session := w.session.note e }

/-- Writes a text to the file that the arguments name, or else to the standard output. -/
def deliver (a : Arguments) (text : String) : m (Except String Unit) :=
  match a.text? .output with
  | some path => host.append path text
  | none => host.print text

/-- Delivers blocks until one is refused. -/
def deliverAll (a : Arguments) : List String → m (Except String Unit)
  | [] => return .ok ()
  | block :: blocks => do
    match ← deliver host a block with
    | .ok () => deliverAll a blocks
    | .error reason => return .error reason

/-- Hands on drawings until one is refused. -/
def handOn (a : Arguments) :
    List (Drawing Float) → PostScript.Spool Float → m (Except Limit (PostScript.Spool Float))
  | [], spool => return .ok spool
  | drawing :: drawings, spool => do
    let (blocks, next) := spool.add drawing
    match ← deliverAll host a blocks with
    | .ok () => handOn a drawings next
    | .error reason => return .error ⟨spool.drawings, reason⟩

/-- Does something with the session, and answers what ended it early. -/
def outcome (x : Typeset Float Unit) (s : Session Float) : Option Fault × Session Float :=
  match x s with
  | .ok _ s => (none, s)
  | .error f s => (some f, s)

/-- Does something with the session and hands on what it draws. If a drawing is refused, the
session is what it is on a device that refuses that drawing. -/
def typeset (a : Arguments) (x : Typeset Float Unit) : Program m Unit := do
  let w ← get
  let (fault, session) := outcome x w.session
  let drawings := session.device.received.toList.drop w.spool.drawings
  let fault ← match ← ask (handOn host a drawings w.spool) with
    | .ok spool => do
      set (Work.mk session spool)
      pure fault
    | .error limit => do
      let device := { w.session.device with limit := some limit }
      let (fault, session) := outcome x { w.session with device }
      set { w with session }
      pure fault
  match fault with
  | none => return
  | some f => throw (.ofFault f)

/-- Asks for something that the system may refuse. -/
def demand {α : Type} (message : String) (x : m (Except String α)) : Program m α := do
  match ← ask x with
  | .ok a => return a
  | .error cause => throw (.error message (some cause))

/-- Reads a configuration file. One that cannot be read is skipped. -/
def readConfiguration (a : Arguments) (path : String) : Program m Unit := do
  match ← ask (host.read path) with
  | .ok bytes => typeset host a (Typeset.readConfiguration path (Text.decodeUtf8 bytes))
  | .error reason => note (.skipped path reason)

/-- The home directory: what `HOME` tells if it tells anything, or else that of the account. -/
def homeDirectory : m (Option String) := do
  match ← host.lookup "HOME" with
  | some path => if path.isEmpty then host.home else return some path
  | none => host.home

/-- The path of a configuration file, if it makes sense. -/
def configurationPath? (place : String × String) : Program m (Option String) := do
  let path := (← ask (host.lookup place.1)).getD place.2
  match ← ask (Path.expand host.lookup (← ask (homeDirectory host)) path) with
  | .ok expanded => return some expanded
  | .error name => do
    note (.notExpanded path name)
    return none

/-- Reads the configuration files that there are. All paths are found before the first is read. -/
def readConfigurations (a : Arguments) : Program m Unit := do
  let paths ← configurationPlaces.filterMapM (configurationPath? host)
  paths.forM (readConfiguration host a)

def readSong (a : Arguments) (path : String) : Program m Unit := do
  let bytes ← demand ("cannot open " ++ path) (host.read path)
  typeset host a (Typeset.readSong path (Text.decodeUtf8 bytes))

def readSongs (a : Arguments) : Program m Unit := do
  if a.files.isEmpty then
    let bytes ← ask host.input
    typeset host a (Typeset.readSong inputName (Text.decodeUtf8 bytes))
  else a.files.forM (readSong host a)

/-- Delivers the listing of the known chords. -/
def deliverListing (a : Arguments) : Program m Unit := do
  match ← ask (deliver host a (← get).session.document.chords.listing) with
  | .ok () => return
  | .error reason => throw (.error reason none)

/-- Prints what the arguments ask for. -/
def print (a : Arguments) (overrides : Overrides) : Program m Unit := do
  readConfigurations host a
  typeset host a (Typeset.applyOverrides overrides)
  if a.has .dumpText then deliverListing host a
  else if a.has .dumpGrids then typeset host a Typeset.printKnownChords
  else
    readSongs host a
    typeset host a Typeset.finish

/-- Makes the output file, if there is to be one. -/
def createOutput (a : Arguments) : m (Option Failure) := do
  match a.text? .output with
  | none => return none
  | some path =>
    match ← host.create path with
    | .ok () => return none
    | .error cause =>
      return some (.error ("unable to open \"" ++ path ++ "\" for output") (some cause))

/-- Ends with a failure that happened before anything was done. -/
def failed (f : Failure) : Report := ⟨f.ending, "", f.message⟩

/-- Reports how a run went. What waits is handed on, and it does not matter any more if it is
refused. -/
def conclude (a : Arguments) (view : LogView) (result : Except Failure Unit) (w : Work) :
    m Report := do
  let log := view.text w.session.log.toList
  match result with
  | .ok () => return ⟨.success, log, ""⟩
  | .error f => do
    let _ ← deliver host a w.spool.waiting
    return ⟨f.ending, log, f.message⟩

/-- Does what the arguments ask for. -/
def perform (a : Arguments) (view : LogView) : m Report := do
  if a.has .about then
    let _ ← host.print aboutText
    return .quiet
  match a.settings, a.overrides with
  | .error e, _ | _, .error e => return failed (.error e none)
  | .ok settings, .ok overrides =>
    match ← createOutput host a with
    | some f => return failed f
    | none => do
      let work : Work := ⟨.start settings .unlimited, .start⟩
      let (result, w) ← (print host a overrides).run.run work
      conclude host a view result w

end Program

/-- How the log is shown, with complaints about what makes no sense in that. -/
def logView {m : Type → Type} [Monad m] (host : Host m) : m (LogView × List String) := do
  let (filter, complaints) := LogFilter.read ((← host.lookup "RUST_LOG").getD "warn")
  let style := LogStyle.choose (← host.lookup "RUST_LOG_STYLE") (← host.lookup "NO_COLOR")
    (← host.lookup "CLICOLOR_FORCE")
  return (⟨filter, style⟩, complaints)

/-- Runs the program with its arguments. -/
def run {m : Type → Type} [Monad m] (host : Host m) (arguments : List String) : m Report := do
  let (view, complaints) ← logView host
  let report ← match Arguments.read arguments with
    | .error e => pure ⟨.refused, "", "error: " ++ e.message ++ "\n\n" ++ usageText⟩
    | .ok .help => do
      let _ ← host.print helpText
      pure .quiet
    | .ok .version => do
      let _ ← host.print versionText
      pure .quiet
    | .ok (.run a) => Program.perform host a view
  return { report with log := String.join complaints ++ report.log }

end Songbook.CommandLine
