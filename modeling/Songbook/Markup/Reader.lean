import Songbook.Markup.Sink

/-!
# Reading markup

Song markup is read character by character. Brackets hold chord names and braces hold directives;
a line that begins with `#` is a comment, and a line with a directive has no lyrics. Carriage
returns are passed over. The reader only tells what stands where; the sink gives it meaning.
-/

namespace Songbook.Markup

/-- What the reader is inside of. -/
inductive Mode where
  | text
  | chord
  | directive
  /-- The rest of a comment, or of a line after its directive. -/
  | skip
deriving DecidableEq, Repr

structure Reader where
  mode : Mode
  lyrics : Buffer
  chordName : Buffer
  directive : Buffer
  /-- The chords of the line so far, the latest first. -/
  marks : List ChordMark
  /-- A directive was opened on this line. -/
  hasDirective : Bool
  /-- The number of characters seen on this line. -/
  column : Nat
  /-- The number of the line, from one. -/
  line : Nat
deriving DecidableEq, Repr

namespace Reader

/-- At the first column of a line, with nothing collected. -/
def atLine (n : Nat) : Reader := ⟨.text, .empty, .empty, .empty, [], false, 0, n⟩

def start : Reader := atLine 1

def buffer (r : Reader) : Token → Buffer
  | .lyrics => r.lyrics
  | .chordName => r.chordName
  | .directive => r.directive

def setBuffer (r : Reader) (b : Buffer) : Token → Reader
  | .lyrics => { r with lyrics := b }
  | .chordName => { r with chordName := b }
  | .directive => { r with directive := b }

/-- Drops everything collected on the line. -/
def reset (r : Reader) : Reader :=
  { r with
    lyrics := .empty, chordName := .empty, directive := .empty, marks := [], hasDirective := false }

def nextLine (r : Reader) : Reader :=
  { r with line := r.line + 1, column := 0, mode := .text }

/-- The line as it stands. -/
def content (r : Reader) : Line := ⟨r.lyrics.text, r.marks.reverse⟩

/-- A step of the reader on a sink's state; both are kept when the sink refuses something. -/
abbrev Step (ε σ : Type) := EStateM ε (Reader × σ)

variable {ε σ : Type} (sink : Sink ε σ)

/-- Changes the reader alone. -/
def update (f : Reader → Reader) : Step ε σ Unit := modify fun (r, s) => (f r, s)

/-- Hands something to the sink. -/
def send (x : EStateM ε σ Unit) : Step ε σ Unit := fun (r, s) =>
  match x s with
  | .ok _ s => .ok () (r, s)
  | .error e s => .error e (r, s)

def tell (p : Problem) : Step ε σ Unit := modify fun (r, s) => (r, sink.problem r.line p s)

/-- Adds a character to a token; the first one that does not fit is a problem. -/
def collect (kind : Token) (c : Char) : Step ε σ Unit := modify fun (r, s) =>
  let (b, overflow) := (r.buffer kind).push kind c
  (r.setBuffer b kind, if overflow then sink.problem r.line (.bufferOverflow kind) s else s)

/-- Begins a chord name, or begins it anew. -/
def openChord : Step ε σ Unit := update fun r => { r with chordName := .empty, mode := .chord }

/-- Sets the name that the sink shows for the chord over the next lyrics character. -/
def closeChord : Step ε σ Unit := modify fun (r, s) =>
  let (shown, s) := sink.chord r.line r.chordName.text s
  ({ r with
    chordName := .empty, marks := ⟨r.lyrics.size, shown⟩ :: r.marks, mode := .text }, s)

def openDirective : Step ε σ Unit :=
  update fun r => { r with directive := .empty, hasDirective := true, mode := .directive }

/-- Gives the directive to the sink; the rest of the line is then skipped. -/
def closeDirective : Step ε σ Unit := do
  let (r, _) ← get
  update fun r => { r with directive := .empty }
  send (sink.directive r.line r.directive.text)
  update fun r => { r.reset with mode := .skip }

/-- Ends a line: what is still open is a problem, and the lyrics go to the sink unless the line
has a directive. -/
def endLine : Step ε σ Unit := do
  let (r, _) ← get
  match r.mode with
  | .directive => tell sink .unterminatedDirective
  | .chord => tell sink .unterminatedChord
  | _ => pure ()
  if !r.hasDirective then
    update fun r => { r with lyrics := .empty, marks := [] }
    send (sink.line r.line r.content)
  update fun r => r.reset.nextLine

/-- A character that does not end a line, in the mode the reader is in. -/
def place (mode : Mode) (inTab : Bool) (c : Char) : Step ε σ Unit :=
  match c, mode with
  | '[', .directive => collect sink .directive c
  | '[', .chord => do tell sink .nestedChord; openChord
  | '[', _ => if inTab then collect sink .lyrics c else openChord
  | ']', .directive => collect sink .directive c
  | ']', .chord => closeChord sink
  | ']', _ => if inTab then collect sink .lyrics c else tell sink .unmatchedChordClose
  | '{', .chord => do
    tell sink .directiveInChord
    update fun r => { r with chordName := .empty }
    openDirective
  | '{', _ => openDirective
  | '}', .directive => closeDirective sink
  | '}', _ => tell sink .unmatchedDirectiveClose
  | ' ', .chord => pure ()
  | _, .chord => collect sink .chordName c
  | _, .directive => collect sink .directive c
  | _, _ => collect sink .lyrics c

/-- Reads one character. -/
def feed (c : Char) : Step ε σ Unit := do
  if c = '\r' then return
  update fun r => { r with column := r.column + 1 }
  let (r, s) ← get
  if r.mode = .skip then
    if c = '\n' then update nextLine
  else if c = '\n' then endLine sink
  else if c = '#' ∧ r.column = 1 then update fun r => { r with mode := .skip }
  else place sink r.mode (sink.inTab s) c

/-- Ends a last line that has no newline. -/
def finish : Step ε σ Unit := do
  let (r, _) ← get
  if r.column ≠ 0 then endLine sink

/-- Reads characters without ending the last line. -/
def feedAll (text : String) : Step ε σ Unit := text.toList.forM (feed sink)

/-- Reads a whole text. -/
def read (text : String) : Step ε σ Unit := do
  feedAll sink text
  finish sink

/-- Reads a text from its first line on and keeps the sink's state. -/
def readText (text : String) : EStateM ε σ Unit := fun s =>
  match read sink text (start, s) with
  | .ok _ (_, s) => .ok () s
  | .error e (_, s) => .error e s

end Reader

end Songbook.Markup
