import Songbook.Decimal.Integer

/-!
# Arguments

Arguments are flags, parameters with a value, and names of files. Flags are single letters that
may share one argument; the value of a parameter follows its letter at once, or after an equals
sign, or as the next argument. After `--` everything is the name of a file.
-/

namespace Songbook.CommandLine

inductive Flag where
  | about
  | autoSpace
  | dumpText
  | dumpGrids
  | disableExtensions
  | enableExtensions
  | noEasyGrids
  | noGrids
  | index
  | noAutoAdjust
  | evenPagesLeft
  | lyricsOnly
  | numberPages
  | twoUp
  | fourUp
deriving DecidableEq, Repr

namespace Flag

def all : List Flag :=
  [.about, .autoSpace, .dumpText, .dumpGrids, .disableExtensions, .enableExtensions,
   .noEasyGrids, .noGrids, .index, .noAutoAdjust, .evenPagesLeft, .lyricsOnly, .numberPages,
   .twoUp, .fourUp]

def letter : Flag → Char
  | .about => 'A'
  | .autoSpace => 'a'
  | .dumpText => 'd'
  | .dumpGrids => 'D'
  | .disableExtensions => 'e'
  | .enableExtensions => 'E'
  | .noEasyGrids => 'g'
  | .noGrids => 'G'
  | .index => 'i'
  | .noAutoAdjust => 'J'
  | .evenPagesLeft => 'L'
  | .lyricsOnly => 'l'
  | .numberPages => 'n'
  | .twoUp => '2'
  | .fourUp => '4'

def help : Flag → String
  | .about => "About chordsheet"
  | .autoSpace => "Single space lines without chords"
  | .dumpText => "Dump chord definitions (text)"
  | .dumpGrids => "Dump chord definitions (PostScript)"
  | .disableExtensions => "Disable extensions"
  | .enableExtensions => "Enable extensions"
  | .noEasyGrids => "Don't print grids for builtin \"easy\" chords"
  | .noGrids => "Disable printing of chord grids"
  | .index => "Generate a table of contents"
  | .noAutoAdjust => "Turn off auto-adjust of chord definitions"
  | .evenPagesLeft => "Even page numbers on the left"
  | .lyricsOnly => "Only print lyrics"
  | .numberPages => "Number logical pages, not physical"
  | .twoUp => "2 pages per sheet"
  | .fourUp => "4 pages per sheet"

/-- The flag that may not be given together with this one. -/
def excludes : Flag → Option Flag
  | .disableExtensions => some .enableExtensions
  | .twoUp => some .fourUp
  | _ => none

def ofLetter? (c : Char) : Option Flag := all.find? (·.letter == c)

end Flag

inductive Parameter where
  | chordSize
  | chordFont
  | output
  | paper
  | firstPage
  | gridSize
  | textSize
  | textFont
  | warningLevel
  | transpose
deriving DecidableEq, Repr

/-- What the value of a parameter is. -/
inductive ValueKind where
  | integer (low high : Int)
  | text
  /-- The name of a file, which is not empty. -/
  | path
deriving DecidableEq, Repr

namespace Parameter

def all : List Parameter :=
  [.chordSize, .chordFont, .output, .paper, .firstPage, .gridSize, .textSize, .textFont,
   .warningLevel, .transpose]

def letter : Parameter → Char
  | .chordSize => 'c'
  | .chordFont => 'C'
  | .output => 'o'
  | .paper => 'P'
  | .firstPage => 'p'
  | .gridSize => 's'
  | .textSize => 't'
  | .textFont => 'T'
  | .warningLevel => 'W'
  | .transpose => 'x'

def help : Parameter → String
  | .chordSize => "Set chord size [9]"
  | .chordFont => "Set chord font"
  | .output => "Save the output to a file"
  | .paper => "Paper type (a4, letter, mletter)"
  | .firstPage => "Starting page number [1]"
  | .gridSize => "Set chord grid size [30]"
  | .textSize => "Set text size [12]"
  | .textFont => "Set text font"
  | .warningLevel => "Set warning verbosity level"
  | .transpose => "Transpose by N half-tones"

def signed : ValueKind := .integer (-2147483648) 2147483647

def unsigned : ValueKind := .integer 0 4294967295

def kind : Parameter → ValueKind
  | .chordSize | .textSize | .transpose => signed
  | .firstPage | .gridSize | .warningLevel => unsigned
  | .chordFont | .textFont | .paper => .text
  | .output => .path

/-- The next argument is the value even if it looks like a flag. -/
def takesAnything (p : Parameter) : Bool := p == .transpose

def ofLetter? (c : Char) : Option Parameter := all.find? (·.letter == c)

end Parameter

/-- The value of a parameter. -/
inductive Value where
  | integer (n : Int)
  | text (s : String)
deriving DecidableEq, Repr

/-- What is wrong with the arguments. -/
inductive UsageError where
  | unknown (argument : String)
  | repeated (letter : Char)
  | valueMissing (p : Parameter)
  | badValue (p : Parameter) (value : String)
  | emptyFile
  | excluded (a b : Flag)
deriving DecidableEq, Repr

def UsageError.message : UsageError → String
  | .unknown argument => "unexpected argument '" ++ argument ++ "'"
  | .repeated letter => "'-" ++ letter.toString ++ "' is given more than once"
  | .valueMissing p => "'-" ++ p.letter.toString ++ "' needs a value"
  | .badValue p value => "invalid value '" ++ value ++ "' for '-" ++ p.letter.toString ++ "'"
  | .emptyFile => "the name of a file is empty"
  | .excluded a b =>
    "'-" ++ a.letter.toString ++ "' cannot be used with '-" ++ b.letter.toString ++ "'"

/-- What the arguments say. -/
structure Arguments where
  flags : List Flag
  values : List (Parameter × Value)
  files : List String
deriving DecidableEq, Repr

/-- What the arguments ask for. -/
inductive Request where
  | help
  | version
  | run (a : Arguments)
deriving DecidableEq, Repr

namespace Arguments

def empty : Arguments := ⟨[], [], []⟩

def has (a : Arguments) (f : Flag) : Bool := a.flags.contains f

def integer? (a : Arguments) (p : Parameter) : Option Int :=
  match a.values.lookup p with
  | some (.integer n) => some n
  | _ => none

def text? (a : Arguments) (p : Parameter) : Option String :=
  match a.values.lookup p with
  | some (.text s) => some s
  | _ => none

def addFlag (a : Arguments) (f : Flag) : Except UsageError Arguments :=
  if a.has f then .error (.repeated f.letter) else .ok { a with flags := a.flags ++ [f] }

/-- Numbers are read in 64 bits before their range is checked. -/
def readInteger? (low high : Int) (s : String) : Option Int :=
  (Decimal.integerIn? (-9223372036854775808) 9223372036854775807 s).filter fun n =>
    low ≤ n ∧ n ≤ high

def readValue? (s : String) : ValueKind → Option Value
  | .integer low high => (readInteger? low high s).map .integer
  | .text => some (.text s)
  | .path => if s.isEmpty then none else some (.text s)

def addValue (a : Arguments) (p : Parameter) (s : String) : Except UsageError Arguments :=
  match readValue? s p.kind with
  | none => .error (.badValue p s)
  | some v =>
    if (a.values.lookup p).isSome then .error (.repeated p.letter)
    else .ok { a with values := a.values ++ [(p, v)] }

def addFile (a : Arguments) (name : String) : Except UsageError Arguments :=
  if name.isEmpty then .error .emptyFile else .ok { a with files := a.files ++ [name] }

/-- What is left to do after one argument. -/
inductive Next where
  | continue (a : Arguments)
  /-- The next argument is the value of a parameter. -/
  | value (p : Parameter) (a : Arguments)
  | stop (r : Request)

/-- Reads the letters of one argument. -/
def readLetters (a : Arguments) : List Char → Except UsageError Next
  | [] => .ok (.continue a)
  | c :: cs =>
    match Flag.ofLetter? c, Parameter.ofLetter? c with
    | some f, _ => do readLetters (← a.addFlag f) cs
    | none, some p =>
      match cs with
      | [] => .ok (.value p a)
      | '=' :: value => do return .continue (← a.addValue p (String.ofList value))
      | value => do return .continue (← a.addValue p (String.ofList value))
    | none, none =>
      if c = 'h' then .ok (.stop .help)
      else if c = 'V' then .ok (.stop .version)
      else .error (.unknown ("-" ++ c.toString))

/-- Arguments that cannot be given together. -/
def check (a : Arguments) : Except UsageError Request :=
  match a.flags.findSome? fun f => (f.excludes.filter a.has).map (f, ·) with
  | some (f, g) => .error (.excluded f g)
  | none => .ok (.run a)

/-- An argument that is not a value unless the parameter takes anything. -/
def looksLikeFlag : List Char → Bool
  | '-' :: _ :: _ => true
  | _ => false

/-- Reads the arguments from the first to the last. `pending` is a parameter that waits for its
value. -/
def readFrom (a : Arguments) (pending : Option Parameter) :
    List String → Except UsageError Request
  | [] =>
    match pending with
    | some p => .error (.valueMissing p)
    | none => a.check
  | arg :: rest =>
    match pending with
    | some p =>
      if looksLikeFlag arg.toList && !p.takesAnything then .error (.valueMissing p)
      else do readFrom (← a.addValue p arg) none rest
    | none =>
      if arg = "--" then do (← rest.foldlM addFile a).check
      else if arg = "--help" then .ok .help
      else if arg = "--version" then .ok .version
      else match arg.toList with
        | '-' :: '-' :: _ => .error (.unknown arg)
        | '-' :: c :: cs => do
          match ← readLetters a (c :: cs) with
          | .continue a => readFrom a none rest
          | .value p a => readFrom a (some p) rest
          | .stop r => .ok r
        | _ => do readFrom (← a.addFile arg) none rest

def read (arguments : List String) : Except UsageError Request :=
  readFrom empty none arguments

end Arguments

end Songbook.CommandLine
