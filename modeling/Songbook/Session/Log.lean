import Songbook.Length
import Songbook.Page.Geometry
import Songbook.Problem

/-!
# The log of a session

What a session tells of its work, in order. Problems are part of the log; the rest says what was
read and how pages were filled.
-/

namespace Songbook

/-- How much a message matters. -/
inductive Severity where
  | error
  | warning
  | info
  | debug
  | trace
deriving DecidableEq, Repr

/-- One message of the log. -/
inductive LogEntry (L : Type) where
  | problem (diagnostic : Diagnostic)
  | readingConfiguration (name : String)
  | typesetting (name : String)
  | form (spec : FormSpec L)
  | paper (name : String)
  | sheet (number : Nat)
  | column (number : Nat)
  /-- How much room a conditional break asks for. -/
  | roomNeeded (length : L)
  | languageVersion (version : Int)
  | index (entries : Nat)
  | noFingering (chord : String)
  | baseFretMoved (chord : String) (base : Nat)
  /-- A configuration file that cannot be read. -/
  | skipped (path reason : String)
  /-- The path of a configuration file names a variable that is not set. -/
  | notExpanded (path variableName : String)
deriving Repr

namespace LogEntry

variable {L : Type}

def severity : LogEntry L → Severity
  | .problem _ => .warning
  | .readingConfiguration _ | .typesetting _ | .form _ => .info
  | _ => .debug

def problem? : LogEntry L → Option Diagnostic
  | .problem d => some d
  | _ => none

/-- The part of the program that a message comes from; messages can be chosen by it. -/
def topic : LogEntry L → String
  | .problem _ | .readingConfiguration _ | .typesetting _ => "chordsheet::typesetter"
  | .form _ | .paper _ | .roomNeeded _ | .languageVersion _ => "chordsheet::dispatch"
  | .sheet _ | .column _ => "chordsheet::layout"
  | .index _ => "chordsheet::toc"
  | .noFingering _ | .baseFretMoved .. => "chordsheet::chord"
  | .skipped .. | .notExpanded .. => "chordsheet::rc"

def message [Length L] : LogEntry L → String
  | .problem d => d.message
  | .readingConfiguration name => "reading configuration " ++ name
  | .typesetting name => "typesetting " ++ name
  | .form spec =>
    "form " ++ spec.name ++ " is " ++ Length.text spec.width ++ " x " ++ Length.text spec.top ++
      " points, margins left " ++ Length.text spec.left ++ " bottom " ++ Length.text spec.bottom
  | .paper name => "paper " ++ name
  | .sheet number => "sheet " ++ toString number
  | .column number => "column " ++ toString number
  | .roomNeeded length => "conditional break needs " ++ Length.text length ++ " points"
  | .languageVersion version => "language version " ++ toString version
  | .index entries => "index with " ++ toString entries ++ " entries"
  | .noFingering chord => "no fingering known for " ++ chord
  | .baseFretMoved chord base => chord ++ ": base fret moved to " ++ toString base
  | .skipped path reason => "skipping " ++ path ++ ": " ++ reason
  | .notExpanded path variableName =>
    "cannot expand " ++ path ++ ": error looking key '" ++ variableName ++
      "' up: environment variable not found"

end LogEntry

end Songbook
