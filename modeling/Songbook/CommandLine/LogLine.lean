import Songbook.CommandLine.LogFilter
import Songbook.Text.ControlSequence

/-!
# Lines of the log

How a message of the log is printed: after its severity in brackets, with its further lines
indented. Without colours control sequences are taken out of it.
-/

namespace Songbook

/-- How a message is headed, in five columns. -/
def Severity.column : Severity → String
  | .error => "ERROR"
  | .warning => "WARN "
  | .info => "INFO "
  | .debug => "DEBUG"
  | .trace => "TRACE"

/-- What switches a terminal to the colour of a severity. -/
def Severity.colour : Severity → String
  | .error => "\x1b[1m\x1b[31m"
  | .warning => "\x1b[33m"
  | .info => "\x1b[32m"
  | .debug => "\x1b[34m"
  | .trace => "\x1b[36m"

namespace CommandLine

inductive LogStyle where
  | plain
  | coloured
deriving DecidableEq, Repr

namespace LogStyle

/-- The style that is asked for by name; any other name leaves it to the two variables that
forbid colours and force them, if they have values. -/
def choose (name noColours forceColours : Option String) : LogStyle :=
  let given (value : Option String) : Bool := value.any (!·.isEmpty)
  match name with
  | some "always" => .coloured
  | some "never" => .plain
  | _ => if !given noColours && given forceColours then .coloured else .plain

end LogStyle

/-- The text in a colour, after which the terminal goes back to its own. -/
def inColour (colour text : String) : String := colour ++ text ++ "\x1b[0m"

/-- The colour of the brackets around a severity. -/
def bracketColour : String := "\x1b[90m"

/-- A message of the log as it is printed. -/
def logLine (style : LogStyle) (e : LogEntry Float) : String :=
  let message := "\n    ".intercalate (e.message.splitOn "\n") ++ "\n"
  match style with
  | .plain => Text.withoutControls ("[" ++ e.severity.column ++ "] " ++ message)
  | .coloured =>
    inColour bracketColour "[" ++ inColour e.severity.colour e.severity.column ++
      inColour bracketColour "]" ++ " " ++ message

/-- What of a log is shown, and how. -/
structure LogView where
  filter : LogFilter
  style : LogStyle
deriving DecidableEq, Repr

namespace LogView

/-- The messages that are shown. -/
def text (v : LogView) (log : List (LogEntry Float)) : String :=
  String.join
    ((log.filter fun e => v.filter.shows e.severity e.topic e.message).map (logLine v.style))

end LogView

end CommandLine

end Songbook
