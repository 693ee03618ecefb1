import Songbook.Pattern.Flaw
import Songbook.Text.Blank

/-!
# Marked patterns

How a flaw is shown: the lines of the pattern, under them marks where the flaw lies, and what is
wrong. The lines of a pattern of several lines are numbered, and a flaw that goes on over lines is
told by line and column.
-/

namespace Songbook.Pattern

/-- A line without the carriage return of its line end. -/
def withoutReturn (line : List Char) : List Char :=
  if line.getLast? = some '\r' then line.dropLast else line

/-- The lines of a text, without their line ends. A line end at the end of the text begins no
further line. -/
def lines (text : List Char) : List (List Char) :=
  match (Text.pieces (· == '\n') text).reverse with
  | [] => []
  | last :: before =>
    (if last.isEmpty then [] else [last]) ++ before.map withoutReturn |>.reverse

/-- Carets under the parts of one line, the first `column` columns of which are done. -/
def carets (column : Nat) : List Span → String
  | [] => ""
  | s :: rest =>
    let gap := s.start.column - 1 - column
    let width := max 1 (s.stop.column - s.start.column)
    String.ofList (List.replicate gap ' ' ++ List.replicate width '^') ++
      carets (column + gap + width) rest

namespace Flaw

/-- The parts that a flaw lies in, from left to right. -/
def spans (f : Flaw) : List Span :=
  match f.first with
  | none => [f.span]
  | some other => if f.span.notAfter other then [f.span, other] else [other, f.span]

/-- A line of the pattern with its number in `width` columns, and the marks under it. -/
def markedLine (f : Flaw) (width : Nat) (number : Nat) (line : List Char) : String :=
  let label := toString number
  let margin :=
    if width = 0 then "    "
    else String.ofList (List.replicate (width - label.length) ' ') ++ label ++ ": "
  let parts := f.spans.filter fun s => s.onOneLine && s.start.line = number
  let marks :=
    if parts.isEmpty then ""
    else String.ofList (List.replicate margin.length ' ') ++ carets 0 parts ++ "\n"
  margin ++ String.ofList line ++ "\n" ++ marks

/-- The lines of the pattern with marks under them. -/
def markedLines (f : Flaw) (pattern : List Char) : String :=
  let count := (Text.pieces (· == '\n') pattern).length
  let width := if count ≤ 1 then 0 else (toString count).length
  String.join ((lines pattern).mapIdx fun i line => f.markedLine width (i + 1) line)

/-- Where a part that goes on over lines begins and stops. -/
def range (s : Span) : String :=
  "on line " ++ toString s.start.line ++ " (column " ++ toString s.start.column ++
    ") through line " ++ toString s.stop.line ++ " (column " ++ toString (s.stop.column - 1) ++ ")"

/-- What is told of a flaw in a pattern. -/
def text (f : Flaw) (pattern : List Char) : String :=
  let marked := f.markedLines pattern
  let reason := "error: " ++ f.kind.message
  if pattern.contains '\n' then
    let divider := String.ofList (List.replicate 79 '~') ++ "\n"
    let ranges := (f.spans.filter (!·.onOneLine)).map range
    "regex parse error:\n" ++ divider ++ marked ++ divider ++
      (if ranges.isEmpty then "" else "\n".intercalate ranges ++ "\n") ++ reason
  else "regex parse error:\n" ++ marked ++ reason

end Flaw

example : Flaw.text ⟨.groupUnclosed, ⟨⟨1, 1, 2⟩, ⟨2, 1, 3⟩⟩, none⟩ ['a', '('] =
    "regex parse error:\n    a(\n     ^\nerror: unclosed group" := by decide +kernel

end Songbook.Pattern
