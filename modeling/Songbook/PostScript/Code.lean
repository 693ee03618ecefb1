import Songbook.Length
import Songbook.PostScript.Quoted

/-!
# PostScript code

The part of PostScript that documents are written in: rows of tokens, and comments that structure
the document. `Row.text` is how a row is written.
-/

namespace Songbook.PostScript

/-- The operators in use. -/
inductive Operator where
  | add | arc | closepath | define | divide | dup | exch | fill | findfont | grestore | gsave
  | ifTrue | lineto | lt | moveto | mul | neg | newpath | pop | rlineto | rmoveto | rotate | scale
  | scalefont | setfont | setgray | setlinewidth | showText | showpage | stringwidth | stroke
  | translate
deriving DecidableEq, Repr

def Operator.name : Operator → String
  | .add => "add"
  | .arc => "arc"
  | .closepath => "closepath"
  | .define => "def"
  | .divide => "div"
  | .dup => "dup"
  | .exch => "exch"
  | .fill => "fill"
  | .findfont => "findfont"
  | .grestore => "grestore"
  | .gsave => "gsave"
  | .ifTrue => "if"
  | .lineto => "lineto"
  | .lt => "lt"
  | .moveto => "moveto"
  | .mul => "mul"
  | .neg => "neg"
  | .newpath => "newpath"
  | .pop => "pop"
  | .rlineto => "rlineto"
  | .rmoveto => "rmoveto"
  | .rotate => "rotate"
  | .scale => "scale"
  | .scalefont => "scalefont"
  | .setfont => "setfont"
  | .setgray => "setgray"
  | .setlinewidth => "setlinewidth"
  | .showText => "show"
  | .showpage => "showpage"
  | .stringwidth => "stringwidth"
  | .stroke => "stroke"
  | .translate => "translate"

/-- A token of code over lengths `L`. -/
inductive Token (L : Type) where
  | length (value : L)
  /-- A length written with six decimal places. -/
  | fixed (value : L)
  | integer (value : Int)
  /-- So many tenths, written without a leading zero. -/
  | tenths (value : Nat)
  | op (operator : Operator)
  /-- A name that the document defines. -/
  | call (name : String)
  /-- A name that is not to be run. -/
  | symbol (name : String)
  /-- A string that shows a text. -/
  | string (text : String)
  | procedure (body : List (Token L))
deriving Repr

/-- A line of a document. -/
inductive Row (L : Type) where
  /-- The line that every document begins with. -/
  | header
  /-- A comment that structures the document, without its two percent signs. -/
  | comment (text : String)
  | code (tokens : List (Token L))
deriving Repr

/-- Words with a space between neighbours. -/
def spaced : List String → String
  | [] => ""
  | [w] => w
  | w :: ws => w ++ " " ++ spaced ws

variable {L : Type} [Length L]

mutual

def Token.text : Token L → String
  | .length value => Length.text value
  | .fixed value => Length.sixPlaces value
  | .integer value => toString value
  | .tenths value => "." ++ toString value
  | .op operator => operator.name
  | .call name => name
  | .symbol name => "/" ++ name
  | .string text => "(" ++ escape text ++ ")"
  | .procedure body => "\x7b" ++ spaced (texts body) ++ "\x7d"

def texts : List (Token L) → List String
  | [] => []
  | t :: ts => t.text :: texts ts

end

namespace Row

def text : Row L → String
  | .header => "%!PS-Adobe-1.0\n"
  | .comment text => "%%" ++ text ++ "\n"
  | .code tokens => spaced (texts tokens) ++ "\n"

end Row

/-- The text of rows, each on a line of its own. -/
def rowsText (rows : List (Row L)) : String :=
  String.join (rows.map Row.text)

end Songbook.PostScript
