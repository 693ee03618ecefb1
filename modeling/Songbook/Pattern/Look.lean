/-!
# Looks

What patterns ask of a place in a text: whether it is at an end of the text, of a line or of a
word. A look goes past no character.
-/

namespace Songbook.Pattern

/-- What is asked of the characters before and after a place. -/
inductive Look where
  | textStart
  | textEnd
  | lineStart (carriageReturns : Bool)
  | lineEnd (carriageReturns : Bool)
  | wordBoundary (unicode : Bool)
  | noWordBoundary (unicode : Bool)
  | wordStart (unicode : Bool)
  | wordEnd (unicode : Bool)
  | wordStartHalf (unicode : Bool)
  | wordEndHalf (unicode : Bool)
deriving DecidableEq, Repr

namespace Look

/-- A letter, a digit or an underscore of ASCII. -/
def isWord (c : Char) : Bool := c.isAlphanum || c == '_'

/-- The place between two characters is as asked. At the ends of the text one is missing. -/
def holds (before after : Option Char) : Look → Bool
  | .textStart => before.isNone
  | .textEnd => after.isNone
  | .lineStart false => before.isNone || before = some '\n'
  | .lineStart true =>
    before.isNone || before = some '\n' || (before = some '\r' && after != some '\n')
  | .lineEnd false => after.isNone || after = some '\n'
  | .lineEnd true =>
    after.isNone || after = some '\r' || (after = some '\n' && before != some '\r')
  | .wordBoundary _ => before.any isWord != after.any isWord
  | .noWordBoundary _ => before.any isWord == after.any isWord
  | .wordStart _ => !before.any isWord && after.any isWord
  | .wordEnd _ => before.any isWord && !after.any isWord
  | .wordStartHalf _ => !before.any isWord
  | .wordEndHalf _ => !after.any isWord

/-- Words of all scripts are asked for. -/
def isUnicode : Look → Bool
  | .wordBoundary u | .noWordBoundary u | .wordStart u | .wordEnd u | .wordStartHalf u
  | .wordEndHalf u => u
  | _ => false

end Look

end Songbook.Pattern
