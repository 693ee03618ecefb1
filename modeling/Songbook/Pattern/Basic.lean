import Songbook.Pattern.Marking
import Songbook.Pattern.Meaning
import Songbook.Pattern.Reader
import Songbook.Pattern.Room

/-!
# Patterns

Regular expressions, made ready to be looked for in texts, or the reason why they cannot be.
-/

namespace Songbook.Pattern

/-- Why a pattern cannot be used. -/
inductive Refusal where
  | flaw (f : Flaw)
  | tooLarge
  /-- It asks for words of all scripts, which are not known. -/
  | unicodeWords
deriving DecidableEq, Repr

/-- The most bytes that a pattern may take. -/
def roomLimit : Nat := 10485760

def Refusal.message (pattern : String) : Refusal → String
  | .flaw f => f.text pattern.toList
  | .tooLarge => "Compiled regex exceeds size limit of " ++ toString roomLimit ++ " bytes."
  | .unicodeWords => "error building NFA"

/-- Words of all scripts are asked for somewhere. -/
def Expression.asksForUnicodeWords : Expression → Bool
  | .look l => l.isUnicode
  | .sequence first second | .either first second =>
    first.asksForUnicodeWords || second.asksForUnicodeWords
  | .repetition body .. | .captured _ body => body.asksForUnicodeWords
  | .empty | .literal _ | .oneOf _ => false

/-- The expression of a pattern. Words of all scripts are noticed once the automaton that reads
forward is made, and before the one that reads backward is. -/
def compile (pattern : String) : Except Refusal Expression :=
  match (do let tree ← Tree.read pattern; tree.meaning .start : Checked (Expression × Modes)) with
  | .error f => .error (.flaw f)
  | .ok (e, _) =>
    if roomLimit < e.room .forward then .error .tooLarge
    else if e.asksForUnicodeWords then .error .unicodeWords
    else if roomLimit < e.room .backward then .error .tooLarge
    else .ok e

end Songbook.Pattern
