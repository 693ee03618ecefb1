/-!
# Lines of lyrics

A line of a song: its lyrics and the chords set above them.
-/

namespace Songbook

/-- A chord name and the number of lyrics characters before it. -/
structure ChordMark where
  offset : Nat
  name : String
deriving DecidableEq, Repr

structure Line where
  text : String
  chords : List ChordMark
deriving DecidableEq, Repr

namespace Line

def hasChords (l : Line) : Bool := !l.chords.isEmpty

/-- The lyrics are nothing but spaces. -/
def isBlank (l : Line) : Bool := l.text.toList.all (· == ' ')

end Line

end Songbook
