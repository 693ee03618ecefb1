/-!
# Fonts

A font is a family and a size. Every kind of printed text has a slot that tells its font.
-/

namespace Songbook

structure Font where
  family : String
  size : Int
deriving DecidableEq, Repr

inductive FontSlot where
  | text
  | chord
  | tab
  | comment
  | commentItalic
deriving DecidableEq, Repr

namespace FontSlot

def all : List FontSlot := [.text, .chord, .tab, .comment, .commentItalic]

/-- Slots that follow the text's font until they are given one of their own. -/
def isDependent : FontSlot → Bool
  | .tab | .comment | .commentItalic => true
  | .text | .chord => false

end FontSlot

/-- Whether a change is meant for every song to come or for the song at hand. -/
inductive Scope where
  | initial
  | current
deriving DecidableEq, Repr

/-- The size of the text unless something else is asked for. -/
def defaultTextSize : Int := 12

end Songbook
