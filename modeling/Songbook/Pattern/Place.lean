/-!
# Places in a pattern

Where something stands in a pattern. Places lie between characters; lines and columns count from
one.
-/

namespace Songbook.Pattern

structure Place where
  /-- The number of characters before it. -/
  offset : Nat
  line : Nat
  column : Nat
deriving DecidableEq, Repr

namespace Place

def start : Place := ⟨0, 1, 1⟩

/-- The place after a character that stands here. -/
def next (p : Place) (c : Char) : Place :=
  if c = '\n' then ⟨p.offset + 1, p.line + 1, 1⟩ else ⟨p.offset + 1, p.line, p.column + 1⟩

@[simp] theorem offset_next (p : Place) (c : Char) : (p.next c).offset = p.offset + 1 := by
  unfold next
  split <;> rfl

end Place

/-- The part of a pattern between two places. -/
structure Span where
  start : Place
  stop : Place
deriving DecidableEq, Repr

namespace Span

/-- The empty part at a place. -/
def empty (p : Place) : Span := ⟨p, p⟩

/-- From the start of one part to the stop of another. -/
def through (a b : Span) : Span := ⟨a.start, b.stop⟩

def onOneLine (s : Span) : Bool := s.start.line = s.stop.line

/-- The part stands before another, or at the same place and is not longer. -/
def notAfter (a b : Span) : Bool :=
  a.start.offset < b.start.offset ||
    (a.start.offset = b.start.offset && a.stop.offset ≤ b.stop.offset)

end Span

end Songbook.Pattern
