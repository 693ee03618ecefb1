/-!
# Bounded tokens

What a line of markup is made of: lyrics, chord names and directives. Each kind holds a bounded
number of characters; a `Buffer` drops what does not fit and tells so once.
-/

namespace Songbook.Markup

/-- The kinds of text collected from a line. -/
inductive Token where
  | lyrics
  | chordName
  | directive
deriving DecidableEq, Repr

namespace Token

/-- The most characters that a token keeps. -/
def capacity : Token → Nat
  | .lyrics => 255
  | .chordName => 15
  | .directive => 255

def describe : Token → String
  | .lyrics => "lyrics line"
  | .chordName => "chord name"
  | .directive => "directive"

end Token

/-- The characters of a token so far, the latest first, and whether one was dropped. -/
structure Buffer where
  reversed : List Char
  overflowed : Bool
deriving DecidableEq, Repr

namespace Buffer

def empty : Buffer := ⟨[], false⟩

def size (b : Buffer) : Nat := b.reversed.length

def text (b : Buffer) : String := String.ofList b.reversed.reverse

/-- Adds a character if there is room. The second part tells of the first one dropped. -/
def push (kind : Token) (b : Buffer) (c : Char) : Buffer × Bool :=
  if b.size < kind.capacity then ({ b with reversed := c :: b.reversed }, false)
  else ({ b with overflowed := true }, !b.overflowed)

@[simp] theorem size_empty : empty.size = 0 := rfl

@[simp] theorem text_empty : empty.text = "" := rfl

theorem size_push_le {kind : Token} {b : Buffer} (c : Char) (h : b.size ≤ kind.capacity) :
    (b.push kind c).1.size ≤ kind.capacity := by
  unfold push
  split
  · simp_all only [size, List.length_cons]
    omega
  · exact h

end Buffer

end Songbook.Markup
