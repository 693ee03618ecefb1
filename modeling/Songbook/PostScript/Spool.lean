import Songbook.PostScript.Document

/-!
# Handing on a document

A document is handed on in blocks while it is drawn. Rows wait until the next one would make the
block too large; the end of the document hands on all that waits. `whole_foldl_push` says that
nothing is lost on the way.
-/

namespace Songbook.PostScript

/-- The most bytes that wait to be handed on. -/
def blockSize : Nat := 8192

/-- What of a document is drawn but not handed on. -/
structure Spool (L : Type) where
  pen : Pen L
  waiting : String
  /-- How many drawings have come. -/
  drawings : Nat

namespace Spool

variable {L : Type} [Length L]

def start : Spool L := ⟨.start, "", 0⟩

/-- Lets a text wait behind the one that waits, which becomes a block if there is no room for
both. -/
def push (p : List String × String) (text : String) : List String × String :=
  if blockSize < p.2.utf8ByteSize + text.utf8ByteSize then (p.1 ++ [p.2], text)
  else (p.1, p.2 ++ text)

/-- The blocks and what waits behind them. -/
def whole (p : List String × String) : String := String.join p.1 ++ p.2

theorem whole_push (p : List String × String) (text : String) :
    whole (push p text) = whole p ++ text := by
  unfold push whole
  split <;> simp [String.append_assoc]

theorem whole_foldl_push (texts : List String) (p : List String × String) :
    whole (texts.foldl push p) = whole p ++ String.join texts := by
  induction texts generalizing p with
  | nil => simp
  | cons text texts ih => simp [ih, whole_push, String.append_assoc]

/-- Takes a drawing, with the blocks that are then to be handed on. -/
def add (s : Spool L) (d : Drawing L) : List String × Spool L :=
  let (rows, pen) := PostScript.draw s.pen d
  let (blocks, waiting) := (rows.map fun row => rowsText [row]).foldl push ([], s.waiting)
  match d with
  | .endDocument _ => (blocks ++ [waiting], ⟨pen, "", s.drawings + 1⟩)
  | _ => (blocks, ⟨pen, waiting, s.drawings + 1⟩)

end Spool

end Songbook.PostScript
