/-!
# Fingerings

A fingering tells for each of the six strings where it is held down. A diagram shows a few rows of
the neck from the base fret on; `adjust` moves the base fret so that every fret that is held lies
in the diagram, if their span allows it.
-/

namespace Songbook

/-- The number of strings. -/
abbrev strings : Nat := 6

/-- The number of frets a diagram shows. -/
def diagramRows : Nat := 5

/-- The last fret of the neck. -/
def lastFret : Nat := 255

inductive Fret where
  | openString
  | muted
  /-- Held down at a fret, counted on the neck. -/
  | held (fret : Nat)
deriving DecidableEq, Repr

def Fret.held? : Fret → Option Nat
  | .held n => some n
  | _ => none

structure Fingering where
  baseFret : Nat
  frets : Vector Fret strings
  /-- The base fret as it was written, once it has been moved. -/
  adjustedFrom : Option Nat
  /-- The frets that are held span more rows than a diagram has. -/
  ungridable : Bool
deriving DecidableEq, Repr

/-- What became of a fingering that was to fit a diagram. -/
inductive Adjustment where
  | kept
  | moved (baseFret : Nat)
  | tooWide (span : Nat)
deriving DecidableEq, Repr

namespace Fingering

/-- A fret written as its row from the base fret: below zero is muted, zero is open. Rows beyond
the neck's end are held at its end. -/
def fretAt (base : Nat) (row : Int) : Fret :=
  if row < 0 then .muted
  else if row = 0 then .openString
  else .held (min lastFret (base + row.toNat - 1))

/-- The fingering with the given rows. The base fret is at least one. -/
def ofRows (base : Nat) (rows : Vector Int strings) : Fingering where
  baseFret := max 1 base
  frets := rows.map (fretAt (max 1 base))
  adjustedFrom := none
  ungridable := false

/-- The fingering with the given rows, if all of them lie on the neck. -/
def ofRows? (base : Nat) (rows : Vector Int strings) : Option Fingering :=
  if rows.toList.all fun r => r ≤ 0 || max 1 base + r.toNat - 1 ≤ lastFret then
    some (ofRows base rows)
  else none

/-- The frets that are held, from the lowest string on. -/
def held (f : Fingering) : List Nat :=
  f.frets.toList.filterMap Fret.held?

/-- The row of a fret in the diagram; the base fret is in row one. -/
def row (f : Fingering) (fret : Nat) : Int :=
  (fret : Int) - f.baseFret + 1

def rows (f : Fingering) : List Int :=
  f.held.map f.row

/-- Every fret that is held lies in a diagram of that many rows. -/
def fits (f : Fingering) (diagram : Nat) : Bool :=
  f.rows.all fun r => 1 ≤ r && r ≤ diagram

/-- The number of frets from the lowest to the highest that is held. -/
def span? (f : Fingering) : Option Nat := do
  let low ← f.held.min?
  let high ← f.held.max?
  some (high - low + 1)

/-- Moves the base fret so that the fingering fits the diagram. One whose span is too large stays
as it is written and is marked. -/
def adjust (f : Fingering) (diagram : Nat) : Fingering × Adjustment :=
  if f.fits diagram then (f, .kept)
  else
    let span := f.span?.getD 0
    if diagram < span then ({ f with ungridable := true }, .tooWide span)
    else
      let highest := f.held.max?.getD 1
      let base := max 1 (min lastFret (highest - diagram + 1))
      ({ f with baseFret := base, adjustedFrom := some f.baseFret }, .moved base)

/-- The strings as a definition writes them, relative to the base fret. -/
def relativeText (f : Fingering) : List String :=
  f.frets.toList.map fun
    | .muted => "x"
    | .openString => "0"
    | .held n => toString (f.row n)

/-- Moving the base fret keeps every fret where it is on the neck. -/
theorem frets_adjust (f : Fingering) (diagram : Nat) : (f.adjust diagram).1.frets = f.frets := by
  unfold adjust
  split
  · rfl
  · dsimp only
    split <;> rfl

end Fingering

end Songbook
