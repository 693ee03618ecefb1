import Songbook.Pattern.CharSet
import Songbook.Pattern.Look

/-!
# Expressions

What patterns mean. An expression takes the places of a text where a match may have come to, to
those where it may be after the expression; a set of places is a list with a truth value for each,
the end of the text included (`length_advance`). A text matches if some place leads to some place.
-/

namespace Songbook.Pattern

inductive Expression where
  | empty
  /-- Characters one after the other. -/
  | literal (chars : List Char)
  /-- One character of a set. -/
  | oneOf (set : CharSet)
  | look (l : Look)
  | sequence (first second : Expression)
  | either (first second : Expression)
  | repetition (body : Expression) (least : Nat) (most : Option Nat) (lazy : Bool)
  /-- A group whose text is remembered. The place of its parenthesis tells it from others. -/
  | captured (place : Nat) (body : Expression)
deriving DecidableEq, Repr

namespace Expression

/-- The places of both sets. -/
def union (s t : List Bool) : List Bool := List.zipWith (· || ·) s t

/-- The places after one character that is as wanted. -/
def step (text : List Char) (wanted : Char → Bool) (s : List Bool) : List Bool :=
  false :: List.zipWith (fun here c => here && wanted c) s text

/-- Moves on `n` times, or until that changes nothing. -/
def iterate (move : List Bool → List Bool) : Nat → List Bool → List Bool
  | 0, s => s
  | n + 1, s =>
    let next := move s
    if next = s then s else iterate move n next

/-- Moves on up to `n` times. -/
def upTo (move : List Bool → List Bool) : Nat → List Bool → List Bool
  | 0, s => s
  | n + 1, s =>
    let next := union s (move s)
    if next = s then s else upTo move n next

/-- The characters before and after each place. -/
def gaps (text : List Char) : List (Option Char × Option Char) :=
  (none :: text.map some).zip (text.map some ++ [none])

/-- The places after the expression, from those before it. Moving more often than the text has
places leads to no others, because a move that often stays at a place once, and then can do so
again. -/
def advance (text : List Char) : Expression → List Bool → List Bool
  | .empty, s => s
  | .literal chars, s => chars.foldl (fun s c => step text (· == c) s) s
  | .oneOf set, s => step text (Text.within set) s
  | .look l, s => List.zipWith (fun here g => here && l.holds g.1 g.2) s (gaps text)
  | .sequence first second, s => second.advance text (first.advance text s)
  | .either first second, s => union (first.advance text s) (second.advance text s)
  | .captured _ body, s => body.advance text s
  | .repetition body least most _, s =>
    let enough := text.length + 1
    let more := match most with
      | some n => min (n - least) enough
      | none => enough
    upTo (body.advance text) more (iterate (body.advance text) (min least enough) s)

/-- Some part of the text matches. -/
def foundIn (e : Expression) (text : String) : Bool :=
  let cs := text.toList
  (e.advance cs (List.replicate (cs.length + 1) true)).any id

theorem length_union {s t : List Bool} {n : Nat} (hs : s.length = n) (ht : t.length = n) :
    (union s t).length = n := by
  simp [union, hs, ht]

theorem length_step (text : List Char) (wanted : Char → Bool) {s : List Bool}
    (hs : s.length = text.length + 1) : (step text wanted s).length = text.length + 1 := by
  simp [step, hs]

theorem length_iterate {move : List Bool → List Bool} {n : Nat}
    (h : ∀ s, s.length = n → (move s).length = n) :
    ∀ (k : Nat) (s : List Bool), s.length = n → (iterate move k s).length = n
  | 0, _, hs => hs
  | k + 1, s, hs => by
    simp only [iterate]
    split
    · exact hs
    · exact length_iterate h k _ (h s hs)

theorem length_upTo {move : List Bool → List Bool} {n : Nat}
    (h : ∀ s, s.length = n → (move s).length = n) :
    ∀ (k : Nat) (s : List Bool), s.length = n → (upTo move k s).length = n
  | 0, _, hs => hs
  | k + 1, s, hs => by
    simp only [upTo]
    split
    · exact hs
    · exact length_upTo h k _ (length_union hs (h s hs))

/-- There is a truth value for each place of the text. -/
theorem length_advance (text : List Char) (e : Expression) :
    ∀ s : List Bool, s.length = text.length + 1 → (e.advance text s).length = text.length + 1 := by
  induction e with
  | empty => exact fun s hs => hs
  | literal chars =>
    intro s hs
    simp only [advance]
    induction chars generalizing s with
    | nil => exact hs
    | cons c cs ih => exact ih _ (length_step text _ hs)
  | oneOf set => exact fun s hs => length_step text _ hs
  | look l =>
    intro s hs
    simp [advance, gaps, hs]
  | sequence first second ih ih' => exact fun s hs => ih' _ (ih s hs)
  | either first second ih ih' => exact fun s hs => length_union (ih s hs) (ih' s hs)
  | repetition body least most lazy ih =>
    exact fun s hs => length_upTo ih _ _ (length_iterate ih _ _ hs)
  | captured place body ih => exact ih

end Expression

end Songbook.Pattern
