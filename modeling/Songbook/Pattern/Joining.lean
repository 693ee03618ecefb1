import Songbook.Pattern.Expression

/-!
# Expressions made of others

Expressions are joined to the simplest that means the same. Sequences and alternatives lean to the
right and hold no others of their kind in front; literals in a row are one; a set of one character
is a literal; what all branches begin with stands before them. `advance_all` says that a sequence
goes from one of its parts to the next.
-/

namespace Songbook.Pattern.Expression

/-- Nothing but the empty text can match. -/
def matchesOnlyEmpty : Expression → Bool
  | .empty | .look _ => true
  | .literal chars => chars.isEmpty
  | .oneOf _ => false
  | .sequence first second | .either first second =>
    first.matchesOnlyEmpty && second.matchesOnlyEmpty
  | .repetition body .. | .captured _ body => body.matchesOnlyEmpty

/-- One character of a set. -/
def ofSet : CharSet → Expression
  | [(first, last)] =>
    if first = last then .literal [Char.ofNat first] else .oneOf [(first, last)]
  | set => .oneOf set

/-- An expression a number of times. Once is enough if it matches only the empty text. -/
def times (body : Expression) (least : Nat) (most : Option Nat) (lazy : Bool) : Expression :=
  let (least, most) := if body.matchesOnlyEmpty then (min least 1, some (min (most.getD 1) 1))
    else (least, most)
  if most = some 0 then .empty
  else if least = 1 ∧ most = some 1 then body
  else .repetition body least most lazy

/-! ## Sequences -/

/-- The parts that stand one after the other. -/
def items : Expression → List Expression
  | .empty => []
  | .sequence first second => first :: second.items
  | e => [e]

/-- Literals in a row become one. -/
def joinLiterals : List Expression → List Expression
  | [] => []
  | .literal chars :: es =>
    match joinLiterals es with
    | .literal more :: rest => .literal (chars ++ more) :: rest
    | rest => .literal chars :: rest
  | e :: es => e :: joinLiterals es

def ofItems : List Expression → Expression
  | [] => .empty
  | [e] => e
  | e :: es => .sequence e (ofItems es)

/-- Expressions one after the other. -/
def all (es : List Expression) : Expression := ofItems (joinLiterals (es.flatMap items))

/-! ## Alternatives -/

/-- The parts any one of which may match. -/
def branches : Expression → List Expression
  | .either first second => first :: second.branches
  | e => [e]

def ofBranches : List Expression → Expression
  | [] => .oneOf []
  | [e] => e
  | e :: es => .either e (ofBranches es)

/-- The ranges of an expression that is a literal of one character. -/
def character? : Expression → Option CharSet
  | .literal [c] => some [(c.toNat, c.toNat)]
  | _ => none

def set? : Expression → Option CharSet
  | .oneOf set => some set
  | _ => none

def isSequence : Expression → Bool
  | .sequence .. => true
  | _ => false

/-- What two lists begin with. -/
def commonStart : List Expression → List Expression → List Expression
  | e :: es, f :: fs => if e = f then e :: commonStart es fs else []
  | _, _ => []

/-- What all branches begin with, if all are sequences. -/
def sharedItems (es : List Expression) : List Expression :=
  if es.all isSequence then
    match es.map items with
    | [] => []
    | first :: rest => rest.foldl commonStart first
  else []

/-- The number of parts, the expression itself included. -/
def size : Expression → Nat
  | .sequence first second | .either first second => first.size + second.size + 1
  | .repetition body .. | .captured _ body => body.size + 1
  | .empty | .literal _ | .oneOf _ | .look _ => 1

/-- One of several expressions. Each round takes away parts that all branches share. -/
def anyOf : Nat → List Expression → Expression
  | 0, es => ofBranches es
  | rounds + 1, es =>
    match es.flatMap branches with
    | [] => .oneOf []
    | [e] => e
    | es =>
      match (es.mapM character?).or (es.mapM set?) with
      | some sets => ofSet (CharSet.normal sets.flatten)
      | none =>
        match sharedItems es with
        | [] => ofBranches es
        | shared =>
          let rests := es.map fun e => all (e.items.drop shared.length)
          all (shared ++ [anyOf rounds rests])

def any (es : List Expression) : Expression := anyOf (ofBranches es).size es

/-! ## What a sequence means -/

/-- From place to place through several expressions. -/
def follow (text : List Char) (es : List Expression) (s : List Bool) : List Bool :=
  es.foldl (fun s e => e.advance text s) s

theorem follow_append (text : List Char) (es fs : List Expression) (s : List Bool) :
    follow text (es ++ fs) s = follow text fs (follow text es s) :=
  List.foldl_append

theorem follow_items (text : List Char) (e : Expression) (s : List Bool) :
    follow text e.items s = e.advance text s := by
  induction e generalizing s with
  | sequence first second _ ih => exact ih (first.advance text s)
  | _ => rfl

theorem follow_joinLiterals (text : List Char) (es : List Expression) (s : List Bool) :
    follow text (joinLiterals es) s = follow text es s := by
  fun_induction joinLiterals es generalizing s with
  | case1 => rfl
  | case2 chars es more rest h ih =>
    rw [h] at ih
    have := ih ((Expression.literal chars).advance text s)
    simpa [follow, advance, List.foldl_append] using this
  | case3 chars es _ ih => exact ih ((Expression.literal chars).advance text s)
  | case4 e es _ ih => exact ih (e.advance text s)

theorem advance_ofItems (text : List Char) (es : List Expression) (s : List Bool) :
    (ofItems es).advance text s = follow text es s := by
  fun_induction ofItems es generalizing s with
  | case1 => rfl
  | case2 e => rfl
  | case3 e es _ ih => exact ih (e.advance text s)

/-- A sequence goes from one of its parts to the next. -/
theorem advance_all (text : List Char) (es : List Expression) (s : List Bool) :
    (all es).advance text s = follow text es s := by
  rw [all, advance_ofItems, follow_joinLiterals]
  induction es generalizing s with
  | nil => rfl
  | cons e es ih =>
    rw [List.flatMap_cons, follow_append, ih, follow_items]
    rfl

end Songbook.Pattern.Expression
