import Songbook.Text.Ranges

/-!
# Sets of characters

Sets of code points as ranges, with the operations of classes. Ranges begin and stop at characters,
so that the step from one range to the next goes over the surrogates, which are no characters.
`holds_difference` and its companions say what the operations keep.
-/

namespace Songbook.Pattern

/-- The first and the last code point of each range. The ranges may overlap. -/
abbrev CharSet := List (Nat × Nat)

/-- The code point of a character: any one but the surrogates. -/
def isScalar (n : Nat) : Bool := n < 0xD800 || 0xDFFF < n

namespace CharSet

/-- The last code point of all. -/
def lastCharacter : Nat := 0x10FFFF

/-- The character after a code point. -/
def after (n : Nat) : Nat := if n = 0xD7FF then 0xE000 else n + 1

/-- The character before a code point. -/
def before (n : Nat) : Nat := if n = 0xE000 then 0xD7FF else n - 1

/-- Only ASCII characters are in the set. -/
def isAscii (s : CharSet) : Bool := s.all (·.2 < 0x80)

/-- A range begins before another, or at the same place and is not longer. -/
def notAfter (r q : Nat × Nat) : Bool := r.1 < q.1 || (r.1 = q.1 && r.2 ≤ q.2)

/-- Ranges in order with one before them: those that touch become one. -/
def absorb (r : Nat × Nat) : List (Nat × Nat) → CharSet
  | [] => [r]
  | q :: qs => if q.1 ≤ r.2 + 1 then absorb (r.1, max r.2 q.2) qs else r :: absorb q qs

/-- The ranges in order, none of which touch. -/
def normal (s : CharSet) : CharSet :=
  match s.mergeSort notAfter with
  | [] => []
  | r :: rs => absorb r rs

/-- What is left of a range without another. -/
def cut (r q : Nat × Nat) : CharSet :=
  (if r.1 < q.1 then [(r.1, min r.2 (before q.1))] else []) ++
    (if q.2 < r.2 then [(max r.1 (after q.2), r.2)] else [])

/-- The characters of the first set that are not in the second. -/
def difference (s t : CharSet) : CharSet :=
  t.foldl (fun s q => s.flatMap (cut · q)) s

/-- What two ranges have in common. -/
def overlap? (r q : Nat × Nat) : Option (Nat × Nat) :=
  if max r.1 q.1 ≤ min r.2 q.2 then some (max r.1 q.1, min r.2 q.2) else none

def intersection (s t : CharSet) : CharSet :=
  s.flatMap fun r => t.filterMap (overlap? r)

def union (s t : CharSet) : CharSet := normal (s ++ t)

def symmetricDifference (s t : CharSet) : CharSet :=
  difference (union s t) (intersection s t)

/-- The characters between a range and the one after it. Between ranges that meet at the
surrogates these are the two characters beside the surrogates. -/
def between (r q : Nat × Nat) : Nat × Nat :=
  (min (after r.2) (before q.1), max (after r.2) (before q.1))

/-- The characters after a range, up to `last`, that are in no later range. -/
def gaps (last : Nat) (r : Nat × Nat) : List (Nat × Nat) → CharSet
  | [] => if r.2 < last then [(after r.2, last)] else []
  | q :: qs => between r q :: gaps last q qs

/-- The complement among the characters up to `last`. -/
def complement (last : Nat) (s : CharSet) : CharSet :=
  match normal s with
  | [] => [(0, last)]
  | r :: rs => (if 0 < r.1 then [(0, before r.1)] else []) ++ gaps last r rs

/-- The set with the ASCII letters of the other case. -/
def withOtherCase (s : CharSet) : CharSet :=
  normal (s ++ (intersection s [(0x61, 0x7A)]).map (fun r => (r.1 - 0x20, r.2 - 0x20)) ++
    (intersection s [(0x41, 0x5A)]).map fun r => (r.1 + 0x20, r.2 + 0x20))

example : complement lastCharacter [(0x61, 0x7A)] = [(0, 0x60), (0x7B, 0x10FFFF)] := by
  decide +kernel

/-! ## What the operations keep -/

/-- The code point is in the set. -/
def holds (s : CharSet) (n : Nat) : Bool := s.any fun r => r.1 ≤ n && n ≤ r.2

theorem within_eq_holds (s : CharSet) (c : Char) : Text.within s c = holds s c.toNat := rfl

theorem holds_append (s t : CharSet) (n : Nat) : holds (s ++ t) n = (holds s n || holds t n) :=
  List.any_append

theorem holds_absorb (r : Nat × Nat) (qs : List (Nat × Nat)) (n : Nat)
    (hr : r.1 ≤ r.2) (hq : ∀ q ∈ qs, r.1 ≤ q.1 ∧ q.1 ≤ q.2)
    (hs : qs.Pairwise fun p q => p.1 ≤ q.1) : holds (absorb r qs) n = holds (r :: qs) n := by
  induction qs generalizing r with
  | nil => rfl
  | cons q qs ih =>
    obtain ⟨hrq, hqq⟩ := hq q List.mem_cons_self
    rw [List.pairwise_cons] at hs
    unfold absorb
    split
    · rw [ih _ (by grind) (fun p hp => ⟨by grind, (hq p (List.mem_cons_of_mem _ hp)).2⟩) hs.2]
      simp only [holds, List.any_cons, ← Bool.or_assoc]
      congr 1
      grind
    · have := ih q hqq
        (fun p hp => ⟨hs.1 p hp, (hq p (List.mem_cons_of_mem _ hp)).2⟩) hs.2
      simp only [holds, List.any_cons] at this ⊢
      rw [this]

/-- Bringing ranges in order changes nothing, if they are not empty. -/
theorem holds_normal (s : CharSet) (n : Nat) (hs : ∀ r ∈ s, r.1 ≤ r.2) :
    holds (normal s) n = holds s n := by
  have hperm := List.mergeSort_perm s notAfter
  have hsorted : (s.mergeSort notAfter).Pairwise fun p q => notAfter p q = true :=
    List.pairwise_mergeSort (fun a b c => by grind [notAfter]) (fun a b => by grind [notAfter]) s
  have hany : holds (s.mergeSort notAfter) n = holds s n := hperm.any_eq
  rw [← hany]
  unfold normal
  cases h : s.mergeSort notAfter with
  | nil => rfl
  | cons r rs =>
    rw [h] at hsorted hperm
    rw [List.pairwise_cons] at hsorted
    have hmem : ∀ q ∈ r :: rs, q.1 ≤ q.2 := fun q hq => hs q (hperm.mem_iff.1 hq)
    exact holds_absorb r rs n (hmem r List.mem_cons_self)
      (fun q hq => ⟨by have := hsorted.1 q hq; grind [notAfter],
        hmem q (List.mem_cons_of_mem _ hq)⟩)
      (hsorted.2.imp fun {p q} hpq => by grind [notAfter])

theorem holds_cut (r q : Nat × Nat) (n : Nat) (hq : q.1 ≤ q.2) (hn : isScalar n) :
    holds (cut r q) n = (holds [r] n && !holds [q] n) := by
  simp only [isScalar] at hn
  simp only [cut, before, after, holds, List.any_append, List.any_cons, List.any_nil,
    Bool.or_false]
  split <;> split <;> simp <;> grind

theorem holds_flatMap_cut (s : CharSet) (q : Nat × Nat) (n : Nat) (hq : q.1 ≤ q.2)
    (hn : isScalar n) : holds (s.flatMap (cut · q)) n = (holds s n && !holds [q] n) := by
  induction s with
  | nil => rfl
  | cons r s ih =>
    rw [List.flatMap_cons, holds_append, holds_cut r q n hq hn, ih]
    simp only [holds, List.any_cons, List.any_nil, Bool.or_false]
    rw [Bool.and_or_distrib_right]

/-- The first set without the second, whose ranges are not empty. -/
theorem holds_difference (s t : CharSet) (n : Nat) (ht : ∀ q ∈ t, q.1 ≤ q.2)
    (hn : isScalar n) : holds (difference s t) n = (holds s n && !holds t n) := by
  unfold difference
  induction t generalizing s with
  | nil => simp [holds]
  | cons q t ih =>
    rw [List.foldl_cons, ih _ fun p hp => ht p (List.mem_cons_of_mem _ hp),
      holds_flatMap_cut _ _ _ (ht q List.mem_cons_self) hn]
    simp [holds, Bool.and_assoc]

theorem holds_intersection (s t : CharSet) (n : Nat) :
    holds (intersection s t) n = (holds s n && holds t n) := by
  rw [Bool.eq_iff_iff]
  simp only [holds, intersection, overlap?, List.any_eq_true, List.mem_flatMap,
    List.mem_filterMap, Bool.and_eq_true, decide_eq_true_eq]
  constructor
  · rintro ⟨p, ⟨r, hr, q, hq, h⟩, hp⟩
    split at h
    · cases h
      exact ⟨⟨r, hr, by grind⟩, q, hq, by grind⟩
    · cases h
  · rintro ⟨⟨r, hr, h⟩, q, hq, h'⟩
    refine ⟨(max r.1 q.1, min r.2 q.2), ⟨r, hr, q, hq, ?_⟩, ?_⟩
    · rw [if_pos (by grind)]
    · grind

end CharSet

end Songbook.Pattern
