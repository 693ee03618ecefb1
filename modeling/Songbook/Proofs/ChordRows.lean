import Mathlib.Algebra.Order.Ring.Rat
import Mathlib.Data.List.Chain
import Mathlib.Tactic.Linarith
import Songbook.Proofs.FontCode

/-!
# Chords in a row

Where the code of a row of chords shows them. Each is moved to its place over the lyrics, or to the
end of the chord before it if that is further right (`run_placeChords_at`), and the operands are
left as they were. Over exact lengths the chords of a line do not overlap, whatever the fonts
(`chords_apart`).
-/

namespace Songbook.PostScript

section Places

variable {L : Type}

/-- The point that the path has just been moved to. -/
def Graphics.movedTo? (g : Graphics L) : Option (Point L) :=
  match g.path.getLast? with
  | some (.moveTo h v) => some ⟨h, v⟩
  | _ => none

theorem Graphics.movedTo?_draw (g : Graphics L) (h v : L) :
    (g.draw (.moveTo h v)).movedTo? = some ⟨h, v⟩ := by
  rw [movedTo?, draw, List.getLast?_concat]

/-- A text that is shown, in which font, and at which point if it has just been moved to. -/
def Event.shownAt? : Event L → Option (String × ScaledFont L × Option (Point L))
  | .shown text font state => some (text, font, state.movedTo?)
  | _ => none

variable [Length L]

/-- Chords and where they begin: at `above` or, if that is further right, at the end of the chord
before. The first does not begin left of `least`. -/
def placeMarks (above long : ChordMark → L) : L → List ChordMark → List (ChordMark × L)
  | _, [] => []
  | least, mark :: marks =>
    let x := Machine.placeFrom (above mark) least
    (mark, x) :: placeMarks above long (x + long mark) marks

theorem map_fst_placeMarks (above long : ChordMark → L) (least : L) (marks : List ChordMark) :
    (placeMarks above long least marks).map Prod.fst = marks := by
  induction marks generalizing least with
  | nil => rfl
  | cons mark marks ih => exact congrArg (mark :: ·) (ih _)

namespace Machine

variable (width : ScaledFont L → String → L)

theorem withChord_shows (m : Machine L) (lyrics : String) (textFont chordFont : Font) (v x : L)
    (mark : ChordMark) :
    ∃ es, (m.withChord width lyrics textFont chordFont v x mark).events = m.events ++ es ∧
      es.filterMap Event.shownAt? = [(mark.name, chordFont.scaled, some ⟨x, v⟩)] :=
  ⟨_, List.append_assoc .., congrArg (fun point? => [(mark.name, chordFont.scaled, point?)])
    (Graphics.movedTo?_draw _ x v)⟩

/-- Chords are shown one after the other at their places, each in the font of chords. -/
theorem run_placeChords_at (lyrics : String) (textFont chordFont : Font) (origin : Point L)
    (marks : List ChordMark) {current : Option Font} {m : Machine L} {least : L}
    (hleast : m.names "minhpos" = some (.number least)) (hcurrent : m.InForce current) :
    let above (mark : ChordMark) :=
      width textFont.scaled (String.ofList (lyrics.toList.take mark.offset)) + origin.h
    let long (mark : ChordMark) := width chordFont.scaled mark.name
    ∃ (m' : Machine L) (es : List (Event L)),
      run width (tokens (placeChords lyrics textFont chordFont origin current marks)) m =
        some m' ∧
      m'.operands = m.operands ∧ m'.events = m.events ++ es ∧
      es.filterMap Event.shownAt? = (placeMarks above long least marks).map
        fun p => (p.1.name, chordFont.scaled, some ⟨p.2, origin.v⟩) := by
  intro above long
  induction marks generalizing current m least with
  | nil => exact ⟨m, [], rfl, rfl, (List.append_nil _).symm, rfl⟩
  | cons mark marks ih =>
    let x := placeFrom (above mark) least
    let m₁ := m.withChord width lyrics textFont chordFont origin.v x mark
    have hrun₁ : run width (tokens (placeChord current lyrics textFont chordFont origin mark)) m =
        some m₁ := (run_placeChord width hleast lyrics textFont chordFont origin mark).1 _ hcurrent
    obtain ⟨es₁, hevents₁, hshown₁⟩ :=
      m.withChord_shows width lyrics textFont chordFont origin.v x mark
    obtain ⟨m₂, es₂, hrun₂, hoperands₂, hevents₂, hshown₂⟩ :=
      ih (m := m₁) rfl (inForce_some rfl)
    refine ⟨m₂, es₁ ++ es₂, ?_, hoperands₂, ?_, ?_⟩
    · rw [placeChords, tokens_append, run_append, hrun₁]
      exact hrun₂
    · rw [hevents₂, hevents₁, List.append_assoc]
    · rw [List.filterMap_append, hshown₁, hshown₂]
      rfl

end Machine

end Places

/-! ## Exact lengths -/

section Exact

theorem placeFrom_eq_max (x least : Rat) : Machine.placeFrom x least = max x least := by
  unfold Machine.placeFrom
  split
  · exact (max_eq_right (le_of_lt ‹_›)).symm
  · exact (max_eq_left (not_lt.1 ‹_›)).symm

variable {above long : ChordMark → Rat} {least : Rat} {marks : List ChordMark}

/-- The place of a chord depends on the chord before it and on nothing else. -/
theorem isChain_placeMarks : (placeMarks above long least marks).IsChain
    fun p q => q.2 = max (above q.1) (p.2 + long p.1) := by
  induction marks generalizing least with
  | nil => exact .nil
  | cons mark marks ih =>
    cases marks with
    | nil => exact .singleton _
    | cons next marks => exact .cons_cons (placeFrom_eq_max _ _) ih

theorem above_le_of_mem_placeMarks :
    ∀ p ∈ placeMarks above long least marks, above p.1 ≤ p.2 := by
  induction marks generalizing least with
  | nil => nofun
  | cons mark marks ih =>
    refine List.forall_mem_cons.2 ⟨?_, ih⟩
    rw [placeFrom_eq_max]
    exact le_max_left _ _

theorem least_le_of_mem_placeMarks (hlong : ∀ mark, 0 ≤ long mark) :
    ∀ p ∈ placeMarks above long least marks, least ≤ p.2 := by
  induction marks generalizing least with
  | nil => nofun
  | cons mark marks ih =>
    have hfirst : least ≤ Machine.placeFrom (above mark) least := by
      rw [placeFrom_eq_max]
      exact le_max_right _ _
    refine List.forall_mem_cons.2 ⟨hfirst, fun p hp => ?_⟩
    have hp := ih p hp
    have := hlong mark
    linarith

/-- Every chord is at or right of the end of all chords before it. -/
theorem pairwise_placeMarks (hlong : ∀ mark, 0 ≤ long mark) :
    (placeMarks above long least marks).Pairwise fun p q => p.2 + long p.1 ≤ q.2 := by
  induction marks generalizing least with
  | nil => exact .nil
  | cons mark marks ih => exact .cons (least_le_of_mem_placeMarks hlong) ih

end Exact

namespace Machine

/-- The code of a row of chords shows each of them once, in order, on the row's baseline. The first
is over its place in the lyrics; every other one is over its place or at the end of the chord before
it, whichever is further right. So none is left of its place in the lyrics and no two overlap. The
operands are left as they were. -/
theorem chords_apart {width : ScaledFont Rat → String → Rat}
    (hwidth : ∀ font text, 0 ≤ width font text) (line : Line) (textFont chordFont : Font)
    (origin : Point Rat) {current : Option Font} {m : Machine Rat} (hm : m.InForce current) :
    let above (mark : ChordMark) :=
      origin.h + width textFont.scaled (String.ofList (line.text.toList.take mark.offset))
    let long (mark : ChordMark) := width chordFont.scaled mark.name
    ∃ (m' : Machine Rat) (es : List (Event Rat)) (places : List (ChordMark × Rat)),
      run width (tokens (chordRow current line textFont chordFont origin)) m = some m' ∧
      m'.operands = m.operands ∧ m'.events = m.events ++ es ∧
      es.filterMap Event.shownAt? =
        places.map (fun p => (p.1.name, chordFont.scaled, some ⟨p.2, origin.v⟩)) ∧
      places.map Prod.fst = line.chords ∧
      (∀ p ∈ places.head?, p.2 = above p.1) ∧
      places.IsChain (fun p q => q.2 = max (above q.1) (p.2 + long p.1)) ∧
      (∀ p ∈ places, above p.1 ≤ p.2) ∧
      places.Pairwise (fun p q => p.2 + long p.1 ≤ q.2) := by
  intro above long
  let m₁ : Machine Rat := { m with names := define m.names "minhpos" (.number origin.h) }
  have hleast : m₁.names "minhpos" = some (.number origin.h) := rfl
  have hcurrent : m₁.InForce current := hm
  obtain ⟨m', es, hrun, hoperands, hevents, hshown⟩ := run_placeChords_at width line.text textFont
    chordFont origin line.chords hleast hcurrent
  have habove : (fun mark : ChordMark => width textFont.scaled (String.ofList
      (line.text.toList.take mark.offset)) + origin.h) = above :=
    funext fun mark => Rat.add_comm _ _
  rw [habove] at hshown
  refine ⟨m', es, placeMarks above long origin.h line.chords, hrun, hoperands, hevents, hshown,
    map_fst_placeMarks .., ?_, isChain_placeMarks, above_le_of_mem_placeMarks,
    pairwise_placeMarks fun mark => hwidth _ _⟩
  -- no chord ends before the first one, so nothing keeps it from its place
  cases line.chords with
  | nil => nofun
  | cons mark marks =>
    rintro p ⟨rfl⟩
    have hstart : origin.h ≤ above mark := le_add_of_nonneg_right (hwidth _ _)
    exact (placeFrom_eq_max _ _).trans (max_eq_left hstart)

/-- A long chord pushes the next one right, and the one after that is free of it. -/
theorem chords_apart_longChord :
    let text : Font := ⟨"Times-Roman", 12⟩
    let chord : Font := ⟨"Helvetica-Oblique", 9⟩
    let width : ScaledFont Rat → String → Rat := fun font text =>
      (if font.family = "Times-Roman" then 12 else 9) * (text.length : Rat)
    let m : Machine Rat := ⟨[.number 5], fun _ => none, ⟨none, [], 0, 1, []⟩, [], []⟩
    let line : Line := ⟨"Hello", [⟨0, "Gmaj7"⟩, ⟨1, "D"⟩, ⟨5, "A"⟩]⟩
    (∀ font text, 0 ≤ width font text) ∧ m.InForce none ∧
      ∃ (m' : Machine Rat) (es : List (Event Rat)),
        run width (tokens (chordRow none line text chord ⟨72, 700⟩)) m = some m' ∧
        m'.operands = [.number 5] ∧ m'.events = es ∧
        es.filterMap Event.shownAt? = [("Gmaj7", chord.scaled, some ⟨72, 700⟩),
          ("D", chord.scaled, some ⟨117, 700⟩), ("A", chord.scaled, some ⟨132, 700⟩)] := by
  intro text chord width m line
  have hwidth : ∀ font text, 0 ≤ width font text := by
    intro font text
    dsimp only [width]
    split <;> positivity
  obtain ⟨m', es, places, hrun, hoperands, hevents, hshown, hmarks, hfirst, hnext, -, -⟩ :=
    chords_apart hwidth line text chord ⟨72, 700⟩ (inForce_none m)
  refine ⟨hwidth, inForce_none m, m', es, hrun, hoperands, hevents, hshown.trans ?_⟩
  obtain ⟨⟨_, x⟩, rest, rfl, rfl, hrest⟩ := List.map_eq_cons_iff.1 hmarks
  obtain ⟨⟨_, y⟩, last, rfl, rfl, hlast⟩ := List.map_eq_cons_iff.1 hrest
  obtain ⟨⟨_, z⟩, none, rfl, rfl, hnone⟩ := List.map_eq_cons_iff.1 hlast
  obtain rfl := List.map_eq_nil_iff.1 hnone
  obtain ⟨hy, hz, -⟩ := by simpa only [List.isChain_cons_cons] using hnext
  obtain rfl : x = 72 := (hfirst _ rfl).trans
    (show 72 + width text.scaled (String.ofList ("Hello".toList.take 0)) = 72 by decide +kernel)
  obtain rfl : y = 117 := hy.trans
    (show max (72 + width text.scaled (String.ofList ("Hello".toList.take 1)))
      (72 + width chord.scaled "Gmaj7") = 117 by decide +kernel)
  obtain rfl : z = 132 := hz.trans
    (show max (72 + width text.scaled (String.ofList ("Hello".toList.take 5)))
      (117 + width chord.scaled "D") = 132 by decide +kernel)
  rfl

end Machine

end Songbook.PostScript
