import Mathlib.Data.List.Nodup
import Songbook.Proofs.ChordBooks
import Songbook.Proofs.Reports
import Songbook.Proofs.Songs

/-!
# Closed chords

A session decides on its own how a chord is printed: it looks for the mark for no chord, for a root
and for whole octaves in another order than moving a name does. The outcome is the same for every
name and every shift (`shownChord_fst`): the moved name, or the name as it is written where it
cannot be moved.

The printed name is what the chord book counts, each name once in order of first use, and a name
without a known root is the one thing that is reported (`chord_printed`). Chords closed one after
the other add up (`closeChords_printed`).
-/

namespace Songbook

namespace ChordName

variable {name : String} {semitones : Int}

/-- The name as it is printed: moved, or as it is written where that cannot be done. -/
def printed (name : String) (semitones : Int) : String :=
  match transposeText name semitones with
  | .ok moved => moved
  | .error _ => name

/-- What is reported of a chord whose root is not known. -/
def rootProblem (name : String) (semitones : Int) : Problem :=
  if semitones ≠ 0 then .transpose name else .unknownChordRoot name

/-- What is wrong with a chord: that its root is not known, unless it is the mark for no chord. -/
def rootProblems (name : String) (semitones : Int) : List Problem :=
  if isNoChord name = false ∧ read? name = none then [rootProblem name semitones] else []

theorem printed_of_noChord (h : isNoChord name = true) : printed name semitones = name := by
  simp [printed, transposeText, h]

/-- Without a root there is nothing to move. -/
theorem printed_of_rootless (h : read? name = none) : printed name semitones = name := by
  unfold printed transposeText
  by_cases hkept : (isNoChord name || semitones % 12 == 0) = true
  · rw [if_pos hkept]
  · rw [if_neg hkept, h]

theorem printed_of_read? {n : ChordName} (hmark : isNoChord name = false)
    (h : read? name = some n) :
    printed name semitones = if semitones % 12 = 0 then name else (n.transpose semitones).text := by
  unfold printed transposeText
  by_cases hwhole : semitones % 12 = 0 <;> simp [hmark, hwhole, h]

end ChordName

theorem ChordBook.nodup_use {b : ChordBook} (h : b.used.Nodup) (name : String) :
    (b.use name).used.Nodup := by
  rw [used_use]
  split
  · exact h
  · next hnew =>
    rw [← List.concat_eq_append, List.nodup_concat]
    exact ⟨by simpa using hnew, h⟩

namespace Typeset

open Session ChordName

variable {L : Type} {s t : Session L} {name : String}

/-! ## One chord -/

/-- The session prints what moving the name prints. -/
theorem shownChord_fst (s : Session L) (hmark : isNoChord name = false) :
    (shownChord name s).1 = printed name s.settings.transpose := by
  unfold shownChord
  cases hread : read? name with
  | some n => exact (printed_of_read? hmark hread).symm
  | none => exact (printed_of_rootless hread).symm

theorem shownChord_told (s : Session L) (hmark : isNoChord name = false) :
    s.Told (shownChord name s).2 (rootProblems name s.settings.transpose) := by
  unfold shownChord rootProblems
  cases hread : read? name with
  | some n =>
    rw [if_neg fun h => Option.some_ne_none n h.2]
    exact told_nothing rfl
  | none =>
    rw [if_pos ⟨hmark, rfl⟩]
    exact told_report s _

/-- That a chord has no fingering is noted, not reported. -/
theorem useChord_diagnostics (name : String) (s : Session L) :
    (useChord name s).diagnostics = s.diagnostics := by
  unfold useChord
  dsimp only
  split
  · exact (s.diagnostics_note (.noFingering name)).trans (List.append_nil _)
  · rfl

theorem resolveChord_fst (name : String) (s : Session L) :
    (resolveChord name s).1 = printed name s.settings.transpose := by
  unfold resolveChord
  by_cases hmark : isNoChord name = true
  · rw [if_pos hmark, printed_of_noChord hmark]
  · rw [if_neg hmark]
    exact shownChord_fst s (by simpa using hmark)

theorem resolveChord_told (name : String) (s : Session L) :
    s.Told (resolveChord name s).2 (rootProblems name s.settings.transpose) := by
  unfold resolveChord
  by_cases hmark : isNoChord name = true
  · rw [if_pos hmark, rootProblems, if_neg fun h => by simp [hmark] at h]
    exact told_nothing rfl
  · rw [if_neg hmark]
    exact (useChord_diagnostics _ _).trans
      (shownChord_told s (by simpa using hmark))

/-- The document changes in its chord book, and there by the printed name alone. -/
theorem resolveChord_document (name : String) (s : Session L) :
    (resolveChord name s).2.document = { s.document with
      chords := if isNoChord name then s.document.chords
        else s.document.chords.use (printed name s.settings.transpose) } := by
  have hshown : (shownChord name s).2.document = s.document := by
    unfold shownChord
    cases read? name <;> rfl
  unfold resolveChord
  by_cases hmark : isNoChord name = true
  · rw [if_pos hmark, if_pos hmark]
  · rw [if_neg hmark, if_neg hmark]
    obtain ⟨log, huse⟩ := useChord_eq (shownChord name s).1 (shownChord name s).2
    refine (congrArg Session.document huse).trans ?_
    rw [hshown, shownChord_fst s (by simpa using hmark)]

section Closing

variable [Length L]

theorem chord_inSong (h : s.startup = false) (n : Nat) (name : String) :
    sink.chord n name s = resolveChord name (atLine n s) := by
  show (if s.startup then _ else _) = _
  rw [h, if_neg Bool.false_ne_true]

/-- A chord closed in a song is printed moved, or as it is written where it cannot be moved. The
printed name is counted among the chords of the song, behind those used before and not a second
time; nothing else of the document changes. What is reported is one problem if the name has no
known root, and nothing at all is done for the mark for no chord. -/
theorem chord_printed (h : s.startup = false) (n : Nat) (name : String) :
    let shown := (sink.chord n name s).1
    let t := (sink.chord n name s).2
    let used := s.document.chords.used
    (∀ moved, transposeText name s.settings.transpose = .ok moved → shown = moved) ∧
      (∀ p, transposeText name s.settings.transpose = .error p → shown = name) ∧
      (read? name = none → shown = name) ∧
      t.document = { s.document with
        chords := if isNoChord name then s.document.chords else s.document.chords.use shown } ∧
      t.document.chords.used =
        (if isNoChord name ∨ shown ∈ used then used else used ++ [shown]) ∧
      (used.Nodup → t.document.chords.used.Nodup) ∧
      t.diagnostics = s.diagnostics ++
        (if isNoChord name = false ∧ read? name = none then
          [⟨s.file, n, rootProblem name s.settings.transpose⟩] else []) ∧
      (isNoChord name → shown = name ∧ t = atLine n s) := by
  intro shown t used
  have hshown : shown = printed name s.settings.transpose := by
    show (sink.chord n name s).1 = _
    rw [chord_inSong h, resolveChord_fst]
    rfl
  have hdocument : t.document = { s.document with
      chords := if isNoChord name then s.document.chords else s.document.chords.use shown } := by
    show (sink.chord n name s).2.document = _
    rw [chord_inSong h, resolveChord_document, hshown]
    rfl
  have hused : t.document.chords.used =
      if isNoChord name ∨ shown ∈ used then used else used ++ [shown] := by
    rw [hdocument]
    by_cases hmark : isNoChord name = true
    · simp [hmark, used]
    · simp [hmark, ChordBook.used_use, used]
  refine ⟨fun moved hmoved => ?_, fun p hp => ?_, fun hread => ?_, hdocument, hused,
    fun hnodup => ?_, ?_, fun hmark => ⟨?_, ?_⟩⟩
  · rw [hshown, printed, hmoved]
  · rw [hshown, printed, hp]
  · rw [hshown, printed_of_rootless hread]
  · rw [hdocument]
    dsimp only
    split
    · exact hnodup
    · exact ChordBook.nodup_use hnodup shown
  · have htold := resolveChord_told name (atLine n s)
    rw [← chord_inSong h] at htold
    refine Eq.trans htold (congrArg (s.diagnostics ++ ·) ?_)
    unfold rootProblems
    split <;> rfl
  · rw [hshown, printed_of_noChord hmark]
  · show (sink.chord n name s).2 = _
    rw [chord_inSong h, resolveChord, if_pos hmark]

/-- In a song moved up by two, a slash chord is printed moved and counted under the name printed; a
name without a known root is printed as it is, counted and reported. -/
theorem chord_printed_movedUp :
    let s : Session Rat := .start { Settings.default with transpose := 2 } .unlimited
    s.startup = false ∧ (sink.chord 1 "G/B" s).1 = "A/C#" ∧
      (sink.chord 1 "G/B" s).2.document.chords.used = ["A/C#"] ∧
      (sink.chord 3 "H7" s).2.document.chords.used = ["H7"] ∧
      (sink.chord 3 "H7" s).2.diagnostics = [⟨"", 3, .transpose "H7"⟩] := by
  intro s
  have hs : s.startup = false := rfl
  obtain ⟨hmoved, -, -, -, hused, -⟩ := chord_printed hs 1 "G/B"
  obtain ⟨-, -, hkept, -, hused', -, hreported, -⟩ := chord_printed hs 3 "H7"
  have hshown : (sink.chord 1 "G/B" s).1 = "A/C#" := hmoved _ (by decide +kernel)
  have hshown' : (sink.chord 3 "H7" s).1 = "H7" := hkept (by decide +kernel)
  refine ⟨hs, hshown, ?_, ?_, ?_⟩
  · rw [hused, hshown]
    decide +kernel
  · rw [hused', hshown']
    decide +kernel
  · rw [hreported]
    decide +kernel

/-! ## Chords one after the other -/

/-- The names that are printed for these and are no marks for no chord. -/
def printedNames (semitones : Int) (chords : List (Nat × String)) : List String :=
  (chords.filter fun chord => !isNoChord chord.2).map fun chord => printed chord.2 semitones

/-- Closes chords one after the other, each in its line. -/
def closeChords (chords : List (Nat × String)) (s : Session L) : Session L :=
  chords.foldl (fun s chord => (sink.chord chord.1 chord.2 s).2) s

/-- Chords closed in a song enter the names printed for them in the chord book, in that order, and
each without a known root is reported in its line. -/
theorem closeChords_printed (h : s.startup = false) (chords : List (Nat × String)) :
    (closeChords chords s).document = { s.document with
        chords := (printedNames s.settings.transpose chords).foldl ChordBook.use
          s.document.chords } ∧
      (closeChords chords s).diagnostics = s.diagnostics ++ chords.flatMap fun chord =>
        (rootProblems chord.2 s.settings.transpose).map (⟨s.file, chord.1, ·⟩) := by
  induction chords generalizing s with
  | nil => exact ⟨rfl, (List.append_nil _).symm⟩
  | cons chord chords ih =>
    obtain ⟨n, name⟩ := chord
    obtain ⟨_, _, hstate⟩ := resolveChord_eq name (atLine n s)
    have hchord := chord_inSong h n name
    have hdocument := resolveChord_document name (atLine n s)
    have htold := resolveChord_told name (atLine n s)
    rw [← hchord] at hstate hdocument htold
    have hsong : (sink.chord n name s).2.startup = false := by rw [hstate]; exact h
    have hsettings : (sink.chord n name s).2.settings = s.settings := by rw [hstate]; rfl
    have hfile : (sink.chord n name s).2.file = s.file := by rw [hstate]; rfl
    obtain ⟨hlast, hreported⟩ := ih hsong
    rw [hsettings, hdocument] at hlast
    rw [hsettings, hfile, htold] at hreported
    refine ⟨hlast.trans ?_, hreported.trans ?_⟩
    · by_cases hmark : isNoChord name = true
      · simp only [printedNames, List.filter_cons, hmark]
        rfl
      · simp only [printedNames, List.filter_cons, hmark]
        rfl
    · rw [List.flatMap_cons, ← List.append_assoc]
      rfl

end Closing

end Typeset

end Songbook
