import Mathlib.Algebra.Order.Ring.Rat
import Mathlib.Tactic.Linarith
import Songbook.Proofs.Runs

/-!
# Chords and the lyrics below them

A line with chords is printed in two rows. The row of chords goes to the next column when the
lyrics would come to stand on the bottom margin or below it (`chordRow_ends`), but the lyrics go to
the next column only from below the margin, and they do so even right below the top of a column
(`lyricsRow_breaks`). `Cursor.PartsRows` says where the two rows part; everywhere else they stand
together (`printsTogether_iff`).
-/

namespace Songbook

namespace Cursor

variable {L : Type} [Length L]

/-- Where the next column begins, on this page or on the next. -/
def nextTop (c : Cursor L) (g : PageGeometry L) : L := if c.onLastColumn then g.top else c.columnTop

/-- Where the chords of a line are printed: below the room of blank lines, and in the next column if
the lyrics would come to stand on the bottom margin or below it. -/
def toChords (c : Cursor L) (g : PageGeometry L) (chordSize textSize : L) : Cursor L :=
  let row := (c.paid g).advanced g (chordSize + 1)
  if row.vertical - textSize ≤ g.bottom then row.advanced g textSize else row

variable (c : Cursor L) (g : PageGeometry L)

theorem broken_vertical : (c.broken g).vertical = c.nextTop g := by
  unfold broken nextTop
  split <;> rfl

theorem broken_moves : (c.broken g).pages = c.pages + 1 ∨ (c.broken g).column = c.column + 1 := by
  unfold broken
  split
  · refine .inl ?_
    show (c.left g false).countPage.pages = _
    rw [countPage_pages]
    rcases c.left_cases g false with hleft | hleft | hleft <;> rw [hleft] <;> rfl
  · exact .inr rfl

theorem broken_blankSpace : (c.broken g).blankSpace = c.blankSpace := by
  unfold broken
  split
  · show (c.left g false).countPage.blankSpace = _
    rw [countPage_blankSpace]
    rcases c.left_cases g false with hleft | hleft | hleft <;> rw [hleft] <;> rfl
  · rfl

theorem advanced_blankSpace (amount : L) : (c.advanced g amount).blankSpace = c.blankSpace := by
  unfold advanced
  split
  · exact broken_blankSpace _ g
  · rfl

theorem paid_blankSpace : (c.paid g).blankSpace = 0 := by
  unfold paid
  split
  · rfl
  · exact advanced_blankSpace _ g _

theorem toChords_blankSpace (chordSize textSize : L) :
    (c.toChords g chordSize textSize).blankSpace = 0 := by
  unfold toChords
  dsimp only
  split
  · rw [advanced_blankSpace, advanced_blankSpace, paid_blankSpace]
  · rw [advanced_blankSpace, paid_blankSpace]

@[simp] theorem openChorus_vertical (size : L) : (c.openChorus size).vertical = c.vertical := by
  unfold openChorus
  split <;> rfl

theorem openChorus_eq (size : L) :
    c.openChorus size = { c with chorus := (c.openChorus size).chorus } := by
  unfold openChorus
  split <;> rfl

end Cursor

namespace Typeset

variable {L : Type} [Length L] {s : Session L} {line : Line}

/-- The session after a row has been drawn where the line begins. -/
def drawnRow (s : Session L) (rowSize : L) (row : Drawing L) : Session L :=
  let t := s.moved (s.document.cursor.openChorus rowSize) [] s.log
  t.drawn [.moveTo ⟨(lineOrigin t.document).1, (lineOrigin t.document).2⟩, row]

theorem drawnRow_cursor (s : Session L) (rowSize : L) (row : Drawing L) :
    (drawnRow s rowSize row).document.cursor = s.document.cursor.openChorus rowSize := rfl

theorem drawnRow_received (s : Session L) (rowSize : L) (row : Drawing L) :
    (drawnRow s rowSize row).device.received.toList = s.device.received.toList ++
      [.moveTo ⟨(lineOrigin { s.document with
          cursor := s.document.cursor.openChorus rowSize }).1, (lineOrigin { s.document with
          cursor := s.document.cursor.openChorus rowSize }).2⟩, row] := by
  rw [drawnRow, Session.drawn, Session.moved_received, Session.moved_received, List.append_nil]
  rfl

theorem row_eq (h : s.device.limit = none) (rowSize : L) (row : Drawing L) :
    (do openChorus rowSize; moveToLine; draw row : Typeset L Unit) s =
      .ok () (drawnRow s rowSize row) := by
  let t := s.moved (s.document.cursor.openChorus rowSize) [] s.log
  have hopen : openChorus rowSize s = .ok () t := modifyCursor_eq _ s
  have hmove : moveToLine t = .ok () (t.drawn [.moveTo ⟨_, _⟩]) := draw_eq (s := t) h _
  rw [bind_of_ok hopen, bind_of_ok hmove, draw_eq (s := t.drawn _) h, Session.drawn_drawn]
  rfl

/-- The row of chords is drawn where the lyrics are expected to fit below it. -/
theorem chordRow_ends (textFont chordFont : Font) (h : s.device.limit = none)
    (hlyrics : s.settings.lyricsOnly = false) (hline : line.isBlank = false)
    (hchords : line.hasChords = true) :
    Ends (chordRow line textFont chordFont) s (fun _ => False) fun _ t => ∃ ds log,
      t = drawnRow (s.moved (s.document.cursor.toChords s.document.geometry (size chordFont)
        (size textFont)) ds log) (size chordFont) (.chords line textFont chordFont) := by
  have hrow : ∀ (c : Cursor L) (ds : List (Drawing L)) (log : Array (LogEntry L)), (do
      openChorus (size chordFont)
      if !(← get).settings.lyricsOnly && line.hasChords then
        moveToLine
        draw (.chords line textFont chordFont) : Typeset L Unit) (s.moved c ds log) =
      .ok () (drawnRow (s.moved c ds log) (size chordFont) (.chords line textFont chordFont)) := by
    intro c ds log
    rw [← row_eq (s := s.moved c ds log) h, openChorus, bind_of_ok (modifyCursor_eq _ _),
      bind_of_ok (modifyCursor_eq _ _)]
    show (if !s.settings.lyricsOnly && line.hasChords then _ else _ : Typeset L Unit) _ = _
    rw [hlyrics, hchords]
    rfl
  refine (payBlankSpace_moved h).bind ?_
  rintro _ _ ⟨ds₁, log₁, rfl⟩
  refine (advance_moved (s := s.moved _ _ _) h _).bind ?_
  rintro _ _ ⟨ds₂, log₂, rfl⟩
  rw [Session.moved_moved]
  let row := (s.document.cursor.paid s.document.geometry).advanced s.document.geometry
    (size chordFont + 1)
  refine .bind_ok rfl ?_
  show Ends (if !line.isBlank && row.vertical - size textFont ≤ s.document.geometry.bottom then
    advance (size textFont) >>= fun _ => _ else _) _ _ _
  unfold Cursor.toChords
  by_cases hlow : row.vertical - size textFont ≤ s.document.geometry.bottom
  · rw [if_pos (by simpa [hline] using hlow), if_pos hlow]
    refine (advance_moved (s := s.moved _ _ _) h _).bind ?_
    rintro _ _ ⟨ds₃, log₃, rfl⟩
    rw [Session.moved_moved]
    exact .of_ok (hrow _ _ _) ⟨_, _, rfl⟩
  · rw [if_neg (by simpa [hline] using hlow), if_neg hlow]
    exact .of_ok (hrow _ _ _) ⟨_, _, rfl⟩

end Typeset

/-! ## Exact lengths -/

/-- Below the chords at `c`, lyrics of that size go to the next column: they would have stood on
the bottom margin, or they do not fit below the top of the next column. -/
def Cursor.PartsRows (c : Cursor Rat) (g : PageGeometry Rat) (textSize : Rat) : Prop :=
  c.vertical - textSize = g.bottom ∨
    (c.vertical - textSize < g.bottom ∧ c.nextTop g - (textSize - 1) < g.bottom)

theorem Cursor.lookAhead_lt_iff (c : Cursor Rat) (g : PageGeometry Rat) {textSize : Rat}
    (hsize : 2 ≤ textSize) :
    (if c.vertical - textSize ≤ g.bottom then c.advanced g textSize else c).vertical -
      (textSize - 1) < g.bottom ↔ c.PartsRows g textSize := by
  have hgoal : ∀ v T b t : Rat, 2 ≤ t →
      ((if v - t ≤ b then if v - t < b then T else v - t else v) - (t - 1) < b ↔
        v - t = b ∨ v - t < b ∧ T - (t - 1) < b) := by
    intro v T b t ht
    rcases lt_trichotomy (v - t) b with hlt | heq | hgt
    · rw [if_pos hlt.le, if_pos hlt]
      exact ⟨fun h => .inr ⟨hlt, h⟩, fun h => h.elim (fun he => absurd he hlt.ne) And.right⟩
    · rw [if_pos heq.le, if_neg heq.not_lt]
      exact ⟨fun _ => .inl heq, fun _ => by linarith⟩
    · rw [if_neg hgt.not_ge]
      constructor
      · intro h
        linarith
      · rintro (he | h)
        · exact absurd he hgt.ne'
        · exact absurd h.1 hgt.not_gt
  have hvertical : (if c.vertical - textSize ≤ g.bottom then c.advanced g textSize
      else c).vertical = if c.vertical - textSize ≤ g.bottom then
        if c.vertical - textSize < g.bottom then c.nextTop g else c.vertical - textSize
      else c.vertical := by
    split
    · show (if c.vertical - textSize < g.bottom then (c.down textSize).broken g
        else c.down textSize).vertical = _
      split
      · exact broken_vertical _ g
      · rfl
    · rfl
  rw [hvertical]
  exact hgoal c.vertical (c.nextTop g) g.bottom textSize hsize

namespace Typeset

variable {s : Session Rat} {line : Line} {textFont : Font}

/-- Where nothing is owed, the lyrics are drawn right below the cursor. -/
theorem lyricsRow_eq (hline : line.isBlank = false)
    (hpaid : s.document.cursor.blankSpace = 0) (slot : FontSlot) :
    lyricsRow line slot textFont s = (do
      advance (size textFont - 1)
      openChorus (size textFont)
      moveToLine
      draw (.text line.text slot textFont .left .plain) : Typeset Rat Unit) s := by
  have hpay : payBlankSpace s = .ok () s := by
    have hzero : (s.document.cursor.blankSpace == 0) = true := by
      rw [hpaid]
      rfl
    rw [payBlankSpace_eq]
    dsimp only
    rw [if_pos hzero, ← hpaid]
    exact congrArg _ s.moved_self
  show (if line.isBlank then _ else _ : Typeset Rat Unit) s = _
  rw [hline]
  exact bind_of_ok hpay

theorem lyricsRow_fits (h : s.device.limit = none) (hline : line.isBlank = false)
    (hpaid : s.document.cursor.blankSpace = 0) (slot : FontSlot)
    (hfits : ¬ s.document.cursor.vertical - (size textFont - 1) < s.document.geometry.bottom) :
    lyricsRow line slot textFont s = .ok () (drawnRow
      (s.moved (s.document.cursor.down (size textFont - 1)) [] s.log) (size textFont)
      (.text line.text slot textFont .left .plain)) := by
  have hdown := (advance_eq (size textFont - 1) s).trans (if_neg hfits)
  rw [lyricsRow_eq hline hpaid, bind_of_ok hdown]
  exact row_eq (s := s.moved _ _ _) h _ _

theorem lyricsRow_breaks (h : s.device.limit = none) (hline : line.isBlank = false)
    (hpaid : s.document.cursor.blankSpace = 0) (slot : FontSlot)
    (hbreaks : s.document.cursor.vertical - (size textFont - 1) < s.document.geometry.bottom) :
    Ends (lyricsRow line slot textFont) s (fun _ => False) fun _ t => ∃ ds log, t = drawnRow
      (s.moved ((s.document.cursor.down (size textFont - 1)).broken s.document.geometry) ds log)
      (size textFont) (.text line.text slot textFont .left .plain) := by
  unfold Ends
  rw [lyricsRow_eq hline hpaid]
  refine (advance_moved h _).bind ?_
  rintro _ _ ⟨ds, log, rfl⟩
  have hbroken : s.document.cursor.advanced s.document.geometry (size textFont - 1) =
      (s.document.cursor.down (size textFont - 1)).broken s.document.geometry := if_pos hbreaks
  rw [hbroken]
  exact .of_ok (row_eq (s := s.moved _ _ _) h _ _) ⟨ds, log, rfl⟩

/-- The slot of the lyrics. -/
def lyricsSlot (s : Session Rat) : FontSlot := if s.document.modes.inTab then .tab else .text

/-- The fonts of the lyrics and of the chords over them. -/
def lyricsFont (s : Session Rat) : Font := s.document.styles.current (lyricsSlot s)

def chordsFont (s : Session Rat) : Font := s.document.styles.current .chord

/-- The session after the row of a line's chords, and the session after the whole line. -/
def PrintsRows (line : Line) (s s₁ s₂ : Session Rat) : Prop :=
  chordRow line (lyricsFont s) (chordsFont s) s = .ok () s₁ ∧ setLine line s = .ok () s₂ ∧
    ∃ before, s₁.device.received.toList = before ++
      [.moveTo ⟨(lineOrigin s₁.document).1, (lineOrigin s₁.document).2⟩,
        .chords line (lyricsFont s) (chordsFont s)]

/-- The lyrics are printed in the column of their chords and on the same page, lower by their size
less one. -/
def PrintsTogether (line : Line) (s : Session Rat) : Prop :=
  ∃ s₁ s₂, PrintsRows line s s₁ s₂ ∧
    s₂.document.cursor.pages = s₁.document.cursor.pages ∧
    s₂.document.cursor.column = s₁.document.cursor.column ∧
    s₂.device.received.toList = s₁.device.received.toList ++
      [.moveTo ⟨(lineOrigin s₁.document).1,
          (lineOrigin s₁.document).2 - ((lyricsFont s).size - 1 : Rat)⟩,
        .text line.text (lyricsSlot s) (lyricsFont s) .left .plain]

/-- The lyrics are printed on the page after that of their chords, or in the column after theirs. -/
def PrintsApart (line : Line) (s : Session Rat) : Prop :=
  ∃ s₁ s₂, PrintsRows line s s₁ s₂ ∧
    (s₂.document.cursor.pages = s₁.document.cursor.pages + 1 ∨
      s₂.document.cursor.column = s₁.document.cursor.column + 1)

/-- The cursor where the row of chords is first tried. -/
def triedRow (s : Session Rat) : Cursor Rat :=
  (s.document.cursor.paid s.document.geometry).advanced s.document.geometry
    (size (chordsFont s) + 1)

theorem setLine_of_chordRow {t : Session Rat} (hchords : line.hasChords = true)
    (h : chordRow line (lyricsFont s) (chordsFont s) s = .ok () t) :
    setLine line s = lyricsRow line (lyricsSlot s) (lyricsFont s) t := by
  show (if !((s.document.modes.autoSpace.current || s.document.modes.inTab) && !line.hasChords) then
    _ else _ : Typeset Rat Unit) s = _
  rw [hchords, Bool.not_true, Bool.and_false]
  exact bind_of_ok h

theorem line_prints (h : s.device.limit = none) (hlyrics : s.settings.lyricsOnly = false)
    (hline : line.isBlank = false) (hchords : line.hasChords = true)
    (hsize : 2 ≤ (lyricsFont s).size) :
    ((triedRow s).PartsRows s.document.geometry (size (lyricsFont s)) → PrintsApart line s) ∧
      (¬ (triedRow s).PartsRows s.document.geometry (size (lyricsFont s)) →
        PrintsTogether line s) := by
  obtain ⟨_, s₁, hrow, ds, log, rfl⟩ :=
    (chordRow_ends (lyricsFont s) (chordsFont s) h hlyrics hline hchords).exists_ok
  let c := s.document.cursor.toChords s.document.geometry (size (chordsFont s))
    (size (lyricsFont s))
  let chords : Drawing Rat := .chords line (lyricsFont s) (chordsFont s)
  let t := drawnRow (s.moved c ds log) (size (chordsFont s)) chords
  have ht : t.document.cursor = { c with chorus := (c.openChorus (size (chordsFont s))).chorus } :=
    c.openChorus_eq _
  -- the lyrics begin where the chords have left the cursor, and nothing is owed there
  have hlow : t.document.cursor.vertical - (size (lyricsFont s) - 1) < s.document.geometry.bottom ↔
      (triedRow s).PartsRows s.document.geometry (size (lyricsFont s)) := by
    rw [ht]
    refine Cursor.lookAhead_lt_iff _ _ ?_
    show (2 : Rat) ≤ ((lyricsFont s).size : Rat)
    exact_mod_cast hsize
  have hpaid : t.document.cursor.blankSpace = 0 := by
    rw [ht]
    exact Cursor.toChords_blankSpace ..
  have hreceived : ∃ before, t.device.received.toList = before ++
      [.moveTo ⟨(lineOrigin t.document).1, (lineOrigin t.document).2⟩, chords] :=
    ⟨_, Session.moved_received ..⟩
  have hset := setLine_of_chordRow hchords hrow
  refine ⟨fun hparts => ?_, fun hparts => ?_⟩
  · obtain ⟨_, s₂, hlyricsRow, ds₂, log₂, rfl⟩ := (lyricsRow_breaks (s := t) h hline hpaid
      (lyricsSlot s) (hlow.2 hparts)).exists_ok
    refine ⟨t, _, ⟨hrow, hset.trans hlyricsRow, hreceived⟩, ?_⟩
    rw [drawnRow_cursor, Cursor.openChorus_eq]
    exact Cursor.broken_moves (t.document.cursor.down _) _
  · have hlyricsRow := lyricsRow_fits (s := t) h hline hpaid (lyricsSlot s) fun hbreaks =>
      hparts (hlow.1 hbreaks)
    refine ⟨t, _, ⟨hrow, hset.trans hlyricsRow, hreceived⟩, ?_, ?_, ?_⟩
    · rw [drawnRow_cursor, Cursor.openChorus_eq]
      rfl
    · rw [drawnRow_cursor, Cursor.openChorus_eq]
      rfl
    · rw [drawnRow_received, Cursor.openChorus_eq, Session.moved_received, List.append_nil]
      rfl

theorem not_printsTogether (h : PrintsApart line s) : ¬ PrintsTogether line s := by
  rintro ⟨t₁, t₂, ⟨htrow, htset, -⟩, hpage, hcolumn, -⟩
  obtain ⟨s₁, s₂, ⟨hrow, hset, -⟩, happart⟩ := h
  cases hrow.symm.trans htrow
  cases hset.symm.trans htset
  omega

/-- A line's chords and lyrics stay together, unless the lyrics would stand on the bottom margin or
do not fit below the top of the next column. -/
theorem printsTogether_iff (h : s.device.limit = none) (hlyrics : s.settings.lyricsOnly = false)
    (hline : line.isBlank = false) (hchords : line.hasChords = true)
    (hsize : 2 ≤ (lyricsFont s).size) :
    (PrintsTogether line s ↔
      ¬ (triedRow s).PartsRows s.document.geometry (size (lyricsFont s))) ∧
    (PrintsApart line s ↔ (triedRow s).PartsRows s.document.geometry (size (lyricsFont s))) := by
  obtain ⟨happart, htogether⟩ := line_prints h hlyrics hline hchords hsize
  refine ⟨⟨fun hrows hparts => not_printsTogether (happart hparts) hrows, htogether⟩,
    fun hrows => ?_, happart⟩
  by_contra hparts
  exact not_printsTogether hrows (htogether hparts)

/-- The first line of a song has room for both of its rows. -/
theorem printsTogether_first_line :
    ∃ s : Session Rat, begin (.start .default .unlimited) = .ok () s ∧
      PrintsTogether ⟨"la", [⟨0, "C"⟩]⟩ s := by
  refine ⟨_, eq_ok_of_succeeds (by decide +kernel), (printsTogether_iff ?_ ?_ ?_ ?_ ?_).1.2 ?_⟩
  · decide +kernel
  · decide +kernel
  · decide +kernel
  · decide +kernel
  · decide +kernel
  · unfold Cursor.PartsRows
    decide +kernel

/-- After a comment that is 694 points high, 62 points are left, and 22 of them are above the
margin: just as many as the two rows take, with the lyrics on the margin. -/
theorem printsApart_at_margin :
    ∃ s : Session Rat,
      readPart "a" "\x7btextsize: 694\x7d\n\x7bc: x\x7d\n\x7btextsize: 12\x7d\n"
        (.start .default .unlimited) = .ok () s ∧
      s.settings.lyricsOnly = false ∧ 2 ≤ (lyricsFont s).size ∧ 2 ≤ (chordsFont s).size ∧
      ¬ PrintsTogether ⟨"la", [⟨0, "C"⟩]⟩ s := by
  refine ⟨_, eq_ok_of_succeeds (by decide +kernel), ?_, ?_, ?_, not_printsTogether ?_⟩
  · decide +kernel
  · decide +kernel
  · decide +kernel
  · refine (line_prints ?_ ?_ ?_ ?_ ?_).1 ?_
    · decide +kernel
    · decide +kernel
    · decide +kernel
    · decide +kernel
    · decide +kernel
    · unfold Cursor.PartsRows
      decide +kernel

end Typeset

end Songbook
