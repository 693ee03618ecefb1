import Mathlib.Data.Prod.Lex
import Songbook.Proofs.Deeds
import Songbook.Proofs.Orders

/-!
# The room of a line

Lines never take the cursor back to a column that it has left (`Moves.spot_le`). A line takes as
much room as its rows are high, and a blank line asks for its room to be left later (`lineRoom`).
Where there is room, the line is printed in the column of the cursor (`fits_stays`); where there is
none, it leaves the column (`not_fits_leaves`). Below a row of chords the lyrics are looked for one
point lower than they are printed, so they need a point more.
-/

namespace Songbook

namespace Cursor

/-- The page that the cursor is on and its column there, in the order in which they are filled. -/
def spot {L : Type} (c : Cursor L) : ℕ ×ₗ ℕ := toLex (c.pages, c.column)

variable (c : Cursor Rat) (g : PageGeometry Rat)

theorem spot_lt_turned (sheetToo : Bool) : c.spot < (c.turned g sheetToo).spot := by
  refine Prod.Lex.toLex_lt_toLex.2 (.inl ?_)
  show c.pages < (c.turned g sheetToo).pages
  rw [(c.turned_turnsTo g sheetToo).pages]
  exact Nat.lt_succ_self _

theorem spot_lt_nextColumn : c.spot < (c.nextColumn g).spot :=
  Prod.Lex.toLex_lt_toLex.2 (.inr ⟨rfl, Nat.lt_succ_self _⟩)

theorem spot_lt_broken : c.spot < (c.broken g).spot := by
  unfold broken
  split
  · exact c.spot_lt_turned g false
  · exact c.spot_lt_nextColumn g

end Cursor

namespace Session

variable {s t : Session Rat}

/-- The column that the session prints in. -/
def spot (s : Session Rat) : ℕ ×ₗ ℕ := s.document.cursor.spot

/-- How high the next row begins: below the room of blank lines. -/
def height (s : Session Rat) : Rat := s.document.cursor.vertical - s.document.cursor.blankSpace

theorem Move.spot_le (h : Move false s t) : s.spot ≤ t.spot := by
  cases h with
  | nextColumn _ => exact (s.document.cursor.spot_lt_nextColumn s.document.geometry).le
  | turn _ => exact (s.document.cursor.spot_lt_turned s.document.geometry _).le
  | setColumns he => cases he
  | nextSong he => cases he
  | revise he => cases he
  | count he => cases he
  | _ => exact le_rfl

/-- Lines never take back a column. -/
theorem Moves.spot_le (h : Moves false s t) : s.spot ≤ t.spot := by
  induction h with
  | refl => exact le_rfl
  | tail _ hlast ih => exact ih.trans hlast.spot_le

theorem OnPage.paid (h : s.OnPage) : s.paid.OnPage := by
  have hpaid : (s.moved { s.document.cursor with blankSpace := 0 } [] s.log).OnPage :=
    ⟨h.unlimited, h.isOpen, h.inSong⟩
  unfold Session.paid
  split
  · exact hpaid
  · exact hpaid.advanced _

theorem spot_lt_broken (s : Session Rat) : s.spot < s.broken.spot := by
  unfold spot
  rw [broken_cursor]
  exact s.document.cursor.spot_lt_broken s.document.geometry

theorem spot_lt_advanced {amount : Rat}
    (h : s.document.cursor.vertical - amount < s.document.geometry.bottom) :
    s.spot < (s.advanced amount).spot := by
  have hlow : (s.document.cursor.down amount).vertical < s.document.geometry.bottom := h
  rw [advanced, if_pos hlow]
  exact spot_lt_broken (s.moved (s.document.cursor.down amount) [] s.log)

theorem advanced_of_le {amount : Rat}
    (h : s.document.geometry.bottom ≤ s.document.cursor.vertical - amount) :
    s.advanced amount = s.moved (s.document.cursor.down amount) [] s.log :=
  if_neg (not_lt.2 h)

theorem spot_le_advanced (s : Session Rat) (amount : Rat) : s.spot ≤ (s.advanced amount).spot := by
  rcases lt_or_ge (s.document.cursor.vertical - amount) s.document.geometry.bottom with hlow | hfits
  · exact (spot_lt_advanced hlow).le
  · rw [advanced_of_le hfits]
    exact le_rfl

/-- With the cursor so much below the room of blank lines. -/
def lowered (s : Session Rat) (amount : Rat) : Session Rat :=
  s.moved { s.document.cursor with vertical := s.height - amount, blankSpace := 0 } [] s.log

theorem lowered_height (s : Session Rat) (amount : Rat) :
    (s.lowered amount).height = s.height - amount := sub_zero _

theorem lowered_down (s : Session Rat) (amount amount' : Rat) :
    (s.lowered amount).moved ((s.lowered amount).document.cursor.down amount') []
      (s.lowered amount).log = s.lowered (amount + amount') := by
  rw [lowered, lowered, moved_moved, List.nil_append, ← sub_sub]
  rfl

theorem lowered_advanced {amount amount' : Rat}
    (h : s.document.geometry.bottom ≤ s.height - (amount + amount')) :
    (s.lowered amount).advanced amount' = s.lowered (amount + amount') := by
  rw [← lowered_down]
  refine advanced_of_le ?_
  show s.document.geometry.bottom ≤ s.height - amount - amount'
  rwa [sub_sub]

/-- Where there is room for what is owed, paying it goes down the column. -/
theorem paid_of_room (h : s.document.cursor.blankSpace = 0 ∨
    s.document.geometry.bottom ≤ s.height) : s.paid = s.lowered 0 := by
  have hlowered : ∀ v : Rat, v = s.height →
      s.moved { s.document.cursor with vertical := v, blankSpace := 0 } [] s.log = s.lowered 0 := by
    rintro v rfl
    rw [lowered, sub_zero]
  by_cases hzero : s.document.cursor.blankSpace = 0
  · rw [paid, if_pos (beq_iff_eq.2 hzero)]
    refine hlowered _ ?_
    rw [height, hzero, sub_zero]
  · rw [paid, if_neg fun hpaid => hzero (beq_iff_eq.1 hpaid),
      advanced_of_le (s := s.moved { s.document.cursor with blankSpace := 0 } [] s.log)
        (h.resolve_left hzero), ← hlowered _ rfl, moved_moved]
    rfl

/-- Where there is none, paying it breaks the column. -/
theorem paid_of_low (howed : s.document.cursor.blankSpace ≠ 0)
    (h : s.height < s.document.geometry.bottom) : s.paid = (s.lowered 0).broken := by
  let u := s.moved { s.document.cursor with blankSpace := 0 } [] s.log
  have hdown : (u.document.cursor.down s.document.cursor.blankSpace).vertical <
      u.document.geometry.bottom := h
  have hlowered : u.moved (u.document.cursor.down s.document.cursor.blankSpace) [] u.log =
      s.lowered 0 := by
    rw [lowered, sub_zero, moved_moved]
    rfl
  rw [paid, if_neg fun hpaid => howed (beq_iff_eq.1 hpaid), advanced, if_pos hdown, hlowered]

theorem paid_cases (s : Session Rat) : s.paid = s.lowered 0 ∨
    s.height < s.document.geometry.bottom ∧ s.spot < s.paid.spot := by
  by_cases hroom : s.document.cursor.blankSpace = 0 ∨ s.document.geometry.bottom ≤ s.height
  · exact .inl (paid_of_room hroom)
  · obtain ⟨howed, hlow⟩ := not_or.1 hroom
    refine .inr ⟨not_le.1 hlow, ?_⟩
    rw [paid_of_low howed (not_le.1 hlow)]
    exact spot_lt_broken (s.lowered 0)

theorem paid_advanced_of_le {amount : Rat} (ha : 0 ≤ amount)
    (h : s.document.geometry.bottom ≤ s.height - amount) :
    s.paid.advanced amount = s.lowered amount := by
  rcases s.paid_cases with hpaid | ⟨hlow, -⟩
  · rw [hpaid, lowered_advanced (by rwa [zero_add]), zero_add]
  · linarith

theorem spot_lt_paid_advanced {amount : Rat}
    (h : s.height - amount < s.document.geometry.bottom) :
    s.spot < (s.paid.advanced amount).spot := by
  rcases s.paid_cases with hpaid | ⟨-, hlt⟩
  · rw [hpaid]
    refine spot_lt_advanced (s := s.lowered 0) ?_
    show s.height - 0 - amount < s.document.geometry.bottom
    rwa [sub_zero]
  · exact hlt.trans_le (spot_le_advanced _ _)

end Session

namespace Typeset

open Session

variable {s t : Session Rat} {line : Line}

/-! ## Rows -/

@[simp] theorem drawnRow_spot (s : Session Rat) (rowSize : Rat) (row : Drawing Rat) :
    (drawnRow s rowSize row).spot = s.spot := by
  rw [Session.spot, drawnRow_cursor, Cursor.openChorus_eq]
  rfl

@[simp] theorem drawnRow_height (s : Session Rat) (rowSize : Rat) (row : Drawing Rat) :
    (drawnRow s rowSize row).height = s.height := by
  rw [Session.height, drawnRow_cursor, Cursor.openChorus_eq]
  rfl

/-- Where the chords of a line go: to the next column if the lyrics would come to stand on the
bottom margin or below it. -/
def toChordRow (s : Session Rat) (line : Line) (textFont chordFont : Font) : Session Rat :=
  let row := s.paid.advanced (size chordFont + 1)
  if !line.isBlank && row.document.cursor.vertical - size textFont ≤ row.document.geometry.bottom
  then row.advanced (size textFont) else row

/-- With the chords of a line drawn, if they are shown. -/
def chordsDrawn (s : Session Rat) (line : Line) (textFont chordFont : Font) : Session Rat :=
  if !s.settings.lyricsOnly && line.hasChords then
    drawnRow s (size chordFont) (.chords line textFont chordFont)
  else s.moved (s.document.cursor.openChorus (size chordFont)) [] s.log

@[simp] theorem chordsDrawn_spot (s : Session Rat) (line : Line) (textFont chordFont : Font) :
    (chordsDrawn s line textFont chordFont).spot = s.spot := by
  unfold chordsDrawn
  split
  · exact drawnRow_spot ..
  · rw [Cursor.openChorus_eq]
    rfl

@[simp] theorem chordsDrawn_height (s : Session Rat) (line : Line) (textFont chordFont : Font) :
    (chordsDrawn s line textFont chordFont).height = s.height := by
  unfold chordsDrawn
  split
  · exact drawnRow_height ..
  · rw [Cursor.openChorus_eq]
    rfl

/-- A row drawn where a line begins. -/
def rowAt (s : Session Rat) (row : Drawing Rat) : List (Drawing Rat) :=
  [.moveTo ⟨(lineOrigin s.document).1, (lineOrigin s.document).2⟩, row]

theorem drawnRow_rowAt (s : Session Rat) (rowSize : Rat) (row : Drawing Rat) :
    (drawnRow s rowSize row).device.received.toList =
      s.device.received.toList ++ rowAt (drawnRow s rowSize row) row :=
  drawnRow_received s rowSize row

theorem chordsDrawn_rowAt (s : Session Rat) (line : Line) (textFont chordFont : Font) :
    (chordsDrawn s line textFont chordFont).device.received.toList = s.device.received.toList ++
      if !s.settings.lyricsOnly && line.hasChords then
        rowAt (chordsDrawn s line textFont chordFont) (.chords line textFont chordFont)
      else [] := by
  unfold chordsDrawn
  split
  · exact drawnRow_rowAt ..
  · exact moved_received ..

theorem chordRow_drawn (h : s.OnPage) (textFont chordFont : Font) :
    chordRow line textFont chordFont s = .ok ()
      (chordsDrawn (toChordRow s line textFont chordFont) line textFont chordFont) := by
  have hpaid := h.paid
  have hrow := hpaid.advanced (size chordFont + 1)
  have hchords : ∀ u : Session Rat, u.device.limit = none → (do
      openChorus (size chordFont)
      if !(← get).settings.lyricsOnly && line.hasChords then
        moveToLine
        draw (.chords line textFont chordFont) : Typeset Rat Unit) u =
      .ok () (chordsDrawn u line textFont chordFont) := by
    intro u hu
    have hopen : openChorus (size chordFont) u =
        .ok () (u.moved (u.document.cursor.openChorus (size chordFont)) [] u.log) :=
      modifyCursor_eq _ u
    rw [bind_of_ok hopen]
    show (if !u.settings.lyricsOnly && line.hasChords then do
      moveToLine
      draw (.chords line textFont chordFont) else pure () : Typeset Rat Unit) _ = _
    unfold chordsDrawn
    split
    · rw [← row_eq hu, bind_of_ok hopen]
    · rfl
  refine (bind_of_ok (payBlankSpace_paid h.unlimited h.isOpen)).trans
    ((bind_of_ok (advance_advanced hpaid.unlimited hpaid.isOpen _)).trans ?_)
  let row := s.paid.advanced (size chordFont + 1)
  show (if !line.isBlank && row.document.cursor.vertical - size textFont ≤
    row.document.geometry.bottom then advance (size textFont) >>= fun _ => _ else _) row = _
  unfold toChordRow
  dsimp only
  split
  · rw [bind_of_ok (advance_advanced hrow.unlimited hrow.isOpen _)]
    exact hchords _ (hrow.advanced _).unlimited
  · exact hchords _ hrow.unlimited

theorem lyricsRow_drawn (h : s.OnPage) (hline : line.isBlank = false) (slot : FontSlot)
    (font : Font) : lyricsRow line slot font s = .ok () (drawnRow (s.paid.advanced (size font - 1))
      (size font) (.text line.text slot font .left .plain)) := by
  have hpaid := h.paid
  show (if line.isBlank then _ else _ : Typeset Rat Unit) s = _
  rw [hline, if_neg Bool.false_ne_true, bind_of_ok (payBlankSpace_paid h.unlimited h.isOpen),
    bind_of_ok (advance_advanced hpaid.unlimited hpaid.isOpen _)]
  exact row_eq (hpaid.advanced _).unlimited _ _

theorem lyricsRow_blank (hline : line.isBlank = true) (slot : FontSlot) (font : Font) :
    lyricsRow line slot font s = .ok () (s.moved { s.document.cursor with
      blankSpace := s.document.cursor.blankSpace + (size font - 2) } [] s.log) := by
  show (if line.isBlank then _ else _ : Typeset Rat Unit) s = _
  rw [if_pos hline]
  exact modifyCursor_eq _ s

/-! ## Orders of lines -/

theorem followed_chords (h : s.OnPage) (hshows : showsLines s = true)
    (htakes : takesChordRow s line = true) (n : Nat) : s.followed (.chords n line) =
      chordsDrawn (toChordRow (atLine n s) line (lyricsFont s) (chordsFont s)) line (lyricsFont s)
        (chordsFont s) := by
  have hat : (atLine n s).OnPage := ⟨h.unlimited, h.isOpen, h.inSong⟩
  have hfollow : follow (.chords n line) s = (if showsLines s && takesChordRow s line then
      chordRow line (lyricsFont s) (chordsFont s) else pure ()) (atLine n s) := rfl
  rw [hshows, htakes, Bool.and_self, if_pos rfl, chordRow_drawn hat] at hfollow
  exact endState_of_ok hfollow

theorem followed_chords_close (htakes : takesChordRow s line = false) (n : Nat) :
    s.followed (.chords n line) = atLine n s := by
  have hfollow : follow (.chords n line) s = (if showsLines s && takesChordRow s line then
      chordRow line (lyricsFont s) (chordsFont s) else pure ()) (atLine n s) := rfl
  rw [htakes, Bool.and_false, if_neg Bool.false_ne_true] at hfollow
  exact endState_of_ok hfollow

theorem followed_lyrics (h : s.OnPage) (hshows : showsLines s = true) (hline : line.isBlank = false) :
    s.followed (.lyrics line) = drawnRow (s.paid.advanced (size (lyricsFont s) - 1))
      (size (lyricsFont s)) (.text line.text (lyricsSlot s) (lyricsFont s) .left .plain) := by
  have hfollow : follow (.lyrics line) s = (if showsLines s then
      lyricsRow line (lyricsSlot s) (lyricsFont s) else pure ()) s := rfl
  rw [hshows, if_pos rfl, lyricsRow_drawn h hline] at hfollow
  exact endState_of_ok hfollow

theorem followed_lyrics_blank (hshows : showsLines s = true) (hline : line.isBlank = true) :
    s.followed (.lyrics line) = s.moved { s.document.cursor with
      blankSpace := s.document.cursor.blankSpace + (size (lyricsFont s) - 2) } [] s.log := by
  have hfollow : follow (.lyrics line) s = (if showsLines s then
      lyricsRow line (lyricsSlot s) (lyricsFont s) else pure ()) s := rfl
  rw [hshows, if_pos rfl, lyricsRow_blank hline] at hfollow
  exact endState_of_ok hfollow

theorem followed_hidden (hshows : showsLines s = false) : s.followed (.lyrics line) = s := by
  have hfollow : follow (.lyrics line) s = (if showsLines s then
      lyricsRow line (lyricsSlot s) (lyricsFont s) else pure ()) s := rfl
  rw [hshows, if_neg Bool.false_ne_true] at hfollow
  exact endState_of_ok hfollow

/-! ## The room of lines -/

/-- The room that the row of a line's chords takes. -/
def chordRoom (s : Session Rat) (line : Line) : Rat :=
  if takesChordRow s line then size (chordsFont s) + 1 else 0

/-- The room that a line takes. What blank lines ask for counts as taken. -/
def lineRoom (s : Session Rat) (line : Line) : Rat :=
  chordRoom s line + (size (lyricsFont s) - if line.isBlank then 2 else 1)

/-- The lyrics of a line may be printed at that height. Below a row of chords they have to be more
than a point above the bottom margin. -/
def CanStand (s : Session Rat) (line : Line) (height : Rat) : Prop :=
  if takesChordRow s line then s.document.geometry.bottom + 1 < height
  else s.document.geometry.bottom ≤ height

/-- Lines are shown, in fonts that are three points high or more. -/
structure Shows (s : Session Rat) : Prop where
  onPage : s.OnPage
  shows : showsLines s = true
  three_le_chords : 3 ≤ (chordsFont s).size
  three_le_lyrics : 3 ≤ (lyricsFont s).size

/-- What decides on the room of lines is the same. -/
structure SetsAlike (s t : Session Rat) : Prop where
  settings : t.settings = s.settings
  geometry : t.document.geometry = s.document.geometry
  modes : t.document.modes = s.document.modes
  styles : t.document.styles = s.document.styles

theorem setsAlike_of_moves (h : Moves false s t) : SetsAlike s t := by
  refine h.keep (I := SetsAlike s) ?_ ⟨rfl, rfl, rfl, rfl⟩
  intro t u hmove ht
  cases hmove with
  | setColumns he => cases he
  | nextSong he => cases he
  | revise he => cases he
  | count he => cases he
  | _ => exact ⟨ht.settings, ht.geometry, ht.modes, ht.styles⟩

namespace SetsAlike

variable (h : SetsAlike s t)
include h

theorem showsLines_eq : showsLines t = showsLines s := by
  rw [showsLines, h.modes, h.settings]
  rfl

theorem takesChordRow_eq : takesChordRow t = takesChordRow s := by
  funext line
  rw [takesChordRow, h.modes]
  rfl

theorem lyricsFont_eq : lyricsFont t = lyricsFont s := by
  rw [lyricsFont, lyricsSlot, h.modes, h.styles]
  rfl

theorem chordsFont_eq : chordsFont t = chordsFont s := congrArg (StyleSheet.current · .chord) h.styles

theorem lineRoom_eq : lineRoom t = lineRoom s := by
  funext line
  rw [lineRoom, chordRoom, h.takesChordRow_eq, h.lyricsFont_eq, h.chordsFont_eq]
  rfl

end SetsAlike

theorem Shows.moves (hs : Shows s) (h : Moves false s t) : Shows t := by
  have halike := setsAlike_of_moves h
  exact ⟨h.onPage hs.onPage, halike.showsLines_eq.trans hs.shows,
    halike.chordsFont_eq ▸ hs.three_le_chords, halike.lyricsFont_eq ▸ hs.three_le_lyrics⟩

theorem Shows.three_le (hs : Shows s) :
    (3 : Rat) ≤ size (chordsFont s) ∧ (3 : Rat) ≤ size (lyricsFont s) := by
  have hsize : ∀ {font : Font}, 3 ≤ font.size → (3 : Rat) ≤ size font := by
    intro font h
    show (3 : Rat) ≤ (font.size : Rat)
    exact_mod_cast h
  exact ⟨hsize hs.three_le_chords, hsize hs.three_le_lyrics⟩

/-! ## Lines that stay in the column -/

/-- The line is printed in that column: its chords, if they are shown, and then its lyrics. -/
structure PrintsIn (column : ℕ ×ₗ ℕ) (s : Session Rat) (n : Nat) (line : Line) : Prop where
  chords_spot : (s.followed (.chords n line)).spot = column
  chords_drawn : (s.followed (.chords n line)).device.received.toList =
    s.device.received.toList ++ if !s.settings.lyricsOnly && line.hasChords then
      rowAt (s.followed (.chords n line)) (.chords line (lyricsFont s) (chordsFont s)) else []
  lyrics_spot : (s.after [.chords n line, .lyrics line]).spot = column
  lyrics_drawn : (s.after [.chords n line, .lyrics line]).device.received.toList =
    (s.followed (.chords n line)).device.received.toList ++
      rowAt (s.after [.chords n line, .lyrics line])
        (.text line.text (lyricsSlot s) (lyricsFont s) .left .plain)

theorem moves_of_wanders (hs : s.OnPage) {o : Order} (h : Wanders false (follow o)) :
    Moves false s (s.followed o) := by
  obtain ⟨_, t, hok, ht⟩ :=
    ((h.ends hs).weaken fun _ h => Bool.noConfusion h.1 : Ends _ _ (fun _ => False) _).exists_ok
  rwa [Session.followed, endState_of_ok hok]

theorem chords_moves (hs : s.OnPage) (n : Nat) (line : Line) :
    Moves false s (s.followed (.chords n line)) :=
  moves_of_wanders hs (.bind (atLine_songlike n).wanders fun _ => .read fun _ _ _ =>
    .ite (chordRow_songlike line _ _).wanders (.pure _))

theorem lyrics_moves (hs : s.OnPage) (line : Line) : Moves false s (s.followed (.lyrics line)) :=
  moves_of_wanders hs (.read fun _ _ _ => .ite (lyricsRow_songlike line _ _).wanders (.pure _))

theorem chords_spot_le (hs : s.OnPage) (n : Nat) (line : Line) :
    (s.followed (.chords n line)).spot ≤ (s.after [.chords n line, .lyrics line]).spot :=
  (lyrics_moves ((chords_moves hs n line).onPage hs) line).spot_le

theorem toChordRow_fits {textFont chordFont : Font} (hchord : (0 : Rat) ≤ size chordFont)
    (hfits : s.document.geometry.bottom ≤ s.height - (size chordFont + 1))
    (hlook : line.isBlank = false →
      s.document.geometry.bottom < s.height - (size chordFont + 1) - size textFont) :
    toChordRow s line textFont chordFont = s.lowered (size chordFont + 1) := by
  unfold toChordRow
  dsimp only
  rw [paid_advanced_of_le (by linarith) hfits, if_neg]
  cases hline : line.isBlank with
  | true => simp
  | false =>
    rw [Bool.not_false, Bool.true_and, decide_eq_true_eq, not_le]
    exact hlook hline

/-- A row of chords stays in the column if it fits and the lyrics are expected to fit below. -/
theorem chords_stay (hs : Shows s) (n : Nat) (line : Line)
    (hfits : takesChordRow s line = true →
      s.document.geometry.bottom ≤ s.height - (size (chordsFont s) + 1) ∧ (line.isBlank = false →
        s.document.geometry.bottom < s.height - (size (chordsFont s) + 1) - size (lyricsFont s))) :
    let t := s.followed (.chords n line)
    t.spot = s.spot ∧ t.height = s.height - chordRoom s line ∧
      t.device.received.toList = s.device.received.toList ++
        if !s.settings.lyricsOnly && line.hasChords then
          rowAt t (.chords line (lyricsFont s) (chordsFont s)) else [] := by
  intro t
  cases htakes : takesChordRow s line with
  | false =>
    have hchords : line.hasChords = false := by
      unfold takesChordRow at htakes
      revert htakes
      cases line.hasChords <;> simp
    have ht : t = atLine n s := followed_chords_close htakes n
    rw [ht, chordRoom, htakes, if_neg Bool.false_ne_true, sub_zero, hchords, Bool.and_false,
      if_neg Bool.false_ne_true, List.append_nil]
    exact ⟨rfl, rfl, rfl⟩
  | true =>
    obtain ⟨hrow, hlook⟩ := hfits htakes
    have hsize := hs.three_le.1
    have hplace : toChordRow (atLine n s) line (lyricsFont s) (chordsFont s) =
        (atLine n s).lowered (size (chordsFont s) + 1) :=
      toChordRow_fits (s := atLine n s) (by linarith) hrow hlook
    have ht : t = chordsDrawn ((atLine n s).lowered (size (chordsFont s) + 1)) line (lyricsFont s)
        (chordsFont s) := (followed_chords hs.onPage hs.shows htakes n).trans (by rw [hplace])
    rw [ht, chordRoom, if_pos htakes]
    refine ⟨chordsDrawn_spot .., (chordsDrawn_height ..).trans (lowered_height ..), ?_⟩
    rw [chordsDrawn_rowAt, lowered, moved_received, List.append_nil]
    rfl

theorem lyrics_stay (hs : Shows s) (hline : line.isBlank = false)
    (hfits : s.document.geometry.bottom ≤ s.height - (size (lyricsFont s) - 1)) :
    let t := s.followed (.lyrics line)
    t.spot = s.spot ∧ t.height = s.height - (size (lyricsFont s) - 1) ∧
      t.device.received.toList = s.device.received.toList ++
        rowAt t (.text line.text (lyricsSlot s) (lyricsFont s) .left .plain) := by
  intro t
  have hsize := hs.three_le.2
  have ht : t = drawnRow (s.lowered (size (lyricsFont s) - 1)) (size (lyricsFont s))
      (.text line.text (lyricsSlot s) (lyricsFont s) .left .plain) := by
    rw [← paid_advanced_of_le (by linarith) hfits]
    exact followed_lyrics hs.onPage hs.shows hline
  rw [ht]
  refine ⟨drawnRow_spot .., (drawnRow_height ..).trans (lowered_height ..), ?_⟩
  rw [drawnRow_rowAt, lowered, moved_received, List.append_nil]

/-- A line for which there is room is printed where the cursor is. -/
theorem line_stays (hs : Shows s) (hline : line.isBlank = false)
    (hstands : CanStand s line (s.height - lineRoom s line)) (n : Nat) :
    PrintsIn s.spot s n line ∧
      (s.after [.chords n line, .lyrics line]).height = s.height - lineRoom s line := by
  have hroom : lineRoom s line = chordRoom s line + (size (lyricsFont s) - 1) := by
    rw [lineRoom, hline, if_neg Bool.false_ne_true]
  rw [hroom] at hstands ⊢
  have hsize := hs.three_le.2
  have hbottom : s.document.geometry.bottom ≤
      s.height - (chordRoom s line + (size (lyricsFont s) - 1)) := by
    unfold CanStand at hstands
    split at hstands <;> linarith
  obtain ⟨hspot, hheight, hdrawn⟩ := chords_stay hs n line fun htakes => by
    rw [CanStand, chordRoom, if_pos htakes, if_pos htakes] at hstands
    exact ⟨by linarith, fun _ => by linarith⟩
  have hmoves := chords_moves hs.onPage n line
  have halike := setsAlike_of_moves hmoves
  obtain ⟨hspot', hheight', hdrawn'⟩ := lyrics_stay (hs.moves hmoves) hline (by
    rw [hheight, halike.lyricsFont_eq, halike.geometry]
    linarith)
  rw [hheight, halike.lyricsFont_eq, sub_sub] at hheight'
  have hslot : lyricsSlot (s.followed (.chords n line)) = lyricsSlot s := by
    rw [lyricsSlot, halike.modes]
    rfl
  rw [hslot, halike.lyricsFont_eq] at hdrawn'
  exact ⟨⟨hspot, hdrawn, hspot'.trans hspot, hdrawn'⟩, hheight'⟩

theorem blank_stays (hs : Shows s) (hline : line.isBlank = true)
    (hfits : takesChordRow s line = true →
      s.document.geometry.bottom ≤ s.height - (size (chordsFont s) + 1)) (n : Nat) :
    (s.after [.chords n line, .lyrics line]).spot = s.spot ∧
      (s.after [.chords n line, .lyrics line]).height = s.height - lineRoom s line := by
  obtain ⟨hspot, hheight, -⟩ := chords_stay hs n line fun htakes =>
    ⟨hfits htakes, fun h => absurd hline (by rw [h]; exact Bool.false_ne_true)⟩
  have hmoves := chords_moves hs.onPage n line
  have hlyrics := followed_lyrics_blank (hs.moves hmoves).shows hline
  have hafter : s.after [.chords n line, .lyrics line] =
    (s.followed (.chords n line)).followed (.lyrics line) := rfl
  rw [hafter, hlyrics, (setsAlike_of_moves hmoves).lyricsFont_eq]
  refine ⟨hspot, ?_⟩
  rw [lineRoom, if_pos hline, ← sub_sub, ← hheight]
  exact (sub_sub _ _ _).symm

/-! ## Lines that leave the column -/

theorem chords_leave (hs : Shows s) (htakes : takesChordRow s line = true)
    (hlow : s.height - (size (chordsFont s) + 1) < s.document.geometry.bottom) (n : Nat) :
    s.spot < (s.followed (.chords n line)).spot := by
  have hrow : (atLine n s).spot < ((atLine n s).paid.advanced (size (chordsFont s) + 1)).spot :=
    spot_lt_paid_advanced hlow
  rw [followed_chords hs.onPage hs.shows htakes, chordsDrawn_spot]
  unfold toChordRow
  dsimp only
  split
  · exact hrow.trans_le (spot_le_advanced _ _)
  · exact hrow

theorem lyrics_leave (hs : Shows s) (hline : line.isBlank = false)
    (hlow : s.height - (size (lyricsFont s) - 1) < s.document.geometry.bottom) :
    s.spot < (s.followed (.lyrics line)).spot := by
  rw [followed_lyrics hs.onPage hs.shows hline, drawnRow_spot]
  exact spot_lt_paid_advanced hlow

theorem toChordRow_low {textFont chordFont : Font} (hline : line.isBlank = false)
    (hchord : (0 : Rat) ≤ size chordFont)
    (hfits : s.document.geometry.bottom ≤ s.height - (size chordFont + 1))
    (hlook : s.height - (size chordFont + 1) - size textFont ≤ s.document.geometry.bottom) :
    toChordRow s line textFont chordFont =
      (s.lowered (size chordFont + 1)).advanced (size textFont) := by
  unfold toChordRow
  dsimp only
  rw [paid_advanced_of_le (by linarith) hfits, if_pos]
  rw [hline, Bool.not_false, Bool.true_and, decide_eq_true_eq]
  exact hlook

/-- Where the lyrics are expected below the margin, the chords leave the column; where they are
expected right on it, the chords stay and the lyrics leave. -/
theorem lookAhead_leaves (hs : Shows s) (hline : line.isBlank = false)
    (htakes : takesChordRow s line = true)
    (hfits : s.document.geometry.bottom ≤ s.height - (size (chordsFont s) + 1))
    (hlook : s.height - (size (chordsFont s) + 1) - size (lyricsFont s) ≤
      s.document.geometry.bottom) (n : Nat) :
    s.spot < (s.after [.chords n line, .lyrics line]).spot := by
  have hsize := hs.three_le
  have hmoves := chords_moves hs.onPage n line
  have halike := setsAlike_of_moves hmoves
  let row := (atLine n s).lowered (size (chordsFont s) + 1)
  have hchords : s.followed (.chords n line) = chordsDrawn (row.advanced (size (lyricsFont s)))
      line (lyricsFont s) (chordsFont s) := by
    rw [followed_chords hs.onPage hs.shows htakes,
      toChordRow_low (s := atLine n s) hline (by linarith) hfits hlook]
  rcases hlook.lt_or_eq with hlow | hmargin
  · have hleaves : s.spot < (s.followed (.chords n line)).spot := by
      rw [hchords, chordsDrawn_spot]
      exact spot_lt_advanced (s := row) hlow
    exact hleaves.trans_le (chords_spot_le hs.onPage n line)
  · have hrow : row.advanced (size (lyricsFont s)) =
        (atLine n s).lowered (size (chordsFont s) + 1 + size (lyricsFont s)) :=
      lowered_advanced (s := atLine n s) (by rw [← sub_sub]; exact hmargin.ge)
    rw [hrow] at hchords
    have hspot : (s.followed (.chords n line)).spot = s.spot := by
      rw [hchords, chordsDrawn_spot]
      rfl
    have hheight : (s.followed (.chords n line)).height = s.document.geometry.bottom := by
      rw [hchords, chordsDrawn_height, lowered_height, ← sub_sub]
      exact hmargin
    rw [← hspot]
    refine lyrics_leave (hs.moves hmoves) hline ?_
    rw [hheight, halike.lyricsFont_eq, halike.geometry]
    linarith

theorem line_leaves (hs : Shows s) (hline : line.isBlank = false)
    (hstands : ¬ CanStand s line (s.height - lineRoom s line)) (n : Nat) :
    s.spot < (s.after [.chords n line, .lyrics line]).spot := by
  rw [lineRoom, chordRoom, hline, if_neg Bool.false_ne_true, CanStand] at hstands
  cases htakes : takesChordRow s line with
  | false =>
    rw [htakes, if_neg Bool.false_ne_true, if_neg Bool.false_ne_true, zero_add, not_le] at hstands
    have hafter : s.after [.chords n line, .lyrics line] =
        (atLine n s).followed (.lyrics line) :=
      congrArg (·.followed (.lyrics line)) (followed_chords_close htakes n)
    rw [hafter]
    exact lyrics_leave (s := atLine n s) (hs.moves (.single (.record s.file n s.log))) hline hstands
  | true =>
    rw [htakes, if_pos rfl, if_pos rfl, not_lt] at hstands
    rcases lt_or_ge (s.height - (size (chordsFont s) + 1)) s.document.geometry.bottom with
      hlow | hfits
    · exact (chords_leave hs htakes hlow n).trans_le (chords_spot_le hs.onPage n line)
    · exact lookAhead_leaves hs hline htakes hfits (by linarith) n

/-! ## Room for a line -/

/-- There is room in the column for the line. A blank one needs it for its row of chords alone. -/
def Fits (s : Session Rat) (line : Line) : Prop :=
  if line.isBlank then takesChordRow s line = true →
    s.document.geometry.bottom ≤ s.height - (size (chordsFont s) + 1)
  else CanStand s line (s.height - lineRoom s line)

theorem fits_stays (hs : Shows s) (h : Fits s line) (n : Nat) :
    (line.isBlank = false → PrintsIn s.spot s n line) ∧
      (s.after [.chords n line, .lyrics line]).spot = s.spot ∧
      (s.after [.chords n line, .lyrics line]).height = s.height - lineRoom s line := by
  unfold Fits at h
  cases hline : line.isBlank with
  | true =>
    rw [hline, if_pos rfl] at h
    exact ⟨fun hword => Bool.noConfusion hword, blank_stays hs hline h n⟩
  | false =>
    rw [hline, if_neg Bool.false_ne_true] at h
    obtain ⟨hprints, hheight⟩ := line_stays hs hline h n
    exact ⟨fun _ => hprints, hprints.lyrics_spot, hheight⟩

theorem not_fits_leaves (hs : Shows s) (h : ¬ Fits s line) (n : Nat) :
    s.spot < (s.after [.chords n line, .lyrics line]).spot := by
  unfold Fits at h
  cases hline : line.isBlank with
  | true =>
    rw [hline, if_pos rfl, Classical.not_imp, not_le] at h
    exact (chords_leave hs h.1 h.2 n).trans_le (chords_spot_le hs.onPage n line)
  | false =>
    rw [hline, if_neg Bool.false_ne_true] at h
    exact line_leaves hs hline h n

end Typeset

end Songbook
