import Mathlib.Algebra.Order.BigOperators.Group.List
import Songbook.Proofs.ColumnRoom
import Songbook.Proofs.IndexPages
import Songbook.Proofs.Outcomes

/-!
# Conditional breaks

A conditional break goes to the next column unless so many lines fit, by an estimate of their room
(`lineHeight_eq`). The lines that follow are printed in the column of the cursor if and only if
there is room for all of them (`printsAllIn_iff`). The estimate covers that room where nothing is
owed and every row of chords is counted (`hasRoom_of_counted`).
-/

namespace Songbook

namespace Markup.Event

/-- The line that has ended. -/
def line? : Event → Option Line
  | .line _ content => some content
  | _ => none

def isDirective : Event → Bool
  | .directive .. => true
  | _ => false

end Markup.Event

namespace Typeset

open Session

variable {s t : Session Rat} {line : Line}

/-! ## Lines that follow -/

/-- A line, if it is one and not blank, is printed in that column. -/
def PrintsEventIn (column : ℕ ×ₗ ℕ) (s : Session Rat) : Markup.Event → Prop
  | .line n content => content.isBlank = false → PrintsIn column s n content
  | _ => True

/-- All lines among the events that are not blank are printed in that column. -/
def PrintsAllIn (column : ℕ ×ₗ ℕ) : Session Rat → List Markup.Event → Prop
  | _, [] => True
  | s, e :: events => PrintsEventIn column s e ∧ PrintsAllIn column (s.after e.orders) events

variable {e : Markup.Event} {events : List Markup.Event} {init : List Line} {last : Line}
  {column : ℕ ×ₗ ℕ}

theorem event_moves (hs : s.OnPage) (he : e.isDirective = false) :
    Moves false s (s.after e.orders) := by
  have hkeeps : (sink : Markup.Sink Fault (Session Rat)).Keeps (fun t => Moves false s t)
      (Interrupts false) := sink_keeps (fun _ ht => ht.onPage hs) fun _ _ hmove ht => ht.tail hmove
  cases e with
  | chord n name => exact hkeeps.chord n name s .refl
  | directive n text => cases he
  | line n content =>
    have hchords := chords_moves hs n content
    exact hchords.trans (lyrics_moves (hchords.onPage hs) content)
  | problem n p => exact hkeeps.problem n p s .refl

/-- What is no line leaves the cursor where it is. -/
theorem event_stays (hs : s.OnPage) (he : e.isDirective = false) (hline : e.line? = none) :
    (s.after e.orders).document.cursor = s.document.cursor := by
  cases e with
  | chord n name =>
    have hresolved : (resolveChord name (atLine n s)).2.place = (atLine n s).place :=
      resolveChord_place name (atLine n s)
    show (if s.startup then (name, atLine n s) else resolveChord name (atLine n s)).2.document.cursor
      = _
    rw [hs.inSong, if_neg Bool.false_ne_true]
    exact congrArg (·.cursor) hresolved
  | directive n text => cases he
  | line n content => cases hline
  | problem n p => rfl

theorem printsAllIn_of_no_lines (hlines : events.filterMap (·.line?) = []) :
    PrintsAllIn column s events := by
  induction events generalizing s with
  | nil => trivial
  | cons e events ih =>
    cases e with
    | line n content => simp [Markup.Event.line?] at hlines
    | _ => exact ⟨trivial, ih hlines⟩

/-- A line that is printed is printed after the lines before it. -/
theorem PrintsAllIn.exists_last (hs : s.OnPage) (h : PrintsAllIn column s events)
    (hevents : ∀ e ∈ events, e.isDirective = false)
    (hlines : events.filterMap (·.line?) = init ++ [last]) (hlast : last.isBlank = false) :
    ∃ m n, Moves false s m ∧ PrintsIn column m n last := by
  induction events generalizing s init with
  | nil => simp at hlines
  | cons e events ih =>
    obtain ⟨he, hevents⟩ := List.forall_mem_cons.1 hevents
    have hmoves := event_moves hs he
    have hrest : ∀ {init'}, events.filterMap (·.line?) = init' ++ [last] →
        ∃ m n, Moves false s m ∧ PrintsIn column m n last := by
      intro init' hlines
      obtain ⟨m, n, hm, hprints⟩ := ih (hmoves.onPage hs) h.2 hevents hlines
      exact ⟨m, n, hmoves.trans hm, hprints⟩
    cases hline : e.line? with
    | none =>
      rw [List.filterMap_cons_none hline] at hlines
      exact hrest hlines
    | some line =>
      rw [List.filterMap_cons_some hline] at hlines
      cases init with
      | cons _ init => exact hrest (List.cons.inj hlines).2
      | nil =>
        obtain ⟨rfl, -⟩ := List.cons.inj hlines
        cases e with
        | line n content =>
          cases hline
          exact ⟨s, n, .refl, h.1 hlast⟩
        | _ => cases hline

/-- Nothing is printed in a column that has been left. -/
theorem PrintsAllIn.spot_le (hs : s.OnPage) (h : PrintsAllIn column s events)
    (hevents : ∀ e ∈ events, e.isDirective = false)
    (hlines : events.filterMap (·.line?) = init ++ [last]) (hlast : last.isBlank = false) :
    s.spot ≤ column := by
  obtain ⟨m, n, hm, hprints⟩ := h.exists_last hs hevents hlines hlast
  rw [← hprints.chords_spot]
  exact hm.spot_le.trans (chords_moves (hm.onPage hs) n last).spot_le

/-- Lines that are not shown are not printed. -/
theorem PrintsAllIn.shows (hs : s.OnPage) (h : PrintsAllIn column s events)
    (hevents : ∀ e ∈ events, e.isDirective = false)
    (hlines : events.filterMap (·.line?) = init ++ [last]) (hlast : last.isBlank = false) :
    showsLines s = true := by
  obtain ⟨m, n, hm, hprints⟩ := h.exists_last hs hevents hlines hlast
  have hchords := hm.trans (chords_moves (hm.onPage hs) n last)
  by_contra hhidden
  rw [Bool.not_eq_true, ← (setsAlike_of_moves hchords).showsLines_eq] at hhidden
  have hafter : m.after [.chords n last, .lyrics last] = m.followed (.chords n last) :=
    followed_hidden hhidden
  have hdrawn := hprints.lyrics_drawn
  rw [hafter, List.self_eq_append_right] at hdrawn
  exact List.cons_ne_nil _ _ hdrawn

/-- There is room in the column for some lines and one more below them. -/
def HasRoom (s : Session Rat) (lines : List Line) (last : Line) : Prop :=
  CanStand s last (s.height - ((lines ++ [last]).map (lineRoom s)).sum)

/-- The room for further lines, after a line that has taken `room`. -/
theorem SetsAlike.hasRoom_iff (h : SetsAlike s t) {lines : List Line} {last : Line} {room : Rat}
    (hheight : t.height = s.height - room) : HasRoom t lines last ↔
      CanStand s last (s.height - (room + ((lines ++ [last]).map (lineRoom s)).sum)) := by
  rw [HasRoom, CanStand, h.takesChordRow_eq, h.geometry, h.lineRoom_eq, hheight, sub_sub]
  rfl

/-- The lines and the last one take two points at least. -/
theorem two_le_room (hs : Shows s) (lines : List Line) (hlast : last.isBlank = false) :
    2 ≤ ((lines ++ [last]).map (lineRoom s)).sum := by
  obtain ⟨hchords, hlyrics⟩ := hs.three_le
  have hchord : ∀ line, 0 ≤ chordRoom s line := by
    intro line
    unfold chordRoom
    split <;> linarith
  have hroom : ∀ line, 0 ≤ lineRoom s line := by
    intro line
    have := hchord line
    unfold lineRoom
    split <;> linarith
  have hlines : 0 ≤ (lines.map (lineRoom s)).sum := by
    refine List.sum_nonneg ?_
    simpa using fun line _ => hroom line
  have hchordLast := hchord last
  rw [List.map_append, List.sum_append, List.map_singleton, List.sum_singleton, lineRoom, hlast,
    if_neg Bool.false_ne_true]
  linarith

theorem hasRoom_nil_iff (hlast : last.isBlank = false) : HasRoom s [] last ↔ Fits s last := by
  rw [HasRoom, Fits, hlast, if_neg Bool.false_ne_true]
  simp

/-- Where there is room for more lines, there is room for the first of them. -/
theorem Fits.of_hasRoom (hs : Shows s) (hlast : last.isBlank = false)
    (h : HasRoom s (line :: init) last) : Fits s line := by
  obtain ⟨hchords, hlyrics⟩ := hs.three_le
  have hrest := two_le_room hs init hlast
  rw [HasRoom, List.cons_append, List.map_cons, List.sum_cons] at h
  have hbottom : s.document.geometry.bottom + 2 ≤ s.height - lineRoom s line := by
    unfold CanStand at h
    split at h <;> linarith
  unfold Fits
  cases hline : line.isBlank with
  | true =>
    rw [if_pos rfl]
    intro htakes
    rw [lineRoom, chordRoom, if_pos htakes, if_pos hline] at hbottom
    linarith
  | false =>
    rw [if_neg Bool.false_ne_true, CanStand]
    split <;> linarith

/-- The lines that follow are printed in the column of the cursor if and only if there is room for
all of them. -/
theorem printsAllIn_iff (hs : Shows s) (hevents : ∀ e ∈ events, e.isDirective = false)
    (hlines : events.filterMap (·.line?) = init ++ [last]) (hlast : last.isBlank = false) :
    PrintsAllIn s.spot s events ↔ HasRoom s init last := by
  induction events generalizing s init with
  | nil => simp at hlines
  | cons e events ih =>
    obtain ⟨he, hevents'⟩ := List.forall_mem_cons.1 hevents
    have hmoves := event_moves hs.onPage he
    have hnext := hs.moves hmoves
    have halike := setsAlike_of_moves hmoves
    cases hline : e.line? with
    | none =>
      have hcursor := event_stays hs.onPage he hline
      have hspot : (s.after e.orders).spot = s.spot := congrArg Cursor.spot hcursor
      have hheight : (s.after e.orders).height = s.height - 0 := by
        rw [sub_zero, Session.height, hcursor]
        rfl
      have hprints : PrintsEventIn s.spot s e := by
        cases e with
        | line => cases hline
        | _ => trivial
      rw [List.filterMap_cons_none hline] at hlines
      rw [PrintsAllIn, and_iff_right hprints, ← hspot, ih hnext hevents' hlines,
        halike.hasRoom_iff hheight, zero_add]
      rfl
    | some line =>
      obtain ⟨n, rfl⟩ : ∃ n, e = .line n line := by
        cases e with
        | line n content =>
          cases hline
          exact ⟨n, rfl⟩
        | _ => cases hline
      rw [List.filterMap_cons_some hline] at hlines
      by_cases hfits : Fits s line
      · obtain ⟨hprints, hspot, hheight⟩ := fits_stays hs hfits n
        have hfirst : PrintsEventIn s.spot s (.line n line) := hprints
        rw [PrintsAllIn, and_iff_right hfirst]
        cases init with
        | nil =>
          obtain ⟨rfl, hnone⟩ := List.cons.inj hlines
          exact iff_of_true (printsAllIn_of_no_lines hnone) ((hasRoom_nil_iff hlast).2 hfits)
        | cons _ init =>
          obtain ⟨rfl, hlines'⟩ := List.cons.inj hlines
          have hrest := (ih hnext hevents' hlines').trans (halike.hasRoom_iff hheight)
          rw [show (s.after (Markup.Event.line n line).orders).spot = s.spot from hspot] at hrest
          rw [hrest, HasRoom, List.cons_append, List.map_cons, List.sum_cons]
      · have hleaves := not_fits_leaves hs hfits n
        cases init with
        | nil =>
          obtain ⟨rfl, -⟩ := List.cons.inj hlines
          exact iff_of_false (fun h => hleaves.ne' (h.1 hlast).lyrics_spot)
            fun h => hfits ((hasRoom_nil_iff hlast).1 h)
        | cons _ init =>
          obtain ⟨rfl, hlines'⟩ := List.cons.inj hlines
          exact iff_of_false
            (fun h => hleaves.not_ge (h.2.spot_le hnext.onPage hevents' hlines' hlast))
            fun h => hfits (.of_hasRoom hs hlast h)

/-! ## The directive -/

theorem dispatch_of_directive? {text : String} {d : Directive Rat}
    (h : directive? s text = some d) :
    ∃ k log, dispatch text s = apply k d { s with log } := by
  obtain ⟨⟨name, args⟩, hsplit, hname⟩ := Option.bind_eq_some_iff.1 h
  obtain ⟨k, hk, hd⟩ := Option.bind_eq_some_iff.1 hname
  split at hd
  · cases hd
  · rename_i hrefusal
    cases hread : (Directive.read k args : Except Problem (Directive Rat)) with
    | error p =>
      rw [hread] at hd
      cases hd
    | ok e =>
      rw [hread] at hd
      cases hd
      obtain ⟨log, hdispatch⟩ := dispatch_applies hsplit hk hread hrefusal
      exact ⟨k, log, hdispatch⟩

theorem conditionalBreak_eq (h : s.OnPage) (count : Nat) : ∃ log, conditionalBreak count s =
    .ok () (if s.document.cursor.vertical - count * lineHeight s ≤ s.document.geometry.bottom then
      Session.broken { s with log } else { s with log }) := by
  let needed : Rat := count * lineHeight s
  let noted : Session Rat := { s with log := s.log.push (.roomNeeded needed) }
  have hnoted : noted.OnPage := ⟨h.unlimited, h.isOpen, h.inSong⟩
  refine ⟨noted.log, ?_⟩
  show (if s.document.cursor.vertical - needed ≤ s.document.geometry.bottom then breakColumn
    else pure () : Typeset Rat Unit) noted = _
  split
  · exact breakColumn_broken hnoted.unlimited hnoted.isOpen
  · rfl

theorem followed_conditionalBreak (h : s.OnPage) {text : String} {count : Nat}
    (htext : directive? s text = some (.conditionalBreak count)) (n : Nat) :
    ∃ log, s.followed (.directive n text) =
      if s.document.cursor.vertical - count * lineHeight s ≤ s.document.geometry.bottom then
        Session.broken { s with line := n, log } else { s with line := n, log } := by
  have htext' : directive? (atLine n s) text = some (.conditionalBreak count) := htext
  obtain ⟨k, log, hdispatch⟩ := dispatch_of_directive? htext'
  have hon : Session.OnPage { atLine n s with log } := ⟨h.unlimited, h.isOpen, h.inSong⟩
  obtain ⟨log', hbreak⟩ := conditionalBreak_eq hon count
  exact ⟨log', endState_of_ok (hdispatch.trans hbreak)⟩

/-- Rows of chords are not counted, or with them a line is none higher than the largest size. -/
def EstimateFits (s : Session Rat) : Prop :=
  s.document.modes.inTab = false → s.settings.lyricsOnly = false →
    (lyricsFont s).size + (chordsFont s).size + 1 ≤ largestSize

/-- The height that a conditional break counts on for each line. -/
theorem lineHeight_eq (hs : Shows s) (hestimate : EstimateFits s) : (lineHeight s : Rat) =
    if s.document.modes.inTab || s.settings.lyricsOnly then size (lyricsFont s)
    else size (lyricsFont s) + size (chordsFont s) + 1 := by
  have hchords := hs.three_le_chords
  have hlyrics := hs.three_le_lyrics
  unfold EstimateFits at hestimate
  unfold lyricsFont lyricsSlot at hestimate hlyrics ⊢
  unfold lineHeight
  cases htab : s.document.modes.inTab with
  | true => rfl
  | false =>
    cases honly : s.settings.lyricsOnly with
    | true => rfl
    | false =>
      rw [htab] at hestimate hlyrics
      have hheight := wrapSize_eq_self (by simp only [chordsFont] at hchords ⊢; omega)
        (hestimate rfl honly)
      simp only [Bool.false_eq_true, if_false, Bool.or_self] at hheight ⊢
      exact (congrArg (Int.cast : Int → Rat) hheight).trans (by push_cast; rfl)

theorem size_le_lineHeight (hs : Shows s) (hestimate : EstimateFits s) :
    size (lyricsFont s) ≤ (lineHeight s : Rat) := by
  have hchords := hs.three_le.1
  rw [lineHeight_eq hs hestimate]
  split <;> linarith

/-- A line takes less room than it is counted with, unless a row of chords is not counted. -/
theorem lineRoom_le (hs : Shows s) (hestimate : EstimateFits s)
    (hcounted : takesChordRow s line = true →
      s.document.modes.inTab = false ∧ s.settings.lyricsOnly = false) :
    lineRoom s line ≤ lineHeight s - 1 := by
  have hheight := size_le_lineHeight hs hestimate
  have hblank : (1 : Rat) ≤ if line.isBlank then 2 else 1 := by
    split <;> norm_num
  rw [lineRoom, chordRoom]
  cases htakes : takesChordRow s line with
  | true =>
    obtain ⟨htab, hchorded⟩ := hcounted htakes
    rw [lineHeight_eq hs hestimate, htab, hchorded, Bool.or_self, if_pos rfl,
      if_neg Bool.false_ne_true]
    linarith
  | false =>
    rw [if_neg Bool.false_ne_true]
    linarith

/-- Where every row of chords is counted and nothing is owed, there is room for as many lines, blank
ones among them, as a conditional break has found to fit. -/
theorem hasRoom_of_counted (hs : Shows s) (hestimate : EstimateFits s) {count : Nat}
    (hfits : s.document.geometry.bottom < s.document.cursor.vertical - count * lineHeight s)
    (howed : s.document.cursor.blankSpace ≤ 0) (hcount : (init ++ [last]).length ≤ count)
    (hcounted : ∀ line ∈ init ++ [last], takesChordRow s line = true →
      s.document.modes.inTab = false ∧ s.settings.lyricsOnly = false) :
    HasRoom s init last := by
  have hsum : ((init ++ [last]).map (lineRoom s)).sum ≤
      (init ++ [last]).length * ((lineHeight s : Rat) - 1) := by
    rw [← nsmul_eq_mul, ← List.length_map (lineRoom s)]
    refine List.sum_le_card_nsmul _ _ ?_
    rintro _ hroom
    obtain ⟨line, hline, rfl⟩ := List.mem_map.1 hroom
    exact lineRoom_le hs hestimate (hcounted line hline)
  have hheight : (0 : Rat) ≤ lineHeight s - 1 := by
    linarith [size_le_lineHeight hs hestimate, hs.three_le.2]
  have hroom : ((init ++ [last]).map (lineRoom s)).sum ≤ count * ((lineHeight s : Rat) - 1) :=
    hsum.trans (mul_le_mul_of_nonneg_right (by exact_mod_cast hcount) hheight)
  have hone : (1 : Rat) ≤ count := by
    have : 1 ≤ count := le_trans (by simp) hcount
    exact_mod_cast this
  unfold HasRoom CanStand Session.height
  split <;> linarith

/-- A conditional break leaves the cursor in its column just if its estimate says that so many lines
fit above the bottom margin. If it does, the lines that follow, up to one that is not blank, are all
printed there with their chords if and only if lines are shown and there is room for all of them
below the room that is owed. So it is wherever the estimate of a line is none beyond the largest
size, nothing is owed, blank lines are counted among the lines, and no row of chords is left out of
the estimate, as it is if only lyrics are printed. -/
theorem conditionalBreak_prints_iff {settings : Settings Rat} (h : s.InSong settings)
    (hchords : 3 ≤ (chordsFont s).size) (hlyrics : 3 ≤ (lyricsFont s).size) {text : String}
    {count : Nat} (htext : directive? s text = some (.conditionalBreak count)) (n : Nat)
    (hevents : ∀ e ∈ events, e.isDirective = false)
    (hlines : events.filterMap (·.line?) = init ++ [last]) (hlast : last.isBlank = false) :
    let t := s.followed (.directive n text)
    (t.spot = s.spot ↔ s.document.geometry.bottom <
        s.document.cursor.vertical - count * lineHeight s) ∧
      (t.spot = s.spot →
        (PrintsAllIn s.spot t events ↔ showsLines s = true ∧ HasRoom s init last) ∧
        (showsLines s = true → EstimateFits s → s.document.cursor.blankSpace ≤ 0 →
          (init ++ [last]).length ≤ count →
          (∀ line ∈ init ++ [last], takesChordRow s line = true →
            s.document.modes.inTab = false ∧ s.settings.lyricsOnly = false) →
          PrintsAllIn s.spot t events)) := by
  intro t
  obtain ⟨log, ht⟩ := followed_conditionalBreak h.onPage htext n
  rcases lt_or_ge s.document.geometry.bottom
    (s.document.cursor.vertical - count * lineHeight s) with hfits | hlow
  · let u : Session Rat := { s with line := n, log }
    have htu : t = u := ht.trans (if_neg (not_le.2 hfits))
    have hon : u.OnPage := ⟨h.onPage.unlimited, h.onPage.isOpen, h.onPage.inSong⟩
    have hprints : showsLines s = true → (PrintsAllIn s.spot u events ↔ HasRoom s init last) :=
      fun hshows => printsAllIn_iff (s := u) ⟨hon, hshows, hchords, hlyrics⟩ hevents hlines hlast
    rw [htu]
    refine ⟨iff_of_true rfl hfits, fun _ => ⟨⟨fun hall => ?_, fun hroom => ?_⟩, ?_⟩⟩
    · have hshows : showsLines s = true := PrintsAllIn.shows (s := u) hon hall hevents hlines hlast
      exact ⟨hshows, (hprints hshows).1 hall⟩
    · exact (hprints hroom.1).2 hroom.2
    · intro hshows hestimate howed hcount hcounted
      exact (hprints hshows).2 (hasRoom_of_counted ⟨h.onPage, hshows, hchords, hlyrics⟩ hestimate
        hfits howed hcount hcounted)
  · have hbroken : t = Session.broken { s with line := n, log } := ht.trans (if_pos hlow)
    have hleft : s.spot < t.spot := by
      rw [hbroken]
      exact spot_lt_broken { s with line := n, log }
    exact ⟨iff_of_false hleft.ne' (not_lt.2 hlow), fun hstays => absurd hstays hleft.ne'⟩

/-- The extensions are enabled from the beginning. -/
def extended : Settings Rat := { Settings.default with extensions := true }

/-- Two lines with a chord each. -/
def twoLines : List Markup.Event :=
  [.chord 6 "C", .line 6 ⟨"la", [⟨0, "C"⟩]⟩, .chord 7 "C", .line 7 ⟨"lo", [⟨0, "C"⟩]⟩]

theorem directive?_conditionalBreak (hsong : s.startup = false)
    (hextensions : s.document.modes.extensions = true) :
    directive? s "conditional_break: 2" = some (.conditionalBreak 2) := by
  have hsplit : Keyword.splitText? "conditional_break: 2" = some ("conditional_break", " 2") := by
    decide
  have hname : Keyword.ofName? "conditional_break" = some .conditionalBreak := by decide
  unfold directive?
  rw [hsplit, Option.bind_some]
  dsimp only
  rw [hname, Option.bind_some, hsong, hextensions]
  rfl

theorem begins_extended : Begins extended [] noOverrides :=
  eq_ok_of_succeeds (by decide +kernel)

/-- At the beginning of a song there is room for two lines. -/
theorem conditionalBreak_prints_twoLines :
    let s := firstSong extended [] noOverrides
    let t := s.followed (.directive 1 "conditional_break: 2")
    directive? s "conditional_break: 2" = some (.conditionalBreak 2) ∧ t.spot = s.spot ∧
      PrintsAllIn s.spot t twoLines := by
  intro s t
  have htext : directive? s "conditional_break: 2" = some (.conditionalBreak 2) :=
    directive?_conditionalBreak (by decide +kernel) (by decide +kernel)
  have hlines : twoLines.filterMap (·.line?) = [⟨"la", [⟨0, "C"⟩]⟩] ++ [⟨"lo", [⟨0, "C"⟩]⟩] := rfl
  obtain ⟨hstays, hprints⟩ := conditionalBreak_prints_iff (s := s) begins_extended.inSong
    (by decide +kernel) (by decide +kernel) htext 1 (by decide) hlines (by decide)
  have hspot : t.spot = s.spot := hstays.2 (by decide +kernel)
  have hestimate : EstimateFits s := fun _ _ => by decide +kernel
  exact ⟨htext, hspot, (hprints hspot).2 (by decide +kernel) hestimate (by decide +kernel)
    (by decide) fun _ _ _ => by decide +kernel⟩

/-- A word 652 points high and a blank line: 45 points are left above the margin, and ten of them are
owed. -/
def owingText : String := "\x7btextsize: 652\x7d\nx\n\x7btextsize: 12\x7d\n\n"

/-- Two lines are estimated at 44 points, and 45 are left; but the second of them is printed on the
next page. -/
theorem conditionalBreak_ignores_owed :
    let first := firstSong extended [] noOverrides
    let s := first.after (songOrders first "a" owingText)
    let t := s.followed (.directive 5 "conditional_break: 2")
    s.InSong extended ∧ (∀ slot ∈ FontSlot.all, 3 ≤ (s.document.styles.current slot).size) ∧
      s.document.modes.extensions = true ∧ s.document.cursor.blankSpace = 10 ∧
      directive? s "conditional_break: 2" = some (.conditionalBreak 2) ∧ t.spot = s.spot ∧
      ¬ PrintsAllIn s.spot t twoLines := by
  intro first s t
  have hextensions : s.document.modes.extensions = true := by decide +kernel
  refine ⟨after_inSong begins_extended.inSong _, by decide +kernel, hextensions, by decide +kernel,
    directive?_conditionalBreak (by decide +kernel) hextensions, by decide +kernel, fun hprints => ?_⟩
  obtain ⟨-, -, -, hsecond, -⟩ := hprints
  have hspot := (hsecond rfl).lyrics_spot
  revert hspot
  decide +kernel

end Typeset

end Songbook
