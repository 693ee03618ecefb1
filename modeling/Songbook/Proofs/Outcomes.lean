import Songbook.Proofs.Deeds
import Songbook.Proofs.Orders

/-!
# What orders do to a page

One walk over the layout finds the deeds of each action (`Works`) and what each directive and line
ends in (`Turns`). So every order of a run has one of the outcomes (`follow_outcome`).
-/

namespace Songbook

namespace Session

variable (s : Session Rat)

/-- The number of columns entered, the first ones of the pages left out. -/
def columnsEntered : Nat := s.log.toList.countP LogEntry.isColumn

def place : Place where
  geometry := s.document.geometry
  cursor := s.document.cursor
  drawn := s.device.received.toList
  entered := s.columnsEntered

/-- All fonts have sizes of two points at least, the size of titles is none beyond the largest, and
diagrams have no negative size. -/
def Legible : Prop :=
  (∀ slot ∈ FontSlot.all, 2 ≤ (s.document.styles.current slot).size) ∧
    (s.document.styles.current .text).size + Typeset.titleIncrement ≤ largestSize ∧
    0 ≤ s.settings.gridSize

instance : Decidable s.Legible := inferInstanceAs (Decidable (_ ∧ _))

theorem place_moved (c : Cursor Rat) (ds : List (Drawing Rat)) :
    (s.moved c ds s.log).place = s.place.moved c ds := by
  unfold place
  rw [moved_received]
  rfl

theorem place_bar : s.place.bar = s.bar := by
  unfold Place.bar bar place
  cases s.document.cursor.chorus <;> rfl

variable {s}

theorem Legible.two_le (h : s.Legible) (slot : FontSlot) :
    2 ≤ (s.document.styles.current slot).size := h.1 slot (by cases slot <;> decide)

theorem Legible.gridSize_nonneg (h : s.Legible) : 0 ≤ s.settings.gridSize := h.2.2

theorem Legible.titleFont_size (h : s.Legible) : (Typeset.titleFont s.document.styles).size =
    (s.document.styles.current .text).size + Typeset.titleIncrement :=
  Typeset.titleFont_size (by have := h.two_le .text; omega) h.2.1

theorem Legible.two_le_titleFont (h : s.Legible) :
    2 ≤ (Typeset.titleFont s.document.styles).size := by
  have htext := h.two_le .text
  rw [h.titleFont_size, Typeset.titleIncrement]
  omega

/-- The session on an open page, with sizes for what it prints. -/
structure Ready (s : Session Rat) : Prop where
  onPage : s.OnPage
  legible : s.Legible

theorem Ready.moved (h : s.Ready) {c : Cursor Rat} (hc : c.slot = s.document.cursor.slot)
    (ds : List (Drawing Rat)) (log : Array (LogEntry Rat)) : (s.moved c ds log).Ready :=
  ⟨⟨h.onPage.unlimited, hc.trans_ne h.onPage.isOpen, h.onPage.inSong⟩, h.legible⟩

theorem Ready.noted (h : s.Ready) (e : LogEntry Rat) : (s.note e).Ready :=
  ⟨⟨h.onPage.unlimited, h.onPage.isOpen, h.onPage.inSong⟩, h.legible⟩

end Session

namespace Typeset

open Session Drawing

variable {α : Type} {s t : Session Rat}

/-- From a session that is ready, `x` does deeds and nothing else. -/
abbrev Works (x : Typeset Rat α) : Prop :=
  Keeps (fun p (s : Session Rat) => s.Ready ∧ Deeds p s.place) (fun _ => False) x

theorem Works.ends {x : Typeset Rat α} (h : Works x) (hs : s.Ready) :
    Ends x s (fun _ => False) fun _ t => t.Ready ∧ Deeds s.place t.place := h _ s ⟨hs, .refl⟩

theorem works_of_deeds {x : Typeset Rat Unit} {f : Session Rat → Session Rat}
    (hx : ∀ s : Session Rat, s.Ready → x s = .ok () (f s) ∧ (f s).Ready ∧
      Deeds s.place (f s).place) : Works x := fun p s hs => by
  obtain ⟨hok, hready, hdeeds⟩ := hx s hs.1
  exact .of_ok hok ⟨hready, hs.2.trans hdeeds⟩

theorem draw_works {d : Drawing Rat} (hd : d.isContent) (hfalls : d.Falls)
    (hrow : d.isRow = false) : Works (draw d) :=
  works_of_deeds fun s hs => ⟨draw_eq hs.onPage.unlimited d, hs.moved rfl _ _, by
    rw [drawn, place_moved]
    exact .single (.draw hd hfalls hrow)⟩

theorem moveTo_works (h v : Rat) : Works (moveTo h v) := draw_works rfl trivial rfl

theorem cursor_works {f : Cursor Rat → Cursor Rat} (hslot : ∀ c, (f c).slot = c.slot)
    (hdeed : ∀ s : Session Rat, s.Ready → Deed s.place (s.place.moved (f s.document.cursor) [])) :
    Works (modifyCursor f) :=
  works_of_deeds fun s hs => ⟨modifyCursor_eq f s,
    hs.moved (hslot s.document.cursor) _ _, by
      rw [place_moved]
      exact .single (hdeed s hs)⟩

theorem down_works {amount : Rat} (h : 0 ≤ amount) : Works (modifyCursor (·.down amount)) :=
  cursor_works (fun _ => rfl) fun _ _ => .down h

/-! ## Pages -/

theorem falls_of_onlyRules {g : PageGeometry Rat} {ds : List (Drawing Rat)}
    (h : OnlyRules g ds) : ∀ d ∈ ds, d.Falls := by
  intro d hd
  cases d with
  | stroke points width =>
    rw [h points width hd]
    exact le_rfl
  | _ => trivial

theorem marked_isContent (s : Session Rat) (n? : Option Int) : ∀ d ∈ s.marked n?, d.isContent := by
  cases n? with
  | none => simp [marked]
  | some n => simp [marked, numberMark, isContent]

theorem titleMark_isContent (s : Session Rat) : ∀ d ∈ s.titleMark, d.isContent := by
  unfold titleMark
  split
  · split <;> simp [isContent]
  · simp

theorem pageStart_not_content (s : Session Rat) : ∀ d ∈ s.pageStart, d.isContent = false := by
  have hopening : ∀ n, ∀ d ∈ sheetOpening s.document.geometry s.document.cursor.pagination n,
      d.isContent = false := by
    intro n
    unfold sheetOpening
    split <;> simp [isContent]
  have hpage : ∀ d ∈ pageOpening s.document.geometry s.document.cursor.pagination
      (s.document.cursor.slot + 1), d.isContent = false := by
    unfold pageOpening
    split <;> simp [isContent]
  intro d hd
  rcases List.mem_append.1 hd with hd | hd
  · split at hd
    · exact hopening _ d hd
    · cases hd
  · exact hpage d hd

/-- A page that does not begin a sheet begins with a shift. -/
theorem pageStart_ne_nil (h : s.document.cursor.slot < s.document.cursor.pagination.perSheet) :
    s.pageStart ≠ [] := by
  unfold pageStart
  by_cases hslot : s.document.cursor.slot = 0
  · rw [if_pos hslot]
    exact nofun
  · have hshift : ∃ right up, s.document.geometry.shift? s.document.cursor.pagination
        (s.document.cursor.slot + 1) = some (right, up) := by
      rcases hp : s.document.cursor.pagination with _ | _ | _ <;> rw [hp] at h
      · exact absurd (Nat.lt_one_iff.1 h) hslot
      · obtain hone : s.document.cursor.slot = 1 := by
          have : s.document.cursor.slot < 2 := h
          omega
        exact ⟨_, _, by rw [hone]; rfl⟩
      · have : s.document.cursor.slot = 1 ∨ s.document.cursor.slot = 2 ∨
            s.document.cursor.slot = 3 := by
          have : s.document.cursor.slot < 4 := h
          omega
        rcases this with hn | hn | hn <;> exact ⟨_, _, by rw [hn]; rfl⟩
    obtain ⟨right, up, hshift⟩ := hshift
    simp [pageOpening, hshift]

/-- A page ends with its bar between drawings that fall. -/
theorem pageEnd_eq (s : Session Rat) (sheetToo : Bool) : ∃ foot rest,
    s.pageEnd sheetToo = foot ++ (s.place.bar ++ rest) ∧
      (∀ d ∈ foot, d.isContent ∧ d.Falls) ∧ ∀ d ∈ rest, d.Falls := by
  let number := if s.settings.numberPages then s.marked (number? s.settings.numberAll
    s.document.cursor.pageLabel s.document.cursor.songPages) else []
  let sheet := if s.document.cursor.pagination.perSheet ≤ s.document.cursor.slot || sheetToo then
    s.sheetFoot else []
  have hnumber : ∀ d ∈ number, d.isContent ∧ d.Falls := by
    intro d hd
    have hmarked : ∀ n?, d ∈ s.marked n? → d.isContent ∧ d.Falls := fun n? hd =>
      ⟨marked_isContent s n? d hd, falls_of_onlyRules (s.onlyRules_marked n?) d hd⟩
    dsimp only [number] at hd
    split at hd
    · exact hmarked _ hd
    · cases hd
  have hsheet : ∀ d ∈ sheet, d.Falls := by
    intro d hd
    dsimp only [sheet] at hd
    split at hd
    · exact falls_of_onlyRules s.onlyRules_sheetFoot d hd
    · cases hd
  refine ⟨s.titleMark ++ number, sheet, ?_, fun d hd => ?_, hsheet⟩
  · simp only [pageEnd, pageFoot, List.append_assoc, place_bar]
    rfl
  · rcases List.mem_append.1 hd with hd | hd
    · exact ⟨titleMark_isContent s d hd, falls_of_onlyRules s.onlyRules_titleMark d hd⟩
    · exact hnumber d hd

/-- What a page draws when it ends and the next one begins. -/
theorem turning (s : Session Rat) (sheetToo : Bool) :
    s.place.Turning (s.pageEnd sheetToo ++ (s.pageEnded sheetToo).pageStart) := by
  let t := s.pageEnded sheetToo
  have hstart : t.pageStart ≠ [] := pageStart_ne_nil (Cursor.left_slot_lt _ _ _)
  obtain ⟨foot, rest, hend, hfoot, hrest⟩ := pageEnd_eq s sheetToo
  refine ⟨foot, rest ++ t.pageStart.dropLast, t.pageStart.getLast hstart, ?_, hfoot,
    fun d hd => ?_, pageStart_not_content t _ (List.getLast_mem hstart)⟩
  · rw [List.append_assoc rest, List.dropLast_append_getLast, hend, List.append_assoc,
      List.append_assoc]
  · rcases List.mem_append.1 hd with hd | hd
    · exact hrest d hd
    · exact falls_of_onlyRules t.onlyRules_pageStart d (List.dropLast_subset _ hd)

theorem pageBegun_columnsEntered (s : Session Rat) :
    s.pageBegun.columnsEntered = s.columnsEntered := by
  show List.countP _ (Array.toList (if _ then _ else _)) = _
  split
  · rw [Array.toList_push, List.countP_append]
    rfl
  · rfl

theorem turned_place (s : Session Rat) (sheetToo : Bool) : (s.turned sheetToo).place =
    s.place.moved (s.document.cursor.turned s.document.geometry sheetToo)
      (s.pageEnd sheetToo ++ (s.pageEnded sheetToo).pageStart) := by
  have hentered : (s.turned sheetToo).columnsEntered = s.columnsEntered :=
    pageBegun_columnsEntered (s.pageEnded sheetToo)
  have hdrawn : (s.turned sheetToo).device.received.toList = s.device.received.toList ++
      (s.pageEnd sheetToo ++ (s.pageEnded sheetToo).pageStart) := by
    rw [turned, pageBegun, moved_received, pageEnded, moved_received, List.append_assoc]
  unfold place
  rw [hentered, hdrawn]
  rfl

theorem turned_deed (s : Session Rat) (sheetToo : Bool) :
    Deed s.place (s.turned sheetToo).place := by
  rw [turned_place]
  exact .turn (turning s sheetToo)

theorem turned_ready (h : s.Ready) (sheetToo : Bool) : (s.turned sheetToo).Ready :=
  ⟨h.onPage.turned sheetToo, h.legible⟩

theorem turnPage_works (sheetToo : Bool) : Works (turnPage sheetToo) :=
  works_of_deeds fun s hs => ⟨turnPage_eq hs.onPage.unlimited hs.onPage.isOpen sheetToo,
    turned_ready hs sheetToo, .single (turned_deed s sheetToo)⟩

theorem broken_ready (h : s.Ready) : s.broken.Ready := by
  refine ⟨h.onPage.broken, ?_⟩
  unfold Session.broken
  split <;> exact h.legible

theorem broken_deed (s : Session Rat) : Deed s.place s.broken.place := by
  unfold Session.broken
  split
  · exact turned_deed s false
  · have hentered : Session.place (s.moved (s.document.cursor.nextColumn s.document.geometry) []
        (s.log.push (.column (s.document.cursor.column + 1)))) =
        { s.place with
          cursor := s.place.cursor.nextColumn s.place.geometry
          entered := s.place.entered + 1 } := by
      simp [place, columnsEntered, List.countP_append, LogEntry.isColumn]
    rw [hentered]
    exact .enter

theorem breakColumn_works : Works breakColumn :=
  works_of_deeds fun s hs => ⟨breakColumn_broken hs.onPage.unlimited hs.onPage.isOpen,
    broken_ready hs, .single (broken_deed s)⟩

theorem advanced_ready (h : s.Ready) (amount : Rat) : (s.advanced amount).Ready := by
  have hdown : (s.moved (s.document.cursor.down amount) [] s.log).Ready :=
    h.moved (c := s.document.cursor.down amount) rfl _ _
  unfold Session.advanced
  split
  · exact broken_ready hdown
  · exact hdown

theorem advanced_deeds {amount : Rat} {p : Place}
    (h : Deed p (s.place.moved (s.document.cursor.down amount) [])) :
    Deeds p (s.advanced amount).place := by
  rw [← place_moved] at h
  unfold Session.advanced
  split
  · exact .tail (.single h) (broken_deed _)
  · exact .single h

theorem broken_isOn (s : Session Rat) :
    s.broken.document.cursor.chorus.IsOn ↔ s.document.cursor.chorus.IsOn := by
  unfold Session.broken
  split
  · rw [turned_cursor, (s.document.cursor.turned_turnsTo s.document.geometry false).chorus]
    exact Chorus.isOn_atTop _ _
  · exact .rfl

theorem advanced_isOn (s : Session Rat) (amount : Rat) :
    (s.advanced amount).document.cursor.chorus.IsOn ↔ s.document.cursor.chorus.IsOn := by
  unfold Session.advanced
  split
  · exact broken_isOn _
  · exact .rfl

/-- Wherever the way down has led, a row may stand there. -/
theorem advanced_isRowPlace (s : Session Rat) (amount : Rat) :
    (s.advanced amount).place.IsRowPlace := by
  unfold Session.advanced Place.IsRowPlace
  split
  · unfold Session.broken
    split
    · exact .inr (.inr rfl)
    · exact .inr (.inl rfl)
  · rename_i hlow
    exact .inl (not_lt.1 hlow)

/-- The way down leads to a place for a row. -/
theorem advance_leads {p : Place} (hs : s.Ready) (hdeeds : Deeds p s.place) {amount : Rat}
    (h : 0 ≤ amount) : Ends (advance amount) s (fun _ => False) fun _ t =>
      t.Ready ∧ Deeds p t.place ∧ t.place.IsRowPlace :=
  .of_ok (advance_advanced hs.onPage.unlimited hs.onPage.isOpen amount)
    ⟨advanced_ready hs amount, hdeeds.trans (advanced_deeds (.down h)),
      advanced_isRowPlace s amount⟩

theorem paid_ready (hs : s.Ready) : s.paid.Ready := by
  have hpaid : (s.moved { s.document.cursor with blankSpace := 0 } [] s.log).Ready :=
    hs.moved (c := { s.document.cursor with blankSpace := 0 }) rfl _ _
  unfold Session.paid
  split
  · exact hpaid
  · exact advanced_ready hpaid _

theorem paid_deeds (s : Session Rat) : Deeds s.place s.paid.place := by
  have hpay : Deed s.place (s.place.moved { s.document.cursor.down s.document.cursor.blankSpace
      with blankSpace := 0 } []) := .pay
  unfold Session.paid
  split
  · rename_i hzero
    have hzero : s.document.cursor.blankSpace = 0 := eq_of_beq hzero
    -- where nothing is owed, paying it is a deed all the same
    have hstill : s.document.cursor.down s.document.cursor.blankSpace = s.document.cursor := by
      rw [hzero, Cursor.down, sub_zero]
    rw [hstill] at hpay
    rw [place_moved]
    exact .single hpay
  · exact advanced_deeds (s := s.moved { s.document.cursor with blankSpace := 0 } [] s.log) hpay

theorem paid_isOn (s : Session Rat) :
    s.paid.document.cursor.chorus.IsOn ↔ s.document.cursor.chorus.IsOn := by
  unfold Session.paid
  split
  · exact .rfl
  · exact advanced_isOn _ _

theorem payBlankSpace_works : Works payBlankSpace :=
  works_of_deeds fun s hs => ⟨payBlankSpace_paid hs.onPage.unlimited hs.onPage.isOpen,
    paid_ready hs, paid_deeds s⟩

/-! ## Diagrams -/

theorem cellHeight_nonneg {gridSize : Rat} {font : Font} (hgrid : 0 ≤ gridSize)
    (hfont : 2 ≤ font.size) : 0 ≤ cellHeight gridSize font := by
  have hsize : (2 : Rat) ≤ (font.size : Rat) := by exact_mod_cast hfont
  have hheight : cellHeight gridSize font = gridSize * 1.5 + font.size + 4 := rfl
  rw [hheight]
  have : 0 ≤ gridSize * 1.5 := mul_nonneg hgrid (by norm_num)
  linarith

theorem ensureRoom_works (height : Rat) : Works (ensureRoom height) :=
  .read fun _ _ _ => .ite (turnPage_works false) (.pure _)

theorem layOutDiagram_works {font : Font} {gridSize : Rat} (hgrid : 0 ≤ gridSize)
    (hfont : 2 ≤ font.size) (h : Rat) (chord : ChordDefinition) :
    Works (layOutDiagram font gridSize h chord) := by
  have hrest : ∀ h : Rat, Works (do
      moveTo h (← document).cursor.vertical
      draw (.diagram chord chord.label? font gridSize)
      return h + cellWidth gridSize) := fun h =>
    .read fun _ _ _ => .bind (moveTo_works _ _) fun _ =>
      .bind (draw_works rfl trivial rfl) fun _ => .pure _
  exact .read fun _ _ _ => .ite
    (.bind (down_works (cellHeight_nonneg hgrid hfont)) fun _ =>
      .bind (ensureRoom_works _) fun _ => .bind (.pure _) hrest)
    (.bind (.pure _) hrest)

theorem layOutDiagrams_works (chords : List ChordDefinition) : Works (layOutDiagrams chords) := by
  refine .ite (.pure _) (.read fun _ s hs => .read fun _ t ht => ?_)
  have hgrid := hs.1.legible.gridSize_nonneg
  have hfont := ht.1.legible.two_le .chord
  exact .bind payBlankSpace_works fun _ => .read fun _ _ _ => .bind (ensureRoom_works _) fun _ =>
    .bind (.foldlM _ (fun _ _ => layOutDiagram_works hgrid hfont _ _) _) fun _ =>
      down_works (cellHeight_nonneg hgrid hfont)

theorem songDiagrams_works : Works songDiagrams := .read fun _ _ _ => layOutDiagrams_works _

theorem lower_le_left (a b : Rat) : Length.lower a b ≤ a := by
  unfold Length.lower
  split
  · exact le_rfl
  · split
    · exact (not_le.1 ‹¬ a ≤ b›).le
    · exact le_rfl

theorem belowColumns_works : Works (modifyCursor Cursor.belowColumns) := by
  refine cursor_works (fun _ => rfl) fun s _ => ?_
  have hlower : Length.lower s.document.cursor.vertical s.document.cursor.lowest =
      s.document.cursor.vertical - (s.document.cursor.vertical -
        Length.lower s.document.cursor.vertical s.document.cursor.lowest) := by ring
  have hbelow : s.document.cursor.belowColumns = s.document.cursor.down
      (s.document.cursor.vertical -
        Length.lower s.document.cursor.vertical s.document.cursor.lowest) := by
    rw [Cursor.belowColumns, Cursor.down, ← hlower]
  rw [hbelow]
  exact .down (sub_nonneg.2 (lower_le_left _ _))

/-! ## Rows -/

/-- From a session that is ready, `x` ends in one of the outcomes of orders. -/
def Turns (headings : Bool) (x : Typeset Rat Unit) (s : Session Rat) : Prop :=
  Ends x s (fun _ => False) fun _ t => Outcome headings s.place t.place

variable {headings : Bool}

/-- `x` leaves the place as it is. -/
abbrev Stays (x : Typeset Rat α) : Prop :=
  Keeps (fun p (s : Session Rat) => s.place = p) (fun _ => False) x

theorem Stays.turns {x : Typeset Rat Unit} (h : Stays x) (s : Session Rat) :
    Turns headings x s :=
  (h _ s rfl).mono fun _ t ht => by
    rw [ht]
    exact .deeds .refl

theorem Works.turns {x : Typeset Rat Unit} (h : Works x) (hs : s.Ready) :
    Turns headings x s :=
  (h.ends hs).mono fun _ _ ht => .deeds ht.2

theorem Turns.bind {x : Typeset Rat Unit} {f : Unit → Typeset Rat Unit} (hx : Turns headings x s)
    (hf : Stays (f ())) : Turns headings (x >>= f) s :=
  Ends.bind hx fun _ t ht => (hf _ t rfl).mono fun _ u hu => by
    rw [hu]
    exact ht

theorem change_stays {f : Session Rat → Session Rat} (h : ∀ s, (f s).place = s.place) :
    Stays (modify f : Typeset Rat Unit) := fun _ s hs => (h s).trans hs

theorem note_place {e : LogEntry Rat} (he : e.isColumn = false) (s : Session Rat) :
    (s.note e).place = s.place := by
  simp [place, columnsEntered, Session.note, List.countP_append, he]

theorem note_stays {e : LogEntry Rat} (he : e.isColumn = false) : Stays (note e) :=
  change_stays (note_place he)

theorem report_stays (p : Problem) : Stays (report p : Typeset Rat Unit) :=
  change_stays fun s => note_place rfl s

theorem modifyModes_stays (f : Modes → Modes) : Stays (modifyModes f : Typeset Rat Unit) :=
  change_stays fun _ => rfl

theorem modifyStyles_stays (f : StyleSheet → StyleSheet) :
    Stays (modifyStyles f : Typeset Rat Unit) :=
  change_stays fun _ => rfl

theorem drawnRow_place (s : Session Rat) (rowSize : Rat) (row : Drawing Rat) : ∃ h,
    (drawnRow s rowSize row).place = s.place.moved (s.document.cursor.openChorus rowSize)
      [.moveTo ⟨h, s.document.cursor.vertical⟩, row] := by
  let t := s.moved (s.document.cursor.openChorus rowSize) [] s.log
  have hv : (lineOrigin t.document).2 = s.document.cursor.vertical :=
    s.document.cursor.openChorus_vertical rowSize
  refine ⟨(lineOrigin t.document).1, ?_⟩
  rw [← place_moved, ← hv]
  exact congrArg place (moved_moved ..)

theorem two_le_size {font : Font} (h : 2 ≤ font.size) : (2 : Rat) ≤ size font := by
  show (2 : Rat) ≤ (font.size : Rat)
  exact_mod_cast h

/-- The lyrics are printed where the way down has led, and it has led on with the chorus. -/
theorem lyricsRow_prints (hs : s.Ready) {line : Line} (hline : line.isBlank = false)
    (slot : FontSlot) {font : Font} (hfont : 2 ≤ font.size) :
    Ends (lyricsRow line slot font) s (fun _ => False) fun _ t => ∃ q h,
      Deeds s.place q ∧ q.IsRowPlace ∧ (q.cursor.chorus.IsOn ↔ s.document.cursor.chorus.IsOn) ∧
      t.place = q.moved (q.cursor.openChorus (size font))
        [.moveTo ⟨h, q.cursor.vertical⟩, .text line.text slot font .left .plain] := by
  have hpaid := paid_ready hs
  have hrow := advanced_ready hpaid (size font - 1)
  have hsize := two_le_size hfont
  obtain ⟨h, hplace⟩ := drawnRow_place (s.paid.advanced (size font - 1)) (size font)
    (.text line.text slot font .left .plain)
  show Ends (if line.isBlank then _ else _ : Typeset Rat Unit) s _ _
  rw [hline, if_neg Bool.false_ne_true]
  refine .bind_ok (payBlankSpace_paid hs.onPage.unlimited hs.onPage.isOpen)
    (.bind_ok (advance_advanced hpaid.onPage.unlimited hpaid.onPage.isOpen _)
      (.of_ok (row_eq hrow.onPage.unlimited _ _)
        ⟨_, h, ?_, advanced_isRowPlace s.paid _, ?_, hplace⟩))
  · exact (paid_deeds s).trans (advanced_deeds (.down (by linarith)))
  · exact (advanced_isOn _ _).trans (paid_isOn s)

theorem lyricsRow_turns (hs : s.Ready) (line : Line) (slot : FontSlot) {font : Font}
    (hfont : 2 ≤ font.size) : Turns headings (lyricsRow line slot font) s := by
  have hsize := two_le_size hfont
  by_cases hline : line.isBlank
  · have howe : Works (modifyCursor fun c : Cursor Rat =>
        { c with blankSpace := c.blankSpace + (size font - 2) }) :=
      cursor_works (fun _ => rfl) fun _ _ => .owe (by linarith)
    have hblank : lyricsRow line slot font = modifyCursor fun c : Cursor Rat =>
        { c with blankSpace := c.blankSpace + (size font - 2) } := if_pos hline
    unfold Turns
    rw [hblank]
    exact (howe.ends hs).mono fun _ _ ht => .deeds ht.2
  · refine (lyricsRow_prints hs (Bool.eq_false_iff.2 hline) slot hfont).mono ?_
    rintro _ t ⟨q, h, hdeeds, hq, -, ht⟩
    rw [ht]
    exact .row hdeeds hq (.inr ⟨_, by linarith, rfl⟩) (.inr ⟨h, _, rfl, rfl⟩)

theorem chords_outcome {p : Place} (hs : s.Ready) (hdeeds : Deeds p s.place)
    (hplace : s.place.IsRowPlace) (line : Line) (textFont : Font) {chordFont : Font}
    (hchord : 2 ≤ chordFont.size) : Ends (do
      openChorus (size chordFont)
      if !(← get).settings.lyricsOnly && line.hasChords then
        moveToLine
        draw (.chords line textFont chordFont)) s (fun _ => False)
      fun _ t => Outcome headings p t.place := by
  have hsize := two_le_size hchord
  have hcursor : s.document.cursor.openChorus (size chordFont) = s.document.cursor ∨
      ∃ rowSize : Rat, 0 ≤ rowSize ∧ s.document.cursor.openChorus (size chordFont) =
        s.document.cursor.openChorus rowSize := .inr ⟨_, by linarith, rfl⟩
  refine .bind_ok (modifyCursor_eq _ s) (.bind_ok rfl ?_)
  rw [moved_settings]
  by_cases hshown : (!s.settings.lyricsOnly && line.hasChords) = true
  · have heq := row_eq hs.onPage.unlimited (size chordFont) (.chords line textFont chordFont)
    rw [openChorus, bind_of_ok (modifyCursor_eq _ _)] at heq
    obtain ⟨h, hdrawn⟩ := drawnRow_place s (size chordFont) (.chords line textFont chordFont)
    rw [if_pos hshown]
    refine .of_ok heq ?_
    rw [hdrawn]
    exact .row hdeeds hplace hcursor (.inr ⟨h, _, rfl, rfl⟩)
  · rw [if_neg hshown]
    refine .of_ok rfl ?_
    rw [place_moved]
    exact .row hdeeds hplace hcursor (.inl rfl)

theorem chordRow_turns (hs : s.Ready) (line : Line) {textFont chordFont : Font}
    (htext : 2 ≤ textFont.size) (hchord : 2 ≤ chordFont.size) :
    Turns headings (chordRow line textFont chordFont) s := by
  have htextSize := two_le_size htext
  have hchordSize := two_le_size hchord
  refine (payBlankSpace_works.ends hs).bind ?_
  rintro _ m ⟨hm, hpaid⟩
  refine (advance_leads hm hpaid (by linarith)).bind fun _ v hv => .bind_ok rfl ?_
  refine .optional (P := fun w => w.Ready ∧ Deeds s.place w.place ∧ w.place.IsRowPlace)
    (fun _ => advance_leads hv.1 hv.2.1 (by linarith)) (fun _ => hv) ?_
  rintro w ⟨hw, hdeeds, hplace⟩
  exact chords_outcome hw hdeeds hplace line textFont hchord

theorem comment_turns (hs : s.Ready) (style : CommentStyle) (text : String) :
    Turns headings (comment style text) s := by
  show Ends (if text.isEmpty then _ else _ : Typeset Rat Unit) s _ _
  split
  · exact (report_stays _).turns s
  · refine (payBlankSpace_works.ends hs).bind ?_
    rintro _ m ⟨hm, hpaid⟩
    obtain ⟨slot, decoration⟩ := commentLook style
    have hsize := two_le_size (hm.legible.two_le slot)
    refine .bind_ok rfl ((advance_leads hm hpaid (by linarith)).bind ?_)
    rintro _ v ⟨hv, hdeeds, hplace⟩
    refine .bind_ok rfl (.bind_ok (draw_eq hv.onPage.unlimited _) (.of_ok
      (draw_eq (s := v.drawn _) hv.onPage.unlimited _) ?_))
    rw [drawn_drawn, drawn, place_moved]
    exact .row hdeeds hplace (.inl rfl) (.inr ⟨_, _, rfl, rfl⟩)

theorem centred_turns (hs : s.Ready) (text : String) {font : Font} (hfont : 2 ≤ font.size) :
    Turns true (centred text font) s := by
  have hsize := two_le_size hfont
  refine .of_ok (centred_eq hs.onPage.unlimited text font) ?_
  rw [place_moved]
  exact .heading rfl (by linarith) rfl

/-! ## Orders -/

theorem resize_stays (k : Keyword) (slot : FontSlot) (size : SizeArgument) :
    Stays (resize k slot size : Typeset Rat Unit) := by
  refine .read fun _ s _ => ?_
  cases size with
  | absolute points => exact modifyStyles_stays _
  | relative delta =>
    refine .ite (report_stays _) ?_
    split
    · exact modifyStyles_stays _
    · exact report_stays _

theorem define_stays (args : String) (order : FretOrder) :
    Stays (define args order : Typeset Rat Unit) := by
  refine .read fun _ s _ => ?_
  split
  · exact report_stays _
  · refine .read fun _ s _ => .bind (change_stays fun _ => rfl) fun _ => ?_
    split
    · exact note_stays rfl
    · exact .optional _ report_stays

theorem indexTitled_stays (text : String) : Stays (indexTitled text : Typeset Rat Unit) :=
  .read fun _ _ _ => .ite (change_stays fun _ => rfl) (.pure _)

theorem indexSubtitled_stays (text : String) : Stays (indexSubtitled text : Typeset Rat Unit) :=
  .read fun _ _ _ => .ite (change_stays fun _ => rfl) (.pure _)

theorem endOfChorus_turns (hs : s.Ready) : Turns headings endOfChorus s := by
  have hstop :
      Deed s.place (s.moved { s.document.cursor with chorus := .off } s.bar s.log).place := by
    rw [place_moved, ← place_bar]
    exact .stop
  unfold Turns endOfChorus
  rw [document_bind]
  refine .bind_ok rfl ?_
  split
  · exact (report_stays _).turns s
  · rename_i hpending
    refine .of_ok (modifyCursor_eq _ s) (.deeds ?_)
    rw [bar, hpending] at hstop
    exact .single hstop
  · rename_i top hrunning
    refine .bind_ok ((draws_chorusBar hrunning).eq_ok hs.onPage.unlimited)
      (.of_ok (modifyCursor_eq _ _) (.deeds ?_))
    rw [moved_moved, List.append_nil]
    exact .single hstop

/-- A song ends with its diagrams, if it has them, and its page. -/
theorem endSong_works (hs : s.Ready) : Ends endSong s (fun _ => False) fun _ t =>
    ∃ u : Session Rat, u.Ready ∧ Deeds s.place u.place ∧ t = u.pageEnded false := by
  have hpage : ∀ u : Session Rat, u.Ready ∧ Deeds s.place u.place →
      Ends (endPage false) u (fun _ => False) fun _ t =>
        ∃ u : Session Rat, u.Ready ∧ Deeds s.place u.place ∧ t = u.pageEnded false := fun u hu =>
    .of_ok (endPage_eq hu.1.onPage.unlimited hu.1.onPage.isOpen false) ⟨u, hu.1, hu.2, rfl⟩
  have hdiagrams : Works (modifyCursor Cursor.belowColumns >>= fun _ => songDiagrams) :=
    .bind belowColumns_works fun _ => songDiagrams_works
  show Ends (if !s.settings.lyricsOnly && s.document.modes.grids.current then
    modifyCursor Cursor.belowColumns >>= fun _ => songDiagrams >>= fun _ => endPage false
    else endPage false) s _ _
  split
  · exact (hdiagrams.ends hs).bind fun _ u hu => hpage u hu
  · exact hpage s ⟨hs, .refl⟩

/-- The last page of a song is followed by the first page of the next one. -/
theorem newSong_turns (hs : s.Ready) : Turns headings newSong s := by
  refine (endSong_works hs).bind ?_
  rintro _ _ ⟨u, hu, hdeeds, rfl⟩
  let t := afterSong (u.pageEnded false)
  have hstart : startPage t = .ok () t.pageBegun := startPage_eq hu.onPage.unlimited
  have hplace : (endState (modifyDocument resetDocument) t.pageBegun).place =
      u.place.moved (u.document.cursor.songBegun u.document.geometry)
        (u.pageEnd false ++ (u.pageEnded false).pageStart) := by
    have hentered : t.pageBegun.columnsEntered = u.columnsEntered := pageBegun_columnsEntered t
    have hdrawn : t.pageBegun.device.received.toList = u.device.received.toList ++
        (u.pageEnd false ++ (u.pageEnded false).pageStart) := by
      have hreceived : t.device.received.toList = u.device.received.toList ++ u.pageEnd false :=
        u.moved_received (u.document.cursor.left u.document.geometry false) (u.pageEnd false) u.log
      rw [pageBegun, moved_received, hreceived, List.append_assoc]
      rfl
    show Place.mk _ _ t.pageBegun.device.received.toList t.pageBegun.columnsEntered = _
    rw [hentered, hdrawn]
    rfl
  refine .bind_ok rfl (.bind_ok rfl (.bind_ok hstart (.of_ok rfl (.deeds (hdeeds.tail ?_)))))
  exact hplace ▸ .nextSong (turning u false)

theorem setColumns_turns (count : Nat) (s : Session Rat) : Turns headings (setColumns count) s := by
  have hset : setColumns count s =
      .ok () (s.moved (s.document.cursor.setColumns count s.document.geometry) [] s.log) :=
    modifyCursor_eq (·.setColumns count s.document.geometry) s
  refine .of_ok hset ?_
  rw [place_moved]
  exact .columns count

theorem twoColumn_turns (on : Bool) (s : Session Rat) : Turns headings (twoColumn on) s := by
  unfold Turns twoColumn
  rw [document_bind]
  refine .bind_ok rfl ?_
  split
  · exact (report_stays _).turns s
  · exact (report_stays _).turns s
  · exact setColumns_turns 2 s
  · exact setColumns_turns 1 s

theorem conditionalBreak_turns (hs : s.Ready) (lines : Nat) :
    Turns headings (conditionalBreak lines) s := by
  have hnote : ∀ needed : Rat, Works (note (.roomNeeded needed)) := fun needed =>
    works_of_deeds fun s hs => ⟨rfl, hs.noted _, by rw [note_place rfl]⟩
  exact Works.turns (.read fun _ _ _ => .bind (hnote _) fun _ =>
    .ite breakColumn_works (.pure _)) hs

theorem title_turns (hs : s.Ready) (text : String) : Turns true (title text) s :=
  Turns.bind (centred_turns hs text hs.legible.two_le_titleFont) (modifyModes_stays _)

theorem startOfBlock_turns (hs : s.Ready) (label : String) :
    Turns headings (startOfBlock label) s := by
  show Ends (if s.document.modes.inBlock then _ else _ : Typeset Rat Unit) s _ _
  split
  · exact (report_stays _).turns s
  · exact (comment_turns hs .shaded label).bind (modifyModes_stays _)

/-- A directive that belongs into songs ends in one of the outcomes of orders. -/
theorem apply_turns (hs : s.Ready) (k : Keyword) {d : Directive Rat} (hd : d.setsPaper = false) :
    Turns d.isHeading (apply k d) s := by
  unfold Turns apply
  refine .bind_ok rfl ?_
  cases d with
  | startOfChorus =>
    refine .of_ok (modifyCursor_eq _ s) ?_
    rw [place_moved]
    exact .pending
  | endOfChorus => exact endOfChorus_turns hs
  | font slot family => exact (modifyStyles_stays _).turns s
  | size slot size => exact (resize_stays k slot size).turns s
  | comment style text => exact comment_turns hs style text
  | newSong => exact newSong_turns hs
  | title text => exact (title_turns hs text).bind (indexTitled_stays text)
  | subtitle text =>
    exact (centred_turns hs text (hs.legible.two_le .text)).bind (indexSubtitled_stays text)
  | define args => exact (define_stays args _).turns s
  | chord args => exact (define_stays args _).turns s
  | grid on => exact (modifyModes_stays _).turns s
  | newPage => exact (turnPage_works false).turns hs
  | newPhysicalPage => exact (turnPage_works true).turns hs
  | startOfTab =>
    exact Stays.turns (.read fun _ _ _ => .ite (report_stays _) (modifyModes_stays _)) s
  | endOfTab =>
    exact Stays.turns (.read fun _ _ _ => .ite (modifyModes_stays _) (report_stays _)) s
  | columnBreak => exact breakColumn_works.turns hs
  | columns count => exact setColumns_turns count s
  | twoColumn on => exact twoColumn_turns on s
  | oldDefine => exact (modifyModes_stays _).turns s
  | newDefine => exact (modifyModes_stays _).turns s
  | startOfBlock label => exact startOfBlock_turns hs label
  | endOfBlock =>
    exact Stays.turns (.read fun _ _ _ => .ite (modifyModes_stays _) (report_stays _)) s
  | bridge keyword => exact (report_stays _).turns s
  | indent keyword => exact (report_stays _).turns s
  | autoSpace on => exact Stays.turns (.read fun _ _ _ => modifyModes_stays _) s
  | paperType name => cases hd
  | formSpec spec => cases hd
  | conditionalBreak lines => exact conditionalBreak_turns hs lines
  | setIndent points => exact (modifyModes_stays _).turns s
  | extensions on =>
    exact Stays.turns (.read fun _ _ _ => .ite (.bind (report_stays _) fun _ => modifyModes_stays _)
      (modifyModes_stays _)) s
  | version version =>
    exact Stays.turns (.bind (note_stays rfl) fun _ => modifyModes_stays _) s

theorem perform_turns (hs : s.Ready) (k : Keyword) (args : String) :
    Turns k.isHeading (perform k args) s := by
  refine perform_ends k args (fun p => (report_stays p).turns s) fun d hread hd => ?_
  rw [← Directive.isHeading_of_read hread]
  refine apply_turns hs k ?_
  unfold Admits at hd
  rwa [hs.onPage.inSong] at hd

theorem dispatch_turns (hs : s.Ready) {text : String} (h : Keyword.splitText? text ≠ none) :
    Turns (isHeadingText text) (dispatch text) s := by
  cases hsplit : Keyword.splitText? text with
  | none => exact absurd hsplit h
  | some parts =>
    obtain ⟨name, args⟩ := parts
    unfold Turns isHeadingText
    rw [hsplit]
    refine dispatch_ends hsplit (fun hname => ?_) fun k hname => ⟨?_, fun notice => ?_⟩
    · simp only [hname]
      exact (report_stays _).turns s
    · simp only [hname]
      exact perform_turns hs k args
    · have hplace : (s.report (.notice notice)).place = s.place := note_place rfl s
      simp only [hname]
      rw [← hplace]
      exact perform_turns (hs.noted _) k args

theorem resolveChord_place (name : String) (s : Session Rat) :
    (resolveChord name s).2.place = s.place := by
  have huse : ∀ name (s : Session Rat), (useChord name s).place = s.place := by
    intro name s
    by_cases hnone : (s.document.chords.get? name).isNone
    · simp only [useChord, if_pos hnone]
      exact note_place rfl s
    · simp only [useChord, if_neg hnone]
      rfl
  have hshown : (shownChord name s).2.place = s.place := by
    unfold shownChord
    cases ChordName.read? name with
    | some n => rfl
    | none => exact note_place rfl s
  unfold resolveChord
  split
  · rfl
  · exact (huse _ _).trans hshown

theorem song_turns (hs : s.Ready) (hstarted : s.started = true) (name : String) :
    Turns headings (songWith name (pure ())) s := by
  have hrest : Stays (do
      modify fun s : Session Rat => { s with songs := s.songs + 1 }
      note (.typesetting name)
      modify fun s : Session Rat => { s with file := name, line := 0 }
      pure ()) :=
    .bind (change_stays fun _ => rfl) fun _ => .bind (note_stays rfl) fun _ =>
      .bind (change_stays fun _ => rfl) fun _ => .pure _
  refine .bind_ok (begin_of_started hstarted) ?_
  show Ends (if 0 < s.songs then _ else _) s _ _
  split
  · exact (newSong_turns hs).bind hrest
  · exact hrest.turns s

/-- Whatever the order, and be it broken off by half a character, it ends in one of the outcomes. -/
theorem follow_outcome {settings : Settings Rat} (hs : s.InSong settings) (hlegible : s.Legible)
    (o : Order) : Outcome o.isHeading s.place (s.followed o).place := by
  have hready : s.Ready := ⟨hs.onPage, hlegible⟩
  have hline : ∀ n, (atLine n s).Ready := fun n =>
    ⟨⟨hs.onPage.unlimited, hs.onPage.isOpen, hs.onPage.inSong⟩, hlegible⟩
  have hturns : ∀ {headings} {x : Typeset Rat Unit}, Turns headings x s →
      Outcome headings s.place (endState x s).place := by
    intro headings x hx
    obtain ⟨_, t, hok, ht⟩ := hx.exists_ok
    rwa [endState_of_ok hok]
  cases o with
  | song name => exact hturns (song_turns hready hs.started name)
  | chord n name =>
    show Outcome false s.place
      (if s.startup then (name, atLine n s) else resolveChord name (atLine n s)).2.place
    rw [hs.onPage.inSong, if_neg Bool.false_ne_true, resolveChord_place]
    exact .deeds .refl
  | directive n text =>
    by_cases hsplit : Keyword.splitText? text = none
    · rw [followed_of_broken n hsplit]
      exact .deeds .refl
    · exact hturns (Ends.bind_ok rfl (dispatch_turns (hline n) hsplit))
  | problem n p =>
    have hplace : (s.followed (.problem n p)).place = s.place := note_place rfl (atLine n s)
    rw [hplace]
    exact .deeds .refl
  | chords n content =>
    refine hturns (Ends.bind_ok rfl (.bind_ok rfl ?_))
    split
    · exact chordRow_turns (hline n) content (hlegible.two_le _) (hlegible.two_le _)
    · exact .deeds .refl
  | lyrics content =>
    refine hturns (Ends.bind_ok rfl ?_)
    split
    · exact lyricsRow_turns hready content _ (hlegible.two_le _)
    · exact .deeds .refl

/-- A song ends with its diagrams and its page. -/
theorem songDone_eq (hs : s.Ready) :
    ∃ u : Session Rat, u.Ready ∧ Deeds s.place u.place ∧ s.songDone = u.pageEnded false := by
  obtain ⟨_, t, hok, hu⟩ := (endSong_works hs).exists_ok
  rwa [songDone, endState_of_ok hok]

/-- The first page begins at its top, and nothing is owed. -/
theorem begun_cursor {settings : Settings Rat} (h : s.IsBegun settings) :
    s.document.cursor.vertical = s.document.geometry.top ∧
      s.document.cursor.columnTop = s.document.geometry.top ∧
      s.document.cursor.blankSpace = 0 := by
  obtain ⟨s, log, hs, rfl⟩ := h
  have hturns := (s.document.cursor.resetColumns s.document.geometry).begun_turnsTo
    s.document.geometry
  have hcursor : s.document.cursor.columnTop = s.document.geometry.top ∧
      s.document.cursor.blankSpace = 0 := by
    rw [hs.cursor]
    exact ⟨rfl, rfl⟩
  exact ⟨hturns.vertical, hturns.columnTop.elim (fun h => h.trans hcursor.1) id,
    hturns.blankSpace.trans hcursor.2⟩

theorem begun_tidy {settings : Settings Rat} (h : s.IsBegun settings) : s.place.Tidy := by
  obtain ⟨hvertical, htop, hspace⟩ := begun_cursor h
  exact ⟨hvertical.le, htop.le, hspace.ge⟩

/-- All through a run the place is tidy. -/
theorem moments_tidy {settings : Settings Rat} {first : Session Rat} {os : List Order}
    (hbegun : first.IsBegun settings) (hlegible : ∀ m ∈ first.moments os, m.Legible) :
    ∀ m ∈ first.moments os, m.InSong settings ∧ m.place.Tidy := by
  refine moments_keep (I := fun m => m.InSong settings ∧ m.place.Tidy)
    ⟨⟨first, hbegun, .refl⟩, begun_tidy hbegun⟩ ?_
  rintro m hm o ⟨hsong, htidy⟩
  exact ⟨followed_inSong hsong o, (follow_outcome hsong (hlegible m hm) o).tidy htidy⟩

end Typeset

end Songbook
