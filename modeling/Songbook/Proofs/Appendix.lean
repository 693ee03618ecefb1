import Songbook.Proofs.ColumnRoom
import Songbook.Proofs.Descent
import Songbook.Proofs.DiagramCells

/-!
# Diagrams below a song

Before its diagrams a song goes down to the lowest place of all its columns. Only then it pays the
room that is owed, and where there is no room for that it goes to the top of the next column
(`diagramsBegun_cases`). The diagrams that come to hang on the page of the song hang there or below
(`Rows.first`). So they cover rows of the page just if the column is broken at the last moment and a
row stands lower than the first diagram (`appendix_covers_iff`).
-/

namespace Songbook

variable {s t : Session Rat}

namespace Rows

variable {g : PageGeometry Rat} {width height : Rat} {page : Nat} {h v : Rat} {as : List Hanging}

/-- How far the first row is below the place where the rows begin. -/
def drop (g : PageGeometry Rat) (width height h : Rat) : Rat :=
  if g.width < h + width then height else 0

theorem le_page (has : Rows g width height page h v as) : ∀ a ∈ as, page ≤ a.page := by
  induction has with
  | nil => simp
  | beside _ _ ih => exact List.forall_mem_cons.2 ⟨le_rfl, ih⟩
  | lower _ _ _ ih => exact List.forall_mem_cons.2 ⟨le_rfl, ih⟩
  | later _ _ hpage _ ih =>
    exact List.forall_mem_cons.2 ⟨hpage.le, fun a ha => hpage.le.trans (ih a ha)⟩

theorem le_of_page (has : Rows g width height page h v as) (hwidth : 0 ≤ width)
    (hheight : 0 ≤ height) : ∀ a ∈ as, a.page = page → a.point.v ≤ v := by
  intro a ha hpage
  rcases has.after hwidth hheight a ha with hlater | ⟨-, ⟨hv, -⟩ | hv⟩
  · omega
  · exact hv.le
  · linarith

/-- On the page where the rows begin, diagrams hang only if there is room for the first row, and
none hangs higher than that. -/
theorem first (has : Rows g width height page h v as) (hwidth : 0 ≤ width) (hheight : 0 ≤ height)
    (hroom : g.bottom ≤ v - height) :
    (∀ a ∈ as, a.page = page → g.bottom ≤ v - drop g width height h - height ∧
      a.point.v ≤ v - drop g width height h) ∧
    (as ≠ [] → g.bottom ≤ v - drop g width height h - height →
      ∃ a ∈ as, a.page = page ∧ a.point.v = v - drop g width height h) := by
  have hall := has.le_of_page hwidth hheight
  unfold drop
  cases has with
  | nil => simp
  | beside hfits has =>
    rw [if_neg (not_lt.2 hfits), sub_zero]
    exact ⟨fun a ha hpage => ⟨hroom, hall a ha hpage⟩, fun _ _ => ⟨_, List.mem_cons_self, rfl, rfl⟩⟩
  | lower hfull hroom' has =>
    rw [if_pos hfull]
    refine ⟨List.forall_mem_cons.2 ⟨fun _ => ⟨hroom', le_rfl⟩, fun a ha hpage => ⟨hroom', ?_⟩⟩,
      fun _ _ => ⟨_, List.mem_cons_self, rfl, rfl⟩⟩
    exact has.le_of_page hwidth hheight a ha hpage
  | later hfull hlow hpage has =>
    rw [if_pos hfull]
    refine ⟨List.forall_mem_cons.2 ⟨fun hsame => absurd hsame hpage.ne', fun a ha hsame => ?_⟩,
      fun _ hroom' => absurd hroom' (not_le.2 hlow)⟩
    have := has.le_page a ha
    omega

end Rows

/-! ## The end of a song -/

namespace Session

/-- There is no room left for what is owed, and there is another column. -/
def BreaksColumn (s : Session Rat) : Prop :=
  s.document.cursor.blankSpace ≠ 0 ∧ s.height < s.document.geometry.bottom ∧
    s.document.cursor.onLastColumn = false

instance (s : Session Rat) : Decidable s.BreaksColumn := inferInstanceAs (Decidable (_ ∧ _ ∧ _))

/-- Where diagrams begin if they do on this page: below the room that is owed, or at the top of the
next column. -/
def diagramsTop (s : Session Rat) : Rat :=
  if s.BreaksColumn then s.document.cursor.columnTop else s.height

/-- How far below that the first row hangs, down a row if not even one cell fits the width. -/
def rowDrop (s : Session Rat) : Rat :=
  Rows.drop s.document.geometry (Typeset.cellWidth s.settings.gridSize) s.cellRoom
    s.document.geometry.left

/-- The page has been turned, and no diagram has been drawn. -/
def LeavesPage (s t : Session Rat) : Prop :=
  ∃ es, t.device.received.toList = s.device.received.toList ++ es ∧
    (∀ d ∈ es, d.diagram? = none) ∧ 0 < pageMarks es

/-- The column is broken for what is owed, and in the next one diagrams begin higher than a row of
the page. -/
structure CoversRows (s : Session Rat) : Prop where
  breaks : s.BreaksColumn
  room : s.document.geometry.bottom ≤ s.document.cursor.columnTop - s.rowDrop - s.cellRoom
  row : ∃ point, RowOn s.device.received.toList point ∧
    point.v < s.document.cursor.columnTop - s.rowDrop

theorem coversRows_iff {s : Session Rat} : s.CoversRows ↔ s.BreaksColumn ∧
    s.document.geometry.bottom ≤ s.document.cursor.columnTop - s.rowDrop - s.cellRoom ∧
    ∃ point ∈ rowsOn s.device.received.toList,
      point.v < s.document.cursor.columnTop - s.rowDrop := by
  simp only [mem_rowsOn_iff]
  exact ⟨fun h => ⟨h.breaks, h.room, h.row⟩, fun h => ⟨h.1, h.2.1, h.2.2⟩⟩

instance (s : Session Rat) : Decidable s.CoversRows := decidable_of_iff' _ coversRows_iff

end Session

namespace Typeset

open Session

theorem roomed_cases (hs : s.OnPage) (height : Rat) :
    s.LeavesPage (s.roomed height) ∧
        s.document.cursor.vertical - height < s.document.geometry.bottom ∨
      s.roomed height = s ∧
        s.document.geometry.bottom ≤ s.document.cursor.vertical - height := by
  unfold Session.roomed
  split
  · exact .inl ⟨turned_drawsOther hs false, ‹_›⟩
  · exact .inr ⟨rfl, not_lt.1 ‹_›⟩

theorem paid_still (hs : s.OnPage) : s.LeavesPage s.paid ∧ ¬ s.BreaksColumn ∨
    s.paid.device.received.toList = s.device.received.toList ∧
      s.paid.document.cursor.vertical = s.diagramsTop := by
  have hlowered : (s.lowered 0).device.received.toList = s.device.received.toList := by
    rw [lowered, moved_received, List.append_nil]
  by_cases hroom : s.document.cursor.blankSpace = 0 ∨ s.document.geometry.bottom ≤ s.height
  · have hstays : ¬ s.BreaksColumn := fun h =>
      hroom.elim h.1 fun hroom => absurd h.2.1 (not_lt.2 hroom)
    rw [paid_of_room hroom, diagramsTop, if_neg hstays]
    exact .inr ⟨hlowered, sub_zero _⟩
  · obtain ⟨howed, hlow⟩ := not_or.1 hroom
    rw [paid_of_low howed (not_le.1 hlow)]
    have hpage : (s.lowered 0).OnPage := ⟨hs.unlimited, hs.isOpen, hs.inSong⟩
    unfold Session.broken
    by_cases hlast : s.document.cursor.onLastColumn = true
    · have hturns : (s.lowered 0).document.cursor.onLastColumn = true := hlast
      rw [if_pos hturns]
      obtain ⟨es, hes, hnone, hmarks⟩ := turned_drawsOther hpage false
      exact .inl ⟨⟨es, hlowered ▸ hes, hnone, hmarks⟩, fun h => by simp [h.2.2] at hlast⟩
    · have hstays : ¬ (s.lowered 0).document.cursor.onLastColumn = true := hlast
      have hbreaks : s.BreaksColumn := ⟨howed, not_le.1 hlow, by simpa using hlast⟩
      rw [if_neg hstays, diagramsTop, if_pos hbreaks]
      refine .inr ⟨?_, rfl⟩
      rw [moved_received, List.append_nil, hlowered]

/-- Diagrams begin on the page of the song if there is room for a row, and on the next page
otherwise. -/
theorem diagramsBegun_cases (hs : s.Ready) :
    s.LeavesPage s.diagramsBegun ∧
        (s.BreaksColumn → s.document.cursor.columnTop - s.cellRoom < s.document.geometry.bottom) ∨
      s.diagramsBegun.device.received.toList = s.device.received.toList ∧
        s.diagramsBegun.document.cursor.vertical = s.diagramsTop ∧
        s.document.geometry.bottom ≤ s.diagramsTop - s.cellRoom := by
  have hpaid : s.paid.OnPage := (paid_ready hs).onPage
  have hgeometry : s.paid.document.geometry = s.document.geometry := (paid_deeds s).geometry
  unfold Session.diagramsBegun
  rcases paid_still hs.onPage with ⟨hleaves, hstays⟩ | ⟨hstill, htop⟩
  · refine .inl ⟨?_, fun h => absurd h hstays⟩
    obtain ⟨es, hes, hnone, hmarks⟩ := hleaves
    rcases roomed_cases hpaid s.cellRoom with ⟨⟨es', hes', hnone', -⟩, -⟩ | ⟨hsame, -⟩
    · refine ⟨es ++ es', by rw [hes', hes, List.append_assoc], ?_, ?_⟩
      · exact fun d hd => (List.mem_append.1 hd).elim (hnone d) (hnone' d)
      · rw [pageMarks, List.countP_append]
        exact Nat.add_pos_left hmarks _
    · rw [hsame]
      exact ⟨es, hes, hnone, hmarks⟩
  · rcases roomed_cases hpaid s.cellRoom with ⟨⟨es, hes, hnone, hmarks⟩, hlow⟩ | ⟨hsame, hroom⟩
    · rw [htop, hgeometry, diagramsTop] at hlow
      refine .inl ⟨⟨es, hstill ▸ hes, hnone, hmarks⟩, fun hbreaks => ?_⟩
      rwa [if_pos hbreaks] at hlow
    · rw [htop, hgeometry] at hroom
      rw [hsame]
      exact .inr ⟨hstill, htop, hroom⟩

/-- The diagrams that come to hang on the page are no higher than its rows. -/
def HangBelowRows (s : Session Rat) (ds : List (Drawing Rat)) : Prop :=
  ∀ a ∈ hangings 0 none ds, a.page = 0 →
    ∀ point, RowOn s.device.received.toList point → a.point.v ≤ point.v

/-- Below all rows of the page diagrams stay below them, unless the column is broken. -/
theorem layOutDiagrams_covers_iff (hs : s.Ready) (htidy : s.place.Tidy)
    (hrows : ∀ point, RowOn s.device.received.toList point → s.document.cursor.vertical ≤ point.v)
    {chords : List ChordDefinition} (hne : chords ≠ []) :
    Ends (layOutDiagrams chords) s (fun _ => False) fun _ t => t.OnPage ∧ ∃ ds,
      t.device.received.toList = s.device.received.toList ++ ds ∧
      (HangBelowRows s ds ↔ ¬ s.CoversRows) := by
  have hgrid : 0 ≤ s.settings.gridSize := hs.legible.gridSize_nonneg
  have hwidth : 0 ≤ cellWidth s.settings.gridSize := mul_nonneg hgrid (by norm_num)
  have hheight : 0 ≤ s.cellRoom := cellHeight_nonneg hgrid (hs.legible.two_le .chord)
  have hdrop : 0 ≤ s.rowDrop := by
    unfold Session.rowDrop Rows.drop
    split
    · exact hheight
    · exact le_rfl
  refine (layOutDiagrams_hang hs hne).mono ?_
  rintro _ t ⟨ht, ds, hds, hhang⟩
  rcases diagramsBegun_cases hs with ⟨⟨es, hes, hnone, hmarks⟩, hlow⟩ | ⟨hstill, htop, hroom⟩
  · -- on later pages there is nothing to cover
    refine ⟨ht, es ++ ds, by rw [hds, hes, List.append_assoc], iff_of_true ?_ fun hcovers => ?_⟩
    · obtain ⟨point?, happend⟩ := hangings_append hnone 0 none
      intro a ha hpage
      rw [happend] at ha
      have := (hhang _ point?).1.le_page a ha
      omega
    · have := hlow hcovers.breaks
      have := hcovers.room
      linarith
  · refine ⟨ht, ds, by rw [hds, hstill], ?_⟩
    obtain ⟨has, hmap⟩ := hhang 0 none
    have hnonempty : hangings 0 none ds ≠ [] := by
      intro hnil
      rw [hnil] at hmap
      exact hne (List.map_eq_nil_iff.1 hmap.symm)
    rw [htop] at has
    obtain ⟨hbelow, hfirst⟩ := has.first hwidth hheight hroom
    constructor
    · intro hhangs hcovers
      obtain ⟨point, hrow, hhigher⟩ := hcovers.row
      have hbroken : s.diagramsTop = s.document.cursor.columnTop := if_pos hcovers.breaks
      rw [hbroken] at hfirst
      obtain ⟨a, ha, hpage, hv⟩ := hfirst hnonempty hcovers.room
      have := hhangs a ha hpage point hrow
      rw [hv] at this
      exact absurd this (not_le.2 hhigher)
    · intro hcovers a ha hpage point hrow
      obtain ⟨hroom', hv⟩ := hbelow a ha hpage
      refine hv.trans ?_
      by_cases hbreaks : s.BreaksColumn
      · rw [diagramsTop, if_pos hbreaks] at hroom' ⊢
        exact not_lt.1 fun hhigher => hcovers ⟨hbreaks, hroom', point, hrow, hhigher⟩
      · rw [diagramsTop, if_neg hbreaks, height]
        have := hrows point hrow
        have := htidy.blankSpace_nonneg
        change _ - s.rowDrop ≤ _
        have : s.place.cursor.blankSpace = s.document.cursor.blankSpace := rfl
        linarith

/-- Below all columns the cursor is as low as every row of the page. -/
theorem belowColumns_below (hrows : s.place.BelowRows) {point : Point Rat}
    (hrow : RowOn s.device.received.toList point) :
    s.belowColumns.document.cursor.vertical ≤ point.v := by
  show Length.lower s.document.cursor.vertical s.document.cursor.lowest ≤ _
  rw [lower_eq_min, min_comm]
  exact hrows point hrow

theorem belowColumns_ready (hs : s.Ready) : s.belowColumns.Ready :=
  ⟨⟨hs.onPage.unlimited, hs.onPage.isOpen, hs.onPage.inSong⟩, hs.legible⟩

theorem belowColumns_tidy (htidy : s.place.Tidy) : s.belowColumns.place.Tidy :=
  ⟨(lower_le_left _ _).trans htidy.vertical_le, htidy.columnTop_le, htidy.blankSpace_nonneg⟩

/-- A page ends without diagrams. -/
theorem endPage_hangings (hs : s.OnPage) : ∃ foot, endPage false s = .ok () (s.pageEnded false) ∧
    (s.pageEnded false).device.received.toList = s.device.received.toList ++ foot ∧
    ∀ d ∈ foot, d.diagram? = none := by
  have hend : endPage false s = .ok () (s.pageEnded false) :=
    endPage_eq hs.unlimited hs.isOpen false
  have hdrawn : (s.pageEnded false).device.received.toList =
      s.device.received.toList ++ s.pageEnd false := moved_received ..
  exact ⟨_, hend, hdrawn,
    not_diagram_of_keepsRegister (endPage_keepsRegister false) hs.unlimited hend hdrawn⟩

/-- A song that ends with diagrams covers rows of its last page with them just if its cursor, below
all columns, goes to another column for the room that is owed. -/
theorem endSong_covers_iff (hs : s.Ready) (htidy : s.place.Tidy) (hrows : s.place.BelowRows) :
    Ends endSong s (fun _ => False) fun _ t => ∃ ds,
      t.device.received.toList = s.device.received.toList ++ ds ∧
      (HangBelowRows s ds ↔ ¬ (s.closingDiagrams ≠ [] ∧ s.belowColumns.CoversRows)) := by
  have hsame : s.belowColumns.device.received.toList = s.device.received.toList := by
    rw [belowColumns, moved_received, List.append_nil]
  have hpage : ∀ u : Session Rat, u.OnPage →
      u.device.received.toList = s.device.received.toList → s.closingDiagrams = [] →
      Ends (endPage false) u (fun _ => False) fun _ t => ∃ ds,
        t.device.received.toList = s.device.received.toList ++ ds ∧
        (HangBelowRows s ds ↔ ¬ (s.closingDiagrams ≠ [] ∧ s.belowColumns.CoversRows)) := by
    intro u hu hsame hnone
    obtain ⟨foot, hend, hfoot, hdiagrams⟩ := endPage_hangings hu
    refine .of_ok hend ⟨foot, hsame ▸ hfoot, iff_of_true ?_ fun h => h.1 hnone⟩
    intro a ha
    rw [hangings_of_no_diagrams hdiagrams] at ha
    cases ha
  show Ends (if !s.settings.lyricsOnly && s.document.modes.grids.current then
    modifyCursor Cursor.belowColumns >>= fun _ => songDiagrams >>= fun _ => endPage false
    else endPage false) s _ _
  by_cases hon : (!s.settings.lyricsOnly && s.document.modes.grids.current) = true
  · let chords := s.document.chords.usedDefinitions.filter (wantsDiagram s.settings)
    have hclosing : s.closingDiagrams = chords := if_pos hon
    have hbelow := belowColumns_ready hs
    rw [if_pos hon]
    refine .bind_ok (modifyCursor_eq _ s) ?_
    show Ends (layOutDiagrams chords >>= fun _ => endPage false) s.belowColumns _ _
    rcases eq_or_ne chords [] with hnone | hne
    · rw [hnone]
      exact .bind_ok rfl (hpage _ hbelow.onPage hsame (hclosing.trans hnone))
    · refine (layOutDiagrams_covers_iff hbelow (belowColumns_tidy htidy) (fun point hrow =>
        belowColumns_below hrows (hsame ▸ hrow)) hne).bind ?_
      rintro _ t ⟨ht, ds, hds, hiff⟩
      obtain ⟨foot, hend, hfoot, hdiagrams⟩ := endPage_hangings ht
      refine .of_ok hend ⟨ds ++ foot, ?_, ?_⟩
      · rw [hfoot, hds, hsame, List.append_assoc]
      · unfold HangBelowRows at hiff ⊢
        rw [hangings_append_none hdiagrams, ← hsame, hiff, hclosing]
        simp [hne]
  · rw [if_neg hon]
    exact hpage s hs.onPage rfl (if_neg hon)

theorem covers_of_coversRows (hs : s.Ready) (htidy : s.place.Tidy) (hrows : s.place.BelowRows)
    (hclosing : s.closingDiagrams ≠ []) (hcovers : s.belowColumns.CoversRows) :
    ¬ Ends endSong s (fun _ => False) fun _ t => ∃ ds,
      t.device.received.toList = s.device.received.toList ++ ds ∧ HangBelowRows s ds := by
  intro hends
  obtain ⟨_, t, hok, ds, hds, hiff⟩ := (endSong_covers_iff hs htidy hrows).exists_ok
  obtain ⟨ds', hds', hhang⟩ := hends.holds hok
  obtain rfl := List.append_cancel_left (hds.symm.trans hds')
  exact hiff.1 hhang ⟨hclosing, hcovers⟩

/-- Whatever has been read of songs, when a song ends its diagrams cover no row of the page that it
ends on, unless it has diagrams and its cursor, below all columns, goes to the top of another column
for the room that is owed and has room for the first row of diagrams there, above some row of the
page. -/
theorem appendix_covers_iff {settings : Settings Rat} {configurations : List (String × String)}
    {overrides : Overrides} (hbegins : Begins settings configurations overrides)
    (os : List Order)
    (hlegible : ∀ m ∈ (firstSong settings configurations overrides).moments os, m.Legible) :
    ∀ m ∈ (firstSong settings configurations overrides).moments os,
      Ends endSong m (fun _ => False) fun _ t => ∃ ds,
        t.device.received.toList = m.device.received.toList ++ ds ∧
        (HangBelowRows m ds ↔ ¬ (m.closingDiagrams ≠ [] ∧ m.belowColumns.CoversRows)) := by
  intro m hm
  obtain ⟨hsong, htidy⟩ := moments_tidy hbegins.isBegun hlegible m hm
  exact endSong_covers_iff ⟨hsong.onPage, hlegible m hm⟩ htidy
    (moments_belowRows hbegins.isBegun hlegible m hm)

/-- A song of one word with a chord. -/
def chordSong : String × String := ("a", "[C]la\n")

/-- Its diagram hangs below the word. -/
theorem appendix_covers_chordSong :
    let first : Session Rat := firstSong .default [] noOverrides
    let m := first.after (runOrders .default [] noOverrides [chordSong])
    Begins (.default : Settings Rat) [] noOverrides ∧
      (∀ m ∈ first.moments (runOrders .default [] noOverrides [chordSong]), m.Legible) ∧
      m.closingDiagrams.length = 1 ∧
      Ends endSong m (fun _ => False) fun _ t => ∃ ds,
        t.device.received.toList = m.device.received.toList ++ ds ∧ HangBelowRows m ds := by
  intro first m
  have hbegins : Begins (.default : Settings Rat) [] noOverrides :=
    eq_ok_of_succeeds (by decide +kernel)
  have hlegible : ∀ m ∈ first.moments (runOrders .default [] noOverrides [chordSong]),
      m.Legible := by decide +kernel
  have hm : m ∈ first.moments (runOrders .default [] noOverrides [chordSong]) :=
    last_mem_moments first _
  have hstays : ¬ m.belowColumns.BreaksColumn := by decide +kernel
  refine ⟨hbegins, hlegible, by decide +kernel,
    (appendix_covers_iff hbegins _ hlegible m hm).mono ?_⟩
  rintro _ t ⟨ds, hds, hiff⟩
  exact ⟨ds, hds, hiff.2 fun h => hstays h.2.breaks⟩

/-- A word with a chord in the first of two columns, and a blank line 798 points high. -/
def owingSong : String × String :=
  ("a", "\x7bcolumns: 2\x7d\n[C]la\n\x7btextsize: 800\x7d\n\n")

/-- At its end the second column is begun, and the diagram hangs at the top of the page, above the
word. -/
theorem appendix_covers_owingSong :
    let first : Session Rat := firstSong .default [] noOverrides
    let os := runOrders .default [] noOverrides [owingSong]
    let m := first.after os
    Begins (.default : Settings Rat) [] noOverrides ∧
      (∀ m ∈ first.moments os, ∀ slot ∈ FontSlot.all,
        3 ≤ (m.document.styles.current slot).size) ∧ 0 < m.settings.gridSize ∧
      m.settings.lyricsOnly = false ∧ m.document.modes.grids.current = true ∧
      ¬ Ends endSong m (fun _ => False) fun _ t => ∃ ds,
        t.device.received.toList = m.device.received.toList ++ ds ∧ HangBelowRows m ds := by
  intro first os m
  have hbegins : Begins (.default : Settings Rat) [] noOverrides :=
    eq_ok_of_succeeds (by decide +kernel)
  have hlegible : ∀ m ∈ first.moments os, m.Legible := by decide +kernel
  have hm : m ∈ first.moments os := last_mem_moments first os
  obtain ⟨hsong, htidy⟩ := moments_tidy hbegins.isBegun hlegible m hm
  have hcovers : m.belowColumns.CoversRows := by decide +kernel
  have hclosing : m.closingDiagrams ≠ [] := by
    have hlength : m.closingDiagrams.length = 1 := by decide +kernel
    exact List.length_pos_iff.1 (hlength ▸ Nat.one_pos)
  have hrows : m.place.BelowRows := moments_belowRows hbegins.isBegun hlegible m hm
  exact ⟨hbegins, by decide +kernel, by decide +kernel, by decide +kernel, by decide +kernel,
    covers_of_coversRows ⟨hsong.onPage, hlegible m hm⟩ htidy hrows hclosing hcovers⟩

end Typeset

end Songbook
