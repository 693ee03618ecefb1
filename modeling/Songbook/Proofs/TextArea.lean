import Songbook.Proofs.Outcomes

/-!
# The text area

Between the margins there is room for every row that looks for it: lyrics, chords, comments and rows
of the index go to the next column from below the bottom margin. Titles and subtitles are printed
where the cursor stands, so all rows stand in the text area exactly if the cursor is never left
below it (`rows_inside_iff`).
-/

namespace Songbook

variable {p q : Place}

/-- Columns do not begin below the bottom margin. -/
structure Place.Roomy (p : Place) : Prop where
  bottom_le_top : p.geometry.bottom ≤ p.geometry.top
  bottom_le_columnTop : p.geometry.bottom ≤ p.cursor.columnTop

theorem Deed.roomy (h : Deed p q) (hp : p.Roomy) : q.Roomy := by
  obtain ⟨htop, hcolumn⟩ := hp
  cases h with
  | @turn sheetToo _ _ =>
    exact ⟨htop, (p.cursor.turned_turnsTo p.geometry sheetToo).columnTop.elim
      (fun h => hcolumn.trans_eq h.symm) fun h => htop.trans_eq h.symm⟩
  | nextSong _ =>
    exact ⟨htop, (p.cursor.songBegun_turnsTo p.geometry).columnTop.elim
      (fun h => hcolumn.trans_eq h.symm) fun h => htop.trans_eq h.symm⟩
  | _ => exact ⟨htop, hcolumn⟩

theorem Deeds.roomy (h : Deeds p q) (hp : p.Roomy) : q.Roomy := by
  induction h with
  | refl => exact hp
  | tail _ hlast ih => exact hlast.roomy ih

theorem Outcome.roomy {headings : Bool} (h : Outcome headings p q) (hp : p.Roomy)
    (hbottom : p.geometry.bottom ≤ p.cursor.vertical) : q.Roomy := by
  cases h with
  | deeds h => exact h.roomy hp
  | @row m c ds h _ hc _ =>
    obtain ⟨htop, hcolumn⟩ := h.roomy hp
    rcases hc with rfl | ⟨rowSize, -, rfl⟩
    · exact ⟨htop, hcolumn⟩
    · rw [Cursor.openChorus_eq]
      exact ⟨htop, hcolumn⟩
  | heading _ _ _ => exact ⟨hp.bottom_le_top, hp.bottom_le_columnTop⟩
  | pending => exact ⟨hp.bottom_le_top, hp.bottom_le_columnTop⟩
  | columns count => exact ⟨hp.bottom_le_top, hbottom⟩

theorem Outcome.row_le_top {headings : Bool} {point : Point Rat} (h : Outcome headings p q)
    (hp : p.Tidy) (hrow : p.RowAt q point) : point.v ≤ p.geometry.top := by
  rcases h.rowAt hrow with ⟨-, hv⟩ | ⟨m, hm, -, hv⟩
  · exact hv.trans_le hp.vertical_le
  · rw [hv, ← hm.geometry]
    exact (hm.tidy hp).vertical_le

theorem Place.Roomy.bottom_le (hp : p.Roomy) (h : p.IsRowPlace) :
    p.geometry.bottom ≤ p.cursor.vertical := by
  rcases h with hroom | hfirst | hfirst
  · exact hroom
  · exact hp.bottom_le_columnTop.trans_eq hfirst.symm
  · exact hp.bottom_le_top.trans_eq hfirst.symm

/-- Rows other than headings look for room, and headings stand where the cursor stood. -/
theorem Outcome.bottom_le_row {headings : Bool} {point : Point Rat} (h : Outcome headings p q)
    (hp : p.Roomy) (hbottom : headings = true → p.geometry.bottom ≤ p.cursor.vertical)
    (hrow : p.RowAt q point) : p.geometry.bottom ≤ point.v := by
  rcases h.rowAt hrow with ⟨hprints, hv⟩ | ⟨m, hm, hplace, hv⟩
  · exact (hbottom hprints).trans_eq hv.symm
  · rw [hv, ← hm.geometry]
    exact (hm.roomy hp).bottom_le hplace

/-! ## Rows of the index -/

namespace Session

/-- Inside the text area. -/
def IsInside (s : Session Rat) : Prop :=
  s.document.geometry.bottom ≤ s.document.cursor.vertical ∧
    s.document.cursor.vertical ≤ s.document.geometry.top

theorem isInside_of_place (s : Session Rat) (htidy : s.place.Tidy) (hroomy : s.place.Roomy)
    (h : s.place.IsRowPlace) : s.IsInside :=
  ⟨hroomy.bottom_le h, htidy.vertical_le⟩

theorem rowPrinted_tidy {s : Session Rat} {amount : Rat} (ha : 0 ≤ amount)
    (row : Rat → List (Drawing Rat)) (h : s.place.Tidy) : (s.rowPrinted amount row).place.Tidy := by
  have hdeeds : Deeds s.place (s.advanced amount).place := Typeset.advanced_deeds (.down ha)
  obtain ⟨hvertical, htop, hspace⟩ := hdeeds.tidy h
  exact ⟨hvertical, htop, hspace⟩

/-- Rows of the index look for room, so after the title they all stand in the text area. -/
theorem rowPlaces_inside {s : Session Rat} {amount : Rat} (ha : 0 ≤ amount)
    (rows : List (Rat → List (Drawing Rat))) (htidy : s.place.Tidy) (hroomy : s.place.Roomy) :
    ∀ m ∈ (s.rowPlaces amount rows).tail, m.IsInside := by
  induction rows generalizing s with
  | nil => simp [rowPlaces]
  | cons row rows ih =>
    have hdeeds : Deeds s.place (s.advanced amount).place := Typeset.advanced_deeds (.down ha)
    obtain ⟨htop, hcolumn⟩ := hdeeds.roomy hroomy
    have htidy' := rowPrinted_tidy ha row htidy
    have hroomy' : (s.rowPrinted amount row).place.Roomy := ⟨htop, hcolumn⟩
    have htail : (s.rowPlaces amount (row :: rows)).tail =
        s.rowPrinted amount row :: ((s.rowPrinted amount row).rowPlaces amount rows).tail := by
      cases rows <;> simp [rowPlaces]
    intro m hm
    rw [htail] at hm
    rcases List.mem_cons.1 hm with rfl | hm
    · exact isInside_of_place _ htidy' hroomy' (Typeset.advanced_isRowPlace s amount)
    · exact ih htidy' hroomy' m hm

end Session

namespace Typeset

open Session

variable {settings : Settings Rat} {s : Session Rat}

/-- A title is printed where the cursor stands. -/
theorem title_rowAt (hs : s.OnPage) (n : Nat) {text name args : String}
    (hsplit : Keyword.splitText? text = some (name, args))
    (hname : Keyword.ofName? name = some .title) : ∃ h,
    s.place.RowAt (s.followed (.directive n text)).place ⟨h, s.document.cursor.vertical⟩ := by
  have hrefusal : refusal? .title (atLine n s).startup (atLine n s).document.modes.extensions =
      none := by
    show refusal? .title s.startup s.document.modes.extensions = none
    rw [hs.inSong]
    cases s.document.modes.extensions <;> rfl
  obtain ⟨log, happly⟩ := dispatch_applies hsplit hname
    (d := .title (Text.trim args)) rfl hrefusal
  let u : Session Rat := { atLine n s with log }
  have hprints : Ends (apply .title (.title (Text.trim args))) u (fun _ => False)
      fun _ t => t.place.drawn = (u.titled (Text.trim args)).place.drawn :=
    .bind_ok rfl (.bind_ok (title_eq (s := u) hs.unlimited _)
      (((indexTitled_stays _) _ _ rfl).mono fun _ _ ht => congrArg Place.drawn ht))
  obtain ⟨_, t, hok, ht⟩ := hprints.exists_ok
  have hfollowed : s.followed (.directive n text) = t :=
    endState_of_ok ((bind_of_ok rfl).trans (happly.trans hok))
  rw [hfollowed]
  let font := titleFont s.document.styles
  exact ⟨s.document.geometry.width / 2, [], .text (Text.trim args) .text font .center .plain, rfl,
    ht.trans (u.moved_received (s.document.cursor.down (size font)) _ log)⟩

/-- What a song leaves to the index: no room is owed twice, and there are sizes for its rows. -/
theorem songDone_leaves (hs : s.Ready) (htidy : s.place.Tidy) :
    0 ≤ s.songDone.document.cursor.blankSpace ∧ s.songDone.Legible := by
  obtain ⟨u, hu, hdeeds, hdone⟩ := songDone_eq hs
  obtain ⟨_, _, _, _, _, -, hleft⟩ := u.document.cursor.left_eq u.document.geometry false
  rw [hdone]
  refine ⟨?_, hu.legible⟩
  show 0 ≤ (u.document.cursor.left u.document.geometry false).blankSpace
  rw [hleft]
  exact (hdeeds.tidy htidy).blankSpace_nonneg

/-- The index begins at the top of a page. -/
theorem indexReady_tidy (hover : SongsOver settings s) (hspace : 0 ≤ s.document.cursor.blankSpace) :
    s.indexReady.pageBegun.document.cursor.vertical = s.document.geometry.top ∧
      s.indexReady.pageBegun.document.cursor.columnTop = s.document.geometry.top ∧
      s.indexReady.pageBegun.place.Tidy := by
  have hturns := s.indexReady.document.cursor.begun_turnsTo s.document.geometry
  have htop : s.indexReady.pageBegun.document.cursor.columnTop = s.document.geometry.top :=
    hturns.columnTop.elim (fun h => h.trans hover.columnTop) id
  exact ⟨hturns.vertical, htop, hturns.vertical.le, htop.le, hspace.trans_eq hturns.blankSpace.symm⟩

theorem titleSize_nonneg (h : s.Legible) : (0 : Rat) ≤ size (titleFont s.document.styles) :=
  le_trans (by norm_num) (two_le_size h.two_le_titleFont)

theorem indexBegun_tidy (hlegible : s.Legible) (h : s.indexReady.pageBegun.place.Tidy) :
    s.indexBegun.place.Tidy :=
  ⟨(sub_le_self _ (titleSize_nonneg hlegible)).trans h.vertical_le, h.columnTop_le,
    h.blankSpace_nonneg⟩

theorem indexStep_nonneg (h : s.Legible) : (0 : Rat) ≤ s.indexStep :=
  le_trans (by norm_num) (two_le_size (h.two_le .text))

theorem index_isInside (hover : SongsOver settings s) (hspace : 0 ≤ s.document.cursor.blankSpace)
    (hlegible : s.Legible) :
    ∀ m ∈ s.indexReady.pageBegun :: (s.indexBegun.rowPlaces s.indexStep s.indexRows).tail,
      m.IsInside := by
  obtain ⟨hvertical, htop, htidy⟩ := indexReady_tidy hover hspace
  have hbottom := (bottom_lt_top hover.paper).le
  have hroomy : s.indexReady.pageBegun.place.Roomy := ⟨hbottom, hbottom.trans_eq htop.symm⟩
  intro m hm
  rcases List.mem_cons.1 hm with rfl | hm
  · exact isInside_of_place _ htidy hroomy (.inr (.inr hvertical))
  · exact rowPlaces_inside (indexStep_nonneg hlegible) _ (indexBegun_tidy hlegible htidy)
      ⟨hbottom, hroomy.bottom_le_columnTop⟩ m hm

/-- What a run prints stands in the text area: never above the top of the page; not below the bottom
margin as long as columns do not begin there, if it is no title; never below the bottom margin
exactly if the cursor is never left below it; and the index in any case. -/
structure KeepsInside (first : Session Rat) (os : List Order) (t : Session Rat) : Prop where
  finished : t = (first.after os).finished
  row_le_top : ∀ m ∈ first.moments os, ∀ o point, m.place.RowAt (m.followed o).place point →
    point.v ≤ m.document.geometry.top
  bottom_le_row : ∀ m ∈ first.moments os,
    m.document.geometry.bottom ≤ m.document.cursor.columnTop → ∀ o point, o.isHeading = false →
      m.place.RowAt (m.followed o).place point → m.document.geometry.bottom ≤ point.v
  bottom_le_row_iff : (∀ m ∈ first.moments os,
      m.document.geometry.bottom ≤ m.document.cursor.vertical) ↔
    ∀ m ∈ first.moments os, ∀ o point, m.place.RowAt (m.followed o).place point →
      m.document.geometry.bottom ≤ point.v
  index_inside : ∀ m ∈ (first.after os).songDone.indexReady.pageBegun ::
    ((first.after os).songDone.indexBegun.rowPlaces (first.after os).songDone.indexStep
      (first.after os).songDone.indexRows).tail, m.IsInside

theorem rows_inside_iff (settings : Settings Rat) (configurations : List (String × String))
    (overrides : Overrides) (songs : List (String × String))
    (hlegible : ∀ m ∈ (firstSong settings configurations overrides).moments
      (runOrders settings configurations overrides songs), m.Legible) :
    RunsTo settings configurations overrides songs
      (KeepsInside (firstSong settings configurations overrides)
        (runOrders settings configurations overrides songs)) := by
  refine ⟨(run_follows settings configurations overrides songs).ends.mono ?_⟩
  rintro _ t ⟨hbegun, ht⟩
  generalize firstSong settings configurations overrides = first at *
  generalize runOrders settings configurations overrides songs = os at *
  have hfirst : first.InSong settings := ⟨first, hbegun, .refl⟩
  have hin := moments_tidy hbegun hlegible
  refine ⟨ht, fun m hm o point hrow => ?_, fun m hm hcolumn o point ho hrow => ?_,
    ⟨fun hbottom m hm o point hrow => ?_, fun hrows m hm => ?_⟩, fun m hm => ?_⟩
  · obtain ⟨hsong, htidy⟩ := hin m hm
    exact (follow_outcome hsong (hlegible m hm) o).row_le_top htidy hrow
  · obtain ⟨hsong, -⟩ := hin m hm
    refine (follow_outcome hsong (hlegible m hm) o).bottom_le_row
      ⟨(bottom_lt_top hsong.paper).le, hcolumn⟩ (fun hprints => ?_) hrow
    rw [ho] at hprints
    cases hprints
  · have hroomy : ∀ m ∈ first.moments os, m.place.Roomy := by
      have hbelow := (bottom_lt_top hfirst.paper).le
      refine moments_keep (I := fun m => m.place.Roomy)
        ⟨hbelow, hbelow.trans_eq (begun_cursor hbegun).2.1.symm⟩ ?_
      intro m hm o hroomy
      exact (follow_outcome (hin m hm).1 (hlegible m hm) o).roomy hroomy (hbottom m hm)
    exact (follow_outcome (hin m hm).1 (hlegible m hm) o).bottom_le_row (hroomy m hm)
      (fun _ => hbottom m hm) hrow
  · -- a title would be printed where the cursor stands
    have hsplit : Keyword.splitText? "t" = some ("t", "") := by decide
    obtain ⟨h, htitle⟩ := title_rowAt (hin m hm).1.onPage 1 hsplit (by decide)
    exact hrows m hm _ _ htitle
  · have hlast : first.after os ∈ first.moments os := by
      have hmem := after_mem_moments first os []
      rwa [List.append_nil] at hmem
    obtain ⟨hsong, htidy⟩ := hin _ hlast
    obtain ⟨hspace, hdone⟩ := songDone_leaves ⟨hsong.onPage, hlegible _ hlast⟩ htidy
    exact index_isInside (endSong_eq hsong).2 hspace hdone m hm

theorem rows_inside_plainSong :
    (∀ m ∈ (firstSong .default [] noOverrides).moments
      (runOrders .default [] noOverrides [plainSong]), m.Legible) ∧
    (∀ m ∈ (firstSong .default [] noOverrides).moments
      (runOrders .default [] noOverrides [plainSong]),
      m.document.geometry.bottom ≤ m.document.cursor.vertical) ∧
    RunsTo .default [] noOverrides [plainSong]
      (KeepsInside (firstSong .default [] noOverrides)
        (runOrders .default [] noOverrides [plainSong])) := by
  have hlegible : ∀ m ∈ (firstSong .default [] noOverrides).moments
      (runOrders .default [] noOverrides [plainSong]), m.Legible := by decide +kernel
  exact ⟨hlegible, by decide +kernel, rows_inside_iff .default [] noOverrides [plainSong] hlegible⟩

/-- Its first title leaves no room for the second. -/
def tallSong : String × String := ("a", "\x7btextsize: 800\x7d\n\x7bt: x\x7d\n\x7bt: y\x7d\n")

/-- The second title of the tall song is printed below the bottom margin. -/
theorem row_below_tallSong :
    (∃ t : Session Rat, (do prepare [] noOverrides; printSongs [tallSong]; finish)
      (.start .default .unlimited) = .ok () t) ∧
    (∀ m ∈ (firstSong .default [] noOverrides).moments
      (runOrders .default [] noOverrides [tallSong]), ∀ slot ∈ FontSlot.all,
      3 ≤ (m.document.styles.current slot).size) ∧
    ∃ os o rest point, ∃ m : Session Rat, runOrders .default [] noOverrides [tallSong] =
        os ++ o :: rest ∧ m = (firstSong .default [] noOverrides).after os ∧
      m.place.RowAt (m.followed o).place point ∧ point.v < m.document.geometry.bottom := by
  refine ⟨⟨_, eq_ok_of_succeeds (by decide +kernel)⟩, by decide +kernel,
    [.song "a", .directive 1 "textsize: 800", .directive 2 "t: x"], .directive 3 "t: y", [], ?_⟩
  have hopen : ((firstSong .default [] noOverrides).after [.song "a",
      .directive 1 "textsize: 800", .directive 2 "t: x"]).OnPage :=
    ⟨by decide +kernel, by decide +kernel, by decide +kernel⟩
  have hlow : ((firstSong .default [] noOverrides).after [.song "a",
      .directive 1 "textsize: 800", .directive 2 "t: x"]).document.cursor.vertical <
      ((firstSong .default [] noOverrides).after [.song "a", .directive 1 "textsize: 800",
        .directive 2 "t: x"]).document.geometry.bottom := by decide +kernel
  have hsplit : Keyword.splitText? "t: y" = some ("t", " y") := by decide +kernel
  obtain ⟨h, hrow⟩ := title_rowAt hopen 3 hsplit (by decide +kernel)
  exact ⟨_, _, by decide +kernel, rfl, hrow, hlow⟩

end Typeset

end Songbook
