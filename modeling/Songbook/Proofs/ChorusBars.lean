import Songbook.Proofs.TextArea

/-!
# The bars of choruses

The bar of a chorus is drawn later than the lines that it stands beside: when the chorus ends or the
page is left, in the column of the cursor, from a remembered top down to the cursor. So a line has
its bar if the chorus stays in its column until then (`bars_stand`). A page that is turned draws the
bar and lets it begin anew, a column that is entered does not.
-/

namespace Songbook

variable {p q r : Place}

namespace Place

/-- While a chorus is running no column is entered, but for the first of a page. -/
def KeepsColumn (p q : Place) : Prop := p.cursor.chorus.IsRunning → q.entered = p.entered

/-- A running bar is left where it is: no column is entered, no chorus begins anew, and on its page
the column is not moved. -/
def KeepsBar (p q : Place) : Prop :=
  q.entered = p.entered ∧ (q.cursor.chorus.IsOn → q.cursor.chorus.IsRunning) ∧
    (q.cursor.pages = p.cursor.pages → q.cursor.horizontal = p.cursor.horizontal)

instance (p q : Place) : Decidable (p.KeepsColumn q) := inferInstanceAs (Decidable (_ → _))

instance (p q : Place) : Decidable (p.KeepsBar q) := inferInstanceAs (Decidable (_ ∧ _ ∧ _))

/-- A running bar does not begin below the cursor. -/
def Upright (p : Place) : Prop :=
  ∀ top, p.cursor.chorus = .running top → p.cursor.vertical ≤ top

/-- A running bar begins at the top of the page. -/
def Topmost (p : Place) : Prop :=
  ∀ top, p.cursor.chorus = .running top → top = p.geometry.top

/-- More has been drawn, and all its strokes fall. -/
def FallsTo (p q : Place) : Prop := ∃ ds, q.drawn = p.drawn ++ ds ∧ ∀ d ∈ ds, d.Falls

theorem FallsTo.refl (p : Place) : p.FallsTo p :=
  ⟨[], (List.append_nil _).symm, List.forall_mem_nil _⟩

theorem FallsTo.trans (h : p.FallsTo q) (h' : q.FallsTo r) : p.FallsTo r := by
  obtain ⟨ds, hds, hfalls⟩ := h
  obtain ⟨es, hes, hfalls'⟩ := h'
  refine ⟨ds ++ es, by rw [hes, hds, List.append_assoc], fun d hd => ?_⟩
  exact (List.mem_append.1 hd).elim (hfalls d) (hfalls' d)

theorem FallsTo.grows (h : p.FallsTo q) : p.drawn <+: q.drawn := by
  obtain ⟨ds, hds, -⟩ := h
  exact ⟨ds, hds.symm⟩

theorem Topmost.upright (h : p.Topmost) (htidy : p.Tidy) : p.Upright := fun top htop =>
  htidy.vertical_le.trans_eq (h top htop).symm

theorem bar_falls (hp : p.Upright) : ∀ d ∈ p.bar, d.Falls := by
  unfold bar
  split
  · rename_i top htop
    intro d hd
    rw [List.mem_singleton.1 hd]
    exact hp top htop
  · exact List.forall_mem_nil _

theorem Turning.falls {ds : List (Drawing Rat)} (h : p.Turning ds) (hp : p.Upright) :
    ∀ d ∈ ds, d.Falls := by
  obtain ⟨foot, head, last, rfl, hfoot, hhead, hlast⟩ := h
  intro d hd
  simp only [List.mem_append, List.mem_singleton] at hd
  rcases hd with hd | hd | hd | rfl
  · exact (hfoot d hd).2
  · exact bar_falls hp d hd
  · exact hhead d hd
  · cases d <;> trivial

theorem Upright.openChorus (hp : p.Upright) {rowSize : Rat} (h : 0 ≤ rowSize)
    (ds : List (Drawing Rat)) : (p.moved (p.cursor.openChorus rowSize) ds).Upright := by
  intro top htop
  show (p.cursor.openChorus rowSize).vertical ≤ top
  rw [Cursor.openChorus_vertical]
  have htop : (p.cursor.openChorus rowSize).chorus = .running top := htop
  unfold Cursor.openChorus at htop
  split at htop
  · cases htop
    linarith
  · exact hp top htop

end Place

theorem Chorus.atTop_running {c : Chorus Rat} {top t : Rat} (h : c.atTop t = .running top) :
    c.IsRunning ∧ top = t := by
  cases c with
  | running top' =>
    cases h
    exact ⟨⟨top', rfl⟩, rfl⟩
  | _ => cases h

/-! ## Bars fall -/

theorem Deed.fallsTo (h : Deed p q) (hp : p.Upright) : p.FallsTo q := by
  cases h with
  | draw _ hfalls _ => exact ⟨_, rfl, by simpa using hfalls⟩
  | enter => exact ⟨[], (List.append_nil _).symm, List.forall_mem_nil _⟩
  | stop => exact ⟨_, rfl, Place.bar_falls hp⟩
  | turn h => exact ⟨_, rfl, h.falls hp⟩
  | nextSong h => exact ⟨_, rfl, h.falls hp⟩
  | _ => exact ⟨[], rfl, List.forall_mem_nil _⟩

theorem Deed.entered_le (h : Deed p q) : p.entered ≤ q.entered := by
  cases h with
  | enter => exact Nat.le_succ _
  | _ => exact le_rfl

/-- Deeds let no bar begin. -/
theorem Deed.isRunning (h : Deed p q) (hq : q.cursor.chorus.IsRunning) :
    p.cursor.chorus.IsRunning := by
  cases h with
  | stop => exact nomatch hq.choose_spec
  | @turn sheetToo _ _ =>
    obtain ⟨top, htop⟩ := hq
    exact (Chorus.atTop_running
      ((p.cursor.turned_turnsTo p.geometry sheetToo).chorus.symm.trans htop)).1
  | nextSong _ =>
    obtain ⟨top, htop⟩ := hq
    exact nomatch (p.cursor.songBegun_turnsTo p.geometry).chorus.symm.trans htop
  | _ => exact hq

theorem Deed.upright (h : Deed p q) (htidy : p.Tidy) (hp : p.Upright) (hstay : p.KeepsColumn q) :
    q.Upright := by
  intro top htop
  cases h with
  | down ha =>
    have hvertical := hp top htop
    show p.cursor.vertical - _ ≤ top
    linarith
  | pay =>
    have hvertical := hp top htop
    have hspace := htidy.blankSpace_nonneg
    show p.cursor.vertical - p.cursor.blankSpace ≤ top
    linarith
  | enter => exact absurd (hstay ⟨top, htop⟩) (Nat.succ_ne_self _)
  | stop => cases htop
  | @turn sheetToo _ _ =>
    have hturns := p.cursor.turned_turnsTo p.geometry sheetToo
    exact hturns.vertical.le.trans_eq (Chorus.atTop_running (hturns.chorus.symm.trans htop)).2.symm
  | nextSong _ => exact nomatch (p.cursor.songBegun_turnsTo p.geometry).chorus.symm.trans htop
  | _ => exact hp top htop

theorem Deed.topmost (h : Deed p q) (hp : p.Topmost) : q.Topmost := by
  intro top htop
  cases h with
  | stop => cases htop
  | @turn sheetToo _ _ => exact (Chorus.atTop_running
      ((p.cursor.turned_turnsTo p.geometry sheetToo).chorus.symm.trans htop)).2
  | nextSong _ => exact nomatch (p.cursor.songBegun_turnsTo p.geometry).chorus.symm.trans htop
  | _ => exact hp top htop

namespace Deeds

theorem entered_le (h : Deeds p q) : p.entered ≤ q.entered := by
  induction h with
  | refl => exact le_rfl
  | tail _ hlast ih => exact ih.trans hlast.entered_le

theorem isRunning (h : Deeds p q) (hq : q.cursor.chorus.IsRunning) :
    p.cursor.chorus.IsRunning := by
  induction h with
  | refl => exact hq
  | tail _ hlast ih => exact ih (hlast.isRunning hq)

/-- As long as a chorus stays in its column, its bar keeps beginning above the cursor. -/
theorem upright (h : Deeds p q) (htidy : p.Tidy) (hp : p.Upright) (hstay : p.KeepsColumn q) :
    q.Upright ∧ p.FallsTo q := by
  induction h with
  | refl => exact ⟨hp, .refl p⟩
  | @tail m q hm hlast ih =>
    have hm : Deeds p m := hm
    have hkeeps : p.KeepsColumn m := fun hruns =>
      le_antisymm (hlast.entered_le.trans_eq (hstay hruns)) hm.entered_le
    obtain ⟨hupright, hfalls⟩ := ih hkeeps
    refine ⟨hlast.upright (hm.tidy htidy) hupright fun hruns => ?_,
      hfalls.trans (hlast.fallsTo hupright)⟩
    -- deeds let no bar begin, so what runs now ran at the beginning
    rw [hstay (hm.isRunning hruns), hkeeps (hm.isRunning hruns)]

/-- A bar from the top of the page stands above every column. -/
theorem topmost (h : Deeds p q) (htidy : p.Tidy) (hp : p.Topmost) : q.Topmost ∧ p.FallsTo q := by
  induction h with
  | refl => exact ⟨hp, .refl p⟩
  | @tail m q hm hlast ih =>
    have hm : Deeds p m := hm
    exact ⟨hlast.topmost ih.1, ih.2.trans (hlast.fallsTo (ih.1.upright (hm.tidy htidy)))⟩

end Deeds

theorem isContent_falls_of_isRow {row : Drawing Rat} (h : row.isRow) (point : Point Rat) :
    ∀ d ∈ [.moveTo point, row], d.isContent ∧ d.Falls := by
  have hrow : row.isContent ∧ row.Falls := by
    cases row <;> first | exact ⟨rfl, trivial⟩ | cases h
  intro d hd
  simp only [List.mem_cons, List.not_mem_nil, or_false] at hd
  rcases hd with rfl | rfl
  · exact ⟨rfl, trivial⟩
  · exact hrow

theorem Outcome.upright {headings : Bool} (h : Outcome headings p q) (htidy : p.Tidy)
    (hp : p.Upright) (hstay : p.KeepsColumn q) : q.Upright ∧ p.FallsTo q := by
  cases h with
  | deeds h => exact h.upright htidy hp hstay
  | @row m c ds h _ hc hds =>
    obtain ⟨hupright, hfalls⟩ := h.upright htidy hp hstay
    refine ⟨?_, hfalls.trans ⟨ds, rfl, ?_⟩⟩
    · rcases hc with rfl | ⟨rowSize, hsize, rfl⟩
      · exact hupright
      · exact hupright.openChorus hsize ds
    · rcases hds with rfl | ⟨_, row, hrow, rfl⟩
      · exact List.forall_mem_nil _
      · exact fun d hd => (isContent_falls_of_isRow hrow _ d hd).2
  | heading _ ha hrow =>
    refine ⟨fun top htop => ?_, _, rfl, fun d hd => (isContent_falls_of_isRow hrow _ d hd).2⟩
    have hvertical := hp top htop
    show p.cursor.vertical - _ ≤ top
    linarith
  | pending => exact ⟨nofun, _, rfl, List.forall_mem_nil _⟩
  | columns count => exact ⟨hp, _, rfl, List.forall_mem_nil _⟩

/-! ## Bars stand beside lines -/

/-- Where a stroke begins, from the left. -/
def Drawing.edge? : Drawing Rat → Option Rat
  | .stroke (point :: _) _ => some point.h
  | _ => none

namespace Place

/-- Since `p` a bar up to `v` at least has been running in its column, and what has been drawn is
content of its page. -/
structure Awaits (p : Place) (v : Rat) (q : Place) : Prop where
  running : ∃ top, q.cursor.chorus = .running top ∧ v ≤ top
  vertical_le : q.cursor.vertical ≤ v
  horizontal : q.cursor.horizontal = p.cursor.horizontal
  pages : q.cursor.pages = p.cursor.pages
  drawn : ∃ ds, q.drawn = p.drawn ++ ds ∧ ∀ d ∈ ds, d.isContent

/-- Of all that is drawn, a bar on the page of `p` and left of its column passes the height `v`. -/
def Barred (p : Place) (v : Rat) (drawn : List (Drawing Rat)) : Prop :=
  ∃ between after top bottom, drawn = p.drawn ++ (between ++
      .stroke [⟨p.cursor.horizontal - Typeset.barOffset, top⟩,
        ⟨p.cursor.horizontal - Typeset.barOffset, bottom⟩] 1 :: after) ∧
    (∀ d ∈ between, d.isContent) ∧ bottom ≤ v ∧ v ≤ top

variable {v : Rat}

theorem Barred.mono {drawn drawn' : List (Drawing Rat)} (h : p.Barred v drawn)
    (hmore : drawn <+: drawn') : p.Barred v drawn' := by
  obtain ⟨between, after, top, bottom, rfl, hrest⟩ := h
  obtain ⟨more, rfl⟩ := hmore
  exact ⟨between, after ++ more, top, bottom, by simp, hrest⟩

theorem not_barred {drawn : List (Drawing Rat)}
    (h : ∀ d ∈ drawn, d.edge? ≠ some (p.cursor.horizontal - Typeset.barOffset)) (v : Rat) :
    ¬ p.Barred v drawn := by
  rintro ⟨between, after, top, bottom, hdrawn, -⟩
  refine h (.stroke [⟨p.cursor.horizontal - Typeset.barOffset, top⟩,
    ⟨p.cursor.horizontal - Typeset.barOffset, bottom⟩] 1) ?_ rfl
  rw [hdrawn]
  simp

namespace Awaits

/-- The bar is drawn, after what stands at the foot of the page. -/
theorem barred (h : p.Awaits v q) {foot : List (Drawing Rat)} (hfoot : ∀ d ∈ foot, d.isContent)
    (rest : List (Drawing Rat)) : p.Barred v (q.drawn ++ (foot ++ (q.bar ++ rest))) := by
  obtain ⟨top, hchorus, hv⟩ := h.running
  obtain ⟨ds, hds, hcontent⟩ := h.drawn
  refine ⟨ds ++ foot, rest, top, q.cursor.vertical, ?_, ?_, h.vertical_le, hv⟩
  · rw [bar, hchorus, hds, h.horizontal]
    simp
  · exact fun d hd => (List.mem_append.1 hd).elim (hcontent d) (hfoot d)

/-- The bar goes on as long as the cursor stays in its column and does not rise. -/
theorem moved (h : p.Awaits v q) {c : Cursor Rat} {ds : List (Drawing Rat)}
    (hchorus : c.chorus = q.cursor.chorus) (hvertical : c.vertical ≤ q.cursor.vertical)
    (hhorizontal : c.horizontal = q.cursor.horizontal) (hpages : c.pages = q.cursor.pages)
    (hds : ∀ d ∈ ds, d.isContent) : p.Awaits v (q.moved c ds) := by
  obtain ⟨top, htop, hv⟩ := h.running
  obtain ⟨es, hes, hcontent⟩ := h.drawn
  refine ⟨⟨top, hchorus.trans htop, hv⟩, hvertical.trans h.vertical_le,
    hhorizontal.trans h.horizontal, hpages.trans h.pages, es ++ ds, ?_, ?_⟩
  · show q.drawn ++ ds = _
    rw [hes, List.append_assoc]
  · exact fun d hd => (List.mem_append.1 hd).elim (hcontent d) (hds d)

end Awaits

end Place

section

variable {v : Rat}

theorem Deed.awaits (h : Deed q r) (hq : p.Awaits v q) (htidy : q.Tidy)
    (hentered : r.entered = q.entered) : p.Awaits v r ∨ p.Barred v r.drawn := by
  have hturns : ∀ {ds}, q.Turning ds → p.Barred v (q.drawn ++ ds) := by
    rintro _ ⟨foot, head, last, rfl, hfoot, -, -⟩
    exact hq.barred (fun d hd => (hfoot d hd).1) _
  cases h with
  | down ha => exact .inl (hq.moved rfl (sub_le_self _ ha) rfl rfl (List.forall_mem_nil _))
  | owe ha => exact .inl (hq.moved rfl le_rfl rfl rfl (List.forall_mem_nil _))
  | pay =>
    have hspace := htidy.blankSpace_nonneg
    exact .inl (hq.moved rfl (sub_le_self _ hspace) rfl rfl (List.forall_mem_nil _))
  | draw hd _ _ => exact .inl (hq.moved rfl le_rfl rfl rfl (by simpa using hd))
  | enter => exact absurd hentered (Nat.succ_ne_self _)
  | stop =>
    have hbar : p.Barred v (q.drawn ++ ([] ++ (q.bar ++ []))) :=
      hq.barred (List.forall_mem_nil _) []
    rw [List.append_nil, List.nil_append] at hbar
    exact .inr hbar
  | turn h => exact .inr (hturns h)
  | nextSong h => exact .inr (hturns h)

theorem Deeds.awaits (h : Deeds q r) (hq : p.Awaits v q) (htidy : q.Tidy)
    (hentered : r.entered = q.entered) : p.Awaits v r ∨ p.Barred v r.drawn := by
  induction h with
  | refl => exact .inl hq
  | @tail m r hm hlast ih =>
    have hm : Deeds q m := hm
    have hkept : m.entered = q.entered :=
      le_antisymm (hlast.entered_le.trans_eq hentered) hm.entered_le
    rcases ih hkept with hawaits | hbarred
    · exact hlast.awaits hawaits (hm.tidy htidy) (hentered.trans hkept.symm)
    · obtain ⟨ds, hds, -⟩ := hlast.rowless
      exact .inr (hbarred.mono ⟨ds, hds.symm⟩)

theorem Outcome.awaits {headings : Bool} (h : Outcome headings q r) (hq : p.Awaits v q)
    (htidy : q.Tidy) (hkeeps : q.KeepsBar r) : p.Awaits v r ∨ p.Barred v r.drawn := by
  obtain ⟨hentered, hrunning, hhorizontal⟩ := hkeeps
  cases h with
  | deeds h => exact h.awaits hq htidy hentered
  | @row m c ds h _ hc hds =>
    rcases h.awaits hq htidy hentered with hawaits | hbarred
    · obtain ⟨top, htop, -⟩ := hawaits.running
      have hcursor : c = m.cursor := by
        rcases hc with rfl | ⟨rowSize, -, rfl⟩
        · rfl
        · rw [Cursor.openChorus, htop]
      rw [hcursor]
      refine .inl (hawaits.moved rfl le_rfl rfl rfl ?_)
      rcases hds with rfl | ⟨_, row, hrow, rfl⟩
      · exact List.forall_mem_nil _
      · exact fun d hd => (isContent_falls_of_isRow hrow _ d hd).1
    · exact .inr (hbarred.mono (List.prefix_append _ _))
  | heading _ ha hrow =>
    exact .inl (hq.moved rfl (sub_le_self _ ha) rfl rfl fun d hd =>
      (isContent_falls_of_isRow hrow _ d hd).1)
  | pending => exact nomatch (hrunning nofun).choose_spec
  | columns count => exact .inl (hq.moved rfl le_rfl (hhorizontal rfl) rfl (List.forall_mem_nil _))

theorem Deeds.grows (h : Deeds p q) : p.drawn <+: q.drawn := by
  obtain ⟨ds, hds, -⟩ := h.rowless
  exact ⟨ds, hds.symm⟩

theorem Outcome.grows {headings : Bool} (h : Outcome headings p q) : p.drawn <+: q.drawn := by
  cases h with
  | deeds h => exact h.grows
  | row h _ _ _ => exact h.grows.trans (List.prefix_append _ _)
  | _ => exact List.prefix_append _ _

end

/-! ## Along a run -/

namespace Session

/-- While a chorus is running no column is entered, but for the first of a page. -/
def KeepsColumn (s t : Session Rat) : Prop := s.place.KeepsColumn t.place

instance : DecidableRel KeepsColumn := fun s t =>
  inferInstanceAs (Decidable (s.place.KeepsColumn t.place))

/-- The orders leave the bar that is running where it is until its chorus ends or its page is
turned. -/
def BarStands : Session Rat → List Order → Prop
  | s, [] => s.KeepsColumn s.songDone
  | s, o :: os => s.place.KeepsBar (s.followed o).place ∧
      ((s.followed o).document.cursor.chorus.IsRunning →
        (s.followed o).document.cursor.pages = s.document.cursor.pages →
          (s.followed o).BarStands os)

instance decidableBarStands : (s : Session Rat) → (os : List Order) → Decidable (s.BarStands os)
  | s, [] => inferInstanceAs (Decidable (s.KeepsColumn s.songDone))
  | s, o :: os =>
    have := decidableBarStands (s.followed o) os
    inferInstanceAs (Decidable (_ ∧ (_ → _ → _)))

/-- The line is one that a chorus puts its bar beside. -/
def ShowsInChorus (s : Session Rat) (line : Line) : Prop :=
  line.isBlank = false ∧ Typeset.showsLines s = true ∧ s.document.cursor.chorus.IsOn

variable {settings : Settings Rat} {s t : Session Rat} {os : List Order}

theorem isChain_moments_cons {R : Session Rat → Session Rat → Prop} {o : Order} :
    (s.moments (o :: os)).IsChain R ↔
      R s (s.followed o) ∧ ((s.followed o).moments os).IsChain R := by
  cases os <;> simp [moments]

end Session

namespace Typeset

open Session

variable {settings : Settings Rat} {s : Session Rat} {os : List Order}

/-- At all moments the session is in its songs, its place is tidy, and the fonts have sizes. -/
def Sound (settings : Settings Rat) (s : Session Rat) (os : List Order) : Prop :=
  ∀ m ∈ s.moments os, (m.InSong settings ∧ m.place.Tidy) ∧ m.Legible

theorem Sound.followed {o : Order} (h : Sound settings s (o :: os)) :
    Sound settings (s.followed o) os := fun m hm => h m (by
  rw [moments_cons]
  exact List.mem_cons_of_mem _ hm)

/-- Some of the orders, followed after those before them. -/
theorem Sound.part {before : List Order} (rest : List Order)
    (h : Sound settings s (before ++ (os ++ rest))) : Sound settings (s.after before) os :=
  fun m hm => h m (moments_within hm)

theorem Sound.outcome (h : Sound settings s os) (o : Order) :
    s.InSong settings ∧ s.place.Tidy ∧ s.Legible ∧
      Outcome o.isHeading s.place (s.followed o).place := by
  obtain ⟨⟨hsong, htidy⟩, hlegible⟩ := h s (after_mem_moments s [] os)
  exact ⟨hsong, htidy, hlegible, follow_outcome hsong hlegible o⟩

theorem upright_after (h : Sound settings s os) (hs : s.place.Upright)
    (hchain : (s.moments os).IsChain Session.KeepsColumn) :
    (s.after os).place.Upright ∧ s.place.FallsTo (s.after os).place := by
  induction os generalizing s with
  | nil => exact ⟨hs, .refl _⟩
  | cons o os ih =>
    obtain ⟨hkeeps, hrest⟩ := isChain_moments_cons.1 hchain
    obtain ⟨-, htidy, -, houtcome⟩ := h.outcome o
    obtain ⟨hupright, hfalls⟩ := houtcome.upright htidy hs hkeeps
    obtain ⟨hupright', hfalls'⟩ := ih h.followed hupright hrest
    exact ⟨hupright', hfalls.trans hfalls'⟩

theorem after_grows (h : Sound settings s os) : s.place.drawn <+: (s.after os).place.drawn := by
  induction os generalizing s with
  | nil => exact List.prefix_rfl
  | cons o os ih => exact (h.outcome o).2.2.2.grows.trans (ih h.followed)

/-! ### The end of the run -/

theorem pageEnded_drawn (s : Session Rat) (sheetToo : Bool) :
    (s.pageEnded sheetToo).place.drawn = s.place.drawn ++ s.pageEnd sheetToo :=
  s.moved_received _ _ _

theorem pageEnded_fallsTo (hs : s.place.Upright) (sheetToo : Bool) :
    s.place.FallsTo (s.pageEnded sheetToo).place :=
  ⟨_, pageEnded_drawn s sheetToo, fun d hd =>
    (turning s sheetToo).falls hs d (List.mem_append_left _ hd)⟩

theorem rowsPrinted_fallsTo {amount : Rat} (ha : 0 ≤ amount)
    {rows : List (Rat → List (Drawing Rat))} (hrows : ∀ row ∈ rows, ∀ v, ∀ d ∈ row v, d.Falls)
    (htidy : s.place.Tidy) (htop : s.place.Topmost) :
    (rows.foldl (·.rowPrinted amount) s).place.Upright ∧
      s.place.FallsTo (rows.foldl (·.rowPrinted amount) s).place := by
  induction rows generalizing s with
  | nil => exact ⟨htop.upright htidy, .refl _⟩
  | cons row rows ih =>
    have hdeeds : Deeds s.place (s.advanced amount).place := advanced_deeds (.down ha)
    obtain ⟨htop', hfalls⟩ := hdeeds.topmost htidy htop
    have hrow : (s.advanced amount).place.FallsTo (s.rowPrinted amount row).place :=
      ⟨_, (s.advanced amount).moved_received _ _ _, hrows row List.mem_cons_self _⟩
    obtain ⟨hupright, hfalls'⟩ := ih (s := s.rowPrinted amount row)
      (fun row hmem => hrows row (List.mem_cons_of_mem _ hmem)) (rowPrinted_tidy ha row htidy) htop'
    exact ⟨hupright, (hfalls.trans hrow).trans hfalls'⟩

/-- On the pages of the index bars begin at the top of the page. -/
theorem indexPrinted_fallsTo (hover : SongsOver settings s)
    (hspace : 0 ≤ s.document.cursor.blankSpace) (hlegible : s.Legible) :
    s.place.FallsTo s.indexPrinted.place := by
  unfold Session.indexPrinted
  split
  · exact .refl _
  · have htidy := (indexReady_tidy hover hspace).2.2
    have htop : s.indexBegun.place.Topmost := fun top htop => (Chorus.atTop_running
      ((s.indexReady.document.cursor.begun_turnsTo s.document.geometry).chorus.symm.trans htop)).2
    have hpage : s.place.FallsTo s.indexReady.pageBegun.place :=
      ⟨_, s.indexReady.moved_received _ _ _, falls_of_onlyRules s.indexReady.onlyRules_pageStart⟩
    have htitle : s.indexReady.pageBegun.place.FallsTo s.indexBegun.place :=
      ⟨_, s.indexReady.pageBegun.moved_received s.document.cursor _ s.log, by simp [Drawing.Falls]⟩
    obtain ⟨hupright, hfalls⟩ := rowsPrinted_fallsTo (indexStep_nonneg hlegible)
      (fun row hrow v => falls_of_onlyRules (onlyRules_indexRows s row hrow v))
      (indexBegun_tidy hlegible htidy) htop
    exact ((hpage.trans htitle).trans hfalls).trans (pageEnded_fallsTo hupright false)

theorem closed_fallsTo (s : Session Rat) : s.place.FallsTo s.closed.place := by
  obtain ⟨ds, hrules, hds⟩ := closed_received s
  exact ⟨ds, hds, falls_of_onlyRules hrules⟩

theorem finished_fallsTo (h : s.InSong settings) (hlegible : s.Legible) (htidy : s.place.Tidy) :
    s.songDone.place.FallsTo s.finished.place := by
  obtain ⟨hspace, hdone⟩ := songDone_leaves ⟨h.onPage, hlegible⟩ htidy
  unfold Session.finished
  refine Place.FallsTo.trans ?_ (closed_fallsTo _)
  split
  · exact indexPrinted_fallsTo (endSong_eq h).2 hspace hdone
  · exact .refl _

theorem songDone_fallsTo (hs : s.Ready) (htidy : s.place.Tidy) (hupright : s.place.Upright)
    (hkeeps : s.KeepsColumn s.songDone) : s.place.FallsTo s.songDone.place := by
  obtain ⟨u, -, hdeeds, hdone⟩ := songDone_eq hs
  rw [hdone] at hkeeps ⊢
  obtain ⟨hupright', hfalls⟩ := hdeeds.upright htidy hupright hkeeps
  exact hfalls.trans (pageEnded_fallsTo hupright' false)

theorem finished_grows (h : s.InSong settings) (hlegible : s.Legible) (htidy : s.place.Tidy) :
    s.place.drawn <+: s.finished.place.drawn := by
  obtain ⟨u, -, hdeeds, hdone⟩ := songDone_eq ⟨h.onPage, hlegible⟩
  have hgrows : s.place.drawn <+: s.songDone.place.drawn := by
    rw [hdone, pageEnded_drawn]
    exact hdeeds.grows.trans (List.prefix_append _ _)
  exact hgrows.trans (finished_fallsTo h hlegible htidy).grows

theorem Sound.last (h : Sound settings s os) :
    ((s.after os).InSong settings ∧ (s.after os).place.Tidy) ∧ (s.after os).Legible :=
  h _ (last_mem_moments s os)

/-- A running bar that is left where it is comes to be drawn. -/
theorem barStands_barred {p : Place} {v : Rat} (h : Sound settings s os)
    (hs : p.Awaits v s.place) (hstands : s.BarStands os) :
    p.Barred v (s.after os).finished.place.drawn := by
  induction os generalizing s with
  | nil =>
    obtain ⟨⟨hsong, htidy⟩, hlegible⟩ := h s (List.mem_singleton_self _)
    obtain ⟨u, -, hdeeds, hdone⟩ := songDone_eq ⟨hsong.onPage, hlegible⟩
    obtain ⟨top, htop, -⟩ := hs.running
    have hentered : s.songDone.columnsEntered = s.columnsEntered := hstands ⟨top, htop⟩
    rw [hdone] at hentered
    -- the last page draws the bar at its end
    obtain ⟨foot, rest, hfoot, hcontent, -⟩ := pageEnd_eq u false
    have hbarred : p.Barred v s.songDone.place.drawn := by
      rw [hdone, pageEnded_drawn]
      rcases hdeeds.awaits hs htidy hentered with hawaits | hbarred
      · rw [hfoot]
        exact hawaits.barred (fun d hd => (hcontent d hd).1) rest
      · exact hbarred.mono (List.prefix_append _ _)
    exact hbarred.mono (finished_fallsTo hsong hlegible htidy).grows
  | cons o os ih =>
    obtain ⟨hkeeps, hrest⟩ := hstands
    obtain ⟨-, htidy, -, houtcome⟩ := h.outcome o
    -- either the bar still runs on its page, or it has been drawn and stays drawn
    rcases houtcome.awaits hs htidy hkeeps with hawaits | hbarred
    · obtain ⟨top, htop, -⟩ := hawaits.running
      exact ih h.followed hawaits (hrest ⟨top, htop⟩ (hawaits.pages.trans hs.pages.symm))
    · obtain ⟨⟨hsong, htidy⟩, hlegible⟩ := h.followed.last
      exact hbarred.mono ((after_grows h.followed).trans (finished_grows hsong hlegible htidy))

/-! ### Lines of choruses -/

/-- A line shown in a chorus has a bar running beside it, unless the bar begins below. -/
theorem lyrics_awaits (h : s.InSong settings) (hlegible : s.Legible) {line : Line}
    (hshows : s.ShowsInChorus line) (hupright : (s.followed (.lyrics line)).place.Upright) :
    ∃ point, s.place.RowAt (s.followed (.lyrics line)).place point ∧
      (s.followed (.lyrics line)).place.Awaits point.v (s.followed (.lyrics line)).place := by
  obtain ⟨hline, hshown, hon⟩ := hshows
  have hfollow : follow (.lyrics line) s = lyricsRow line (lyricsSlot s) (lyricsFont s) s := by
    show (if showsLines s then _ else _ : Typeset Rat Unit) s = _
    rw [if_pos hshown]
  obtain ⟨_, t, hok, q, left, hdeeds, -, hkeeps, ht⟩ := (lyricsRow_prints ⟨h.onPage, hlegible⟩
    hline (lyricsSlot s) (hlegible.two_le (lyricsSlot s))).exists_ok
  have hfollowed : s.followed (.lyrics line) = t := endState_of_ok (hfollow.trans hok)
  rw [hfollowed] at hupright ⊢
  have hvertical : t.place.cursor.vertical = q.cursor.vertical := by
    rw [ht]
    exact Cursor.openChorus_vertical _ _
  obtain ⟨top, htop⟩ : t.place.cursor.chorus.IsRunning := by
    rw [ht]
    show (q.cursor.openChorus _).chorus.IsRunning
    rcases hchorus : q.cursor.chorus with _ | _ | top
    · exact absurd hchorus (hkeeps.2 hon)
    · simp [Cursor.openChorus, hchorus, Chorus.IsRunning]
    · simp [Cursor.openChorus, hchorus, Chorus.IsRunning]
  refine ⟨⟨left, q.cursor.vertical⟩, ?_, ⟨top, htop, ?_⟩, hvertical.le, rfl, rfl, [], ?_, ?_⟩
  · obtain ⟨ds, hds, -⟩ := hdeeds.rowless
    refine ⟨ds, .text line.text (lyricsSlot s) (lyricsFont s) .left .plain, rfl, ?_⟩
    rw [ht, Place.moved, hds, List.append_assoc]
    rfl
  · exact hvertical ▸ hupright top htop
  · rw [List.append_nil]
  · exact List.forall_mem_nil _

/-- Beside the line that is printed at `s` stands a bar, if the orders that follow leave the bar
where it is. -/
def LineBarred (s : Session Rat) (line : Line) (rest : List Order) (t : Session Rat) : Prop :=
  ∃ point, s.place.RowAt (s.followed (.lyrics line)).place point ∧
    ((s.followed (.lyrics line)).BarStands rest →
      (s.followed (.lyrics line)).place.Barred point.v t.place.drawn)

/-- What the orders of a run make of its bars. A line shown in a chorus has its bar if the chorus
has stayed in its column since some moment when the bar did not begin below the cursor, and stays
until the bar is drawn. If choruses stay in their columns all through the run, all bars fall. -/
structure BarsStand (first : Session Rat) (os : List Order) (t : Session Rat) : Prop where
  finished : t = (first.after os).finished
  barred : ∀ before stretch line rest, os = before ++ (stretch ++ .lyrics line :: rest) →
    (first.after before).place.Upright →
    ((first.after before).moments (stretch ++ [.lyrics line])).IsChain Session.KeepsColumn →
    (first.after (before ++ stretch)).ShowsInChorus line →
    LineBarred (first.after (before ++ stretch)) line rest t
  falls : (first.moments os).IsChain Session.KeepsColumn →
    (first.after os).KeepsColumn (first.after os).songDone → ∀ d ∈ t.place.drawn, d.Falls

theorem begun_upright (h : s.IsBegun settings) :
    s.place.Upright ∧ ∀ d ∈ s.place.drawn, d.Falls := by
  obtain ⟨s, log, hs, rfl⟩ := h
  constructor
  · intro top htop
    have hturns := (s.document.cursor.resetColumns s.document.geometry).begun_turnsTo
      s.document.geometry
    obtain ⟨⟨top', hruns⟩, -⟩ := Chorus.atTop_running (hturns.chorus.symm.trans htop)
    rw [hs.cursor] at hruns
    cases hruns
  · have hcursor : s.document.cursor.slot = 0 ∧ s.document.cursor.sheets = 0 := by
      rw [hs.cursor]
      exact ⟨rfl, rfl⟩
    have hstart := s.onlyRules_pageStart
    rw [pageStart, hcursor.1, hcursor.2, if_pos rfl] at hstart
    have hdrawn : (s.withFirstPage log).place.drawn = .beginDocument s.document.geometry ::
        (Drawing.sheetOpening s.document.geometry s.document.cursor.pagination 1 ++
          Drawing.pageOpening s.document.geometry s.document.cursor.pagination 1) := by
      refine (moved_received _ _ _ _).trans ?_
      show s.device.received.toList ++ _ = _
      rw [hs.device]
      rfl
    rw [hdrawn]
    exact List.forall_mem_cons.2 ⟨trivial, falls_of_onlyRules hstart⟩

theorem bars_stand (settings : Settings Rat) (configurations : List (String × String))
    (overrides : Overrides) (songs : List (String × String))
    (hlegible : ∀ m ∈ (firstSong settings configurations overrides).moments
      (runOrders settings configurations overrides songs), m.Legible) :
    RunsTo settings configurations overrides songs
      (BarsStand (firstSong settings configurations overrides)
        (runOrders settings configurations overrides songs)) := by
  refine ⟨(run_follows settings configurations overrides songs).ends.mono ?_⟩
  rintro _ t ⟨hbegun, ht⟩
  generalize firstSong settings configurations overrides = first at *
  generalize runOrders settings configurations overrides songs = os at *
  have hsound : Sound settings first os := fun m hm =>
    ⟨moments_tidy hbegun hlegible m hm, hlegible m hm⟩
  refine ⟨ht, ?_, fun hchain hkeeps => ?_⟩
  · rintro before stretch line rest hos hupright hchain hshows
    have hstretch : Sound settings (first.after before) (stretch ++ [.lyrics line]) :=
      .part rest (by rwa [List.append_assoc, List.singleton_append, ← hos])
    have hline : Sound settings (first.after (before ++ stretch)) (.lyrics line :: rest) :=
      .part [] (by rwa [List.append_nil, List.append_assoc, ← hos])
    obtain ⟨hsong, -, hlegible, -⟩ := hline.outcome (.lyrics line)
    have hrow := (upright_after hstretch hupright hchain).1
    rw [after_append, ← after_append first] at hrow
    obtain ⟨point, hpoint, hawaits⟩ := lyrics_awaits hsong hlegible hshows hrow
    refine ⟨point, hpoint, fun hstands => ?_⟩
    have hbarred := barStands_barred hline.followed hawaits hstands
    rw [ht, hos, ← List.append_assoc, after_append first (before ++ stretch)]
    exact hbarred
  · obtain ⟨hupright, hfirst⟩ := begun_upright hbegun
    obtain ⟨hlast, hfalls⟩ := upright_after hsound hupright hchain
    obtain ⟨⟨hsong, htidy⟩, hlegible⟩ := hsound.last
    obtain ⟨ds, hds, hfalls⟩ := (hfalls.trans (songDone_fallsTo ⟨hsong.onPage, hlegible⟩ htidy hlast
      hkeeps)).trans (finished_fallsTo hsong hlegible htidy)
    rw [ht, hds]
    exact fun d hd => (List.mem_append.1 hd).elim (hfirst d) (hfalls d)

/-- A chorus of one line. -/
def sungSong : String × String := ("a", "\x7bsoc\x7d\nla\n\x7beoc\x7d\n")

theorem bars_stand_sungSong :
    (∀ m ∈ (firstSong .default [] noOverrides).moments
      (runOrders .default [] noOverrides [sungSong]), m.Legible) ∧
    ((firstSong .default [] noOverrides).moments
      (runOrders .default [] noOverrides [sungSong])).IsChain Session.KeepsColumn ∧
    runOrders .default [] noOverrides [sungSong] = [.song "a", .directive 1 "soc",
      .chords 2 ⟨"la", []⟩] ++ ([] ++ .lyrics ⟨"la", []⟩ :: [.directive 3 "eoc"]) ∧
    ((firstSong .default [] noOverrides).after [.song "a", .directive 1 "soc",
      .chords 2 ⟨"la", []⟩, .lyrics ⟨"la", []⟩]).BarStands [.directive 3 "eoc"] ∧
    RunsTo .default [] noOverrides [sungSong]
      (BarsStand (firstSong .default [] noOverrides)
        (runOrders .default [] noOverrides [sungSong])) := by
  have hlegible : ∀ m ∈ (firstSong .default [] noOverrides).moments
      (runOrders .default [] noOverrides [sungSong]), m.Legible := by decide +kernel
  exact ⟨hlegible, by decide +kernel, by decide +kernel, by decide +kernel,
    bars_stand .default [] noOverrides [sungSong] hlegible⟩

/-- A chorus that goes on in the second column. -/
def splitSong : String × String :=
  ("a", "\x7bcolumns: 2\x7d\n\x7bsoc\x7d\nla\n\x7bcolb\x7d\nlo\n\x7beoc\x7d\n")

/-- Beside the first line of the split song there is no bar, at any height. -/
theorem line_unbarred_splitSong : ∃ t : Session Rat,
    (do prepare [] noOverrides; printSongs [splitSong]; finish) (.start .default .unlimited) =
      .ok () t ∧
    (∀ m ∈ (firstSong .default [] noOverrides).moments
      (runOrders .default [] noOverrides [splitSong]), ∀ slot ∈ FontSlot.all,
      3 ≤ (m.document.styles.current slot).size) ∧
    ∃ before line rest,
      runOrders .default [] noOverrides [splitSong] = before ++ .lyrics line :: rest ∧
      ((firstSong .default [] noOverrides).after before).ShowsInChorus line ∧
      ∀ v, ¬ (((firstSong .default [] noOverrides).after before).followed
        (.lyrics line)).place.Barred v t.place.drawn := by
  obtain ⟨t, hrun⟩ : ∃ t : Session Rat, (do prepare [] noOverrides; printSongs [splitSong]; finish)
      (.start .default .unlimited) = .ok () t := ⟨_, eq_ok_of_succeeds (by decide +kernel)⟩
  have ht := ((run_follows .default [] noOverrides [splitSong]).of_ok hrun).2
  refine ⟨t, hrun, by decide +kernel, [.song "a", .directive 1 "columns: 2", .directive 2 "soc",
    .chords 3 ⟨"la", []⟩], ⟨"la", []⟩, [.directive 4 "colb", .chords 5 ⟨"lo", []⟩,
    .lyrics ⟨"lo", []⟩, .directive 6 "eoc"], by decide +kernel, ?_, Place.not_barred ?_⟩
  · exact ⟨by decide +kernel, by decide +kernel, by decide +kernel⟩
  · rw [ht]
    decide +kernel

end Typeset

end Songbook
