import Mathlib.Algebra.Order.Archimedean.Basic
import Songbook.Proofs.ColumnBreaks
import Songbook.Proofs.ConditionalBreaks
import Songbook.Proofs.Descent

/-!
# Rows after a change of columns

Columns begin where the cursor stands when their number is set, however far columns to the left of
it reach. On that page nothing is printed above the cursor from then on (`Place.StaysBelow`), but a
row may come to stand as high as the cursor: the first one that goes to another column for room
(`exists_row_at_cursor`). So whatever follows is printed below all rows of the page just if all of
them stand above the cursor (`columnChange_below_iff`).
-/

namespace Songbook

variable {p q r : Place}

/-- The page of `p` has been left, or nothing is above the cursor of `p`: not the cursor, not the
tops of columns and no row printed since. -/
structure Place.StaysBelow (p q : Place) : Prop where
  pages_le : p.cursor.pages ≤ q.cursor.pages
  below : ∃ ds, q.drawn = p.drawn ++ ds ∧ (q.cursor.pages = p.cursor.pages →
    q.cursor.vertical ≤ p.cursor.vertical ∧ q.cursor.columnTop ≤ p.cursor.vertical ∧
      ∀ point, RowOn ds point → point.v ≤ p.cursor.vertical)

namespace Place.StaysBelow

variable {es : List (Drawing Rat)}

/-- On the same page, with no row printed or one where the cursor stood. -/
theorem onPage (h : p.StaysBelow q) (hpages : r.cursor.pages = q.cursor.pages)
    (hdrawn : r.drawn = q.drawn ++ es)
    (hcursor : ∀ v, q.cursor.vertical ≤ v → q.cursor.columnTop ≤ v →
      r.cursor.vertical ≤ v ∧ r.cursor.columnTop ≤ v)
    (hrows : (∀ e ∈ es, e.isRow = false) ∨
      ∃ left row, es = [.moveTo ⟨left, q.cursor.vertical⟩, row]) : p.StaysBelow r := by
  obtain ⟨ds, hds, hbelow⟩ := h.below
  refine ⟨h.pages_le.trans_eq hpages.symm, ds ++ es, by rw [hdrawn, hds, List.append_assoc], ?_⟩
  intro hpage
  obtain ⟨hvertical, htop, hrow⟩ := hbelow (hpages.symm.trans hpage)
  obtain ⟨hvertical', htop'⟩ := hcursor _ hvertical htop
  refine ⟨hvertical', htop', fun point hpoint => ?_⟩
  rcases hrows with hrowless | ⟨left, row, rfl⟩
  · exact hrow point (rowOn_of_rowless hrowless hpoint)
  · rcases rowOn_row hpoint with hold | hnew
    · exact hrow point hold
    · exact hnew.trans_le hvertical

theorem nextPage (h : p.StaysBelow q) (hpages : r.cursor.pages = q.cursor.pages + 1)
    (hdrawn : r.drawn = q.drawn ++ es) : p.StaysBelow r := by
  have hle := h.pages_le
  obtain ⟨ds, hds, -⟩ := h.below
  exact ⟨by omega, ds ++ es, by rw [hdrawn, hds, List.append_assoc], fun hpage => by omega⟩

theorem of_set {count : Nat} (hcursor : q.cursor = p.cursor.setColumns count p.geometry)
    (hdrawn : q.drawn = p.drawn) : p.StaysBelow q := by
  refine ⟨?_, [], hdrawn.trans (List.append_nil _).symm, fun _ => ?_⟩
  · rw [hcursor]
    exact le_rfl
  · rw [hcursor]
    exact ⟨le_rfl, le_rfl, by simp [RowOn]⟩

end Place.StaysBelow

theorem Deed.staysBelow (h : Deed q r) (hq : q.Tidy) (hp : p.StaysBelow q) : p.StaysBelow r := by
  have hrowless : ∀ e ∈ ([] : List (Drawing Rat)), e.isRow = false := List.forall_mem_nil _
  cases h with
  | down ha =>
    exact hp.onPage rfl rfl (fun _ hv htop => ⟨(sub_le_self _ ha).trans hv, htop⟩) (.inl hrowless)
  | owe ha => exact hp.onPage rfl rfl (fun _ hv htop => ⟨hv, htop⟩) (.inl hrowless)
  | pay =>
    exact hp.onPage rfl rfl
      (fun _ hv htop => ⟨(sub_le_self _ hq.blankSpace_nonneg).trans hv, htop⟩) (.inl hrowless)
  | draw _ _ hrow =>
    exact hp.onPage rfl rfl (fun _ hv htop => ⟨hv, htop⟩) (.inl (by simpa using hrow))
  | enter =>
    exact hp.onPage rfl (List.append_nil _).symm (fun _ _ htop => ⟨htop, htop⟩) (.inl hrowless)
  | stop =>
    refine hp.onPage rfl rfl (fun _ hv htop => ⟨hv, htop⟩) (.inl ?_)
    unfold Place.bar
    split <;> simp [Drawing.isRow]
  -- from the next page on nothing is asked for
  | turn _ => exact hp.nextPage (q.cursor.turned_turnsTo _ _).pages rfl
  | nextSong _ => exact hp.nextPage (q.cursor.songBegun_turnsTo _).pages rfl

theorem Deeds.staysBelow (h : Deeds q r) (hq : q.Tidy) (hp : p.StaysBelow q) : p.StaysBelow r :=
  h.keep hq hp Deed.staysBelow

theorem Outcome.staysBelow {headings : Bool} (h : Outcome headings q r) (hq : q.Tidy)
    (hp : p.StaysBelow q) : p.StaysBelow r := by
  have hrowless : ∀ e ∈ ([] : List (Drawing Rat)), e.isRow = false := List.forall_mem_nil _
  cases h with
  | deeds h => exact h.staysBelow hq hp
  | @row m c ds h _ hc hds =>
    have hcursor : c.pages = m.cursor.pages ∧ c.vertical = m.cursor.vertical ∧
        c.columnTop = m.cursor.columnTop := by
      rcases hc with rfl | ⟨rowSize, -, rfl⟩
      · exact ⟨rfl, rfl, rfl⟩
      · rw [Cursor.openChorus_eq]
        exact ⟨rfl, rfl, rfl⟩
    obtain ⟨hpages, hvertical, htop⟩ := hcursor
    refine (h.staysBelow hq hp).onPage hpages rfl
      (fun _ hv ht => ⟨hvertical.trans_le hv, htop.trans_le ht⟩) ?_
    rcases hds with rfl | ⟨left, row, -, rfl⟩
    · exact .inl hrowless
    · exact .inr ⟨left, row, rfl⟩
  | heading _ ha _ =>
    exact hp.onPage rfl rfl (fun _ hv htop => ⟨(sub_le_self _ ha).trans hv, htop⟩)
      (.inr ⟨_, _, rfl⟩)
  | pending => exact hp.onPage rfl rfl (fun _ hv htop => ⟨hv, htop⟩) (.inl hrowless)
  | columns count => exact hp.onPage rfl rfl (fun _ hv _ => ⟨hv, hv⟩) (.inl hrowless)

/-- From `s` to `t` a row has been printed at that point, on the page of `s` that is still open. -/
def Session.PrintsAt (s t : Session Rat) (point : Point Rat) : Prop :=
  t.document.cursor.pages = s.document.cursor.pages ∧
    ∃ ds, t.device.received.toList = s.device.received.toList ++ ds ∧ RowOn ds point

namespace Session

variable {s t : Session Rat} {point : Point Rat}

theorem PrintsAt.v_le (h : s.PrintsAt t point) (hbelow : s.place.StaysBelow t.place) :
    point.v ≤ s.document.cursor.vertical := by
  obtain ⟨hpages, ds, hds, hrow⟩ := h
  obtain ⟨ds', hds', hv⟩ := hbelow.below
  obtain rfl := List.append_cancel_left (hds.symm.trans hds')
  exact (hv hpages).2.2 point hrow

theorem printsAt_of_mem (hbelow : s.place.StaysBelow t.place)
    (hpages : t.document.cursor.pages = s.document.cursor.pages)
    (hrow : point ∈ rowsOn (t.device.received.toList.drop s.device.received.toList.length)) :
    s.PrintsAt t point := by
  obtain ⟨ds, hds, -⟩ := hbelow.below
  have hreceived : t.device.received.toList = s.device.received.toList ++ ds := hds
  rw [hreceived, List.drop_left] at hrow
  exact ⟨hpages, ds, hreceived, mem_rowsOn_iff.1 hrow⟩

end Session

namespace Typeset

open Session

/-- The number of columns that the text of a directive sets. Two columns are neither begun nor ended
twice. -/
def columnsSet? (s : Session Rat) (text : String) : Option Nat :=
  match directive? s text with
  | some (.columns count) => some count
  | some (.twoColumn on) =>
    if on = decide (1 < s.document.cursor.columns) then none else some (if on then 2 else 1)
  | _ => none

variable {s t : Session Rat} {count : Nat} {text : String}

theorem twoColumn_sets {on : Bool} (h : on ≠ decide (1 < s.document.cursor.columns)) :
    twoColumn on s = setColumns (if on then 2 else 1) s := by
  have hcolumns : decide (1 < s.document.cursor.columns) = !on := Bool.eq_not.2 h.symm
  unfold twoColumn
  rw [document_bind, get_bind, hcolumns]
  cases on <;> rfl

theorem followed_columns (h : columnsSet? s text = some count) (n : Nat) :
    ∃ log, s.followed (.directive n text) = { s with line := n, log }.moved
      (s.document.cursor.setColumns count s.document.geometry) [] log := by
  obtain ⟨d, htext, hcount⟩ : ∃ d, directive? (atLine n s) text = some d ∧ ∀ (k : Keyword) log,
      apply k d { atLine n s with log } = setColumns count { atLine n s with log } := by
    have hsame : directive? (atLine n s) text = directive? s text := rfl
    unfold columnsSet? at h
    rw [hsame]
    split at h
    · next htext =>
      cases h
      exact ⟨_, htext, fun _ _ => rfl⟩
    · next on htext =>
      split at h
      · cases h
      · next hchanges =>
        cases h
        exact ⟨_, htext, fun _ log => twoColumn_sets (s := { atLine n s with log }) hchanges⟩
    · cases h
  obtain ⟨k, log, hdispatch⟩ := dispatch_of_directive? htext
  rw [hcount] at hdispatch
  exact ⟨log, endState_of_ok (hdispatch.trans
    (modifyCursor_eq (·.setColumns count s.document.geometry) _))⟩

/-! ## A row at the cursor -/

/-- With a comment printed where the way down leads. -/
def commented (s : Session Rat) (style : CommentStyle) (text : String) : Session Rat :=
  let (slot, decoration) := commentLook style
  let font := s.document.styles.current slot
  let row := s.advanced (size font)
  row.drawn [.moveTo ⟨row.document.cursor.horizontal, row.document.cursor.vertical⟩,
    .text text slot font .left decoration]

theorem comment_eq (hs : s.OnPage) (style : CommentStyle) (htext : text.isEmpty = false) :
    comment style text s = .ok () (commented s.paid style text) := by
  have hpaid := hs.paid
  let font := s.paid.document.styles.current (commentLook style).1
  have hrow := (hpaid.advanced (size font)).unlimited
  show (if text.isEmpty then _ else _ : Typeset Rat Unit) s = _
  rw [htext, if_neg Bool.false_ne_true, bind_of_ok (payBlankSpace_paid hs.unlimited hs.isOpen)]
  refine (bind_of_ok (advance_advanced hpaid.unlimited hpaid.isOpen (size font))).trans ?_
  refine (bind_of_ok (draw_eq hrow _)).trans ((draw_eq (s := drawn _ _) hrow _).trans ?_)
  rw [drawn_drawn]
  rfl

/-- A comment of one letter. -/
def oneComment : Order := .directive 1 "c: x"

theorem followed_oneComment (hs : s.OnPage) : ∃ log, s.followed oneComment =
    commented (paid { s with line := 1, log }) .shaded "x" := by
  have hsplit : Keyword.splitText? "c: x" = some ("c", " x") := by decide
  have hread : Directive.read .comment " x" = .ok (.comment .shaded "x" : Directive Rat) := rfl
  have hrefusal : refusal? .comment (atLine 1 s).startup
      (atLine 1 s).document.modes.extensions = none := by
    show refusal? .comment s.startup s.document.modes.extensions = none
    rw [hs.inSong]
    cases s.document.modes.extensions <;> rfl
  obtain ⟨log, hdispatch⟩ := dispatch_applies hsplit (k := .comment) (by decide) hread hrefusal
  have hpage : OnPage { atLine 1 s with log } := ⟨hs.unlimited, hs.isOpen, hs.inSong⟩
  have hcomment : dispatch "c: x" (atLine 1 s) =
      comment .shaded "x" { atLine 1 s with log } := hdispatch
  exact ⟨log, endState_of_ok (hcomment.trans (comment_eq hpage .shaded (by decide)))⟩

theorem SetsAlike.moved (h : SetsAlike s t) (c : Cursor Rat) (ds : List (Drawing Rat))
    (log : Array (LogEntry Rat)) : SetsAlike s (t.moved c ds log) :=
  ⟨h.settings, h.geometry, h.modes, h.styles⟩

theorem SetsAlike.trans {u : Session Rat} (h : SetsAlike s t) (h' : SetsAlike t u) :
    SetsAlike s u :=
  ⟨h'.settings.trans h.settings, h'.geometry.trans h.geometry, h'.modes.trans h.modes,
    h'.styles.trans h.styles⟩

/-- The session prints in columns that were set at the cursor of `s` on the same page, and there is
another one to the right. -/
structure Filling (s t : Session Rat) : Prop where
  ready : t.Ready
  received : ∃ ds, t.device.received.toList = s.device.received.toList ++ ds
  alike : SetsAlike s t
  pages : t.document.cursor.pages = s.document.cursor.pages
  columnTop : t.document.cursor.columnTop = s.document.cursor.vertical
  roomy : t.document.cursor.onLastColumn = false

/-- A row has been printed on the page as high as the cursor of `s` stands. -/
def PrintsLevel (s t : Session Rat) : Prop :=
  ∃ point, point.v = s.document.cursor.vertical ∧ s.PrintsAt t point

namespace Filling

theorem moved (h : Filling s t) (c : Cursor Rat) (hslot : c.slot = t.document.cursor.slot)
    (hpages : c.pages = t.document.cursor.pages)
    (htop : c.columnTop = t.document.cursor.columnTop) (hroomy : c.onLastColumn = false)
    (ds : List (Drawing Rat)) (log : Array (LogEntry Rat)) : Filling s (t.moved c ds log) := by
  obtain ⟨es, hes⟩ := h.received
  exact ⟨h.ready.moved hslot ds log, ⟨es ++ ds, by rw [moved_received, hes, List.append_assoc]⟩,
    .moved h.alike c ds log, hpages.trans h.pages, htop.trans h.columnTop, hroomy⟩

theorem record (h : Filling s t) (line : Nat) (log : Array (LogEntry Rat)) :
    Filling s { t with line, log } :=
  ⟨⟨⟨h.ready.onPage.unlimited, h.ready.onPage.isOpen, h.ready.onPage.inSong⟩, h.ready.legible⟩,
    h.received, ⟨h.alike.settings, h.alike.geometry, h.alike.modes, h.alike.styles⟩, h.pages,
    h.columnTop, h.roomy⟩

/-- Paying what is owed takes a column at most. -/
theorem paid (h : Filling s t) (hspare : t.document.cursor.blankSpace = 0 ∨
    t.document.cursor.column + 2 < t.document.cursor.columns) :
    Filling s t.paid ∧ t.paid.document.cursor.blankSpace = 0 ∧
      (t.document.cursor.blankSpace = 0 →
        t.paid.document.cursor.vertical = t.document.cursor.vertical) := by
  have hlowered : Filling s (t.lowered 0) :=
    h.moved { t.document.cursor with vertical := t.height - 0, blankSpace := 0 } rfl rfl rfl
      h.roomy [] t.log
  by_cases hroom : t.document.cursor.blankSpace = 0 ∨ t.document.geometry.bottom ≤ t.height
  · rw [paid_of_room hroom]
    refine ⟨hlowered, rfl, fun howed => ?_⟩
    show t.document.cursor.vertical - t.document.cursor.blankSpace - 0 = _
    rw [howed, sub_zero, sub_zero]
  · obtain ⟨howed, hlow⟩ := not_or.1 hroom
    have hcolumns := hspare.resolve_left howed
    have hroomy : ((t.lowered 0).document.cursor.nextColumn
        (t.lowered 0).document.geometry).onLastColumn = false := by
      refine decide_eq_false ?_
      show ¬ t.document.cursor.columns ≤ t.document.cursor.column + 1 + 1
      omega
    rw [paid_of_low howed (not_le.1 hlow), Session.broken, hlowered.roomy,
      if_neg Bool.false_ne_true]
    exact ⟨hlowered.moved ((t.lowered 0).document.cursor.nextColumn _) rfl rfl rfl hroomy _ _, rfl,
      fun hzero => absurd hzero howed⟩

/-- A comment goes to the top of the next column, or two points down at least. -/
theorem commented_cases (h : Filling s t) (howed : t.document.cursor.blankSpace = 0)
    (style : CommentStyle) (text : String) : let u := commented t style text
    SetsAlike s u ∧ (PrintsLevel s u ∨ Filling s u ∧ u.document.cursor.blankSpace = 0 ∧
      s.document.geometry.bottom ≤ u.document.cursor.vertical ∧
      u.document.cursor.vertical ≤ t.document.cursor.vertical - 2) := by
  intro u
  let font := t.document.styles.current (commentLook style).1
  have hsize : (2 : Rat) ≤ size font := two_le_size (h.ready.legible.two_le _)
  let row := t.advanced (size font)
  obtain ⟨left, word, hword, hu⟩ : ∃ left word, word.isRow = true ∧
      u = row.drawn [.moveTo ⟨left, row.document.cursor.vertical⟩, word] := ⟨_, _, rfl, rfl⟩
  have hdown := h.moved (t.document.cursor.down (size font)) rfl rfl rfl h.roomy [] t.log
  rw [hu]
  rcases lt_or_ge (t.document.cursor.vertical - size font) t.document.geometry.bottom with
    hlow | hroom
  · have hrow : row = (t.moved (t.document.cursor.down (size font)) [] t.log).broken := if_pos hlow
    rw [Session.broken, hdown.roomy, if_neg Bool.false_ne_true] at hrow
    obtain ⟨ds, hds⟩ := h.received
    refine ⟨?_, .inl ⟨⟨left, row.document.cursor.vertical⟩, ?_, ?_, ds ++ [.moveTo _, word], ?_,
      ds, word, [], rfl, hword, List.forall_mem_nil _⟩⟩
    · rw [hrow]
      exact (hdown.alike.moved _ _ _).moved _ _ _
    · rw [hrow]
      exact h.columnTop
    · rw [hrow]
      exact h.pages
    · rw [Session.drawn, moved_received, hrow, moved_received, moved_received, List.append_nil,
        List.append_nil, hds, List.append_assoc]
  · have hrow : row = t.moved (t.document.cursor.down (size font)) [] t.log := advanced_of_le hroom
    rw [hrow]
    refine ⟨hdown.alike.moved _ _ _, .inr ⟨hdown.moved _ rfl rfl rfl h.roomy _ _, howed,
      h.alike.geometry ▸ hroom, ?_⟩⟩
    show t.document.cursor.vertical - size font ≤ _
    linarith

theorem oneComment_cases (h : Filling s t) (hspare : t.document.cursor.blankSpace = 0 ∨
    t.document.cursor.column + 2 < t.document.cursor.columns) : let u := t.followed oneComment
    SetsAlike s u ∧ (PrintsLevel s u ∨ Filling s u ∧ u.document.cursor.blankSpace = 0 ∧
      s.document.geometry.bottom ≤ u.document.cursor.vertical ∧
      (t.document.cursor.blankSpace = 0 →
        u.document.cursor.vertical ≤ t.document.cursor.vertical - 2)) := by
  obtain ⟨log, hu⟩ := followed_oneComment h.ready.onPage
  obtain ⟨hpaid, howed, hvertical⟩ := (h.record 1 log).paid hspare
  obtain ⟨halike, hprints⟩ := hpaid.commented_cases howed .shaded "x"
  rw [hu]
  exact ⟨halike, hprints.imp_right fun ⟨hfills, howes, hbottom, hdown⟩ =>
    ⟨hfills, howes, hbottom, fun hzero => hdown.trans_eq (by rw [hvertical hzero])⟩⟩

end Filling

/-- After some comments a row has been printed as high as the cursor of `s` stands. -/
def ReachesLevel (s t : Session Rat) : Prop :=
  ∃ count, PrintsLevel s (t.after (.replicate count oneComment)) ∧
    ∀ m ∈ t.moments (.replicate count oneComment), SetsAlike s m

theorem PrintsLevel.reaches (h : PrintsLevel s t) (ht : SetsAlike s t) : ReachesLevel s t :=
  ⟨0, h, by simpa [moments] using ht⟩

theorem ReachesLevel.of_next (ht : SetsAlike s t) (h : ReachesLevel s (t.followed oneComment)) :
    ReachesLevel s t := by
  obtain ⟨count, hprints, halike⟩ := h
  refine ⟨count + 1, hprints, ?_⟩
  rw [List.replicate_succ, moments_cons]
  exact List.forall_mem_cons.2 ⟨ht, halike⟩

theorem Filling.reachesLevel_of_le (h : Filling s t) (howed : t.document.cursor.blankSpace = 0)
    {k : Nat} (hk : t.document.cursor.vertical ≤ s.document.geometry.bottom + 2 * k) :
    ReachesLevel s t := by
  -- on the room left in the column, of which each comment takes two points at least
  induction k generalizing t with
  | zero =>
    refine .of_next h.alike ?_
    obtain ⟨halike, hprints | ⟨-, -, hbottom, hdown⟩⟩ := h.oneComment_cases (.inl howed)
    · exact hprints.reaches halike
    · have := hdown howed
      push_cast at hk
      linarith
  | succ k ih =>
    refine .of_next h.alike ?_
    obtain ⟨halike, hprints | ⟨hfills, howes, -, hdown⟩⟩ := h.oneComment_cases (.inl howed)
    · exact hprints.reaches halike
    · refine ih hfills howes ?_
      have := hdown howed
      push_cast at hk
      linarith

theorem Filling.reachesLevel (h : Filling s t)
    (hspare : t.document.cursor.column + 2 < t.document.cursor.columns) : ReachesLevel s t := by
  -- the first comment pays what is owed, and nothing is owed from then on
  refine .of_next h.alike ?_
  obtain ⟨halike, hprints | ⟨hfills, howes, -⟩⟩ := h.oneComment_cases (.inr hspare)
  · exact hprints.reaches halike
  · obtain ⟨k, hk⟩ := exists_nat_ge ((t.followed oneComment).document.cursor.vertical -
      s.document.geometry.bottom)
    refine hfills.reachesLevel_of_le howes (k := k) ?_
    have : (0 : Rat) ≤ k := k.cast_nonneg
    linarith

/-- In three columns comments fill one until one of them stands as high as the cursor did. -/
theorem exists_row_at_cursor (hs : s.Ready) : ∃ os, (∀ o ∈ os, o.isHeading = false) ∧
    (∀ m ∈ s.moments os, SetsAlike s m) ∧ PrintsLevel s (s.after os) := by
  have hthree : AsksForColumns "columns: 3" 3 := ⟨"columns", " 3", by decide, by decide, rfl⟩
  obtain ⟨log, hset⟩ := directive_columns hs.onPage hthree 1
  let t : Session Rat := { s with line := 1, log }.moved
    (s.document.cursor.setColumns 3 s.document.geometry) [] log
  have hfollowed : s.followed (.directive 1 "columns: 3") = t := endState_of_ok hset
  have hfills : Filling s t :=
    ⟨⟨⟨hs.onPage.unlimited, hs.onPage.isOpen, hs.onPage.inSong⟩, hs.legible⟩,
      ⟨[], moved_received ..⟩, ⟨rfl, rfl, rfl, rfl⟩, rfl, rfl, by rfl⟩
  obtain ⟨count, hprints, halike⟩ := hfills.reachesLevel (show 0 + 2 < 3 by decide)
  refine ⟨.directive 1 "columns: 3" :: .replicate count oneComment, ?_, ?_, ?_⟩
  · refine List.forall_mem_cons.2 ⟨by decide, fun o ho => ?_⟩
    rw [List.eq_of_mem_replicate ho]
    decide
  · rw [moments_cons, hfollowed]
    exact List.forall_mem_cons.2 ⟨⟨rfl, rfl, rfl, rfl⟩, halike⟩
  · rwa [after_cons, hfollowed]

/-! ## Along a run -/

variable {settings : Settings Rat}

theorem after_staysBelow (hs : s.InSong settings) (htidy : s.place.Tidy)
    (hp : p.StaysBelow s.place) {os : List Order} (hlegible : ∀ m ∈ s.moments os, m.Legible) :
    p.StaysBelow (s.after os).place := by
  have hkeeps : ∀ m ∈ s.moments os,
      (m.InSong settings ∧ m.place.Tidy) ∧ p.StaysBelow m.place := by
    refine moments_keep (I := fun m => (m.InSong settings ∧ m.place.Tidy) ∧ p.StaysBelow m.place)
      ⟨⟨hs, htidy⟩, hp⟩ ?_
    rintro m hm o ⟨⟨hsong, htidy⟩, hbelow⟩
    have houtcome := follow_outcome hsong (hlegible m hm) o
    exact ⟨⟨followed_inSong hsong o, houtcome.tidy htidy⟩, houtcome.staysBelow htidy hbelow⟩
  exact (hkeeps _ (last_mem_moments s os)).2

/-- All fonts have that size at least, the size of titles is none beyond the largest, and diagrams
have no negative size. -/
def FontsFrom (least : Int) (s : Session Rat) : Prop :=
  (∀ slot ∈ FontSlot.all, least ≤ (s.document.styles.current slot).size) ∧
    (s.document.styles.current .text).size + titleIncrement ≤ largestSize ∧
    0 ≤ s.settings.gridSize

instance (least : Int) (s : Session Rat) : Decidable (FontsFrom least s) :=
  inferInstanceAs (Decidable (_ ∧ _))

variable {least : Int}

theorem FontsFrom.legible (h : FontsFrom least s) (hleast : 2 ≤ least) : s.Legible :=
  ⟨fun slot hslot => hleast.trans (h.1 slot hslot), h.2⟩

theorem SetsAlike.fontsFrom (h : SetsAlike s t) (hs : FontsFrom least s) : FontsFrom least t := by
  unfold FontsFrom
  rw [h.styles, h.settings]
  exact hs

/-- Whatever is ordered after `o`, in fonts of that size at least and headings apart, its rows on
the page stand below all rows that were on the page before. -/
def PrintsBelowRows (least : Int) (s : Session Rat) (o : Order) : Prop :=
  ∀ os, (∀ m ∈ (s.followed o).moments os, FontsFrom least m) → (∀ o ∈ os, o.isHeading = false) →
    ∀ later, s.PrintsAt ((s.followed o).after os) later →
      ∀ earlier, RowOn s.device.received.toList earlier → later.v < earlier.v

theorem followed_columns_cursor (hset : columnsSet? s text = some count) (n : Nat) :
    (s.followed (.directive n text)).document.cursor =
        s.document.cursor.setColumns count s.document.geometry ∧
      (s.followed (.directive n text)).device.received.toList = s.device.received.toList := by
  obtain ⟨log, hfollowed⟩ := followed_columns hset n
  rw [hfollowed, moved_received, List.append_nil]
  exact ⟨rfl, rfl⟩

theorem columnChange_staysBelow (hs : s.InSong settings) (hlegible : s.Legible)
    (htidy : s.place.Tidy) (hset : columnsSet? s text = some count) (n : Nat) {os : List Order}
    (hlater : ∀ m ∈ (s.followed (.directive n text)).moments os, m.Legible) :
    s.place.StaysBelow ((s.followed (.directive n text)).after os).place := by
  obtain ⟨hcursor, hdrawn⟩ := followed_columns_cursor hset n
  exact after_staysBelow (followed_inSong hs _) ((follow_outcome hs hlegible _).tidy htidy)
    (.of_set (p := s.place) hcursor hdrawn) hlater

theorem columnChange_printsLevel (hs : s.Ready) (hset : columnsSet? s text = some count)
    (n : Nat) : let t := s.followed (.directive n text)
    ∃ os, (∀ m ∈ t.moments os, SetsAlike s m) ∧ (∀ o ∈ os, o.isHeading = false) ∧
      PrintsLevel s (t.after os) := by
  intro t
  obtain ⟨log, hfollowed⟩ := followed_columns hset n
  obtain ⟨hready, halike⟩ : t.Ready ∧ SetsAlike s t := by
    dsimp only [t]
    rw [hfollowed]
    exact ⟨⟨⟨hs.onPage.unlimited, hs.onPage.isOpen, hs.onPage.inSong⟩, hs.legible⟩,
      rfl, rfl, rfl, rfl⟩
  obtain ⟨hcursor, hreceived⟩ := followed_columns_cursor hset n
  obtain ⟨os, hheadings, hlater, point, hv, hpages, ds, hds, hrow⟩ := exists_row_at_cursor hready
  refine ⟨os, fun m hm => halike.trans (hlater m hm), hheadings, point, ?_, ?_, ds, ?_, hrow⟩
  · rw [hv, hcursor]
    rfl
  · rw [hpages, hcursor]
    rfl
  · rw [hds, hreceived]

/-- After the number of columns has been set in a song, no row on the page stands above the cursor
as it was then. All rows that follow stand below all earlier rows of the page, in whichever column
these are, just if the earlier ones all stand above the cursor. -/
theorem columnChange_below_iff {settings : Settings Rat} {configurations : List (String × String)}
    {overrides : Overrides} (hbegins : Begins settings configurations overrides) {least : Int}
    (hleast : 2 ≤ least) (os : List Order)
    (hfonts : ∀ m ∈ (firstSong settings configurations overrides).moments os, FontsFrom least m) :
    ∀ m ∈ (firstSong settings configurations overrides).moments os, ∀ n text count,
      columnsSet? m text = some count →
      (∀ os', (∀ l ∈ (m.followed (.directive n text)).moments os', FontsFrom least l) →
        ∀ later, m.PrintsAt ((m.followed (.directive n text)).after os') later →
          later.v ≤ m.document.cursor.vertical) ∧
      (PrintsBelowRows least m (.directive n text) ↔
        ∀ earlier, RowOn m.device.received.toList earlier →
          m.document.cursor.vertical < earlier.v) := by
  intro m hm n text count hset
  have hlegible : ∀ m ∈ (firstSong settings configurations overrides).moments os, m.Legible :=
    fun m hm => (hfonts m hm).legible hleast
  obtain ⟨hsong, htidy⟩ := moments_tidy hbegins.isBegun hlegible m hm
  have hbelow : ∀ os', (∀ l ∈ (m.followed (.directive n text)).moments os', FontsFrom least l) →
      ∀ later, m.PrintsAt ((m.followed (.directive n text)).after os') later →
        later.v ≤ m.document.cursor.vertical := fun os' hlater later hprints =>
    hprints.v_le (columnChange_staysBelow hsong (hlegible m hm) htidy hset n
      fun l hl => (hlater l hl).legible hleast)
  refine ⟨hbelow, fun hrows earlier hearlier => ?_, fun hrows os' hlater _ later hprints earlier
    hearlier => (hbelow os' hlater later hprints).trans_lt (hrows earlier hearlier)⟩
  -- a row as high as the cursor stands below `earlier` only if the cursor does
  obtain ⟨os', halike, hheadings, later, hv, hprints⟩ :=
    columnChange_printsLevel ⟨hsong.onPage, hlegible m hm⟩ hset n
  exact hv ▸ hrows os' (fun l hl => (halike l hl).fontsFrom (hfonts m hm)) hheadings later hprints
    earlier hearlier

/-- A word and a blank line. -/
def spacedSong : String × String := ("a", "la\n\n")

/-- Columns set after them begin below the word. -/
theorem columnChange_below_spacedSong :
    let first : Session Rat := firstSong .default [] noOverrides
    let os := runOrders .default [] noOverrides [spacedSong]
    let m := first.after os
    Begins (.default : Settings Rat) [] noOverrides ∧ (∀ l ∈ first.moments os, FontsFrom 3 l) ∧
      columnsSet? m "columns: 2" = some 2 ∧ (rowsOn m.device.received.toList).length = 1 ∧
      PrintsBelowRows 3 m (.directive 3 "columns: 2") := by
  intro first os m
  have hbegins : Begins (.default : Settings Rat) [] noOverrides :=
    eq_ok_of_succeeds (by decide +kernel)
  have hfonts : ∀ l ∈ first.moments os, FontsFrom 3 l := by decide +kernel
  have hm : m ∈ first.moments os := last_mem_moments first os
  have hset : columnsSet? m "columns: 2" = some 2 := by decide +kernel
  have habove : ∀ earlier ∈ rowsOn m.device.received.toList,
      m.document.cursor.vertical < earlier.v := by decide +kernel
  exact ⟨hbegins, hfonts, hset, by decide +kernel,
    (columnChange_below_iff hbegins (by decide) os hfonts m hm 3 "columns: 2" 2 hset).2.2
      fun earlier hearlier => habove earlier (mem_rowsOn_iff.2 hearlier)⟩

/-- A word in the first of two columns, and another one when the second column has been begun and
two columns are over. -/
def rewoundSong : String × String :=
  ("a", "\x7bcolumns: 2\x7d\nla\n\x7bcolb\x7d\n\x7btcoff\x7d\nlo\n")

/-- The second word is printed over the first one. -/
theorem columnChange_rewoundSong :
    let first : Session Rat := firstSong .default [] noOverrides
    let orders := runOrders .default [] noOverrides [rewoundSong]
    Begins (.default : Settings Rat) [] noOverrides ∧
      (∀ m ∈ first.moments orders, FontsFrom 3 m) ∧ (∀ o ∈ orders, o.isHeading = false) ∧
      ∃ before after point, orders = before ++ .directive 4 "tcoff" :: after ∧
        columnsSet? (first.after before) "tcoff" = some 1 ∧
        RowOn (first.after before).device.received.toList point ∧
        (first.after before).PrintsAt (first.after orders) point := by
  intro first orders
  have hbegins : Begins (.default : Settings Rat) [] noOverrides :=
    eq_ok_of_succeeds (by decide +kernel)
  let before : List Order := [.song "a", .directive 1 "columns: 2", .chords 2 ⟨"la", []⟩,
    .lyrics ⟨"la", []⟩, .directive 3 "colb"]
  let after : List Order := [.chords 5 ⟨"lo", []⟩, .lyrics ⟨"lo", []⟩]
  have horders : orders = before ++ .directive 4 "tcoff" :: after := by decide +kernel
  have hfonts : ∀ m ∈ first.moments orders, FontsFrom 3 m := by decide +kernel
  have hlegible : ∀ m ∈ first.moments orders, m.Legible := fun m hm =>
    (hfonts m hm).legible (by decide)
  have hm : first.after before ∈ first.moments orders := horders ▸ after_mem_moments first before _
  obtain ⟨hsong, htidy⟩ := moments_tidy hbegins.isBegun hlegible _ hm
  have hset : columnsSet? (first.after before) "tcoff" = some 1 := by decide +kernel
  have hlater : ∀ m ∈ ((first.after before).followed (.directive 4 "tcoff")).moments after,
      m.Legible := by decide +kernel
  have hbelow := columnChange_staysBelow hsong (hlegible _ hm) htidy hset 4 hlater
  have hsame : first.after orders =
      ((first.after before).followed (.directive 4 "tcoff")).after after := by
    rw [horders, after_append, after_cons]
  refine ⟨hbegins, hfonts, by decide +kernel, before, after, ⟨72, 735⟩, horders, hset,
    mem_rowsOn_iff.1 (by decide +kernel), ?_⟩
  rw [hsame]
  exact printsAt_of_mem hbelow (by decide +kernel) (by decide +kernel)

end Typeset

end Songbook
