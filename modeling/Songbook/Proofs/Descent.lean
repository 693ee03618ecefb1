import Songbook.Proofs.TextArea

/-!
# The way down

Inside a column the cursor only goes down. It goes up in two ways: to the top of the next column,
and to the top of the next page (`Descent`). So it is at every moment as low as every row printed in
its column, and together with the lowest place of the columns to the left it is as low as every row
of the page (`BelowRows`).
-/

namespace Songbook

variable {p q r : Place}

/-- A move of the cursor. Columns begin where they began, where the cursor stood, or at the top of
the page. -/
inductive Descent (p q : Place) : Prop
  /-- Down its column, or nowhere. -/
  | down (hpages : q.cursor.pages = p.cursor.pages) (hentered : q.entered = p.entered)
      (hvertical : q.cursor.vertical ≤ p.cursor.vertical)
      (hcolumn : q.cursor.columnTop = p.cursor.columnTop ∨
        q.cursor.columnTop = p.cursor.vertical ∨ q.cursor.columnTop = p.geometry.top)
  /-- To the top of the next column. -/
  | column (hpages : q.cursor.pages = p.cursor.pages) (hentered : q.entered = p.entered + 1)
      (hvertical : q.cursor.vertical = p.cursor.columnTop)
      (hcolumn : q.cursor.columnTop = p.cursor.columnTop)
  /-- To the top of the next page. -/
  | page (hpages : q.cursor.pages = p.cursor.pages + 1) (hentered : q.entered = p.entered)
      (hvertical : q.cursor.vertical = p.geometry.top)
      (hcolumn : q.cursor.columnTop = p.cursor.columnTop ∨ q.cursor.columnTop = p.geometry.top)

/-- A move of the cursor on the same paper, with room owed or none. -/
structure Place.Step (p q : Place) : Prop where
  descent : Descent p q
  geometry : q.geometry = p.geometry
  blankSpace_nonneg : 0 ≤ q.cursor.blankSpace

abbrev Place.Steps : Place → Place → Prop := Relation.ReflTransGen Place.Step

/-- Pages and columns are never taken back. -/
theorem Place.Steps.counted (h : p.Steps q) :
    p.cursor.pages ≤ q.cursor.pages ∧ p.entered ≤ q.entered := by
  induction h with
  | refl => exact ⟨le_rfl, le_rfl⟩
  | tail _ hlast ih =>
    obtain ⟨hpages, hentered⟩ := ih
    cases hlast.descent <;> omega

/-- Within one column the cursor only goes down. -/
theorem Place.Steps.vertical_le (h : p.Steps q) (hpages : q.cursor.pages = p.cursor.pages)
    (hentered : q.entered = p.entered) : q.cursor.vertical ≤ p.cursor.vertical := by
  induction h with
  | refl => exact le_rfl
  | tail hsteps hlast ih =>
    obtain ⟨hpages', hentered'⟩ := Place.Steps.counted hsteps
    cases hlast.descent with
    | down hp he hv => exact hv.trans (ih (by omega) (by omega))
    | column hp he => omega
    | page hp he => omega

theorem Deed.step (h : Deed p q) (hp : p.Tidy) : p.Step q := by
  have hspace := (h.tidy hp).blankSpace_nonneg
  refine ⟨?_, (Deeds.geometry (.single h)), hspace⟩
  cases h with
  | down ha => exact .down rfl rfl (sub_le_self _ ha) (.inl rfl)
  | owe ha => exact .down rfl rfl le_rfl (.inl rfl)
  | pay => exact .down rfl rfl (sub_le_self _ hp.blankSpace_nonneg) (.inl rfl)
  | draw _ _ _ => exact .down rfl rfl le_rfl (.inl rfl)
  | enter => exact .column rfl rfl rfl rfl
  | stop => exact .down rfl rfl le_rfl (.inl rfl)
  | @turn sheetToo _ _ =>
    have hturns := p.cursor.turned_turnsTo p.geometry sheetToo
    exact .page hturns.pages rfl hturns.vertical hturns.columnTop
  | nextSong _ =>
    have hturns := p.cursor.songBegun_turnsTo p.geometry
    exact .page hturns.pages rfl hturns.vertical hturns.columnTop

theorem Deeds.steps (h : Deeds p q) (hp : p.Tidy) : p.Steps q :=
  h.keep hp .refl fun hdeed htidy hsteps => hsteps.tail (hdeed.step htidy)

theorem Outcome.steps {headings : Bool} (h : Outcome headings p q) (hp : p.Tidy) : p.Steps q := by
  have htidy := h.tidy hp
  cases h with
  | deeds h => exact h.steps hp
  | @row m c ds h _ hc _ =>
    refine .tail (h.steps hp) ⟨?_, rfl, htidy.blankSpace_nonneg⟩
    rcases hc with rfl | ⟨rowSize, -, rfl⟩
    · exact .down rfl rfl le_rfl (.inl rfl)
    · rw [Cursor.openChorus_eq]
      exact .down rfl rfl le_rfl (.inl rfl)
  | heading _ ha _ =>
    exact .single ⟨.down rfl rfl (sub_le_self _ ha) (.inl rfl), rfl, htidy.blankSpace_nonneg⟩
  | pending => exact .single ⟨.down rfl rfl le_rfl (.inl rfl), rfl, htidy.blankSpace_nonneg⟩
  | columns count =>
    exact .single ⟨.down rfl rfl le_rfl (.inr (.inl rfl)), rfl, htidy.blankSpace_nonneg⟩

/-! ## Rows of the page -/

/-- A row of the open page stands at that point: nothing but content has been drawn since. -/
def RowOn (ds : List (Drawing Rat)) (point : Point Rat) : Prop :=
  ∃ before row after, ds = before ++ .moveTo point :: row :: after ∧ row.isRow = true ∧
    ∀ d ∈ after, d.isContent = true

/-- The cursor or a column to its left is as low as every row of the page. -/
def Place.BelowRows (p : Place) : Prop :=
  ∀ point, RowOn p.drawn point → min p.cursor.lowest p.cursor.vertical ≤ point.v

theorem isContent_of_isRow {d : Drawing Rat} (h : d.isRow = true) : d.isContent = true := by
  cases d <;> first | rfl | cases h

variable {ds es : List (Drawing Rat)} {d : Drawing Rat} {point : Point Rat}

theorem rowOn_concat_iff : RowOn (ds ++ [d]) point ↔ d.isContent = true ∧
    (RowOn ds point ∨ d.isRow = true ∧ ∃ before, ds = before ++ [.moveTo point]) := by
  constructor
  · rintro ⟨before, row, after, hds, hrow, hafter⟩
    rcases List.eq_nil_or_concat after with rfl | ⟨after, e, rfl⟩
    · have hlists : ds ++ [d] = (before ++ [.moveTo point]) ++ [row] := by simpa using hds
      obtain ⟨rfl, hlast⟩ := List.append_inj' hlists rfl
      obtain rfl : d = row := by simpa using hlast
      exact ⟨isContent_of_isRow hrow, .inr ⟨hrow, before, rfl⟩⟩
    · have hlists : ds ++ [d] = (before ++ .moveTo point :: row :: after) ++ [e] := by
        simpa using hds
      obtain ⟨rfl, hlast⟩ := List.append_inj' hlists rfl
      obtain rfl : d = e := by simpa using hlast
      refine ⟨hafter d (by simp), .inl ⟨before, row, after, rfl, hrow, fun e he => ?_⟩⟩
      exact hafter e (by simp [he])
  · rintro ⟨hd, ⟨before, row, after, rfl, hrow, hafter⟩ | ⟨hrow, before, rfl⟩⟩
    · refine ⟨before, row, after ++ [d], by simp, hrow, fun e he => ?_⟩
      rcases List.mem_append.1 he with he | he
      · exact hafter e he
      · rwa [List.mem_singleton.1 he]
    · exact ⟨before, d, [], by simp, hrow, List.forall_mem_nil _⟩

theorem rowOn_of_rowless (hes : ∀ e ∈ es, e.isRow = false) (h : RowOn (ds ++ es) point) :
    RowOn ds point := by
  induction es using List.reverseRecOn with
  | nil => rwa [List.append_nil] at h
  | append_singleton es e ih =>
    rw [← List.append_assoc, rowOn_concat_iff, hes e (by simp)] at h
    obtain ⟨-, h | ⟨hrow, -⟩⟩ := h
    · exact ih (fun d hd => hes d (by simp [hd])) h
    · cases hrow

theorem rowOn_row {h v : Rat} {row : Drawing Rat}
    (hrow : RowOn (ds ++ [.moveTo ⟨h, v⟩, row]) point) : RowOn ds point ∨ point.v = v := by
  have hlist : ds ++ [.moveTo ⟨h, v⟩, row] = (ds ++ [.moveTo ⟨h, v⟩]) ++ [row] := by simp
  rw [hlist, rowOn_concat_iff] at hrow
  obtain ⟨-, hrow | ⟨-, before, hbefore⟩⟩ := hrow
  · exact .inl (rowOn_of_rowless (by simp [Drawing.isRow]) hrow)
  · have hlast := (List.append_inj' hbefore rfl).2
    simp only [List.cons.injEq, Drawing.moveTo.injEq, and_true] at hlast
    exact .inr (hlast ▸ rfl)

/-- The points of the rows of the open page, and the point that was moved to last if nothing has
been drawn there. -/
def rowStep (rows : List (Point Rat) × Option (Point Rat)) :
    Drawing Rat → List (Point Rat) × Option (Point Rat)
  | .moveTo point => (rows.1, some point)
  | d => (if d.isContent then rows.1 ++ (if d.isRow then rows.2.toList else []) else [], none)

/-- Where the rows of the open page stand. -/
def rowsOn (ds : List (Drawing Rat)) : List (Point Rat) := (ds.foldl rowStep ([], none)).1

theorem mem_rowsOn_iff : point ∈ rowsOn ds ↔ RowOn ds point := by
  suffices hrows : (point ∈ (ds.foldl rowStep ([], none)).1 ↔ RowOn ds point) ∧
      ((ds.foldl rowStep ([], none)).2 = some point ↔ ∃ before, ds = before ++ [.moveTo point]) from
    hrows.1
  induction ds using List.reverseRecOn with
  | nil => simp [RowOn]
  | append_singleton ds d ih =>
    have hlast : (∃ before, ds ++ [d] = before ++ [.moveTo point]) ↔ d = .moveTo point := by
      constructor
      · rintro ⟨before, h⟩
        simpa using (List.append_inj' h rfl).2
      · rintro rfl
        exact ⟨ds, rfl⟩
    rw [List.foldl_append, List.foldl_cons, List.foldl_nil, rowOn_concat_iff, hlast, ← ih.1, ← ih.2]
    cases d <;> simp [rowStep, Drawing.isContent, Drawing.isRow, eq_comm]

/-- A page begins without rows. -/
theorem Place.Turning.not_rowOn (h : p.Turning es) : ¬ RowOn (ds ++ es) point := by
  obtain ⟨foot, head, last, rfl, -, -, hlast⟩ := h
  have hlist : ds ++ (foot ++ (p.bar ++ (head ++ [last]))) =
      (ds ++ (foot ++ (p.bar ++ head))) ++ [last] := by simp
  rw [hlist, rowOn_concat_iff, hlast]
  rintro ⟨h, -⟩
  cases h

theorem lower_eq_min (a b : Rat) : Length.lower a b = min a b := by
  unfold Length.lower
  split
  · exact (min_eq_left ‹_›).symm
  · rw [if_pos (beq_self_eq_true b)]
    exact (min_eq_right (not_le.1 ‹_›).le).symm

namespace Place.BelowRows

theorem of_le (h : p.BelowRows)
    (hle : min q.cursor.lowest q.cursor.vertical ≤ min p.cursor.lowest p.cursor.vertical)
    (hrows : ∀ point, RowOn q.drawn point → RowOn p.drawn point) : q.BelowRows :=
  fun point hrow => hle.trans (h point (hrows point hrow))

theorem moved (h : p.BelowRows) {c : Cursor Rat} (hlowest : c.lowest = p.cursor.lowest)
    (hvertical : c.vertical ≤ p.cursor.vertical) (hes : ∀ e ∈ es, e.isRow = false) :
    (p.moved c es).BelowRows := by
  refine h.of_le ?_ fun point => rowOn_of_rowless hes
  show min c.lowest c.vertical ≤ _
  rw [hlowest]
  exact min_le_min le_rfl hvertical

/-- A row stands where the cursor stood, and the cursor does not go up from there. -/
theorem rowPrinted (h : p.BelowRows) {c : Cursor Rat} {left : Rat} {row : Drawing Rat}
    (hlowest : c.lowest = p.cursor.lowest) (hvertical : c.vertical ≤ p.cursor.vertical) :
    (p.moved c [.moveTo ⟨left, p.cursor.vertical⟩, row]).BelowRows := by
  intro point hrow
  show min c.lowest c.vertical ≤ point.v
  rcases rowOn_row hrow with hold | hnew
  · rw [hlowest]
    exact (min_le_min le_rfl hvertical).trans (h point hold)
  · rw [hnew]
    exact (min_le_right _ _).trans hvertical

end Place.BelowRows

theorem Deed.belowRows (h : Deed p q) (hp : p.Tidy) (hrows : p.BelowRows) : q.BelowRows := by
  cases h with
  | down ha => exact hrows.moved rfl (sub_le_self _ ha) (List.forall_mem_nil _)
  | owe ha => exact hrows.moved rfl le_rfl (List.forall_mem_nil _)
  | pay => exact hrows.moved rfl (sub_le_self _ hp.blankSpace_nonneg) (List.forall_mem_nil _)
  | draw _ _ hrow => exact hrows.moved rfl le_rfl (by simpa using hrow)
  | enter =>
    -- what is left behind in this column counts as the lowest place from now on
    refine hrows.of_le ?_ fun point => id
    show min (Length.lower _ _) p.cursor.columnTop ≤ _
    rw [lower_eq_min]
    exact min_le_left _ _
  | stop =>
    refine hrows.moved rfl le_rfl ?_
    unfold Place.bar
    split <;> simp [Drawing.isRow]
  | turn h => exact fun point hrow => absurd hrow h.not_rowOn
  | nextSong h => exact fun point hrow => absurd hrow h.not_rowOn

theorem Deeds.belowRows (h : Deeds p q) (hp : p.Tidy) (hrows : p.BelowRows) : q.BelowRows :=
  h.keep hp hrows Deed.belowRows

theorem Outcome.belowRows {headings : Bool} (h : Outcome headings p q) (hp : p.Tidy)
    (hrows : p.BelowRows) : q.BelowRows := by
  cases h with
  | deeds h => exact h.belowRows hp hrows
  | @row m c ds h _ hc hds =>
    have hm := h.belowRows hp hrows
    have hcursor : c.lowest = m.cursor.lowest ∧ c.vertical ≤ m.cursor.vertical := by
      rcases hc with rfl | ⟨rowSize, -, rfl⟩
      · exact ⟨rfl, le_rfl⟩
      · rw [Cursor.openChorus_eq]
        exact ⟨rfl, le_rfl⟩
    rcases hds with rfl | ⟨left, row, -, rfl⟩
    · exact hm.moved hcursor.1 hcursor.2 (List.forall_mem_nil _)
    · exact hm.rowPrinted hcursor.1 hcursor.2
  | heading _ ha _ => exact hrows.rowPrinted rfl (sub_le_self _ ha)
  | pending => exact hrows.moved rfl le_rfl (List.forall_mem_nil _)
  | columns count => exact hrows.moved rfl le_rfl (List.forall_mem_nil _)

/-! ## Before the first page -/

namespace Typeset

open Session

section

variable {L : Type} [Length L] {settings : Settings L}

end

/-! ## Along a run -/

variable {settings : Settings Rat} {s : Session Rat}

theorem begun_belowRows (h : s.IsBegun settings) : s.place.BelowRows := by
  obtain ⟨s, log, hs, rfl⟩ := h
  have hcursor : s.document.cursor.slot = 0 ∧ s.document.cursor.sheets = 0 := by
    rw [hs.cursor]
    exact ⟨rfl, rfl⟩
  have hstart := pageStart_not_content s
  rw [pageStart, hcursor.1, hcursor.2, if_pos rfl] at hstart
  have hdrawn : (s.withFirstPage log).place.drawn = [] ++ .beginDocument s.document.geometry ::
      (Drawing.sheetOpening s.document.geometry s.document.cursor.pagination 1 ++
        Drawing.pageOpening s.document.geometry s.document.cursor.pagination 1) := by
    refine (moved_received _ _ _ _).trans ?_
    show s.device.received.toList ++ _ = _
    rw [hs.device]
    rfl
  intro point hrow
  rw [hdrawn] at hrow
  obtain ⟨before, row, after, hnil, -⟩ := rowOn_of_rowless
    (List.forall_mem_cons.2 ⟨rfl, fun d hd => isRow_of_not_content (hstart d hd)⟩) hrow
  simp at hnil

/-- All through a run the cursor or a column to its left is as low as every row of the page. -/
theorem moments_belowRows {first : Session Rat} {os : List Order} (hbegun : first.IsBegun settings)
    (hlegible : ∀ m ∈ first.moments os, m.Legible) : ∀ m ∈ first.moments os, m.place.BelowRows := by
  refine moments_keep (I := fun m => m.place.BelowRows) (begun_belowRows hbegun) ?_
  intro m hm o hrows
  obtain ⟨hsong, htidy⟩ := moments_tidy hbegun hlegible m hm
  exact (follow_outcome hsong (hlegible m hm) o).belowRows htidy hrows

end Typeset

end Songbook
