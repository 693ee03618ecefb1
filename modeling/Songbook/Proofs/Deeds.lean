import Songbook.Proofs.PageEnds
import Songbook.Proofs.RowPairs

/-!
# What happens on a page

Of a session its pages show the cursor, what has been drawn and how many columns have been entered:
its place. As long as no row is printed a place changes by a few deeds (`Deed`): the cursor goes
down its column or to the next one, room is owed or paid, a diagram is drawn, a bar is ended or the
page is turned. A row is printed after such deeds and at a place of its own; `Outcome` lists all
that may come of one order.
-/

namespace Songbook

/-- The bar of a running chorus begins anew at the top of a page. -/
def Chorus.atTop (c : Chorus Rat) (top : Rat) : Chorus Rat :=
  match c with
  | .running _ => .running top
  | other => other

/-- A chorus has begun, and its bar has perhaps not. -/
def Chorus.IsOn {L : Type} (c : Chorus L) : Prop := c ≠ .off

instance {L : Type} (c : Chorus L) : Decidable c.IsOn :=
  match c with
  | .off => isFalse fun h => h rfl
  | .pending => isTrue nofun
  | .running _ => isTrue nofun

theorem Chorus.isOn_atTop (c : Chorus Rat) (top : Rat) : (c.atTop top).IsOn ↔ c.IsOn := by
  cases c <;> simp [atTop, IsOn]

namespace Cursor

/-- From `c` on one page to `d` at the top of the next. -/
structure TurnsTo (c d : Cursor Rat) (g : PageGeometry Rat) (chorus : Chorus Rat) : Prop where
  vertical : d.vertical = g.top
  columnTop : d.columnTop = c.columnTop ∨ d.columnTop = g.top
  blankSpace : d.blankSpace = c.blankSpace
  pages : d.pages = c.pages + 1
  chorus : d.chorus = chorus

variable (c : Cursor Rat) (g : PageGeometry Rat)

theorem left_eq (sheetToo : Bool) : ∃ slot pageLabel column lowest, ∃ columnTop : Rat,
    (columnTop = c.columnTop ∨ columnTop = g.top) ∧
      c.left g sheetToo = { c with slot, pageLabel, column, lowest, columnTop } := by
  rcases c.left_cases g sheetToo with hleft | hleft | hleft <;> rw [hleft]
  · exact ⟨_, _, _, _, _, .inl rfl, rfl⟩
  · exact ⟨_, _, _, _, _, .inr rfl, rfl⟩
  · exact ⟨_, _, _, _, _, .inr rfl, rfl⟩

theorem begun_turnsTo : c.TurnsTo (c.begun g) g (c.chorus.atTop g.top) := by
  have hcount : ∃ slot sheets sheetLabel pageLabel, c.countPage =
      { c with slot, sheets, sheetLabel, pageLabel, pages := c.pages + 1 } := by
    unfold countPage
    dsimp only
    split <;> exact ⟨_, _, _, _, rfl⟩
  obtain ⟨slot, sheets, sheetLabel, pageLabel, hcount⟩ := hcount
  unfold begun toPageTop
  rw [hcount]
  refine ⟨rfl, .inl rfl, rfl, rfl, ?_⟩
  dsimp only
  cases c.chorus <;> rfl

theorem turned_turnsTo (sheetToo : Bool) :
    c.TurnsTo (c.turned g sheetToo) g (c.chorus.atTop g.top) := by
  obtain ⟨slot, pageLabel, column, lowest, columnTop, htop, hleft⟩ := c.left_eq g sheetToo
  have hbegun := (c.left g sheetToo).begun_turnsTo g
  rw [hleft] at hbegun
  rw [turned, hleft]
  exact ⟨hbegun.vertical, hbegun.columnTop.elim (fun h => htop.imp h.trans h.trans) .inr,
    hbegun.blankSpace, hbegun.pages, hbegun.chorus⟩

theorem songBegun_turnsTo : c.TurnsTo (c.songBegun g) g .off := by
  obtain ⟨slot, pageLabel, column, lowest, columnTop, htop, hleft⟩ := c.left_eq g false
  have hbegun := { c.left g false with songPages := 0, chorus := .off }.begun_turnsTo g
  rw [hleft] at hbegun
  rw [songBegun, hleft]
  exact ⟨hbegun.vertical, hbegun.columnTop.elim (fun h => htop.imp h.trans h.trans) .inr,
    hbegun.blankSpace, hbegun.pages, hbegun.chorus⟩

end Cursor

/-- A text or a row of chords. -/
def Drawing.isRow {L : Type} : Drawing L → Bool
  | .text .. | .chords .. => true
  | _ => false

/-- If it is a stroke, it goes from one point to another that is not above it. -/
def Drawing.Falls : Drawing Rat → Prop
  | .stroke [p, q] _ => q.v ≤ p.v
  | .stroke _ _ => False
  | _ => True

/-- The entry of a column. -/
def LogEntry.isColumn {L : Type} : LogEntry L → Bool
  | .column _ => true
  | _ => false

/-- What of a session its pages show. -/
structure Place where
  geometry : PageGeometry Rat
  cursor : Cursor Rat
  drawn : List (Drawing Rat)
  /-- The number of columns entered, the first ones of the pages left out. -/
  entered : Nat

namespace Place

/-- With the cursor elsewhere and more drawn. -/
def moved (p : Place) (c : Cursor Rat) (ds : List (Drawing Rat)) : Place :=
  { p with cursor := c, drawn := p.drawn ++ ds }

/-- The bar of a running chorus, down to the cursor. -/
def bar (p : Place) : List (Drawing Rat) :=
  match p.cursor.chorus with
  | .running top =>
    [.stroke [⟨p.cursor.horizontal - Typeset.barOffset, top⟩,
      ⟨p.cursor.horizontal - Typeset.barOffset, p.cursor.vertical⟩] 1]
  | _ => []

/-- What is drawn from the foot of a page to the beginning of the next: the bar stands between
drawings whose strokes fall, and the last of them is part of no page. -/
def Turning (p : Place) (ds : List (Drawing Rat)) : Prop :=
  ∃ foot head last, ds = foot ++ (p.bar ++ (head ++ [last])) ∧
    (∀ d ∈ foot, d.isContent ∧ d.Falls) ∧ (∀ d ∈ head, d.Falls) ∧ last.isContent = false

end Place

/-- One thing that happens on a page, without a row being printed. -/
inductive Deed : Place → Place → Prop
  | down {p : Place} {amount : Rat} (h : 0 ≤ amount) : Deed p (p.moved (p.cursor.down amount) [])
  | owe {p : Place} {amount : Rat} (h : 0 ≤ amount) :
      Deed p (p.moved { p.cursor with blankSpace := p.cursor.blankSpace + amount } [])
  | pay {p : Place} :
      Deed p (p.moved { p.cursor.down p.cursor.blankSpace with blankSpace := 0 } [])
  | draw {p : Place} {d : Drawing Rat} (h : d.isContent) (hfalls : d.Falls)
      (hrow : d.isRow = false) : Deed p (p.moved p.cursor [d])
  | enter {p : Place} : Deed p
      { p with cursor := p.cursor.nextColumn p.geometry, entered := p.entered + 1 }
  /-- The bar of a chorus is drawn, and the chorus is over. -/
  | stop {p : Place} : Deed p (p.moved { p.cursor with chorus := .off } p.bar)
  | turn {p : Place} {sheetToo : Bool} {ds : List (Drawing Rat)} (h : p.Turning ds) :
      Deed p (p.moved (p.cursor.turned p.geometry sheetToo) ds)
  | nextSong {p : Place} {ds : List (Drawing Rat)} (h : p.Turning ds) :
      Deed p (p.moved (p.cursor.songBegun p.geometry) ds)

abbrev Deeds : Place → Place → Prop := Relation.ReflTransGen Deed

/-- Where a row may stand: not below the bottom margin, at the top of a column or of the page. -/
def Place.IsRowPlace (p : Place) : Prop :=
  p.geometry.bottom ≤ p.cursor.vertical ∨ p.cursor.vertical = p.cursor.columnTop ∨
    p.cursor.vertical = p.geometry.top

/-- All that an order may end in; only some orders print headings. -/
inductive Outcome (headings : Bool) (p : Place) : Place → Prop
  | deeds {q : Place} (h : Deeds p q) : Outcome headings p q
  /-- A line of lyrics, a row of chords, unless those are left out, or a comment; the first two
  begin the bar of a pending chorus. -/
  | row {q : Place} {c : Cursor Rat} {ds : List (Drawing Rat)} (h : Deeds p q) (hq : q.IsRowPlace)
      (hc : c = q.cursor ∨ ∃ rowSize : Rat, 0 ≤ rowSize ∧ c = q.cursor.openChorus rowSize)
      (hds : ds = [] ∨ ∃ h row, row.isRow ∧ ds = [.moveTo ⟨h, q.cursor.vertical⟩, row]) :
      Outcome headings p (q.moved c ds)
  /-- A title or a subtitle, printed where the cursor stands. -/
  | heading {amount h : Rat} {row : Drawing Rat} (hprints : headings = true) (ha : 0 ≤ amount)
      (hrow : row.isRow) :
      Outcome headings p (p.moved (p.cursor.down amount) [.moveTo ⟨h, p.cursor.vertical⟩, row])
  | pending : Outcome headings p (p.moved { p.cursor with chorus := .pending } [])
  | columns (count : Nat) :
      Outcome headings p (p.moved (p.cursor.setColumns count p.geometry) [])

/-! ## What deeds keep -/

namespace Place

/-- The cursor and the tops of columns are on the page, and no room is owed twice. -/
structure Tidy (p : Place) : Prop where
  vertical_le : p.cursor.vertical ≤ p.geometry.top
  columnTop_le : p.cursor.columnTop ≤ p.geometry.top
  blankSpace_nonneg : 0 ≤ p.cursor.blankSpace

variable {p : Place}

theorem Tidy.of_turnsTo {c : Cursor Rat} {chorus : Chorus Rat} (hp : p.Tidy)
    (h : p.cursor.TurnsTo c p.geometry chorus) (ds : List (Drawing Rat)) : (p.moved c ds).Tidy where
  vertical_le := h.vertical.le
  columnTop_le := h.columnTop.elim (fun htop => htop.trans_le hp.columnTop_le) le_of_eq
  blankSpace_nonneg := h.blankSpace.symm ▸ hp.blankSpace_nonneg

end Place

variable {p q : Place}

theorem Deed.tidy (h : Deed p q) (hp : p.Tidy) : q.Tidy := by
  obtain ⟨hvertical, htop, hspace⟩ := hp
  cases h with
  | down ha =>
    refine ⟨?_, htop, hspace⟩
    show p.cursor.vertical - _ ≤ p.geometry.top
    linarith
  | owe ha => exact ⟨hvertical, htop, add_nonneg hspace ha⟩
  | pay =>
    refine ⟨?_, htop, le_rfl⟩
    show p.cursor.vertical - p.cursor.blankSpace ≤ p.geometry.top
    linarith
  | draw _ _ _ => exact ⟨hvertical, htop, hspace⟩
  | enter => exact ⟨htop, htop, hspace⟩
  | stop => exact ⟨hvertical, htop, hspace⟩
  | turn _ => exact .of_turnsTo ⟨hvertical, htop, hspace⟩ (p.cursor.turned_turnsTo _ _) _
  | nextSong _ => exact .of_turnsTo ⟨hvertical, htop, hspace⟩ (p.cursor.songBegun_turnsTo _) _

theorem Deeds.tidy (h : Deeds p q) (hp : p.Tidy) : q.Tidy := by
  induction h with
  | refl => exact hp
  | tail _ hlast ih => exact hlast.tidy ih

/-- From a tidy place on, what each deed keeps holds. -/
theorem Deeds.keep {I : Place → Prop} (h : Deeds p q) (hp : p.Tidy) (hI : I p)
    (step : ∀ {m r}, Deed m r → m.Tidy → I m → I r) : I q := by
  induction h with
  | refl => exact hI
  | tail hdeeds hlast ih => exact step hlast (Deeds.tidy hdeeds hp) ih

theorem Outcome.tidy {headings : Bool} (h : Outcome headings p q) (hp : p.Tidy) : q.Tidy := by
  cases h with
  | deeds h => exact h.tidy hp
  | @row m c ds h _ hc _ =>
    obtain ⟨hvertical, htop, hspace⟩ := h.tidy hp
    rcases hc with rfl | ⟨rowSize, -, rfl⟩
    · exact ⟨hvertical, htop, hspace⟩
    · rw [Cursor.openChorus_eq]
      exact ⟨hvertical, htop, hspace⟩
  | heading _ ha _ =>
    obtain ⟨hvertical, htop, hspace⟩ := hp
    refine ⟨?_, htop, hspace⟩
    show p.cursor.vertical - _ ≤ p.geometry.top
    linarith
  | pending => exact ⟨hp.vertical_le, hp.columnTop_le, hp.blankSpace_nonneg⟩
  | columns count => exact ⟨hp.vertical_le, hp.vertical_le, hp.blankSpace_nonneg⟩

theorem Deeds.geometry (h : Deeds p q) : q.geometry = p.geometry := by
  induction h with
  | refl => rfl
  | tail _ hlast ih =>
    refine Eq.trans ?_ ih
    cases hlast <;> rfl

/-! ## Where rows stand -/

/-- From `p` to `q` a row is printed last, at that point. -/
def Place.RowAt (p q : Place) (point : Point Rat) : Prop :=
  ∃ before row, row.isRow ∧ q.drawn = p.drawn ++ (before ++ [.moveTo point, row])

/-- More has been drawn, and the last of it is no row. -/
def Place.Rowless (p q : Place) : Prop :=
  ∃ ds, q.drawn = p.drawn ++ ds ∧ ∀ d ∈ ds.getLast?, d.isRow = false

theorem isRow_of_not_content {d : Drawing Rat} (h : d.isContent = false) : d.isRow = false := by
  cases d <;> first | rfl | cases h

theorem Place.Turning.rowless {ds : List (Drawing Rat)} (h : p.Turning ds) (c : Cursor Rat) :
    p.Rowless (p.moved c ds) := by
  obtain ⟨foot, head, last, rfl, -, -, hlast⟩ := h
  refine ⟨_, rfl, ?_⟩
  simpa using isRow_of_not_content hlast

theorem Deed.rowless (h : Deed p q) : p.Rowless q := by
  cases h with
  | draw _ _ hrow => exact ⟨_, rfl, by simpa using hrow⟩
  | enter => exact ⟨[], (List.append_nil _).symm, by simp⟩
  | stop =>
    refine ⟨_, rfl, ?_⟩
    unfold Place.bar
    split <;> simp [Drawing.isRow]
  | turn h => exact h.rowless _
  | nextSong h => exact h.rowless _
  | _ => exact ⟨_, rfl, by simp⟩

theorem Deeds.rowless (h : Deeds p q) : p.Rowless q := by
  induction h with
  | refl => exact ⟨[], (List.append_nil _).symm, by simp⟩
  | tail _ hlast ih =>
    obtain ⟨ds, hds, hno⟩ := ih
    obtain ⟨es, hes, hlast⟩ := hlast.rowless
    refine ⟨ds ++ es, by rw [hes, hds, List.append_assoc], fun d hd => ?_⟩
    rw [List.getLast?_append] at hd
    rcases hes : es.getLast? with _ | e
    · exact hno d (by simpa [hes] using hd)
    · exact hlast d (by simpa [hes] using hd)

/-- Where nothing was drawn but deeds, there is no row. -/
theorem Place.Rowless.not_rowAt (h : p.Rowless q) (point : Point Rat) : ¬ p.RowAt q point := by
  rintro ⟨before, row, hrow, hdrawn⟩
  obtain ⟨ds, hds, hno⟩ := h
  obtain rfl : ds = before ++ [.moveTo point, row] := by
    rwa [hds, List.append_cancel_left_eq] at hdrawn
  simp [hrow] at hno

theorem Place.rowAt_moved {m : Place} {c : Cursor Rat} {h : Rat} {row : Drawing Rat}
    {point : Point Rat} (hm : p.Rowless m)
    (hrow : p.RowAt (m.moved c [.moveTo ⟨h, m.cursor.vertical⟩, row]) point) :
    point.v = m.cursor.vertical := by
  obtain ⟨ds, hds, -⟩ := hm
  obtain ⟨before, row', -, hdrawn⟩ := hrow
  have hlists : ds ++ [.moveTo ⟨h, m.cursor.vertical⟩, row] = before ++ [.moveTo point, row'] := by
    have hdrawn : m.drawn ++ _ = p.drawn ++ (before ++ [.moveTo point, row']) := hdrawn
    rwa [hds, List.append_assoc, List.append_cancel_left_eq] at hdrawn
  have hlast := (List.append_inj' hlists rfl).2
  simp only [List.cons.injEq, Drawing.moveTo.injEq] at hlast
  rw [← hlast.1]

/-- A row stands where the way down has led, or it is a title and stands where the cursor stood. -/
theorem Outcome.rowAt {headings : Bool} {point : Point Rat} (h : Outcome headings p q)
    (hrow : p.RowAt q point) : headings = true ∧ point.v = p.cursor.vertical ∨
      ∃ m, Deeds p m ∧ m.IsRowPlace ∧ point.v = m.cursor.vertical := by
  cases h with
  | deeds h => exact absurd hrow (h.rowless.not_rowAt point)
  | @row m c ds h hm _ hds =>
    rcases hds with rfl | ⟨left, row, -, rfl⟩
    · have hnone : p.Rowless (m.moved c []) := by
        obtain ⟨ds, hds, hno⟩ := h.rowless
        exact ⟨ds, (List.append_nil _).trans hds, hno⟩
      exact absurd hrow (hnone.not_rowAt point)
    · exact .inr ⟨m, h, hm, Place.rowAt_moved h.rowless hrow⟩
  | heading hprints _ _ => exact .inl ⟨hprints, Place.rowAt_moved (Deeds.rowless .refl) hrow⟩
  | pending => exact absurd hrow (Place.Rowless.not_rowAt ⟨[], rfl, by simp⟩ point)
  | columns count => exact absurd hrow (Place.Rowless.not_rowAt ⟨[], rfl, by simp⟩ point)

end Songbook
