import Songbook.Proofs.Moves

/-!
# Page ends as functions of the session

On a device that refuses nothing a page ends with its running title, its number and the bar of an
open chorus, and a sheet with its number (`endPage_eq`, `endSheet_eq`). With what the next page
begins with (`startPage_eq`) this makes turning a page, breaking a column and going down functions
of the session (`turnPage_eq`, `breakColumn_broken`, `advance_advanced`, `payBlankSpace_paid`).
-/

namespace Songbook

variable {L : Type} [Length L]

namespace Session

/-- The number of a page under its rule. -/
def numberMark (s : Session L) (number : Int) : List (Drawing L) :=
  let g := s.document.geometry
  let (h, align) :=
    if s.settings.evenPagesLeft && number % 2 == 0 then (Typeset.numberInset, Align.left)
    else (g.width - Typeset.numberInset, .right)
  [.stroke [⟨g.left, g.bottom - 10⟩, ⟨g.width - g.left, g.bottom - 10⟩] 1,
    .moveTo ⟨h, g.bottom / 3⟩,
    .text ("Page " ++ toString number) .text (Typeset.footerFont s.document) align .plain]

/-- The running title at the foot of a page. -/
def titleMark (s : Session L) : List (Drawing L) :=
  match s.document.modes.title with
  | some title =>
    if 1 < s.document.cursor.songPages then
      [.moveTo ⟨s.document.geometry.width / 2, s.document.geometry.bottom / 3⟩,
        .text title .text (Typeset.footerFont s.document) .center .plain]
    else []
  | none => []

/-- The bar of a running chorus, down to the cursor. -/
def bar (s : Session L) : List (Drawing L) :=
  match s.document.cursor.chorus with
  | .running top =>
    [.stroke [⟨s.document.cursor.horizontal - Typeset.barOffset, top⟩,
      ⟨s.document.cursor.horizontal - Typeset.barOffset, s.document.cursor.vertical⟩] 1]
  | _ => []

/-- The number that `n?` says, marked. -/
def marked (s : Session L) (n? : Option Int) : List (Drawing L) := n?.elim [] s.numberMark

/-- What a page ends with. -/
def pageFoot (s : Session L) : List (Drawing L) :=
  s.titleMark ++ ((if s.settings.numberPages then s.marked (Typeset.number? s.settings.numberAll
    s.document.cursor.pageLabel s.document.cursor.songPages) else []) ++ s.bar)

/-- What a sheet ends with. -/
def sheetFoot (s : Session L) : List (Drawing L) :=
  Drawing.sheetClosing s.document.cursor.pagination (if !s.settings.numberPages then
    s.marked (Typeset.number? s.settings.numberAll s.document.cursor.sheetLabel
      s.document.cursor.songPages) else []) s.document.cursor.sheets

/-- What a page ends with, and its sheet when it is full or `sheetToo`. -/
def pageEnd (s : Session L) (sheetToo : Bool) : List (Drawing L) :=
  s.pageFoot ++
    if s.document.cursor.pagination.perSheet ≤ s.document.cursor.slot || sheetToo then s.sheetFoot
    else []

/-- What the next page begins with. -/
def pageStart (s : Session L) : List (Drawing L) :=
  (if s.document.cursor.slot = 0 then Drawing.sheetOpening s.document.geometry
      s.document.cursor.pagination (s.document.cursor.sheets + 1) else []) ++
    Drawing.pageOpening s.document.geometry s.document.cursor.pagination
      (s.document.cursor.slot + 1)

/-- After the page has been ended. -/
def pageEnded (s : Session L) (sheetToo : Bool) : Session L :=
  s.moved (s.document.cursor.left s.document.geometry sheetToo) (s.pageEnd sheetToo) s.log

/-- After the next page has been begun. -/
def pageBegun (s : Session L) : Session L :=
  s.moved (s.document.cursor.begun s.document.geometry) s.pageStart
    (if s.document.cursor.slot = 0 then s.log.push (.sheet (s.document.cursor.sheets + 1))
      else s.log)

/-- After the page has been turned. -/
def turned (s : Session L) (sheetToo : Bool) : Session L := (s.pageEnded sheetToo).pageBegun

/-- After the column has been broken. -/
def broken (s : Session L) : Session L :=
  if s.document.cursor.onLastColumn then s.turned false
  else s.moved (s.document.cursor.nextColumn s.document.geometry) []
    (s.log.push (.column (s.document.cursor.column + 1)))

/-- After going down, to the next column from below the bottom margin. -/
def advanced (s : Session L) (amount : L) : Session L :=
  if (s.document.cursor.down amount).vertical < s.document.geometry.bottom then
    (s.moved (s.document.cursor.down amount) [] s.log).broken
  else s.moved (s.document.cursor.down amount) [] s.log

/-- After the room of blank lines has been left. -/
def paid (s : Session L) : Session L :=
  if s.document.cursor.blankSpace == 0 then
    s.moved { s.document.cursor with blankSpace := 0 } [] s.log
  else (s.moved { s.document.cursor with blankSpace := 0 } [] s.log).advanced
    s.document.cursor.blankSpace

variable (s : Session L)

theorem turned_cursor (sheetToo : Bool) :
    (s.turned sheetToo).document.cursor = s.document.cursor.turned s.document.geometry sheetToo :=
  rfl

theorem broken_cursor :
    s.broken.document.cursor = s.document.cursor.broken s.document.geometry := by
  unfold broken Cursor.broken
  split <;> rfl

theorem advanced_cursor (amount : L) : (s.advanced amount).document.cursor =
    s.document.cursor.advanced s.document.geometry amount := by
  unfold advanced Cursor.advanced
  split
  · exact broken_cursor (s.moved (s.document.cursor.down amount) [] s.log)
  · rfl

variable {s}

theorem OnPage.turned (h : s.OnPage) (sheetToo : Bool) : (s.turned sheetToo).OnPage :=
  ⟨h.unlimited, begun_slot_ne_zero _ s.document.geometry, h.inSong⟩

theorem OnPage.broken (h : s.OnPage) : s.broken.OnPage := by
  unfold Session.broken
  split
  · exact h.turned false
  · exact ⟨h.unlimited, h.isOpen, h.inSong⟩

theorem OnPage.advanced (h : s.OnPage) (amount : L) : (s.advanced amount).OnPage := by
  have hdown : (s.moved (s.document.cursor.down amount) [] s.log).OnPage :=
    ⟨h.unlimited, h.isOpen, h.inSong⟩
  unfold Session.advanced
  split
  · exact hdown.broken
  · exact hdown

end Session

namespace Typeset

variable {s : Session L}

/-- On a device that refuses nothing, and whatever else has been drawn, `x` makes the drawings `ds`
and leaves the cursor at `c`. -/
def Leaves (s : Session L) (x : Typeset L Unit) (c : Cursor L) (ds : List (Drawing L)) : Prop :=
  s.device.limit = none → ∀ before, x (s.drawn before) = .ok () (s.moved c (before ++ ds) s.log)

/-- The cursor stays where it is. -/
abbrev Draws (s : Session L) (x : Typeset L Unit) (ds : List (Drawing L)) : Prop :=
  Leaves s x s.document.cursor ds

section

variable {x : Typeset L Unit} {c : Cursor L} {ds es : List (Drawing L)}

omit [Length L]

theorem draws_nothing : Draws s (pure ()) [] := fun _ before => by
  rw [List.append_nil]
  rfl

theorem draws_draw (d : Drawing L) : Draws s (draw d) [d] := fun h before => by
  rw [draw_eq (s := s.drawn before) h, Session.drawn_drawn]
  rfl

theorem leaves_modifyCursor (f : Cursor L → Cursor L) :
    Leaves s (modifyCursor f) (f s.document.cursor) [] := fun _ before => by
  rw [modifyCursor_eq, Session.drawn_moved]
  rfl

namespace Leaves

theorem bind {f : Unit → Typeset L Unit} (hx : Draws s x ds) (hf : Leaves s (f ()) c es) :
    Leaves s (x >>= f) c (ds ++ es) := fun h before => by
  rw [bind_of_ok (hx h before), ← List.append_assoc]
  exact hf h (before ++ ds)

theorem optional {p : Prop} [Decidable p] {f : Unit → Typeset L Unit} (hx : Draws s x ds)
    (hf : Leaves s (f ()) c es) :
    Leaves s (if p then x >>= f else f ()) c ((if p then ds else []) ++ es) := by
  by_cases hp : p
  · rw [if_pos hp, if_pos hp]
    exact hx.bind hf
  · rw [if_neg hp, if_neg hp]
    exact hf

theorem read {f : Session L → Typeset L Unit} (hread : ∀ before, f (s.drawn before) = f s)
    (hf : Leaves s (f s) c ds) : Leaves s (get >>= f) c ds := fun h before => by
  rw [get_bind, hread]
  exact hf h before

theorem eq_ok (hx : Leaves s x c ds) (h : s.device.limit = none) :
    x s = .ok () (s.moved c ds s.log) := by
  have hnone := hx h []
  rwa [Session.drawn_nil] at hnone

end Leaves

end

theorem draws_pageNumber (n : Int) : Draws s (pageNumber n) (s.numberMark n) := by
  have hplaced : ∀ (a : L) (align : Align), Draws s (do
      moveTo a (s.document.geometry.bottom / 3)
      draw (.text ("Page " ++ toString n) .text (footerFont s.document) align .plain)) _ :=
    fun a align => .bind (draws_draw _) (draws_draw _)
  exact .read (fun _ => rfl) (.bind (draws_draw _) (hplaced _ _))

theorem draws_numbered (n? : Option Int) : Draws s (numbered n?) (s.marked n?) := by
  cases n? with
  | none => exact draws_nothing
  | some n => exact draws_pageNumber n

theorem draws_runningTitle : Draws s runningTitle s.titleMark := by
  unfold runningTitle Session.titleMark
  rw [document_bind]
  refine .read (fun _ => rfl) ?_
  cases s.document.modes.title with
  | none => exact draws_nothing
  | some title =>
    dsimp only
    split
    · exact .bind (draws_draw _) (draws_draw _)
    · exact draws_nothing

theorem draws_chorusBar {top : L} (hchorus : s.document.cursor.chorus = .running top) :
    Draws s (chorusBar top) s.bar := by
  unfold Session.bar
  rw [hchorus]
  exact .read (fun _ => rfl) (draws_draw _)

/-- An open sheet ends with its number. -/
theorem leaves_endSheet (hs : s.document.cursor.slot ≠ 0) :
    Leaves s endSheet s.document.cursor.leaveSheet s.sheetFoot := by
  have hfoot : s.sheetFoot = (if s.document.cursor.pagination ≠ .one then [.resetTransform] else [])
      ++ ((if !s.settings.numberPages then s.marked (number? s.settings.numberAll
        s.document.cursor.sheetLabel s.document.cursor.songPages) else []) ++
      ([.endSheet s.document.cursor.sheets] ++ [])) := by
    simp [Session.sheetFoot, Drawing.sheetClosing]
  rw [hfoot]
  refine .read (fun _ => rfl) ?_
  rw [if_neg hs]
  exact .optional (draws_draw _) (.optional (draws_numbered _)
    (.bind (draws_draw _) (leaves_modifyCursor _)))

theorem leaves_closing (hs : s.document.cursor.slot ≠ 0) (sheetToo : Bool) :
    Leaves s (do
      if s.document.cursor.pagination.perSheet ≤ s.document.cursor.slot || sheetToo then endSheet
      modifyCursor (·.leavePage s.document.geometry))
      (s.document.cursor.left s.document.geometry sheetToo)
      (if s.document.cursor.pagination.perSheet ≤ s.document.cursor.slot || sheetToo then s.sheetFoot
        else []) := by
  unfold Cursor.left
  rw [if_neg hs]
  dsimp only
  split
  · intro h before
    rw [bind_of_ok (leaves_endSheet hs h before), modifyCursor_eq, Session.moved_moved,
      List.append_nil]
    rfl
  · exact leaves_modifyCursor _

/-- An open page ends with what stands at its foot and beside its chorus, and perhaps with its
sheet. -/
theorem leaves_endPage (hs : s.document.cursor.slot ≠ 0) (sheetToo : Bool) :
    Leaves s (endPage sheetToo) (s.document.cursor.left s.document.geometry sheetToo)
      (s.pageEnd sheetToo) := by
  have hbar : Leaves s (do
      match s.document.cursor.chorus with
      | .running top => chorusBar top
      | _ => pure ()
      if s.document.cursor.pagination.perSheet ≤ s.document.cursor.slot || sheetToo then endSheet
      modifyCursor (·.leavePage s.document.geometry))
      (s.document.cursor.left s.document.geometry sheetToo)
      (s.bar ++ if s.document.cursor.pagination.perSheet ≤ s.document.cursor.slot || sheetToo then
        s.sheetFoot else []) := by
    dsimp only
    rcases hchorus : s.document.cursor.chorus with _ | _ | top
    · simpa [Session.bar, hchorus] using leaves_closing hs sheetToo
    · simpa [Session.bar, hchorus] using leaves_closing hs sheetToo
    · exact .bind (draws_chorusBar hchorus) (leaves_closing hs sheetToo)
  unfold Session.pageEnd Session.pageFoot
  rw [List.append_assoc, List.append_assoc]
  refine .read (fun _ => rfl) ?_
  rw [if_neg hs]
  exact .bind draws_runningTitle (.optional (draws_numbered _) hbar)

theorem endPage_eq (h : s.device.limit = none) (hs : s.document.cursor.slot ≠ 0)
    (sheetToo : Bool) : endPage sheetToo s = .ok () (s.pageEnded sheetToo) :=
  (leaves_endPage hs sheetToo).eq_ok h

theorem leaves_shift (g : PageGeometry L) (p : Pagination) (slot : Nat) :
    Leaves s (match g.shift? p slot with
      | some (h, v) => do
        draw (.transform (.translate h v))
        modifyCursor (·.toPageTop g)
      | none => modifyCursor (·.toPageTop g)) (s.document.cursor.toPageTop g)
      (Drawing.pageOpening g p slot) := by
  unfold Drawing.pageOpening
  rcases g.shift? p slot with _ | ⟨right, up⟩
  · exact leaves_modifyCursor _
  · exact .bind (draws_draw _) (leaves_modifyCursor _)

theorem leaves_sheetOpening (number : Nat) {x : Typeset L Unit} {c : Cursor L}
    {ds : List (Drawing L)} (hx : Leaves s x c ds) :
    Leaves s (do
      draw (.beginSheet number)
      if s.document.cursor.pagination ≠ .one then
        draw (.transform (.scaleRotate (s.document.geometry.scale s.document.cursor.pagination)
          (PageGeometry.rotation s.document.cursor.pagination)))
      x) c
      (Drawing.sheetOpening s.document.geometry s.document.cursor.pagination number ++ ds) := by
  have hopening : Drawing.sheetOpening s.document.geometry s.document.cursor.pagination number ++
      ds = [.beginSheet number] ++ ((if s.document.cursor.pagination ≠ .one then
        [.transform (.scaleRotate (s.document.geometry.scale s.document.cursor.pagination)
          (PageGeometry.rotation s.document.cursor.pagination))] else []) ++ ds) := by
    simp [Drawing.sheetOpening]
  rw [hopening]
  exact .bind (draws_draw _) (.optional (draws_draw _) hx)

/-- A page begins with its sheet when none is open. -/
theorem startPage_eq (h : s.device.limit = none) : startPage s = .ok () s.pageBegun := by
  refine (bind_of_ok (modifyCursor_eq _ _)).trans ?_
  show (if s.document.cursor.countPage.slot = 1 then _ else _ : Typeset L Unit) _ = _
  unfold Session.pageBegun Session.pageStart
  by_cases hslot : s.document.cursor.slot = 0
  · have hcount : s.document.cursor.countPage.slot = 1 ∧
        s.document.cursor.countPage.sheets = s.document.cursor.sheets + 1 ∧
        s.document.cursor.countPage.pagination = s.document.cursor.pagination := by
      simp [hslot]
    obtain ⟨hone, hsheets, hpagination⟩ := hcount
    have hrest := (leaves_sheetOpening (s := s.moved s.document.cursor.countPage []
      (s.log.push (.sheet s.document.cursor.countPage.sheets)))
      s.document.cursor.countPage.sheets (leaves_shift s.document.geometry
        s.document.cursor.countPage.pagination s.document.cursor.countPage.slot)).eq_ok h
    rw [if_pos hone, if_pos hslot, if_pos hslot, hslot]
    refine ((bind_of_ok (note_eq _ _)).trans ?_).trans (hrest.trans ?_)
    · rw [Session.moved_moved]
      rfl
    rw [Session.moved_moved, Session.moved_cursor, hone, hsheets, hpagination]
    rfl
  · have hone : ¬ s.document.cursor.countPage.slot = 1 := by simp [hslot]
    have hrest := (leaves_shift (s := s.moved s.document.cursor.countPage [] s.log)
      s.document.geometry s.document.cursor.countPage.pagination
      s.document.cursor.countPage.slot).eq_ok h
    rw [if_neg hone, if_neg hslot, if_neg hslot]
    refine hrest.trans ?_
    rw [Session.moved_moved, Cursor.countPage_pagination, Cursor.countPage_slot]
    rfl

/-! ## Columns -/

theorem turnPage_eq (h : s.device.limit = none) (hs : s.document.cursor.slot ≠ 0)
    (sheetToo : Bool) : turnPage sheetToo s = .ok () (s.turned sheetToo) := by
  have hstart : startPage (s.pageEnded sheetToo) = .ok () (s.turned sheetToo) := startPage_eq h
  exact (bind_of_ok (endPage_eq h hs sheetToo)).trans hstart

theorem breakColumn_broken (h : s.device.limit = none) (hs : s.document.cursor.slot ≠ 0) :
    breakColumn s = .ok () s.broken := by
  rw [breakColumn_eq]
  unfold Session.broken
  split
  · exact turnPage_eq h hs false
  · rfl

theorem advance_advanced (h : s.device.limit = none) (hs : s.document.cursor.slot ≠ 0)
    (amount : L) : advance amount s = .ok () (s.advanced amount) := by
  rw [advance_eq]
  unfold Session.advanced
  split
  · exact breakColumn_broken (s := s.moved _ _ _) h hs
  · rfl

theorem payBlankSpace_paid (h : s.device.limit = none) (hs : s.document.cursor.slot ≠ 0) :
    payBlankSpace s = .ok () s.paid := by
  rw [payBlankSpace_eq]
  unfold Session.paid
  dsimp only
  split
  · rfl
  · exact advance_advanced (s := s.moved { s.document.cursor with blankSpace := 0 } [] s.log) h hs _

end Typeset

end Songbook
