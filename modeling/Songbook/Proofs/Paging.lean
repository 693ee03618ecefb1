import Songbook.Proofs.Outcome
import Songbook.Proofs.Sheets
import Songbook.Session.Directives

/-!
# Columns, pages and sheets as functions of the cursor

On a device that refuses nothing, going down a column, breaking it and turning a page are functions
of the cursor: they always succeed, and apart from the cursor they only add drawings to the device
and entries to the log (`advance_moved`, `breakColumn_moved`, `turnPage_moved`). What is drawn when
a page ends and another begins is told apart by whether the sheet ends (`endPage_ends`,
`startPage_ends`).
-/

namespace Songbook

variable {L : Type}

namespace Session

/-- The session with another cursor, further drawings on its device and another log. -/
def moved (s : Session L) (c : Cursor L) (ds : List (Drawing L)) (log : Array (LogEntry L)) :
    Session L :=
  { s with
    document := { s.document with cursor := c }
    device := { s.device with received := s.device.received ++ ds }
    log := log }

/-- The session with further drawings on its device. -/
def drawn (s : Session L) (ds : List (Drawing L)) : Session L :=
  s.moved s.document.cursor ds s.log

variable (s : Session L) (c c' : Cursor L) (ds ds' : List (Drawing L))
  (log log' : Array (LogEntry L))

@[simp] theorem moved_cursor : (s.moved c ds log).document.cursor = c := rfl

@[simp] theorem moved_geometry : (s.moved c ds log).document.geometry = s.document.geometry := rfl

@[simp] theorem moved_settings : (s.moved c ds log).settings = s.settings := rfl

@[simp] theorem moved_startup : (s.moved c ds log).startup = s.startup := rfl

@[simp] theorem moved_limit : (s.moved c ds log).device.limit = s.device.limit := rfl

@[simp] theorem moved_log : (s.moved c ds log).log = log := rfl

@[simp] theorem moved_received :
    (s.moved c ds log).device.received.toList = s.device.received.toList ++ ds := by
  simp [moved]

@[simp] theorem moved_moved :
    (s.moved c ds log).moved c' ds' log' = s.moved c' (ds ++ ds') log' := by
  simp [moved, ← Array.toList_inj]

@[simp] theorem moved_self : s.moved s.document.cursor [] s.log = s := by
  simp [moved]

@[simp] theorem drawn_nil : s.drawn [] = s := s.moved_self

@[simp] theorem drawn_drawn : (s.drawn ds).drawn ds' = s.drawn (ds ++ ds') := moved_moved ..

@[simp] theorem drawn_document : (s.drawn ds).document = s.document := rfl

@[simp] theorem drawn_settings : (s.drawn ds).settings = s.settings := rfl

@[simp] theorem drawn_limit : (s.drawn ds).device.limit = s.device.limit := rfl

@[simp] theorem drawn_log : (s.drawn ds).log = s.log := rfl

@[simp] theorem drawn_moved : (s.drawn ds).moved c ds' log = s.moved c (ds ++ ds') log :=
  moved_moved ..

@[simp] theorem moved_drawn : (s.moved c ds log).drawn ds' = s.moved c (ds ++ ds') log :=
  moved_moved ..

end Session

namespace Cursor

@[simp] theorem countPage_slot (c : Cursor L) : c.countPage.slot = c.slot + 1 := by
  by_cases h : c.slot = 0 <;> simp [countPage, h]

@[simp] theorem countPage_pagination (c : Cursor L) : c.countPage.pagination = c.pagination := by
  by_cases h : c.slot = 0 <;> simp [countPage, h]

@[simp] theorem countPage_sheets (c : Cursor L) :
    c.countPage.sheets = if c.slot = 0 then c.sheets + 1 else c.sheets := by
  by_cases h : c.slot = 0 <;> simp [countPage, h]

@[simp] theorem countPage_pages (c : Cursor L) : c.countPage.pages = c.pages + 1 := by
  by_cases h : c.slot = 0 <;> simp [countPage, h]

@[simp] theorem countPage_blankSpace (c : Cursor L) : c.countPage.blankSpace = c.blankSpace := by
  by_cases h : c.slot = 0 <;> simp [countPage, h]

variable [Length L]

/-- After a page has been left, and its sheet when it is full or `sheetToo`. -/
def left (c : Cursor L) (g : PageGeometry L) (sheetToo : Bool) : Cursor L :=
  if c.slot = 0 then c
  else (if c.pagination.perSheet ≤ c.slot || sheetToo then c.leaveSheet else c).leavePage g

omit [Length L] in
theorem left_cases (c : Cursor L) (g : PageGeometry L) (sheetToo : Bool) :
    c.left g sheetToo = c ∨ c.left g sheetToo = c.leaveSheet.leavePage g ∨
      c.left g sheetToo = c.leavePage g := by
  unfold left
  split
  · exact .inl rfl
  · split
    · exact .inr (.inl rfl)
    · exact .inr (.inr rfl)

omit [Length L] in
/-- A page that has been left leaves room for the next one. -/
theorem left_slot_lt (c : Cursor L) (g : PageGeometry L) (sheetToo : Bool) :
    (c.left g sheetToo).slot < (c.left g sheetToo).pagination.perSheet := by
  have hzero : ∀ c : Cursor L, c.slot = 0 → c.slot < c.pagination.perSheet := fun c h => by
    rw [h]
    exact Pagination.perSheet_pos _
  unfold left
  split
  · exact hzero c ‹_›
  · split
    · exact hzero _ rfl
    · rename_i hfull
      have hroom : ¬ c.pagination.perSheet ≤ c.slot := fun hle => hfull (by simp [hle])
      exact Nat.lt_of_not_le hroom

/-- After a page has been begun. -/
def begun (c : Cursor L) (g : PageGeometry L) : Cursor L := c.countPage.toPageTop g

/-- After a page has been left and the next one begun. -/
def turned (c : Cursor L) (g : PageGeometry L) (sheetToo : Bool) : Cursor L :=
  (c.left g sheetToo).begun g

/-- After the column has been broken. -/
def broken (c : Cursor L) (g : PageGeometry L) : Cursor L :=
  if c.onLastColumn then c.turned g false else c.nextColumn g

/-- After going down, to the next column from below the bottom margin. -/
def advanced (c : Cursor L) (g : PageGeometry L) (amount : L) : Cursor L :=
  if (c.down amount).vertical < g.bottom then (c.down amount).broken g else c.down amount

/-- After the room of blank lines has been left. -/
def paid (c : Cursor L) (g : PageGeometry L) : Cursor L :=
  if c.blankSpace == 0 then { c with blankSpace := 0 }
  else { c with blankSpace := 0 }.advanced g c.blankSpace

end Cursor

namespace Typeset

variable {s : Session L}

theorem modifyCursor_eq (f : Cursor L → Cursor L) (s : Session L) :
    modifyCursor f s = .ok () (s.moved (f s.document.cursor) [] s.log) := by
  simp only [Session.moved, Array.appendList_nil]
  rfl

theorem note_eq (e : LogEntry L) (s : Session L) :
    note e s = .ok () (s.moved s.document.cursor [] (s.log.push e)) := by
  simp only [Session.moved, Array.appendList_nil]
  rfl

theorem document_bind {α : Type} (f : Document L → Typeset L α) :
    (document >>= f) = get >>= fun s => f s.document := rfl

theorem draw_eq (h : s.device.limit = none) (d : Drawing L) : draw d s = .ok () (s.drawn [d]) := by
  have hr : s.device.refusal? = none := by
    unfold Device.refusal?
    rw [h]
  unfold draw Device.draw
  rw [hr]
  simp [Session.drawn, Session.moved]

/-! ## What a page ends with -/

/-- On a device that refuses nothing, `x` draws what stands on a page and does nothing else. -/
def Prints (x : Typeset L Unit) : Prop :=
  ∀ s : Session L, s.device.limit = none → Ends x s (fun _ => False) fun _ t =>
    ∃ ds, (∀ d ∈ ds, d.isContent) ∧ t = s.drawn ds

theorem Prints.pure : Prints (pure () : Typeset L Unit) := fun s _ =>
  ⟨[], by simp, s.drawn_nil.symm⟩

theorem Prints.draw {d : Drawing L} (hd : d.isContent) : Prints (draw d) := fun _ h =>
  .of_ok (draw_eq h d) ⟨[d], by simpa using hd, rfl⟩

theorem Prints.bind {x : Typeset L Unit} {f : Unit → Typeset L Unit} (hx : Prints x)
    (hf : Prints (f ())) : Prints (x >>= f) := by
  intro s h
  refine (hx s h).bind ?_
  rintro _ _ ⟨ds, hds, rfl⟩
  refine (hf (s.drawn ds) h).mono ?_
  rintro _ _ ⟨es, hes, rfl⟩
  refine ⟨ds ++ es, fun d hd => ?_, s.drawn_drawn ds es⟩
  rcases List.mem_append.1 hd with hd | hd
  · exact hds d hd
  · exact hes d hd

theorem Prints.read {f : Session L → Typeset L Unit} (h : ∀ s, Prints (f s)) :
    Prints (get >>= f) := fun s hs => h s s hs

variable [Length L]

theorem prints_chorusBar (top : L) : Prints (chorusBar top) :=
  .read fun _ => .draw rfl

theorem prints_pageNumber (n : Int) : Prints (pageNumber n : Typeset L Unit) := by
  refine .read fun s => ?_
  have hends : ∀ (a : L) (b : Align), Prints (do
      moveTo a (s.document.geometry.bottom / 3)
      draw (.text ("Page " ++ toString n) .text (footerFont s.document) b .plain)) :=
    fun a b => .bind (.draw rfl) (.draw rfl)
  exact .bind (.draw rfl) (hends _ _)

theorem prints_numbered (n : Option Int) : Prints (numbered n : Typeset L Unit) := by
  cases n with
  | none => exact .pure
  | some n => exact prints_pageNumber n

theorem prints_runningTitle : Prints (runningTitle : Typeset L Unit) := by
  unfold runningTitle
  rw [document_bind]
  refine .read fun s => ?_
  split
  · split
    · exact .bind (.draw rfl) (.draw rfl)
    · exact .pure
  · exact .pure

/-- An open sheet ends with a footer between the changes taken back and the end. -/
theorem endSheet_ends (h : s.device.limit = none) (hs : s.document.cursor.slot ≠ 0) :
    Ends endSheet s (fun _ => False) fun _ t => ∃ footer : List (Drawing L),
      (∀ d ∈ footer, d.isContent) ∧ t = s.moved s.document.cursor.leaveSheet
        (Drawing.sheetClosing s.document.cursor.pagination footer s.document.cursor.sheets)
        s.log := by
  show Ends (if s.document.cursor.slot = 0 then _ else _ : Typeset L Unit) s _ _
  rw [if_neg hs]
  refine Ends.optional (P := fun t => t = s.drawn
    (if s.document.cursor.pagination = .one then [] else [.resetTransform])) ?_ ?_ ?_
  · intro hp
    rw [if_neg hp]
    exact .of_ok (draw_eq h _) rfl
  · intro hp
    rw [if_pos (Decidable.not_not.1 hp), Session.drawn_nil]
  rintro t rfl
  refine Ends.optional (P := fun t => ∃ footer : List (Drawing L), (∀ d ∈ footer, d.isContent) ∧
    t = s.drawn ((if s.document.cursor.pagination = .one then [] else [.resetTransform]) ++
      footer)) ?_ ?_ ?_
  · intro _
    refine (prints_numbered _ (s.drawn _) h).mono ?_
    rintro _ t ⟨footer, hfooter, rfl⟩
    exact ⟨footer, hfooter, Session.drawn_drawn ..⟩
  · intro _
    exact ⟨[], by simp, by simp⟩
  rintro t ⟨footer, hfooter, rfl⟩
  refine .bind_ok (draw_eq (s := s.drawn _) h _)
    (.of_ok (modifyCursor_eq _ _) ⟨footer, hfooter, ?_⟩)
  simp [Drawing.sheetClosing]

/-- What ends with a page, and with its sheet when it is full or `sheetToo`. -/
def PageEnd (s : Session L) (sheetToo : Bool) (ds : List (Drawing L)) : Prop :=
  ∃ foot : List (Drawing L), (∀ d ∈ foot, d.isContent) ∧
    if s.document.cursor.pagination.perSheet ≤ s.document.cursor.slot || sheetToo then
      ∃ footer : List (Drawing L), (∀ d ∈ footer, d.isContent) ∧
        ds = foot ++ Drawing.sheetClosing s.document.cursor.pagination footer
          s.document.cursor.sheets
    else ds = foot

/-- An open page ends with what stands at its foot and beside its chorus, and perhaps with its
sheet. -/
theorem endPage_ends (h : s.device.limit = none) (hs : s.document.cursor.slot ≠ 0)
    (sheetToo : Bool) :
    Ends (endPage sheetToo) s (fun _ => False) fun _ t => ∃ ds, PageEnd s sheetToo ds ∧
      t = s.moved (s.document.cursor.left s.document.geometry sheetToo) ds s.log := by
  unfold endPage
  refine .bind_ok rfl ?_
  dsimp only
  rw [if_neg hs]
  refine (prints_runningTitle s h).bind ?_
  rintro _ _ ⟨title, htitle, rfl⟩
  refine Ends.optional (P := fun t => ∃ foot : List (Drawing L), (∀ d ∈ foot, d.isContent) ∧
    t = s.drawn foot) ?_ ?_ ?_
  · intro _
    refine (prints_numbered _ (s.drawn title) h).mono ?_
    rintro _ _ ⟨number, hnumber, rfl⟩
    refine ⟨title ++ number, ?_, s.drawn_drawn title number⟩
    simpa [or_imp, forall_and] using ⟨htitle, hnumber⟩
  · exact fun _ => ⟨title, htitle, rfl⟩
  rintro _ ⟨foot, hfoot, rfl⟩
  have hend : ∀ foot : List (Drawing L), (∀ d ∈ foot, d.isContent) →
      Ends (if s.document.cursor.pagination.perSheet ≤ s.document.cursor.slot || sheetToo then
          endSheet >>= fun _ => modifyCursor (·.leavePage s.document.geometry)
        else modifyCursor (·.leavePage s.document.geometry)) (s.drawn foot) (fun _ => False)
        fun _ t => ∃ ds, PageEnd s sheetToo ds ∧
          t = s.moved (s.document.cursor.left s.document.geometry sheetToo) ds s.log := by
    intro foot hfoot
    split
    · rename_i hfull
      refine (endSheet_ends (s := s.drawn foot) h hs).bind ?_
      rintro _ _ ⟨footer, hfooter, rfl⟩
      refine .of_ok (modifyCursor_eq _ _) ⟨foot ++ Drawing.sheetClosing
        s.document.cursor.pagination footer s.document.cursor.sheets, ⟨foot, hfoot, ?_⟩, ?_⟩
      · rw [if_pos hfull]
        exact ⟨footer, hfooter, rfl⟩
      · simp [Cursor.left, hs, hfull]
    · rename_i hfull
      refine .of_ok (modifyCursor_eq _ _) ⟨foot, ⟨foot, hfoot, ?_⟩, ?_⟩
      · rw [if_neg hfull]
      · simp [Cursor.left, hs, hfull]
  split
  · rename_i top _
    refine (prints_chorusBar top (s.drawn foot) h).bind ?_
    rintro _ _ ⟨bar, hbar, rfl⟩
    rw [Session.drawn_drawn]
    refine hend (foot ++ bar) ?_
    simpa [or_imp, forall_and] using ⟨hfoot, hbar⟩
  · exact hend foot hfoot

theorem shift_ends (h : s.device.limit = none) (c : Cursor L) (ds : List (Drawing L))
    (log : Array (LogEntry L)) (g : PageGeometry L) (p : Pagination) (slot : Nat) :
    Ends (match g.shift? p slot with
      | some (h, v) => do
        draw (.transform (.translate h v))
        modifyCursor (·.toPageTop g)
      | none => modifyCursor (·.toPageTop g)) (s.moved c ds log) (fun _ => False) fun _ t =>
        t = s.moved (c.toPageTop g) (ds ++ Drawing.pageOpening g p slot) log := by
  unfold Drawing.pageOpening
  rcases g.shift? p slot with _ | ⟨right, up⟩
  · refine .of_ok (modifyCursor_eq _ _) ?_
    simp
  · refine .bind_ok (draw_eq (s := s.moved c ds log) h _) (.of_ok (modifyCursor_eq _ _) ?_)
    simp

/-- A page begins with its sheet when none is open. -/
theorem startPage_ends (h : s.device.limit = none) :
    Ends startPage s (fun _ => False) fun _ t => ∃ log,
      t = s.moved (s.document.cursor.begun s.document.geometry)
        ((if s.document.cursor.slot = 0 then
            Drawing.sheetOpening s.document.geometry s.document.cursor.pagination
              (s.document.cursor.sheets + 1)
          else []) ++
          Drawing.pageOpening s.document.geometry s.document.cursor.pagination
            (s.document.cursor.slot + 1)) log := by
  refine .bind_ok (modifyCursor_eq _ _) ?_
  show Ends (if s.document.cursor.countPage.slot = 1 then _ else _ : Typeset L Unit) _ _ _
  simp only [Session.moved_cursor, Session.moved_geometry, Cursor.countPage_slot,
    Cursor.countPage_pagination, Cursor.countPage_sheets, Nat.add_eq_right]
  split
  · refine .bind_ok (note_eq _ _) (.bind_ok (draw_eq (s := .moved _ _ _ _) h _) ?_)
    simp only [Session.moved_drawn, Session.moved_cursor]
    unfold Drawing.sheetOpening
    by_cases hp : s.document.cursor.pagination = .one
    · rw [if_neg (Decidable.not_not.2 hp), if_pos hp]
      refine (shift_ends h _ _ _ _ _ _).mono ?_
      rintro _ _ rfl
      exact ⟨_, rfl⟩
    · rw [if_pos hp, if_neg hp]
      refine .bind_ok (draw_eq (s := .moved _ _ _ _) h _) ?_
      rw [Session.moved_drawn]
      refine (shift_ends h _ _ _ _ _ _).mono ?_
      rintro _ _ rfl
      exact ⟨_, rfl⟩
  · refine (shift_ends h _ _ _ _ _ _).mono ?_
    rintro _ _ rfl
    exact ⟨_, rfl⟩

/-! ## Turning a page and breaking a column -/

theorem endSheet_of_closed (hs : s.document.cursor.slot = 0) : endSheet s = .ok () s := by
  show (if s.document.cursor.slot = 0 then pure () else _ : Typeset L Unit) s = _
  rw [if_pos hs]
  rfl

theorem endPage_of_closed (hs : s.document.cursor.slot = 0) (sheetToo : Bool) :
    endPage sheetToo s = .ok () s := by
  show (if s.document.cursor.slot = 0 then _ else _ : Typeset L Unit) s = _
  rw [if_pos hs]
  rfl

/-- What is drawn when a page ends and the next one begins. -/
def PageTurn (s : Session L) (sheetToo : Bool) (ds : List (Drawing L)) : Prop :=
  let c := s.document.cursor.left s.document.geometry sheetToo
  ∃ foot, PageEnd s sheetToo foot ∧ ds = foot ++
    ((if c.slot = 0 then Drawing.sheetOpening s.document.geometry c.pagination (c.sheets + 1)
      else []) ++ Drawing.pageOpening s.document.geometry c.pagination (c.slot + 1))

theorem turnPage_ends (h : s.device.limit = none) (hs : s.document.cursor.slot ≠ 0)
    (sheetToo : Bool) :
    Ends (turnPage sheetToo) s (fun _ => False) fun _ t => ∃ ds log, PageTurn s sheetToo ds ∧
      t = s.moved (s.document.cursor.turned s.document.geometry sheetToo) ds log := by
  refine (endPage_ends h hs sheetToo).bind ?_
  rintro _ _ ⟨foot, hfoot, rfl⟩
  refine (startPage_ends (s := s.moved _ _ _) h).mono ?_
  rintro _ _ ⟨log, rfl⟩
  exact ⟨_, log, ⟨foot, hfoot, rfl⟩, Session.moved_moved ..⟩

/-- A page can be turned also when none is open. -/
theorem turnPage_moved (h : s.device.limit = none) (sheetToo : Bool) :
    Ends (turnPage sheetToo) s (fun _ => False) fun _ t => ∃ ds log,
      t = s.moved (s.document.cursor.turned s.document.geometry sheetToo) ds log := by
  by_cases hs : s.document.cursor.slot = 0
  · refine .bind_ok (endPage_of_closed hs sheetToo) ((startPage_ends h).mono ?_)
    rintro _ _ ⟨log, rfl⟩
    have hleft : s.document.cursor.left s.document.geometry sheetToo = s.document.cursor :=
      if_pos hs
    rw [Cursor.turned, hleft]
    exact ⟨_, log, rfl⟩
  · refine (turnPage_ends h hs sheetToo).mono ?_
    rintro _ _ ⟨ds, log, -, rfl⟩
    exact ⟨ds, log, rfl⟩

/-- The column is broken: from the last one the page is turned, from any other the next column
begins. -/
theorem breakColumn_eq (s : Session L) :
    breakColumn s = if s.document.cursor.onLastColumn then turnPage false s
      else .ok () (s.moved (s.document.cursor.nextColumn s.document.geometry) []
        (s.log.push (.column (s.document.cursor.column + 1)))) := by
  show (if s.document.cursor.onLastColumn then _ else _ : Typeset L Unit) s = _
  split
  · rfl
  · simp only [Session.moved, Array.appendList_nil]
    rfl

theorem breakColumn_moved (h : s.device.limit = none) :
    Ends breakColumn s (fun _ => False) fun _ t => ∃ ds log,
      t = s.moved (s.document.cursor.broken s.document.geometry) ds log := by
  unfold Cursor.broken
  by_cases hlast : s.document.cursor.onLastColumn
  · rw [if_pos hlast]
    unfold Ends
    rw [breakColumn_eq, if_pos hlast]
    exact turnPage_moved h false
  · rw [if_neg hlast]
    exact .of_ok (by rw [breakColumn_eq, if_neg hlast]) ⟨_, _, rfl⟩

/-- Going down changes the height alone, unless that is below the bottom margin. -/
theorem advance_eq (amount : L) (s : Session L) :
    advance amount s =
      if (s.document.cursor.down amount).vertical < s.document.geometry.bottom then
        breakColumn (s.moved (s.document.cursor.down amount) [] s.log)
      else .ok () (s.moved (s.document.cursor.down amount) [] s.log) := by
  show (modifyCursor (·.down amount) >>= _) s = _
  rw [bind_of_ok (modifyCursor_eq _ _)]
  show (if (s.document.cursor.down amount).vertical < s.document.geometry.bottom then _
    else _ : Typeset L Unit) _ = _
  by_cases hlow : (s.document.cursor.down amount).vertical < s.document.geometry.bottom
  · rw [if_pos hlow, if_pos hlow]
  · rw [if_neg hlow, if_neg hlow]
    rfl

theorem advance_moved (h : s.device.limit = none) (amount : L) :
    Ends (advance amount) s (fun _ => False) fun _ t => ∃ ds log,
      t = s.moved (s.document.cursor.advanced s.document.geometry amount) ds log := by
  unfold Cursor.advanced
  by_cases hlow : (s.document.cursor.down amount).vertical < s.document.geometry.bottom
  · rw [if_pos hlow]
    unfold Ends
    rw [advance_eq, if_pos hlow]
    refine (breakColumn_moved (s := s.moved _ _ _) h).mono ?_
    rintro _ _ ⟨ds, log, rfl⟩
    exact ⟨_, log, Session.moved_moved ..⟩
  · rw [if_neg hlow]
    exact .of_ok (by rw [advance_eq, if_neg hlow]) ⟨_, _, rfl⟩

theorem payBlankSpace_eq (s : Session L) :
    payBlankSpace s =
      let paid := s.moved { s.document.cursor with blankSpace := 0 } [] s.log
      if s.document.cursor.blankSpace == 0 then .ok () paid
      else advance s.document.cursor.blankSpace paid := by
  show (modifyCursor (fun c : Cursor L => { c with blankSpace := 0 }) >>= fun _ =>
    if !(s.document.cursor.blankSpace == 0) then advance s.document.cursor.blankSpace
    else pure ()) s = _
  rw [bind_of_ok (modifyCursor_eq _ _)]
  cases s.document.cursor.blankSpace == 0 <;> rfl

theorem payBlankSpace_moved (h : s.device.limit = none) :
    Ends payBlankSpace s (fun _ => False) fun _ t => ∃ ds log,
      t = s.moved (s.document.cursor.paid s.document.geometry) ds log := by
  unfold Cursor.paid
  by_cases hzero : s.document.cursor.blankSpace == 0
  · rw [if_pos hzero]
    exact .of_ok (by rw [payBlankSpace_eq, if_pos hzero]) ⟨_, _, rfl⟩
  · rw [if_neg hzero]
    unfold Ends
    rw [payBlankSpace_eq, if_neg hzero]
    refine (advance_moved (s := s.moved _ _ _) h _).mono ?_
    rintro _ _ ⟨ds, log, rfl⟩
    exact ⟨_, log, Session.moved_moved ..⟩

end Typeset

end Songbook
