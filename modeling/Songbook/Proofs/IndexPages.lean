import Mathlib.Algebra.Order.Ring.Rat
import Mathlib.Data.List.Chain
import Mathlib.Tactic.Linarith
import Songbook.Proofs.OwedSpace
import Songbook.Proofs.PageEnds
import Songbook.Proofs.Protocol

/-!
# The pages of the index

The index is printed like a song, row after row, on the pages after the last song
(`printIndex_eq`). It has a title and page count of its own, but the columns and the chorus are
those that the last song leaves. So rows descend on every page unless they go on in a second column,
and nothing but rules is stroked unless a chorus is still running (`index_apart_iff`).
-/

namespace Songbook

variable {L : Type} [Length L]

/-- The rows of an entry: the title with its number, and the subtitles. Each is drawn at the height
that it stands at. -/
def IndexEntry.rows (g : PageGeometry L) (font : Font) (e : IndexEntry) :
    List (L → List (Drawing L)) :=
  (fun v => [.moveTo ⟨g.left, v⟩, .text e.title .text font .left .plain,
    .moveTo ⟨g.width - g.left, v⟩, .text (toString e.page) .text font .right .plain]) ::
    e.subtitles.map fun text v =>
      [.moveTo ⟨g.left + Typeset.subtitleIndent, v⟩, .text text .text font .left .plain]

namespace Session

/-- After a row that takes so much room. -/
def rowPrinted (s : Session L) (amount : L) (row : L → List (Drawing L)) : Session L :=
  (s.advanced amount).drawn (row (s.advanced amount).document.cursor.vertical)

/-- After a title. -/
def titled (s : Session L) (text : String) : Session L :=
  let font := Typeset.titleFont s.document.styles
  let t := s.moved (s.document.cursor.down (Typeset.size font))
    [.moveTo ⟨s.document.geometry.width / 2, s.document.cursor.vertical⟩,
      .text text .text font .center .plain] s.log
  { t with document := { t.document with modes := { t.document.modes with title := some text } } }

/-- Before the first page of the index: the title and the pages of the last song are forgotten. -/
def indexReady (s : Session L) : Session L :=
  { s with
    document := { s.document with
      index := Typeset.sortedByTitle s.document.index
      cursor := { s.document.cursor with songPages := 0 }
      modes := { s.document.modes with title := none } }
    log := s.log.push (.index (Typeset.sortedByTitle s.document.index).length) }

/-- The first page of the index with its title. -/
def indexBegun (s : Session L) : Session L := s.indexReady.pageBegun.titled Typeset.indexTitle

/-- The room that a row of the index takes. -/
def indexStep (s : Session L) : L := Typeset.size (s.document.styles.current .text)

def indexRows (s : Session L) : List (L → List (Drawing L)) :=
  (Typeset.sortedByTitle s.document.index).flatMap
    (·.rows s.document.geometry (s.document.styles.current .text))

/-- After the index, if there is anything in it. -/
def indexPrinted (s : Session L) : Session L :=
  if s.indexRows = [] then s
  else (s.indexRows.foldl (·.rowPrinted s.indexStep) s.indexBegun).pageEnded false

/-- After the end of the document. -/
def closed (s : Session L) : Session L :=
  let t := if s.document.cursor.slot = 0 then s
    else s.moved s.document.cursor.leaveSheet s.sheetFoot s.log
  t.drawn [.endDocument t.document.cursor.sheets]

variable {s : Session L}

omit [Length L] in
theorem OnPage.drawn (h : s.OnPage) (ds : List (Drawing L)) : (s.drawn ds).OnPage :=
  ⟨h.unlimited, h.isOpen, h.inSong⟩

theorem OnPage.rowPrinted (h : s.OnPage) (amount : L) (row : L → List (Drawing L)) :
    (s.rowPrinted amount row).OnPage := (h.advanced amount).drawn _

theorem advanced_geometry (s : Session L) (amount : L) :
    (s.advanced amount).document.geometry = s.document.geometry := by
  unfold advanced broken
  split
  · split <;> rfl
  · rfl

theorem rowPrinted_geometry (s : Session L) (amount : L) (row : L → List (Drawing L)) :
    (s.rowPrinted amount row).document.geometry = s.document.geometry :=
  s.advanced_geometry amount

end Session

namespace Typeset

open Session

variable {s : Session L}

theorem centred_eq (h : s.device.limit = none) (text : String) (font : Font) :
    centred text font s = .ok () (s.moved (s.document.cursor.down (size font))
      [.moveTo ⟨s.document.geometry.width / 2, s.document.cursor.vertical⟩,
        .text text .text font .center .plain] s.log) := by
  refine (bind_of_ok (draw_eq h _)).trans ?_
  refine (bind_of_ok (draw_eq (s := s.drawn _) h _)).trans ?_
  rw [drawn_drawn]
  refine (modifyCursor_eq _ _).trans ?_
  rw [drawn_moved]
  rfl

theorem title_eq (h : s.device.limit = none) (text : String) :
    title text s = .ok () (s.titled text) :=
  bind_of_ok (centred_eq h text _)

/-! ## Rows of the index -/

theorem indexLine_eq (hs : s.OnPage) (font : Font) (h : L) (text : String) :
    indexLine font h text s = .ok () (s.rowPrinted (size font)
      fun v => [.moveTo ⟨h, v⟩, .text text .text font .left .plain]) := by
  have hon := hs.advanced (size font)
  refine (bind_of_ok (advance_advanced hs.unlimited hs.isOpen _)).trans ?_
  refine (bind_of_ok (draw_eq hon.unlimited _)).trans ?_
  rw [draw_eq (s := (s.advanced (size font)).drawn _) hon.unlimited, drawn_drawn]
  rfl

omit [Length L] in
theorem forM_eq_foldl {α : Type} {f : α → Typeset L Unit} {g : Session L → α → Session L}
    (hkeeps : ∀ s a, s.OnPage → (g s a).OnPage) (l : List α)
    (hstep : ∀ s a, s.OnPage → f a s = .ok () (g s a)) (hs : s.OnPage) :
    l.forM f s = .ok () (l.foldl g s) := by
  induction l generalizing s with
  | nil => rfl
  | cons a l ih =>
    refine (bind_of_ok (hstep s a hs)).trans ?_
    exact ih (hkeeps s a hs)

theorem rowsPrinted_onPage (hs : s.OnPage) (amount : L) (rows : List (L → List (Drawing L))) :
    (rows.foldl (·.rowPrinted amount) s).OnPage := by
  induction rows generalizing s with
  | nil => exact hs
  | cons row rows ih => exact ih (hs.rowPrinted amount row)

theorem rowsPrinted_geometry (amount : L) (rows : List (L → List (Drawing L))) :
    (rows.foldl (·.rowPrinted amount) s).document.geometry = s.document.geometry := by
  induction rows generalizing s with
  | nil => rfl
  | cons row rows ih => exact ih.trans (s.rowPrinted_geometry amount row)

theorem indexEntry_eq (hs : s.OnPage) (font : Font) (e : IndexEntry) :
    indexEntry font e s =
      .ok () ((e.rows s.document.geometry font).foldl (·.rowPrinted (size font)) s) := by
  let row : L → List (Drawing L) := fun v =>
    [.moveTo ⟨s.document.geometry.left, v⟩, .text e.title .text font .left .plain]
  let number : L → List (Drawing L) := fun v =>
    [.moveTo ⟨s.document.geometry.width - s.document.geometry.left, v⟩,
      .text (toString e.page) .text font .right .plain]
  have hon := hs.rowPrinted (size font) fun v => row v ++ number v
  have hnumber : ∀ v, ((s.rowPrinted (size font) row).drawn [.moveTo
      ⟨s.document.geometry.width - s.document.geometry.left, v⟩]).drawn
      [.text (toString e.page) .text font .right .plain] =
      (s.advanced (size font)).drawn (row (s.advanced (size font)).document.cursor.vertical ++
        number v) := by
    intro v
    rw [drawn_drawn, Session.rowPrinted, drawn_drawn]
    rfl
  refine (bind_of_ok (indexLine_eq hs _ _ _)).trans ?_
  refine (bind_of_ok (draw_eq (s := s.rowPrinted _ row) hon.unlimited _)).trans ?_
  refine (bind_of_ok (draw_eq (s := (s.rowPrinted _ row).drawn [.moveTo ⟨_, _⟩])
    hon.unlimited _)).trans ?_
  rw [hnumber]
  refine (forM_eq_foldl (fun s _ h => h.rowPrinted (size font) _) _
    (fun s text h => indexLine_eq h font _ text) hon).trans ?_
  rw [IndexEntry.rows, List.foldl_cons, List.foldl_map]
  rfl

theorem entries_eq (hs : s.OnPage) (font : Font) (entries : List IndexEntry) :
    entries.forM (indexEntry font) s = .ok ()
      ((entries.flatMap (·.rows s.document.geometry font)).foldl (·.rowPrinted (size font)) s) := by
  induction entries generalizing s with
  | nil => rfl
  | cons e entries ih =>
    have hon := rowsPrinted_onPage hs (size font) (e.rows s.document.geometry font)
    refine (bind_of_ok (indexEntry_eq hs font e)).trans ?_
    rw [ih hon, rowsPrinted_geometry, List.flatMap_cons, List.foldl_append]

theorem indexRows_eq_nil_iff (s : Session L) :
    s.indexRows = [] ↔ sortedByTitle s.document.index = [] := by
  unfold indexRows
  cases sortedByTitle s.document.index with
  | nil => simp
  | cons e entries => simp [IndexEntry.rows]

/-- The index is printed row after row. -/
theorem printIndex_eq (h : s.device.limit = none) (hsong : s.startup = false) :
    printIndex s = .ok () s.indexPrinted := by
  show (if (sortedByTitle s.document.index).isEmpty then pure () else _ : Typeset L Unit) s = _
  unfold Session.indexPrinted
  by_cases hnone : sortedByTitle s.document.index = []
  · rw [if_pos (List.isEmpty_iff.2 hnone), if_pos ((indexRows_eq_nil_iff s).2 hnone)]
    rfl
  · rw [if_neg fun hempty => hnone (List.isEmpty_iff.1 hempty),
      if_neg fun hempty => hnone ((indexRows_eq_nil_iff s).1 hempty)]
    have hbegun : s.indexBegun.OnPage :=
      ⟨h, begun_slot_ne_zero s.indexReady.document.cursor s.document.geometry, hsong⟩
    have hend := rowsPrinted_onPage hbegun s.indexStep s.indexRows
    have hready : (do
        startPage
        title indexTitle
        let font := (← document).styles.current .text
        (sortedByTitle s.document.index).forM (indexEntry font)
        endPage false : Typeset L Unit) s.indexReady =
          .ok () ((s.indexRows.foldl (·.rowPrinted s.indexStep) s.indexBegun).pageEnded false) := by
      refine (bind_of_ok (startPage_eq (s := s.indexReady) h)).trans ?_
      refine (bind_of_ok (title_eq (s := s.indexReady.pageBegun) h _)).trans ?_
      refine (bind_of_ok (entries_eq hbegun _ _)).trans ?_
      exact endPage_eq hend.unlimited hend.isOpen false
    exact hready

theorem closeDocument_eq (h : s.device.limit = none) : closeDocument s = .ok () s.closed := by
  unfold Session.closed
  by_cases hs : s.document.cursor.slot = 0
  · rw [if_pos hs]
    exact (bind_of_ok (endSheet_of_closed hs)).trans (draw_eq h _)
  · rw [if_neg hs]
    exact (bind_of_ok ((leaves_endSheet hs).eq_ok h)).trans (draw_eq (s := s.moved _ _ _) h _)

end Typeset

/-! ## The order of the rows -/

namespace Cursor

variable (c : Cursor L) (g : PageGeometry L)

omit [Length L] in
theorem turned_pages (sheetToo : Bool) : (c.turned g sheetToo).pages = c.pages + 1 := by
  show (c.left g sheetToo).countPage.pages = _
  rw [countPage_pages]
  rcases c.left_cases g sheetToo with hleft | hleft | hleft <;> rw [hleft] <;> rfl

omit [Length L] in
theorem countPage_columns : c.countPage.columns = c.columns := by
  by_cases h : c.slot = 0 <;> simp [countPage, h]

omit [Length L] in
theorem turned_columns (sheetToo : Bool) : (c.turned g sheetToo).columns = c.columns := by
  show (c.left g sheetToo).countPage.columns = _
  rw [countPage_columns]
  rcases c.left_cases g sheetToo with hleft | hleft | hleft <;> rw [hleft] <;> rfl

end Cursor

namespace Session

/-- On one page, the row at `t` stands below the row at `s`. -/
def Descends (s t : Session Rat) : Prop :=
  t.document.cursor.pages = s.document.cursor.pages →
    t.document.cursor.vertical < s.document.cursor.vertical

/-- The places after each of the rows, and before the first. -/
def rowPlaces (s : Session L) (amount : L) (rows : List (L → List (Drawing L))) :
    List (Session L) :=
  rows.scanl (·.rowPrinted amount ·) s

variable {s : Session Rat} {amount : Rat} {row : Rat → List (Drawing Rat)}
  {rows : List (Rat → List (Drawing Rat))}

theorem isChain_rowPlaces_cons {R : Session Rat → Session Rat → Prop} :
    (s.rowPlaces amount (row :: rows)).IsChain R ↔
      R s (s.rowPrinted amount row) ∧
        ((s.rowPrinted amount row).rowPlaces amount rows).IsChain R := by
  cases rows <;> simp [rowPlaces]

theorem rowPrinted_cursor : (s.rowPrinted amount row).document.cursor =
    s.document.cursor.advanced s.document.geometry amount := s.advanced_cursor amount

/-- In a single column rows descend. -/
theorem descends_of_single (hamount : 0 < amount) (hcolumns : s.document.cursor.columns ≤ 1) :
    s.Descends (s.rowPrinted amount row) ∧
      (s.rowPrinted amount row).document.cursor.columns ≤ 1 := by
  unfold Descends
  rw [rowPrinted_cursor]
  unfold Cursor.advanced
  split
  · have hlast : (s.document.cursor.down amount).onLastColumn := by
      have : s.document.cursor.columns ≤ s.document.cursor.column + 1 := by omega
      exact decide_eq_true this
    unfold Cursor.broken
    rw [if_pos hlast, Cursor.turned_pages, Cursor.turned_columns]
    refine ⟨fun hpages => ?_, hcolumns⟩
    have hmore : s.document.cursor.pages + 1 = s.document.cursor.pages := hpages
    omega
  · refine ⟨fun _ => ?_, hcolumns⟩
    show s.document.cursor.vertical - amount < s.document.cursor.vertical
    linarith

theorem rowPlaces_descend_of_single (hamount : 0 < amount)
    (hcolumns : s.document.cursor.columns ≤ 1) :
    (s.rowPlaces amount rows).IsChain Descends := by
  induction rows generalizing s with
  | nil => exact .singleton _
  | cons row rows ih =>
    obtain ⟨hdescends, hrow⟩ : s.Descends (s.rowPrinted amount row) ∧
        (s.rowPrinted amount row).document.cursor.columns ≤ 1 :=
      descends_of_single hamount hcolumns
    exact isChain_rowPlaces_cons.2 ⟨hdescends, ih hrow⟩

/-- With room for it a row is printed below. -/
theorem rowPrinted_of_room
    (hroom : s.document.geometry.bottom ≤ s.document.cursor.vertical - amount) :
    (s.rowPrinted amount row).document.cursor = s.document.cursor.down amount := by
  have hlow : ¬ (s.document.cursor.down amount).vertical < s.document.geometry.bottom :=
    not_lt.2 hroom
  rw [rowPrinted_cursor, Cursor.advanced, if_neg hlow]

/-- Without, it goes to the top of the second column. -/
theorem not_descends_of_full (hcolumns : 1 < s.document.cursor.columns)
    (hcolumn : s.document.cursor.column = 0)
    (htop : s.document.cursor.vertical ≤ s.document.cursor.columnTop)
    (hfull : s.document.cursor.vertical - amount < s.document.geometry.bottom) :
    ¬ s.Descends (s.rowPrinted amount row) := by
  have hlow : (s.document.cursor.down amount).vertical < s.document.geometry.bottom := hfull
  have hnext : (s.rowPrinted amount row).document.cursor =
      (s.document.cursor.down amount).nextColumn s.document.geometry := by
    have hmore : ¬ (s.document.cursor.down amount).onLastColumn := by
      have : ¬ s.document.cursor.columns ≤ s.document.cursor.column + 1 := by omega
      exact fun hlast => this (of_decide_eq_true hlast)
    rw [rowPrinted_cursor, Cursor.advanced, Cursor.broken, if_pos hlow, if_neg hmore]
  intro hdescends
  have hbelow := hdescends (by rw [hnext]; rfl)
  rw [hnext] at hbelow
  have hbelow : s.document.cursor.columnTop < s.document.cursor.vertical := hbelow
  linarith

/-- In the first of several columns rows descend as long as there is room for all of them: where
there is not, the next one goes to the top of the second column. -/
theorem rowPlaces_descend_iff (hamount : 0 < amount) (hcolumns : 1 < s.document.cursor.columns)
    (hcolumn : s.document.cursor.column = 0)
    (htop : s.document.cursor.vertical ≤ s.document.cursor.columnTop) :
    (s.rowPlaces amount rows).IsChain Descends ↔
      rows = [] ∨
        s.document.geometry.bottom ≤ s.document.cursor.vertical - rows.length * amount := by
  induction rows generalizing s with
  | nil => simp [rowPlaces]
  | cons row rows ih =>
    have hlength : ((row :: rows).length : Rat) = rows.length + 1 := by simp
    have hnonneg : (0 : Rat) ≤ rows.length * amount :=
      mul_nonneg (Nat.cast_nonneg _) hamount.le
    rw [isChain_rowPlaces_cons, hlength]
    rcases lt_or_ge (s.document.cursor.vertical - amount) s.document.geometry.bottom with
      hfull | hroom
    · have hup : ¬ s.Descends (s.rowPrinted amount row) :=
        not_descends_of_full hcolumns hcolumn htop hfull
      refine ⟨fun h => absurd h.1 hup, ?_⟩
      rintro (hnil | hroom)
      · cases hnil
      · linarith
    · have hdown : (s.rowPrinted amount row).document.cursor = s.document.cursor.down amount :=
        rowPrinted_of_room hroom
      have hvertical : (s.rowPrinted amount row).document.cursor.vertical =
          s.document.cursor.vertical - amount := congrArg Cursor.vertical hdown
      have hdescends : s.Descends (s.rowPrinted amount row) := fun _ => by
        rw [hvertical]
        linarith
      have hrest := ih (s := s.rowPrinted amount row) (by rw [hdown]; exact hcolumns)
        (by rw [hdown]; exact hcolumn) (by
          rw [hdown]
          show s.document.cursor.vertical - amount ≤ s.document.cursor.columnTop
          linarith)
      rw [rowPrinted_geometry, hvertical] at hrest
      rw [hrest]
      constructor
      · rintro ⟨-, rfl | hrest⟩
        · right
          simpa using hroom
        · right
          linarith
      · rintro (hnil | hrest)
        · cases hnil
        · exact ⟨hdescends, .inr (by linarith)⟩

end Session

/-! ## What is stroked -/

/-- The rule over a page number. -/
def PageGeometry.rule (g : PageGeometry L) : List (Point L) :=
  [⟨g.left, g.bottom - 10⟩, ⟨g.width - g.left, g.bottom - 10⟩]

/-- Nothing is stroked but rules over page numbers. -/
def Drawing.OnlyRules (g : PageGeometry L) (ds : List (Drawing L)) : Prop :=
  ∀ points width, .stroke points width ∈ ds → points = g.rule

/-- A chorus has begun and its bar has not been drawn yet. -/
def Chorus.IsRunning (c : Chorus L) : Prop := ∃ top, c = .running top

instance (c : Chorus L) : Decidable c.IsRunning :=
  match c with
  | .off => isFalse nofun
  | .pending => isFalse nofun
  | .running top => isTrue ⟨top, rfl⟩

namespace Drawing

variable {g : PageGeometry L} {ds es : List (Drawing L)}

theorem onlyRules_append : OnlyRules g (ds ++ es) ↔ OnlyRules g ds ∧ OnlyRules g es := by
  simp [OnlyRules, or_imp, forall_and]

theorem onlyRules_nil : OnlyRules g [] := by simp [OnlyRules]

end Drawing

namespace Session

open Drawing

variable {s s₀ : Session L} {ds : List (Drawing L)}

theorem onlyRules_marked (s : Session L) (n? : Option Int) :
    OnlyRules s.document.geometry (s.marked n?) := by
  cases n? with
  | none => exact onlyRules_nil
  | some n => simp [marked, numberMark, OnlyRules, PageGeometry.rule]

theorem onlyRules_titleMark (s : Session L) : OnlyRules s.document.geometry s.titleMark := by
  unfold titleMark
  split
  · split <;> simp [OnlyRules]
  · exact onlyRules_nil

theorem onlyRules_sheetFoot (s : Session L) : OnlyRules s.document.geometry s.sheetFoot := by
  have hnumber : OnlyRules s.document.geometry (if !s.settings.numberPages then s.marked
      (Typeset.number? s.settings.numberAll s.document.cursor.sheetLabel
        s.document.cursor.songPages) else []) := by
    split
    · exact s.onlyRules_marked _
    · exact onlyRules_nil
  have hreset : OnlyRules s.document.geometry
      (if s.document.cursor.pagination = .one then [] else [.resetTransform]) := by
    split <;> simp [OnlyRules]
  exact onlyRules_append.2 ⟨onlyRules_append.2 ⟨hreset, hnumber⟩, by simp [OnlyRules]⟩

theorem onlyRules_pageStart (s : Session L) : OnlyRules s.document.geometry s.pageStart := by
  unfold pageStart sheetOpening pageOpening
  refine onlyRules_append.2 ⟨?_, ?_⟩
  · split
    · split <;> simp [OnlyRules]
    · exact onlyRules_nil
  · split <;> simp [OnlyRules]

/-- Without a running chorus a page ends with nothing stroked but the rules of its numbers. -/
theorem onlyRules_pageEnd (h : ¬ s.document.cursor.chorus.IsRunning) (sheetToo : Bool) :
    OnlyRules s.document.geometry (s.pageEnd sheetToo) := by
  have hbar : s.bar = [] := by
    unfold bar
    split
    · exact absurd ⟨_, ‹_›⟩ h
    · rfl
  have hnumber : OnlyRules s.document.geometry (if s.settings.numberPages then s.marked
      (Typeset.number? s.settings.numberAll s.document.cursor.pageLabel
        s.document.cursor.songPages) else []) := by
    split
    · exact s.onlyRules_marked _
    · exact onlyRules_nil
  unfold pageEnd pageFoot
  rw [hbar, List.append_nil]
  refine onlyRules_append.2 ⟨onlyRules_append.2 ⟨s.onlyRules_titleMark, hnumber⟩, ?_⟩
  split
  · exact s.onlyRules_sheetFoot
  · exact onlyRules_nil

/-- `s` has been reached from `s₀` on the pages of the index: a chorus runs on if it ran at `s₀`,
from the top of each page, and else nothing is stroked but rules. -/
structure IndexedSince (s₀ s : Session L) : Prop where
  geometry : s.document.geometry = s₀.document.geometry
  chorus : s.document.cursor.chorus.IsRunning ↔ s₀.document.cursor.chorus.IsRunning
  top : ∀ top, s.document.cursor.chorus = .running top → top = s₀.document.geometry.top
  received : ∃ ds, s.device.received.toList = s₀.device.received.toList ++ ds ∧
    (¬ s₀.document.cursor.chorus.IsRunning → OnlyRules s₀.document.geometry ds)

namespace IndexedSince

theorem moved (h : s₀.IndexedSince s) {c : Cursor L} (log : Array (LogEntry L))
    (hchorus : c.chorus = s.document.cursor.chorus)
    (hds : ¬ s₀.document.cursor.chorus.IsRunning → OnlyRules s₀.document.geometry ds) :
    s₀.IndexedSince (s.moved c ds log) := by
  obtain ⟨before, hreceived, hrules⟩ := h.received
  refine ⟨h.geometry, ?_, ?_, before ++ ds, ?_, ?_⟩
  · rw [moved_cursor, hchorus]
    exact h.chorus
  · rw [moved_cursor, hchorus]
    exact h.top
  · rw [moved_received, hreceived, List.append_assoc]
  · exact fun hstill => onlyRules_append.2 ⟨hrules hstill, hds hstill⟩

theorem pageEnded (h : s₀.IndexedSince s) (sheetToo : Bool) :
    s₀.IndexedSince (s.pageEnded sheetToo) := by
  refine h.moved _ ?_ fun hstill => ?_
  · rcases s.document.cursor.left_cases s.document.geometry sheetToo with hleft | hleft | hleft <;>
      rw [hleft] <;> rfl
  · rw [← h.geometry]
    exact onlyRules_pageEnd (fun hruns => hstill (h.chorus.1 hruns)) _

/-- A page goes on with the chorus from its top. -/
theorem of_pageBegun (hgeometry : s.document.geometry = s₀.document.geometry)
    (hchorus : s.document.cursor.chorus.IsRunning ↔ s₀.document.cursor.chorus.IsRunning)
    (hreceived : ∃ ds, s.device.received.toList = s₀.device.received.toList ++ ds ∧
      (¬ s₀.document.cursor.chorus.IsRunning → OnlyRules s₀.document.geometry ds)) :
    s₀.IndexedSince s.pageBegun := by
  have hcount : s.document.cursor.countPage.chorus = s.document.cursor.chorus := by
    by_cases hslot : s.document.cursor.slot = 0 <;> simp [Cursor.countPage, hslot]
  obtain ⟨before, hbefore, hrules⟩ := hreceived
  refine ⟨hgeometry, ?_, ?_, before ++ s.pageStart, ?_, ?_⟩
  · show Chorus.IsRunning (s.document.cursor.countPage.toPageTop s.document.geometry).chorus ↔ _
    rw [Cursor.toPageTop, hcount, ← hchorus]
    cases s.document.cursor.chorus <;> simp [Chorus.IsRunning]
  · intro top htop
    have htop : (s.document.cursor.countPage.toPageTop s.document.geometry).chorus =
        .running top := htop
    rw [Cursor.toPageTop, hcount] at htop
    rw [← hgeometry]
    cases hc : s.document.cursor.chorus <;> rw [hc] at htop <;> cases htop
    rfl
  · rw [Session.pageBegun, moved_received, hbefore, List.append_assoc]
  · intro hstill
    refine onlyRules_append.2 ⟨hrules hstill, ?_⟩
    rw [← hgeometry]
    exact s.onlyRules_pageStart

theorem pageBegun (h : s₀.IndexedSince s) : s₀.IndexedSince s.pageBegun :=
  of_pageBegun h.geometry h.chorus h.received

theorem broken (h : s₀.IndexedSince s) : s₀.IndexedSince s.broken := by
  unfold Session.broken
  split
  · exact (h.pageEnded false).pageBegun
  · exact h.moved _ rfl fun _ => onlyRules_nil

theorem advanced (h : s₀.IndexedSince s) (amount : L) : s₀.IndexedSince (s.advanced amount) := by
  have hdown : s₀.IndexedSince (s.moved (s.document.cursor.down amount) [] s.log) :=
    h.moved _ rfl fun _ => onlyRules_nil
  unfold Session.advanced
  split
  · exact hdown.broken
  · exact hdown

theorem rowsPrinted (h : s₀.IndexedSince s) (amount : L) {rows : List (L → List (Drawing L))}
    (hrows : ∀ row ∈ rows, ∀ v, OnlyRules s₀.document.geometry (row v)) :
    s₀.IndexedSince (rows.foldl (·.rowPrinted amount) s) := by
  induction rows generalizing s with
  | nil => exact h
  | cons row rows ih =>
    have hrow : s₀.IndexedSince (s.rowPrinted amount row) :=
      (h.advanced amount).moved _ rfl fun _ => hrows row (by simp) _
    exact ih hrow fun row hmem => hrows row (List.mem_cons_of_mem _ hmem)

theorem titled (h : s₀.IndexedSince s) (text : String) : s₀.IndexedSince (s.titled text) := by
  have hmoved : ∀ (c : Cursor L) (font : Font), c.chorus = s.document.cursor.chorus →
      s₀.IndexedSince (s.moved c [.moveTo ⟨s.document.geometry.width / 2,
        s.document.cursor.vertical⟩, .text text .text font .center .plain] s.log) :=
    fun c font hchorus => h.moved s.log hchorus fun _ => by simp [OnlyRules]
  -- the running title is no part of the page
  exact { hmoved _ _ rfl with }

theorem indexBegun (s : Session L) : s.IndexedSince s.indexBegun := by
  have hready : s.IndexedSince s.indexReady.pageBegun :=
    of_pageBegun rfl .rfl ⟨[], by simp [indexReady], fun _ => onlyRules_nil⟩
  exact hready.titled _

end IndexedSince

end Session

namespace Typeset

open Session Drawing

variable {settings : Settings Rat} {s : Session Rat}

/-- The session after the last song's last page, before the index. -/
def songsEnded (settings : Settings L) (configurations : List (String × String))
    (overrides : Overrides) (songs : List (String × String)) : Session L :=
  endState (do prepare configurations overrides; printSongs songs; begin; endSong)
    (.start settings .unlimited)

/-- The last song has ended with its page. -/
structure SongsOver (settings : Settings L) (s : Session L) : Prop where
  unlimited : s.device.limit = none
  inSong : s.startup = false
  settings : s.settings = settings
  paper : s.document.geometry.IsPaper
  columnTop : s.document.cursor.columnTop = s.document.geometry.top

theorem songsOver_ends {settings : Settings L} {s : Session L} (h : s.Between settings) :
    Ends (do begin; endSong) s (· = .brokenCharacter) fun _ => SongsOver settings := by
  refine (begin_inSong h).bind fun _ t ht => ?_
  refine ((endSong_ends true ht.onPage).weaken fun _ h => h.2).mono ?_
  rintro _ _ ⟨u, foot, hu, -, rfl⟩
  have hin := ht.moves hu
  refine ⟨hin.onPage.unlimited, hin.onPage.inSong, hin.settings_eq, hin.paper, ?_⟩
  rw [moved_cursor, Cursor.left, if_neg hin.onPage.isOpen]
  rfl

theorem songsEnded_ends (settings : Settings L) (configurations : List (String × String))
    (overrides : Overrides) (songs : List (String × String)) :
    Ends (do prepare configurations overrides; printSongs songs; begin; endSong)
      (.start settings .unlimited) IsBreak fun _ s =>
        SongsOver settings s ∧ s = songsEnded settings configurations overrides songs :=
  (afterSongs_ends configurations overrides songs fun _ hs => songsOver_ends hs).at_endState

theorem indexBegun_onPage (h : s.device.limit = none) (hsong : s.startup = false) :
    s.indexBegun.OnPage :=
  ⟨h, begun_slot_ne_zero s.indexReady.document.cursor s.document.geometry, hsong⟩

theorem indexPrinted_unlimited (h : s.device.limit = none) (hsong : s.startup = false) :
    s.indexPrinted.device.limit = none := by
  unfold Session.indexPrinted
  split
  · exact h
  · exact (rowsPrinted_onPage (indexBegun_onPage h hsong) _ _).unlimited

/-- With a table of contents a run ends with the index after the songs. -/
theorem finish_ends (htoc : settings.tableOfContents = true)
    (configurations : List (String × String)) (overrides : Overrides)
    (songs : List (String × String)) :
    RunsTo settings configurations overrides songs fun t =>
      SongsOver settings (songsEnded settings configurations overrides songs) ∧
        t = (songsEnded settings configurations overrides songs).indexPrinted.closed := by
  constructor
  have hrun : (do prepare configurations overrides; printSongs songs; finish) =
      ((do prepare configurations overrides; printSongs songs; begin; endSong) >>= fun _ => do
        if (← get).settings.tableOfContents then printIndex
        closeDocument : Typeset Rat Unit) := by
    simp only [finish, bind_assoc]
  rw [hrun]
  refine (songsEnded_ends settings configurations overrides songs).bind ?_
  rintro _ s ⟨hs, heq⟩
  rw [← heq]
  refine .bind_ok rfl ?_
  show Ends (if s.settings.tableOfContents then printIndex >>= fun _ => closeDocument
    else closeDocument) s _ _
  rw [hs.settings, if_pos htoc]
  exact .bind_ok (printIndex_eq hs.unlimited hs.inSong)
    (.of_ok (closeDocument_eq (indexPrinted_unlimited hs.unlimited hs.inSong)) ⟨hs, rfl⟩)

theorem closed_received (s : Session L) : ∃ ds, OnlyRules s.document.geometry ds ∧
    s.closed.device.received.toList = s.device.received.toList ++ ds := by
  unfold Session.closed
  split
  · exact ⟨_, by simp [OnlyRules], moved_received ..⟩
  · refine ⟨s.sheetFoot ++ [.endDocument s.document.cursor.leaveSheet.sheets],
      onlyRules_append.2 ⟨s.onlyRules_sheetFoot, by simp [OnlyRules]⟩, ?_⟩
    dsimp only
    rw [moved_drawn, moved_received]
    rfl

theorem onlyRules_indexRows (s : Session L) :
    ∀ row ∈ s.indexRows, ∀ v, OnlyRules s.document.geometry (row v) := by
  intro row hrow v
  obtain ⟨e, -, hrow⟩ := List.mem_flatMap.1 hrow
  rcases List.mem_cons.1 hrow with rfl | hrow
  · simp [OnlyRules]
  · obtain ⟨text, -, rfl⟩ := List.mem_map.1 hrow
    simp [OnlyRules]

/-- The bar of a running chorus is no rule over a page number. -/
theorem bar_not_onlyRules {g : PageGeometry Rat} (hpaper : g.bottom < g.top)
    (htop : s.document.cursor.chorus = .running g.top) : ¬ OnlyRules g s.bar := by
  intro hrules
  have hbar : s.bar = [.stroke [⟨s.document.cursor.horizontal - barOffset, g.top⟩,
      ⟨s.document.cursor.horizontal - barOffset, s.document.cursor.vertical⟩] 1] := by
    unfold Session.bar
    rw [htop]
  rw [hbar] at hrules
  have hpoints := hrules _ _ (List.mem_singleton_self _)
  simp only [PageGeometry.rule, List.cons.injEq, Point.mk.injEq] at hpoints
  have := hpoints.1.2
  linarith

/-- On the pages of the index nothing is stroked but rules, unless there is an index and a chorus is
running. -/
theorem indexPrinted_onlyRules_iff (hs : SongsOver settings s) : ∃ ds,
    s.indexPrinted.closed.device.received.toList = s.device.received.toList ++ ds ∧
      (OnlyRules s.document.geometry ds ↔
        s.indexRows = [] ∨ ¬ s.document.cursor.chorus.IsRunning) := by
  by_cases hnone : s.indexRows = []
  · have hprinted : s.indexPrinted = s := if_pos hnone
    obtain ⟨ds, hrules, hreceived⟩ := closed_received s
    rw [hprinted]
    exact ⟨ds, hreceived, iff_of_true hrules (.inl hnone)⟩
  · let u := s.indexRows.foldl (·.rowPrinted s.indexStep) s.indexBegun
    have hprinted : s.indexPrinted = u.pageEnded false := if_neg hnone
    have hu : s.IndexedSince u :=
      (IndexedSince.indexBegun s).rowsPrinted s.indexStep (onlyRules_indexRows s)
    obtain ⟨ds, hds, hrules⟩ := hu.received
    obtain ⟨es, hes, hclosed⟩ := closed_received (u.pageEnded false)
    refine ⟨ds ++ u.pageEnd false ++ es, ?_, ?_⟩
    · rw [hprinted, hclosed, Session.pageEnded, moved_received, hds]
      simp
    have hgeometry : (u.pageEnded false).document.geometry = s.document.geometry := hu.geometry
    rw [hgeometry] at hes
    rw [onlyRules_append, onlyRules_append, or_iff_right hnone]
    constructor
    · rintro ⟨⟨-, hend⟩, -⟩ hruns
      obtain ⟨top, htop⟩ := hu.chorus.2 hruns
      have htop' : u.document.cursor.chorus = .running s.document.geometry.top := by
        rw [htop, hu.top top htop]
      refine bar_not_onlyRules (bottom_lt_top hs.paper) htop' ?_
      unfold Session.pageEnd Session.pageFoot at hend
      simp only [onlyRules_append] at hend
      exact hend.1.2.2
    · intro hstill
      refine ⟨⟨hrules hstill, ?_⟩, hes⟩
      rw [← hu.geometry]
      exact onlyRules_pageEnd (fun hruns => hstill (hu.chorus.1 hruns)) _

theorem indexBegun_cursor (hsize : 0 < (s.document.styles.current .text).size)
    (hfits : (s.document.styles.current .text).size + titleIncrement ≤ largestSize) :
    s.indexBegun.document.cursor.column = 0 ∧
    s.indexBegun.document.cursor.columns = s.document.cursor.columns ∧
    s.indexBegun.document.cursor.columnTop = s.document.cursor.columnTop ∧
    s.indexBegun.document.cursor.vertical =
      s.document.geometry.top - ((s.document.styles.current .text).size + 5) := by
  have hcount : ∀ c : Cursor Rat, c.countPage.columnTop = c.columnTop := fun c => by
    by_cases h : c.slot = 0 <;> simp [Cursor.countPage, h]
  refine ⟨rfl, Cursor.countPage_columns _, hcount _, ?_⟩
  show s.document.geometry.top - ((titleFont s.document.styles).size : Rat) = _
  rw [titleFont_size hsize.le hfits, titleIncrement]
  push_cast
  ring

/-- The rows of the index descend on every page unless it goes on in a second column. -/
theorem indexRows_descend_iff (hs : SongsOver settings s)
    (hsize : 0 < (s.document.styles.current .text).size)
    (hfits : (s.document.styles.current .text).size + titleIncrement ≤ largestSize) :
    (s.indexBegun.rowPlaces s.indexStep s.indexRows).IsChain Descends ↔
      s.indexRows = [] ∨ s.document.cursor.columns ≤ 1 ∨
        s.document.geometry.bottom ≤ s.document.geometry.top -
          ((s.document.styles.current .text).size + 5) -
          s.indexRows.length * (s.document.styles.current .text).size := by
  obtain ⟨hcolumn, hcolumns, hcolumnTop, hvertical⟩ := indexBegun_cursor hsize hfits
  have hstep : s.indexStep = ((s.document.styles.current .text).size : Rat) := rfl
  have hpos : (0 : Rat) < s.indexStep := by
    rw [hstep]
    exact_mod_cast hsize
  by_cases hone : s.document.cursor.columns ≤ 1
  · exact iff_of_true (rowPlaces_descend_of_single hpos (hcolumns ▸ hone)) (.inr (.inl hone))
  · have hmany : 1 < s.indexBegun.document.cursor.columns := by omega
    have htop : s.indexBegun.document.cursor.vertical ≤
        s.indexBegun.document.cursor.columnTop := by
      rw [hcolumnTop, hs.columnTop, hvertical]
      rw [hstep] at hpos
      linarith
    have hgeometry : s.indexBegun.document.geometry = s.document.geometry := rfl
    rw [rowPlaces_descend_iff hpos hmany hcolumn htop, hvertical, hgeometry, hstep]
    simp [hone]

/-- From the end of the songs at `s` to the end of the run at `t`: the index is printed; on each of
its pages every row stands below the row before it exactly if the last song leaves a single column or
the index has room in the first one; and nothing is stroked but rules over page numbers exactly if no
chorus is left running. An empty index is not printed. -/
structure IndexedTo (s t : Session Rat) : Prop where
  printed : t = s.indexPrinted.closed
  descend_iff : (s.indexBegun.rowPlaces s.indexStep s.indexRows).IsChain Descends ↔
    s.indexRows = [] ∨ s.document.cursor.columns ≤ 1 ∨
      s.document.geometry.bottom ≤ s.document.geometry.top -
        ((s.document.styles.current .text).size + 5) -
        s.indexRows.length * (s.document.styles.current .text).size
  onlyRules_iff : ∃ ds, t.device.received.toList = s.device.received.toList ++ ds ∧
    (OnlyRules s.document.geometry ds ↔
      s.indexRows = [] ∨ ¬ s.document.cursor.chorus.IsRunning)

/-- With a table of contents a run ends with the index. -/
theorem index_apart_iff (settings : Settings Rat) (configurations : List (String × String))
    (overrides : Overrides) (songs : List (String × String))
    (htoc : settings.tableOfContents = true)
    (hsize : 0 < ((songsEnded settings configurations overrides songs).document.styles.current
      .text).size)
    (hfits : ((songsEnded settings configurations overrides songs).document.styles.current
      .text).size + titleIncrement ≤ largestSize) :
    RunsTo settings configurations overrides songs
      (IndexedTo (songsEnded settings configurations overrides songs)) := by
  refine ⟨(finish_ends htoc configurations overrides songs).ends.mono ?_⟩
  rintro _ t ⟨hs, ht⟩
  refine ⟨ht, indexRows_descend_iff hs hsize hfits, ?_⟩
  rw [ht]
  exact indexPrinted_onlyRules_iff hs

/-! ## An index after one song -/

def indexed : Settings Rat := { Settings.default with tableOfContents := true }

def noOverrides : Overrides := ⟨none, none, none, none, none, none⟩

def plainSong : String × String := ("a", "\x7bt: a\x7d\nla\n")

/-- Its chorus is ended by nothing but the end of the song. -/
def choralSong : String × String := ("a", "\x7bt: a\x7d\n\x7bsoc\x7d\nla\n")

theorem index_apart_plainSong :
    indexed.tableOfContents = true ∧
    0 < ((songsEnded indexed [] noOverrides [plainSong]).document.styles.current .text).size ∧
    ((songsEnded indexed [] noOverrides [plainSong]).document.styles.current .text).size +
      titleIncrement ≤ largestSize ∧
    RunsTo indexed [] noOverrides [plainSong]
      (IndexedTo (songsEnded indexed [] noOverrides [plainSong])) := by
  have hsize : 0 <
      ((songsEnded indexed [] noOverrides [plainSong]).document.styles.current .text).size := by
    decide +kernel
  have hfits : ((songsEnded indexed [] noOverrides [plainSong]).document.styles.current
      .text).size + titleIncrement ≤ largestSize := by decide +kernel
  exact ⟨rfl, hsize, hfits, index_apart_iff indexed [] noOverrides [plainSong] rfl hsize hfits⟩

/-- After the choral song a bar is stroked on the page of the index. -/
theorem index_barred_choralSong : ∃ s t : Session Rat,
    (do prepare [] noOverrides; printSongs [choralSong]; begin; endSong)
      (.start indexed .unlimited) = .ok () s ∧
    (do prepare [] noOverrides; printSongs [choralSong]; finish)
      (.start indexed .unlimited) = .ok () t ∧
    1 ≤ (s.document.styles.current .text).size ∧
    ∃ ds points width, t.device.received.toList = s.device.received.toList ++ ds ∧
      .stroke points width ∈ ds ∧ points ≠ s.document.geometry.rule := by
  have hend : (do prepare [] noOverrides; printSongs [choralSong]; begin; endSong)
      (.start indexed .unlimited) = .ok () (songsEnded indexed [] noOverrides [choralSong]) := by
    unfold songsEnded
    exact eq_ok_of_succeeds (by decide +kernel)
  obtain ⟨t, hrun⟩ : ∃ t, (do prepare [] noOverrides; printSongs [choralSong]; finish)
      (.start indexed .unlimited) = .ok () t := ⟨_, eq_ok_of_succeeds (by decide +kernel)⟩
  obtain ⟨hover, ht⟩ := (finish_ends rfl [] noOverrides [choralSong]).of_ok hrun
  obtain ⟨ds, hds, hrules⟩ := indexPrinted_onlyRules_iff hover
  have hrows : (songsEnded indexed [] noOverrides [choralSong]).indexRows ≠ [] := by
    rw [ne_eq, indexRows_eq_nil_iff]
    decide +kernel
  have hruns : (songsEnded indexed [] noOverrides [choralSong]).document.cursor.chorus.IsRunning := by
    decide +kernel
  have hbar : ¬ OnlyRules _ ds := fun h => (hrules.1 h).elim hrows fun hstill => hstill hruns
  simp only [OnlyRules, not_forall] at hbar
  obtain ⟨points, width, hmem, hne⟩ := hbar
  refine ⟨_, _, hend, hrun, ?_, ds, points, width, ?_, hmem, hne⟩
  · decide +kernel
  · rw [ht]
    exact hds

end Typeset

end Songbook
