import Songbook.Proofs.Layout
import Songbook.Proofs.PageEnds

/-!
# Printouts

A document as what stands on its pages: sheets of pages, each with its number. `Printout` adds the
pages that are done on the open sheet. While pages are turned a session has printed some printout
and a part of the page that is open (`IsPrinting`), or a printout alone (`HasPrinted`); the counts
of its cursor are the numbers of sheets and pages in it.
-/

namespace Songbook

variable {L : Type}

/-- The pieces that each member gives at its place, one after the other. -/
def concatIdx {α β : Type} (f : Nat → α → List β) (l : List α) : List β := (l.mapIdx f).flatten

@[simp] theorem concatIdx_nil {α β : Type} (f : Nat → α → List β) : concatIdx f [] = [] := rfl

theorem concatIdx_concat {α β : Type} (f : Nat → α → List β) (l : List α) (a : α) :
    concatIdx f (l ++ [a]) = concatIdx f l ++ f l.length a := by
  simp [concatIdx, List.mapIdx_concat]

/-- Something printed on a page. Titles that go into the index and the rows of the index are told
apart from the rest. -/
inductive PageItem (L : Type) where
  | plain (d : Drawing L) (h : d.InBody)
  | heading (title : String) (font : Font)
  | row (e : IndexEntry) (font : Font) (left right : Point L)

namespace PageItem

def drawings : PageItem L → List (Drawing L)
  | plain d _ => [d]
  | heading title font => [.text title .text font .center .plain]
  | row e font left right => [.moveTo left, .text e.title .text font .left .plain, .moveTo right,
      .text (toString e.page) .text font .right .plain]

def heading? : PageItem L → Option String
  | heading title _ => some title
  | _ => none

def row? : PageItem L → Option IndexEntry
  | row e _ _ _ => some e
  | _ => none

theorem exists_plain {ds : List (Drawing L)} (h : ∀ d ∈ ds, d.InBody) :
    ∃ items : List (PageItem L), items.flatMap drawings = ds ∧ items.filterMap heading? = [] ∧
      items.filterMap row? = [] := by
  induction ds with
  | nil => exact ⟨[], rfl, rfl, rfl⟩
  | cons d ds ih =>
    obtain ⟨items, hds, hheadings, hrows⟩ := ih fun d hd => h d (List.mem_cons_of_mem _ hd)
    exact ⟨plain d (h d (by simp)) :: items, congrArg (d :: ·) hds, hheadings, hrows⟩

end PageItem

/-- A page as it is printed. -/
structure PrintedPage (L : Type) where
  body : List (PageItem L)
  /-- The font of its number. -/
  font : Font
  /-- What follows its number. -/
  rest : List (PageItem L)

structure PrintedSheet (L : Type) where
  pages : List (PrintedPage L)
  /-- The font of its number. -/
  font : Font

/-- Sheets that are done, and the pages that are done on the open one. -/
structure Printout (L : Type) where
  sheets : List (PrintedSheet L)
  pages : List (PrintedPage L)

namespace Settings

variable (settings : Settings L)

/-- The number of a page, by the sheets and the pages of its sheet that come before it. -/
def pageLabel (sheets pages : Nat) : Int :=
  ((sheets * settings.pagination.perSheet + pages + 1 : Nat) : Int)

/-- The number of a sheet: sheets are numbered upwards from the first page's number. -/
def sheetLabel (sheets : Nat) : Int := ((settings.firstPage.getD 1 + sheets : Nat) : Int)

/-- The number that stands on a page, or on its sheet if sheets are numbered. -/
def label (sheets pages : Nat) : Int :=
  if settings.numberPages then settings.pageLabel sheets pages else settings.sheetLabel sheets

/-- With so many sheets done, and so many pages begun on the next one. -/
def counts (sheets pages : Nat) : Counts where
  pagination := settings.pagination
  slot := pages
  sheets := if pages = 0 then sheets else sheets + 1
  sheetLabel := settings.sheetLabel (if pages = 0 then sheets else sheets + 1) - 1
  pageLabel := settings.pageLabel sheets pages - 1

theorem pageLabel_counts (n k : Nat) :
    (settings.counts n (k + 1)).pageLabel = settings.pageLabel n k := by
  simp only [counts, pageLabel]
  omega

theorem sheetLabel_counts {n k : Nat} (hk : k ≠ 0) :
    (settings.counts n k).sheetLabel = settings.sheetLabel n := by
  simp only [counts, sheetLabel, if_neg hk]
  omega

end Settings

namespace Drawing

variable [Length L] (settings : Settings L) (g : PageGeometry L)

/-- A number under its rule. -/
def footer (font : Font) (number : Int) : List (Drawing L) :=
  let (h, align) :=
    if settings.evenPagesLeft && number % 2 == 0 then (Typeset.numberInset, Align.left)
    else (g.width - Typeset.numberInset, .right)
  [.stroke [⟨g.left, g.bottom - 10⟩, ⟨g.width - g.left, g.bottom - 10⟩] 1,
    .moveTo ⟨h, g.bottom / 3⟩,
    .text ("Page " ++ toString number) .text font align .plain]

/-- How a page begins: with its sheet if it is the first on it. -/
def pageBeginning (sheets pages : Nat) : List (Drawing L) :=
  (if pages = 0 then sheetOpening g settings.pagination (sheets + 1) else []) ++
    pageOpening g settings.pagination (pages + 1)

/-- A page with its number, if pages are numbered. -/
def ofPage (sheets pages : Nat) (page : PrintedPage L) : List (Drawing L) :=
  pageBeginning settings g sheets pages ++ page.body.flatMap PageItem.drawings ++
    (if settings.numberPages then footer settings g page.font (settings.pageLabel sheets pages)
      else []) ++
    page.rest.flatMap PageItem.drawings

/-- A sheet with its number, unless pages are numbered. -/
def ofSheet (sheets : Nat) (sheet : PrintedSheet L) : List (Drawing L) :=
  concatIdx (ofPage settings g sheets) sheet.pages ++
    sheetClosing settings.pagination (if settings.numberPages then []
      else footer settings g sheet.font (settings.sheetLabel sheets)) (sheets + 1)

end Drawing

namespace PrintedPage

def headings (page : PrintedPage L) : List String := page.body.filterMap PageItem.heading?

def rows (page : PrintedPage L) : List IndexEntry := page.body.filterMap PageItem.row?

end PrintedPage

/-- The headings of pages, each with the number that stands on its page or sheet. -/
def Settings.headings (settings : Settings L) (sheets : Nat) (pages : List (PrintedPage L)) :
    List (String × Int) :=
  concatIdx (fun i page => page.headings.map (·, settings.label sheets i)) pages

def Settings.sheetHeadings (settings : Settings L) (sheets : List (PrintedSheet L)) :
    List (String × Int) :=
  concatIdx (fun i sheet => settings.headings i sheet.pages) sheets

def PrintedSheet.rows (sheet : PrintedSheet L) : List IndexEntry :=
  sheet.pages.flatMap PrintedPage.rows

/-- It holds a page, and no more than there is room for. -/
def PrintedSheet.IsFilled (p : Pagination) (sheet : PrintedSheet L) : Prop :=
  1 ≤ sheet.pages.length ∧ sheet.pages.length ≤ p.perSheet

namespace Printout

variable (settings : Settings L)

def drawings [Length L] (g : PageGeometry L) (o : Printout L) : List (Drawing L) :=
  concatIdx (Drawing.ofSheet settings g) o.sheets ++
    concatIdx (Drawing.ofPage settings g o.sheets.length) o.pages

def headings (o : Printout L) : List (String × Int) :=
  settings.sheetHeadings o.sheets ++ settings.headings o.sheets.length o.pages

def rows (o : Printout L) : List IndexEntry :=
  o.sheets.flatMap PrintedSheet.rows ++ o.pages.flatMap PrintedPage.rows

def withPage (o : Printout L) (page : PrintedPage L) : Printout L :=
  { o with pages := o.pages ++ [page] }

/-- With the open sheet closed. -/
def withSheet (o : Printout L) (font : Font) : Printout L :=
  ⟨o.sheets ++ [⟨o.pages, font⟩], []⟩

variable (o : Printout L) (page : PrintedPage L) (font : Font)

theorem drawings_withPage [Length L] (g : PageGeometry L) :
    (o.withPage page).drawings settings g =
      o.drawings settings g ++ Drawing.ofPage settings g o.sheets.length o.pages.length page := by
  simp [drawings, withPage, concatIdx_concat]

theorem headings_withPage : (o.withPage page).headings settings = o.headings settings ++
    page.headings.map (·, settings.label o.sheets.length o.pages.length) := by
  simp [headings, Settings.headings, withPage, concatIdx_concat]

theorem rows_withPage : (o.withPage page).rows = o.rows ++ page.rows := by
  simp [rows, withPage]

theorem drawings_withSheet [Length L] (g : PageGeometry L) :
    (o.withSheet font).drawings settings g = o.drawings settings g ++
      Drawing.sheetClosing settings.pagination (if settings.numberPages then []
        else Drawing.footer settings g font (settings.sheetLabel o.sheets.length))
        (o.sheets.length + 1) := by
  simp [drawings, withSheet, concatIdx_concat, Drawing.ofSheet]

theorem headings_withSheet : (o.withSheet font).headings settings = o.headings settings := by
  simp [headings, Settings.sheetHeadings, Settings.headings, withSheet, concatIdx_concat]

theorem rows_withSheet : (o.withSheet font).rows = o.rows := by
  simp [rows, withSheet, PrintedSheet.rows]

end Printout

/-! ## The counts of the cursor -/

namespace Cursor

variable {settings : Settings L} {c : Cursor L} {n k : Nat}

theorem counts_begun [Length L] (h : c.counts = settings.counts n k) (g : PageGeometry L) :
    (c.begun g).counts = settings.counts n (k + 1) := by
  simp only [counts, Settings.counts, Counts.mk.injEq] at h ⊢
  obtain ⟨hpagination, hslot, hsheets, hsheetLabel, hpageLabel⟩ := h
  by_cases hk : k = 0 <;>
    simp_all [begun, toPageTop, countPage, Settings.sheetLabel, Settings.pageLabel] <;> omega

theorem counts_leaveSheet (h : c.counts = settings.counts n k) (hk : k ≠ 0) :
    c.leaveSheet.counts = settings.counts (n + 1) 0 := by
  simp only [counts, Settings.counts, Counts.mk.injEq] at h ⊢
  obtain ⟨hpagination, hslot, hsheets, hsheetLabel, hpageLabel⟩ := h
  -- the pages that the sheet has no more room for are counted as if they had been printed
  have hskip : (n : Int) * settings.pagination.perSheet + k + (settings.pagination.perSheet - k) =
      (n + 1) * settings.pagination.perSheet := by
    rw [Int.add_mul]
    omega
  simp_all [leaveSheet, Settings.pageLabel]

end Cursor

/-! ## The session -/

namespace Session

variable [Length L]

/-- Before what is drawn as `ds` there stands a printout, and so many pages have been begun on the
open sheet. -/
structure HasDone (settings : Settings L) (o : Printout L) (begun : Nat) (ds : List (Drawing L))
    (s : Session L) : Prop where
  received : s.device.received.toList = .beginDocument s.document.geometry ::
    (o.drawings settings s.document.geometry ++ ds)
  counts : s.document.cursor.counts = settings.counts o.sheets.length begun
  filled : ∀ sheet ∈ o.sheets, sheet.IsFilled settings.pagination
  room : begun ≤ settings.pagination.perSheet
  unlimited : s.device.limit = none
  inSong : s.startup = false
  started : s.started = true
  settings_eq : s.settings = settings

/-- A page is open, with that in its body so far. -/
abbrev IsPrinting (settings : Settings L) (o : Printout L) (body : List (PageItem L))
    (s : Session L) : Prop :=
  s.HasDone settings o (o.pages.length + 1)
    (Drawing.pageBeginning settings s.document.geometry o.sheets.length o.pages.length ++
      body.flatMap PageItem.drawings)

/-- No page is open. -/
structure HasPrinted (settings : Settings L) (o : Printout L) (s : Session L) : Prop
    extends s.HasDone settings o o.pages.length [] where
  notFull : o.pages.length < settings.pagination.perSheet

variable {settings : Settings L} {o : Printout L} {body items : List (PageItem L)} {k k' : Nat}
  {ds es : List (Drawing L)} {s t : Session L}

/-- All that is told depends on the device and on what stays as it is inside a page, but not on the
index. -/
theorem HasDone.congr (h : s.HasDone settings o k ds) (hdevice : t.device = s.device)
    (hframe : t.frame = { s.frame with index := t.document.index }) :
    t.HasDone settings o k ds := by
  simp only [frame, Frame.mk.injEq] at hframe
  obtain ⟨hsettings, hstartup, hstarted, hgeometry, hcounts, -⟩ := hframe
  refine ⟨?_, hcounts.trans h.counts, h.filled, h.room, ?_, hstartup.trans h.inSong,
    hstarted.trans h.started, hsettings.trans h.settings_eq⟩
  · rw [hdevice, hgeometry]
    exact h.received
  · rw [hdevice]
    exact h.unlimited

theorem HasDone.moved (h : s.HasDone settings o k ds) {c : Cursor L}
    (hc : c.counts = settings.counts o.sheets.length k') (hroom : k' ≤ settings.pagination.perSheet)
    (es : List (Drawing L)) (log : Array (LogEntry L)) :
    (s.moved c es log).HasDone settings o k' (ds ++ es) where
  received := by
    rw [moved_received, h.received]
    simp
  counts := hc
  filled := h.filled
  room := hroom
  unlimited := h.unlimited
  inSong := h.inSong
  started := h.started
  settings_eq := h.settings_eq

theorem IsPrinting.drawn (h : s.IsPrinting settings o body) (items : List (PageItem L)) :
    (s.drawn (items.flatMap PageItem.drawings)).IsPrinting settings o (body ++ items) := by
  have hdrawn := HasDone.moved h h.counts h.room (items.flatMap PageItem.drawings) s.log
  rwa [List.append_assoc, ← List.flatMap_append] at hdrawn

theorem HasPrinted.pageBegun (h : s.HasPrinted settings o) :
    s.pageBegun.IsPrinting settings o [] := by
  have hcounts := h.counts
  simp only [Cursor.counts, Settings.counts, Counts.mk.injEq] at hcounts
  obtain ⟨hpagination, hslot, hsheets, -⟩ := hcounts
  have hstart : s.pageStart = Drawing.pageBeginning settings s.document.geometry o.sheets.length
      o.pages.length := by
    unfold pageStart Drawing.pageBeginning
    rw [hpagination, hslot, hsheets]
    split <;> rfl
  show HasDone settings o _ (Drawing.pageBeginning settings s.document.geometry _ _ ++ []) _
  rw [← hstart, List.append_nil]
  exact h.toHasDone.moved (Cursor.counts_begun h.counts s.document.geometry)
    (Nat.succ_le_of_lt h.notFull) s.pageStart _

/-- Where all are numbered, each number is. -/
theorem marked_eq_footer (hsettings : s.settings = settings) (hall : settings.numberAll = true)
    (number : Int) (pages : Nat) :
    s.marked (Typeset.number? s.settings.numberAll number pages) =
      Drawing.footer settings s.document.geometry (Typeset.footerFont s.document) number := by
  subst hsettings
  rw [hall]
  rfl

theorem inBody_titleMark (s : Session L) : ∀ d ∈ s.titleMark, d.InBody := by
  unfold titleMark
  split
  · split <;> simp [Drawing.InBody]
  · simp

theorem inBody_bar (s : Session L) : ∀ d ∈ s.bar, d.InBody := by
  unfold bar
  split
  · simp [Drawing.InBody]
  · simp

/-- A page is done with its foot: what has been printed on it is a page of the open sheet. -/
theorem IsPrinting.footed (h : s.IsPrinting settings o body) (hall : settings.numberAll = true) :
    ∃ page : PrintedPage L, page.headings = body.filterMap PageItem.heading? ∧
      page.rows = body.filterMap PageItem.row? ∧
      (s.drawn s.pageFoot).HasDone settings (o.withPage page) (o.pages.length + 1) [] := by
  obtain ⟨before, hbefore, hheadings, hrows⟩ := PageItem.exists_plain s.inBody_titleMark
  obtain ⟨rest, hrest, -⟩ := PageItem.exists_plain s.inBody_bar
  let page : PrintedPage L := ⟨body ++ before, Typeset.footerFont s.document, rest⟩
  have hlabel : s.document.cursor.pageLabel = settings.pageLabel o.sheets.length o.pages.length :=
    (congrArg Counts.pageLabel h.counts).trans (settings.pageLabel_counts _ _)
  have hfoot : Drawing.ofPage settings s.document.geometry o.sheets.length o.pages.length page =
      Drawing.pageBeginning settings s.document.geometry o.sheets.length o.pages.length ++
        body.flatMap PageItem.drawings ++ s.pageFoot := by
    unfold pageFoot
    rw [marked_eq_footer h.settings_eq hall, h.settings_eq, hlabel]
    simp [Drawing.ofPage, page, hbefore, hrest]
  refine ⟨page, by simp [PrintedPage.headings, page, hheadings],
    by simp [PrintedPage.rows, page, hrows], ?_⟩
  have hdrawn := HasDone.moved h h.counts h.room s.pageFoot s.log
  refine { hdrawn with received := ?_ }
  refine hdrawn.received.trans ?_
  show _ :: (_ ++ _) = _ :: ((o.withPage page).drawings settings s.document.geometry ++ [])
  rw [Printout.drawings_withPage, hfoot]
  simp

theorem HasDone.sheetClosed (h : s.HasDone settings o o.pages.length [])
    (hall : settings.numberAll = true) (hopen : o.pages ≠ []) :
    (s.moved s.document.cursor.leaveSheet s.sheetFoot s.log).HasPrinted settings
      (o.withSheet (Typeset.footerFont s.document)) := by
  have hlength : o.pages.length ≠ 0 := fun h => hopen (List.length_eq_zero_iff.1 h)
  have hcounts := h.counts
  simp only [Cursor.counts, Settings.counts, Counts.mk.injEq, if_neg hlength] at hcounts
  obtain ⟨hpagination, -, hsheets, -⟩ := hcounts
  have hlabel : s.document.cursor.sheetLabel = settings.sheetLabel o.sheets.length :=
    (congrArg Counts.sheetLabel h.counts).trans (settings.sheetLabel_counts hlength)
  have hfoot : s.sheetFoot = Drawing.sheetClosing settings.pagination
      (if settings.numberPages then [] else Drawing.footer settings s.document.geometry
        (Typeset.footerFont s.document) (settings.sheetLabel o.sheets.length))
        (o.sheets.length + 1) := by
    unfold sheetFoot
    rw [marked_eq_footer h.settings_eq hall, hpagination, hsheets, hlabel, h.settings_eq]
    cases settings.numberPages <;> rfl
  refine ⟨⟨?_, ?_, ?_, Nat.zero_le _, h.unlimited, h.inSong, h.started, h.settings_eq⟩,
    settings.pagination.perSheet_pos⟩
  · rw [moved_received, h.received, hfoot]
    show _ = _ :: ((o.withSheet _).drawings settings s.document.geometry ++ [])
    rw [Printout.drawings_withSheet]
    simp
  · have hleft := Cursor.counts_leaveSheet h.counts hlength
    simpa [Printout.withSheet] using hleft
  · intro sheet hsheet
    rcases List.mem_append.1 hsheet with hsheet | hsheet
    · exact h.filled sheet hsheet
    · rw [List.mem_singleton.1 hsheet]
      exact ⟨Nat.one_le_iff_ne_zero.2 hlength, h.room⟩

theorem HasPrinted.moved (h : s.HasPrinted settings o) {c : Cursor L}
    (hc : c.counts = s.document.cursor.counts) (log : Array (LogEntry L)) :
    (s.moved c [] log).HasPrinted settings o :=
  ⟨h.toHasDone.moved (hc.trans h.counts) h.room [] log, h.notFull⟩

/-- A page that has been left is done, and so is its sheet if that was left with it. -/
theorem IsPrinting.pageEnded (h : s.IsPrinting settings o body) (hall : settings.numberAll = true)
    (sheetToo : Bool) :
    ∃ o' : Printout L, (s.pageEnded sheetToo).HasPrinted settings o' ∧
      o'.headings settings = o.headings settings ++ (body.filterMap PageItem.heading?).map
        (·, settings.label o.sheets.length o.pages.length) ∧
      o'.rows = o.rows ++ body.filterMap PageItem.row? := by
  obtain ⟨page, hheadings, hrows, hdone⟩ := h.footed hall
  have hlength : (o.withPage page).pages.length = o.pages.length + 1 := by
    simp [Printout.withPage]
  rw [← hlength] at hdone
  have hslot : s.document.cursor.slot = o.pages.length + 1 := congrArg Counts.slot h.counts
  have hpagination : s.document.cursor.pagination = settings.pagination :=
    congrArg Counts.pagination h.counts
  have hopen : s.document.cursor.slot ≠ 0 := by omega
  unfold Session.pageEnded Session.pageEnd Cursor.left
  rw [if_neg hopen]
  by_cases hfull : s.document.cursor.pagination.perSheet ≤ s.document.cursor.slot || sheetToo
  · have hclosed := hdone.sheetClosed hall (by simp [Printout.withPage])
    have hleft : (((s.drawn s.pageFoot).moved s.document.cursor.leaveSheet s.sheetFoot s.log).moved
        (s.document.cursor.leaveSheet.leavePage s.document.geometry) [] s.log).HasPrinted settings
        ((o.withPage page).withSheet (Typeset.footerFont s.document)) :=
      hclosed.moved (c := s.document.cursor.leaveSheet.leavePage s.document.geometry) rfl s.log
    rw [drawn_moved, moved_moved, List.append_nil] at hleft
    refine ⟨(o.withPage page).withSheet (Typeset.footerFont s.document), ?_, ?_, ?_⟩
    · rwa [if_pos hfull, if_pos hfull]
    · rw [Printout.headings_withSheet, Printout.headings_withPage, hheadings]
    · rw [Printout.rows_withSheet, Printout.rows_withPage, hrows]
  · have hroom : (o.withPage page).pages.length < settings.pagination.perSheet := by
      simp only [Bool.or_eq_true, decide_eq_true_eq, not_or, hpagination, hslot] at hfull
      omega
    have hprinted : (s.drawn s.pageFoot).HasPrinted settings (o.withPage page) := ⟨hdone, hroom⟩
    have hleft := hprinted.moved (c := s.document.cursor.leavePage s.document.geometry) rfl s.log
    rw [drawn_moved] at hleft
    refine ⟨o.withPage page, ?_, ?_, ?_⟩
    · rwa [if_neg hfull, if_neg hfull]
    · rw [Printout.headings_withPage, hheadings]
    · rw [Printout.rows_withPage, hrows]

end Session

end Songbook
