import Mathlib.Tactic.Ring
import Songbook.Proofs.Runs

/-!
# Keeping the books on pages and columns

The cursor counts pages, sheets and columns in several places at several moments. `Sound` says how
the counters belong together; a page turn restores it whether or not the sheet ends with the page
(`Sound.turned`), every move of a song keeps it (`Move.sound`), and so it holds after the document's
beginning and after each character of each song. Over exact lengths columns are equally wide and
stand side by side (`books_kept`).
-/

namespace Songbook

variable {L : Type} [Length L]

namespace Cursor

/-- The counters of an open page. Columns of full width, and the first column, are placed without
any computation. -/
structure Sound (settings : Settings L) (g : PageGeometry L) (c : Cursor L) : Prop where
  pagination : c.pagination = settings.pagination
  slot_pos : 1 ≤ c.slot
  slot_le : c.slot ≤ settings.pagination.perSheet
  pageLabel : c.pageLabel = ((c.sheets : Int) - 1) * settings.pagination.perSheet + c.slot
  sheetLabel : c.sheetLabel = (settings.firstPage.getD 1 : Nat) - 1 + (c.sheets : Int)
  songPages_pos : 1 ≤ c.songPages
  songPages_le : c.songPages ≤ c.pages
  pages_le : (c.pages : Int) ≤ c.pageLabel
  column_lt : c.column < c.columns
  columnWidth : c.columnWidth = g.textWidth / Length.ofInt (c.columns : Nat) ∨
    c.columns = 1 ∧ c.columnWidth = g.textWidth
  horizontal : c.horizontal = g.left + Length.ofInt (c.column : Nat) * c.columnWidth ∨
    c.column = 0 ∧ c.horizontal = g.left

variable {settings : Settings L} {g : PageGeometry L} {c : Cursor L}

/-- The counters of pages and sheets after a page has been left: so many sheets have ended, and
there is room for another page on the one that is open, if one is. -/
structure Left (settings : Settings L) (c : Cursor L) (ended : Int) : Prop where
  pagination : c.pagination = settings.pagination
  room : c.slot < settings.pagination.perSheet
  sheets : (c.sheets : Int) = ended + if c.slot = 0 then 0 else 1
  pageLabel : c.pageLabel = ended * settings.pagination.perSheet + c.slot
  sheetLabel : c.sheetLabel = (settings.firstPage.getD 1 : Nat) - 1 + (c.sheets : Int)
  songPages_le : c.songPages ≤ c.pages
  pages_le : (c.pages : Int) ≤ c.pageLabel

theorem Sound.left (h : c.Sound settings g) (sheetToo : Bool) :
    ∃ ended, (c.left g sheetToo).Left settings ended := by
  have hslot : c.slot ≠ 0 := by
    have := h.slot_pos
    omega
  have hlabel := h.pageLabel
  have hpages := h.pages_le
  have hle := h.slot_le
  unfold Cursor.left
  rw [if_neg hslot, h.pagination]
  by_cases hend : settings.pagination.perSheet ≤ c.slot || sheetToo
  · rw [if_pos hend]
    have hended : c.pageLabel + ((settings.pagination.perSheet : Int) - c.slot) =
        (c.sheets : Int) * settings.pagination.perSheet := by
      rw [hlabel]
      ring
    refine ⟨c.sheets, h.pagination, Pagination.perSheet_pos _, ?_, ?_, h.sheetLabel,
      h.songPages_le, ?_⟩
    · simp [leavePage, leaveSheet]
    · simp [leavePage, leaveSheet, h.pagination, hended]
    · simp only [leavePage, leaveSheet, h.pagination]
      omega
  · rw [if_neg hend]
    have hroom : c.slot < settings.pagination.perSheet := by
      simp at hend
      exact hend.1
    refine ⟨c.sheets - 1, h.pagination, hroom, ?_, hlabel, h.sheetLabel, h.songPages_le, hpages⟩
    simp [leavePage, hslot]

theorem Left.begun {ended : Int} (h : c.Left settings ended) (hcolumns : 0 < c.columns)
    (hwidth : c.columnWidth = g.textWidth / Length.ofInt (c.columns : Nat) ∨
      c.columns = 1 ∧ c.columnWidth = g.textWidth) : (c.begun g).Sound settings g := by
  have hcount : (c.countPage.sheets : Int) = ended + 1 ∧
      c.countPage.pageLabel = ended * settings.pagination.perSheet + (c.slot + 1) ∧
      c.countPage.sheetLabel = (settings.firstPage.getD 1 : Nat) - 1 + (c.countPage.sheets : Int) ∧
      c.countPage.songPages ≤ c.pages ∧ c.countPage.pages = c.pages + 1 ∧
      c.countPage.columns = c.columns ∧ c.countPage.columnWidth = c.columnWidth := by
    have hsheets := h.sheets
    have hlabel := h.pageLabel
    have hsheet := h.sheetLabel
    have hsong := h.songPages_le
    by_cases hslot : c.slot = 0
    · simp only [countPage, hslot, if_pos, Nat.zero_add] at *
      refine ⟨?_, ?_, ?_, hsong, trivial, trivial, trivial⟩ <;> omega
    · rw [if_neg hslot] at hsheets
      simp only [countPage, Nat.add_eq_right, if_neg hslot]
      refine ⟨?_, ?_, ?_, hsong, trivial, trivial, trivial⟩ <;> omega
  obtain ⟨hsheets, hlabel, hsheet, hsong, hpages, hcols, hwide⟩ := hcount
  have hroom := h.room
  have hbefore := h.pages_le
  have hbeforeLabel := h.pageLabel
  refine ⟨?_, ?_, ?_, ?_, hsheet, Nat.le_add_left _ _, ?_, ?_, ?_, ?_, .inr ⟨rfl, rfl⟩⟩
  · show c.countPage.pagination = _
    rw [countPage_pagination, h.pagination]
  · show 1 ≤ c.countPage.slot
    rw [countPage_slot]
    omega
  · show c.countPage.slot ≤ _
    rw [countPage_slot]
    omega
  · show c.countPage.pageLabel = ((c.countPage.sheets : Int) - 1) * _ + (c.countPage.slot : Int)
    rw [countPage_slot, hlabel, hsheets, Int.add_sub_cancel]
    rfl
  · show c.countPage.songPages + 1 ≤ c.countPage.pages
    omega
  · show (c.countPage.pages : Int) ≤ c.countPage.pageLabel
    omega
  · show 0 < c.countPage.columns
    omega
  · show c.countPage.columnWidth = _ / Length.ofInt (c.countPage.columns : Nat) ∨
      c.countPage.columns = 1 ∧ c.countPage.columnWidth = _
    rw [hcols, hwide]
    exact hwidth

theorem Sound.turned (h : c.Sound settings g) (sheetToo : Bool) :
    (c.turned g sheetToo).Sound settings g := by
  obtain ⟨ended, hleft⟩ := h.left sheetToo
  have hcolumns := h.column_lt
  have hkept : (c.left g sheetToo).columns = c.columns ∧
      (c.left g sheetToo).columnWidth = c.columnWidth := by
    rcases c.left_cases g sheetToo with hleft | hleft | hleft <;> rw [hleft] <;> exact ⟨rfl, rfl⟩
  refine hleft.begun ?_ ?_
  · omega
  · rw [hkept.1, hkept.2]
    exact h.columnWidth

/-- A page begun by a new song is the first one of it, and has a single column. -/
theorem Sound.songBegun (h : c.Sound settings g) : (c.songBegun g).Sound settings g := by
  obtain ⟨ended, hleft⟩ := h.left false
  let fresh : Cursor L := ({ c.left g false with songPages := 0, chorus := .off }).resetColumns g
  have hfresh : fresh.Left settings ended := { hleft with songPages_le := Nat.zero_le _ }
  -- Dividing the page does not count it, so the columns can be reset first.
  have hbegun : fresh.begun g = c.songBegun g := by
    by_cases hslot : (c.left g false).slot = 0 <;>
      simp [fresh, Cursor.songBegun, Cursor.begun, countPage, toPageTop, resetColumns, hslot]
  rw [← hbegun]
  exact hfresh.begun Nat.zero_lt_one (.inr ⟨rfl, rfl⟩)

end Cursor

namespace Session

variable {edits : Bool} {settings : Settings L} {s t : Session L}

/-- Every move keeps the counters of pages, sheets and columns together. -/
theorem Move.sound (h : Move edits s t)
    (hs : s.document.cursor.Sound settings s.document.geometry) :
    t.document.cursor.Sound settings t.document.geometry := by
  cases h with
  | draw hd => exact hs
  | climb vertical blankSpace chorus => exact { hs with }
  | nextColumn hlast =>
    have hcolumn : s.document.cursor.column + 1 < s.document.cursor.columns := by
      simp [Cursor.onLastColumn] at hlast
      omega
    exact { hs with column_lt := hcolumn, horizontal := .inl rfl }
  | useChord name => exact hs
  | record file line log => exact hs
  | setColumns _ count =>
    exact { hs with
      column_lt := by
        show 0 < max 1 count
        omega
      columnWidth := .inl rfl
      horizontal := .inr ⟨rfl, rfl⟩ }
  | turn hturn => exact hs.turned _
  | nextSong _ hturn => exact hs.songBegun
  | revise _ d hg hc =>
    show d.cursor.Sound settings d.geometry
    rw [hg, hc]
    exact hs
  | count _ songs => exact hs

theorem IsBegun.sound {b : Session L} (h : IsBegun settings b) :
    b.document.cursor.Sound settings b.document.geometry := by
  obtain ⟨s, log, hs, rfl⟩ := h
  have hleft : (s.document.cursor.resetColumns s.document.geometry).Left settings 0 := by
    rw [hs.cursor]
    refine ⟨rfl, Pagination.perSheet_pos _, rfl, ?_, ?_, Nat.le_refl _, Int.le_refl _⟩
    · simp [Cursor.resetColumns, Cursor.start]
    · simp [Cursor.resetColumns, Cursor.start]
  exact hleft.begun Nat.zero_lt_one (.inr ⟨rfl, rfl⟩)

theorem InSong.sound (h : s.InSong settings) :
    s.document.cursor.Sound settings s.document.geometry :=
  h.keep (I := fun s => s.document.cursor.Sound settings s.document.geometry)
    (fun _ => IsBegun.sound) fun _ _ => Move.sound

end Session

/-- The books of pages and columns over exact lengths. -/
structure Ledger (settings : Settings Rat) (g : PageGeometry Rat) (c : Cursor Rat) : Prop where
  pagination : c.pagination = settings.pagination
  slot : 1 ≤ c.slot ∧ c.slot ≤ settings.pagination.perSheet
  pageLabel : c.pageLabel = ((c.sheets : Int) - 1) * settings.pagination.perSheet + c.slot
  sheetLabel : c.sheetLabel = (settings.firstPage.getD 1 : Nat) - 1 + (c.sheets : Int)
  songPages : 1 ≤ c.songPages ∧ c.songPages ≤ c.pages
  pages : (c.pages : Int) ≤ c.pageLabel
  column : c.column < c.columns
  columnWidth : c.columnWidth = (g.width - g.left) / c.columns
  horizontal : c.horizontal = g.left + c.column * c.columnWidth

theorem Cursor.Sound.ledger {settings : Settings Rat} {g : PageGeometry Rat} {c : Cursor Rat}
    (h : c.Sound settings g) : Ledger settings g c where
  pagination := h.pagination
  slot := ⟨h.slot_pos, h.slot_le⟩
  pageLabel := h.pageLabel
  sheetLabel := h.sheetLabel
  songPages := ⟨h.songPages_pos, h.songPages_le⟩
  pages := h.pages_le
  column := h.column_lt
  columnWidth := by
    rcases h.columnWidth with hwidth | ⟨hone, hwidth⟩
    · rw [hwidth]
      show (g.width - g.left) / ((c.columns : Int) : Rat) = _
      rw [Int.cast_natCast]
    · rw [hwidth, hone, Nat.cast_one, div_one]
      rfl
  horizontal := by
    rcases h.horizontal with hplace | ⟨hzero, hplace⟩
    · rw [hplace]
      show g.left + ((c.column : Int) : Rat) * c.columnWidth = _
      rw [Int.cast_natCast]
    · rw [hplace, hzero, Nat.cast_zero, zero_mul, add_zero]

/-- In every run the books are right, from the document's beginning on and after each further
character of each song. -/
theorem books_kept :
    (∀ settings : Settings L, Typeset.HoldsInSongs settings fun s =>
      s.document.cursor.Sound settings s.document.geometry) ∧
    ∀ settings : Settings Rat, Typeset.HoldsInSongs settings fun s =>
      Ledger settings s.document.geometry s.document.cursor :=
  ⟨fun _ => Typeset.holdsInSongs fun _ hs => hs.sound,
    fun _ => Typeset.holdsInSongs fun _ hs => hs.sound.ledger⟩

end Songbook
