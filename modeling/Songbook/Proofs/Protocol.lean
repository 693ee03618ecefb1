import Songbook.Proofs.Runs

/-!
# What the device is handed

However a run goes, the device is handed a whole document. While songs are printed it has received
the document's beginning, some closed sheets and the sheet that is open (`Move.laid`); a page that
ends may close the sheet and leaves room for the next page (`Laid.endPage`, `Laid.startPage`), and
the end of the run closes what is open (`closeDocument_ends`). `run_isDocument` puts this together.
-/

namespace Songbook

variable {L : Type} [Length L]

namespace Drawing

/-- The document is begun: so many sheets have been begun, and so many pages on the open one;
no sheet is open if these are none. -/
inductive Laid (g : PageGeometry L) (p : Pagination) : Nat → Nat → List (Drawing L) → Prop
  | closed {n : Nat} {ds : List (Drawing L)} (h : ClosedSheets g p n ds) :
      Laid g p n 0 (.beginDocument g :: ds)
  | opened {n k : Nat} {ds sheet : List (Drawing L)} (h : ClosedSheets g p n ds)
      (ho : OpenSheet g p (n + 1) k sheet) : Laid g p (n + 1) k (.beginDocument g :: (ds ++ sheet))

variable {g : PageGeometry L} {p : Pagination} {n k : Nat} {ds es : List (Drawing L)}

/-- On an open sheet anything may be drawn that stands on a page. -/
theorem Laid.contents (h : Laid g p n k ds) (hk : k ≠ 0) (hes : ∀ d ∈ es, d.isContent) :
    Laid g p n k (ds ++ es) := by
  cases h with
  | closed _ => exact (hk rfl).elim
  | opened h ho =>
    rw [List.cons_append, List.append_assoc]
    exact .opened h (ho.contents hes)

theorem Laid.close (h : Laid g p n k ds) (hk : k ≠ 0) {footer : List (Drawing L)}
    (hfooter : ∀ d ∈ footer, d.isContent) : Laid g p n 0 (ds ++ sheetClosing p footer n) := by
  cases h with
  | closed _ => exact (hk rfl).elim
  | opened h ho =>
    rw [List.cons_append]
    exact .closed (h.sheet ho hfooter)

/-- A page begins on the open sheet if there is room for it, or else on a new sheet. -/
theorem Laid.begin (h : Laid g p n k ds) (hk : k < p.perSheet) :
    Laid g p (if k = 0 then n + 1 else n) (k + 1)
      (ds ++ ((if k = 0 then sheetOpening g p (n + 1) else []) ++ pageOpening g p (k + 1))) := by
  cases h with
  | closed h =>
    rw [if_pos rfl, if_pos rfl, List.cons_append]
    exact .opened h .first
  | opened h ho =>
    have hne : k ≠ 0 := by
      have := ho.le_perSheet
      omega
    rw [if_neg hne, if_neg hne, List.nil_append, List.cons_append, List.append_assoc]
    exact .opened h (ho.page hk)

end Drawing

/-- A new song begins its page where any other page begins. -/
theorem Cursor.songBegun_turned (c : Cursor L) (g : PageGeometry L) :
    (c.songBegun g).pagination = (c.turned g false).pagination ∧
      (c.songBegun g).sheets = (c.turned g false).sheets ∧
      (c.songBegun g).slot = (c.turned g false).slot := by
  refine ⟨?_, ?_, ?_⟩
  · show (countPage _).pagination = (countPage _).pagination
    rw [countPage_pagination, countPage_pagination]
  · show (countPage _).sheets = (countPage _).sheets
    rw [countPage_sheets, countPage_sheets]
  · show (countPage _).slot = (countPage _).slot
    rw [countPage_slot, countPage_slot]

namespace Session

/-- The device has received what the cursor counts, on that paper. -/
structure Laid (g : PageGeometry L) (p : Pagination) (s : Session L) : Prop where
  geometry : s.document.geometry = g
  pagination : s.document.cursor.pagination = p
  received : Drawing.Laid g p s.document.cursor.sheets s.document.cursor.slot
    s.device.received.toList

/-- There is room on the open sheet for another page, if one is open. -/
def HasRoom (s : Session L) : Prop :=
  s.document.cursor.slot < s.document.cursor.pagination.perSheet

variable {edits : Bool} {settings : Settings L} {g : PageGeometry L} {p : Pagination}
  {s t : Session L}

/-- What stands on a page may be drawn, and the cursor may go anywhere on the page. -/
theorem Laid.moved (h : s.Laid g p) (hs : s.document.cursor.slot ≠ 0) {c : Cursor L}
    {ds : List (Drawing L)} (hds : ∀ d ∈ ds, d.isContent) (log : Array (LogEntry L))
    (hc : c.pagination = s.document.cursor.pagination ∧ c.sheets = s.document.cursor.sheets ∧
      c.slot = s.document.cursor.slot) : (s.moved c ds log).Laid g p := by
  refine ⟨h.geometry, hc.1.trans h.pagination, ?_⟩
  rw [moved_received, moved_cursor, hc.2.1, hc.2.2]
  exact h.received.contents hs hds

theorem Laid.endPage {sheetToo : Bool} {foot : List (Drawing L)} (h : s.Laid g p)
    (hs : s.document.cursor.slot ≠ 0) (hfoot : Typeset.PageEnd s sheetToo foot)
    (log : Array (LogEntry L)) :
    (s.moved (s.document.cursor.left g sheetToo) foot log).Laid g p ∧
      (s.moved (s.document.cursor.left g sheetToo) foot log).HasRoom := by
  obtain ⟨prints, hprints, hend⟩ := hfoot
  unfold HasRoom
  rw [h.pagination] at hend
  rw [moved_cursor, Cursor.left, if_neg hs, h.pagination]
  by_cases hfull : p.perSheet ≤ s.document.cursor.slot || sheetToo
  · rw [if_pos hfull] at hend ⊢
    obtain ⟨footer, hfooter, rfl⟩ := hend
    refine ⟨⟨h.geometry, h.pagination, ?_⟩, Pagination.perSheet_pos _⟩
    rw [moved_received, ← List.append_assoc]
    exact (h.received.contents hs hprints).close hs hfooter
  · rw [if_neg hfull] at hend ⊢
    subst hend
    refine ⟨h.moved hs hprints log ⟨rfl, rfl, rfl⟩, ?_⟩
    simp at hfull
    show s.document.cursor.slot < s.document.cursor.pagination.perSheet
    rw [h.pagination]
    exact hfull.1

theorem Laid.startPage (h : s.Laid g p) (hroom : s.HasRoom) (log : Array (LogEntry L)) :
    (s.moved (s.document.cursor.begun g)
      ((if s.document.cursor.slot = 0 then Drawing.sheetOpening g s.document.cursor.pagination
          (s.document.cursor.sheets + 1) else []) ++
        Drawing.pageOpening g s.document.cursor.pagination (s.document.cursor.slot + 1))
      log).Laid g p := by
  refine ⟨h.geometry, ?_, ?_⟩
  · show s.document.cursor.countPage.pagination = p
    rw [Cursor.countPage_pagination, h.pagination]
  · rw [moved_received, h.pagination]
    show Drawing.Laid g p s.document.cursor.countPage.sheets s.document.cursor.countPage.slot _
    rw [Cursor.countPage_sheets, Cursor.countPage_slot]
    unfold HasRoom at hroom
    rw [h.pagination] at hroom
    exact h.received.begin hroom

theorem Laid.turn {sheetToo : Bool} {ds : List (Drawing L)} (h : s.Laid g p)
    (hs : s.document.cursor.slot ≠ 0) (hturn : Typeset.PageTurn s sheetToo ds)
    (log : Array (LogEntry L)) :
    (s.moved (s.document.cursor.turned g sheetToo) ds log).Laid g p := by
  obtain ⟨foot, hfoot, rfl⟩ := hturn
  obtain ⟨hlaid, hroom⟩ := h.endPage hs hfoot log
  rw [← moved_moved s (s.document.cursor.left g sheetToo), h.geometry]
  exact hlaid.startPage hroom log

/-- Every move goes on with the document. -/
theorem Move.laid (h : Move edits s t) (hs : s.OnPage) (hlaid : s.Laid g p) : t.Laid g p := by
  cases h with
  | draw hd => exact hlaid.moved hs.isOpen (by simpa using hd) _ ⟨rfl, rfl, rfl⟩
  | climb vertical blankSpace chorus =>
    exact hlaid.moved hs.isOpen (by simp) _ ⟨rfl, rfl, rfl⟩
  | nextColumn hlast => exact hlaid.moved hs.isOpen (by simp) _ ⟨rfl, rfl, rfl⟩
  | setColumns _ count => exact hlaid.moved hs.isOpen (by simp) _ ⟨rfl, rfl, rfl⟩
  | turn hturn =>
    rw [hlaid.geometry]
    exact hlaid.turn hs.isOpen hturn _
  | nextSong _ hturn =>
    -- the new song has its columns reset, but sheets and pages are counted on
    have hnext := hlaid.turn hs.isOpen hturn #[]
    rw [hlaid.geometry]
    obtain ⟨hpagination, hsheets, hslot⟩ := Cursor.songBegun_turned s.document.cursor g
    refine ⟨hlaid.geometry, hpagination.trans hnext.pagination, ?_⟩
    have hreceived := hnext.received
    rw [moved_received, moved_cursor] at hreceived ⊢
    rwa [hsheets, hslot]
  | revise _ d hg hc =>
    refine ⟨hg.trans hlaid.geometry, ?_, ?_⟩
    · show d.cursor.pagination = p
      rw [hc]
      exact hlaid.pagination
    · show Drawing.Laid g p d.cursor.sheets d.cursor.slot _
      rw [hc]
      exact hlaid.received
  | useChord name => exact ⟨hlaid.geometry, hlaid.pagination, hlaid.received⟩
  | record file line log => exact ⟨hlaid.geometry, hlaid.pagination, hlaid.received⟩
  | count _ songs => exact ⟨hlaid.geometry, hlaid.pagination, hlaid.received⟩

theorem Moves.laid (h : Moves edits s t) (hs : s.OnPage) (hlaid : s.Laid g p) : t.Laid g p := by
  have step : ∀ s t : Session L, Move edits s t → s.OnPage ∧ s.Laid g p →
      t.OnPage ∧ t.Laid g p := fun _ _ hmove h => ⟨hmove.onPage h.1, hmove.laid h.1 h.2⟩
  exact (Moves.keep step h ⟨hs, hlaid⟩).2

theorem IsBegun.laid {b : Session L} (h : IsBegun settings b) :
    b.Laid b.document.geometry settings.pagination := by
  obtain ⟨s, log, hs, rfl⟩ := h
  have hfirst : Drawing.Laid s.document.geometry settings.pagination 0 0
      [.beginDocument s.document.geometry] := .closed .none
  have hcursor : s.document.cursor.slot = 0 ∧ s.document.cursor.sheets = 0 ∧
      s.document.cursor.pagination = settings.pagination := by
    rw [hs.cursor]
    exact ⟨rfl, rfl, rfl⟩
  obtain ⟨hslot, hsheets, hpagination⟩ := hcursor
  have hcount : (s.document.cursor.resetColumns s.document.geometry).slot = 0 := hslot
  have hreceived : s.device.received = #[] := by
    rw [hs.device]
    rfl
  refine ⟨rfl, ?_, ?_⟩
  · show (Cursor.countPage _).pagination = _
    rw [Cursor.countPage_pagination]
    exact hpagination
  · rw [withFirstPage, moved_received, hpagination]
    show Drawing.Laid s.document.geometry _ (Cursor.countPage _).sheets (Cursor.countPage _).slot
      (s.device.received.toList ++ _)
    rw [Cursor.countPage_sheets, Cursor.countPage_slot, if_pos hcount, hcount, hreceived]
    show Drawing.Laid s.document.geometry _ (s.document.cursor.sheets + 1) 1 _
    rw [hsheets]
    exact hfirst.begin (Pagination.perSheet_pos _)

theorem InSong.laid (h : s.InSong settings) :
    s.Laid s.document.geometry settings.pagination := by
  obtain ⟨b, hb, hs⟩ := h
  have hlaid := hs.laid hb.onPage hb.laid
  rwa [hlaid.geometry]

end Session

namespace Typeset

open Session

variable {settings : Settings L} {g : PageGeometry L} {p : Pagination} {s : Session L}

theorem endSheet_laid (h : s.device.limit = none) (hlaid : s.Laid g p) :
    Ends endSheet s (fun _ => False) fun _ t =>
      t.device.limit = none ∧ t.Laid g p ∧ t.document.cursor.slot = 0 := by
  by_cases hs : s.document.cursor.slot = 0
  · exact .of_ok (endSheet_of_closed hs) ⟨h, hlaid, hs⟩
  · refine (endSheet_ends h hs).mono ?_
    rintro _ _ ⟨footer, hfooter, rfl⟩
    refine ⟨h, ⟨hlaid.geometry, hlaid.pagination, ?_⟩, rfl⟩
    rw [moved_received, hlaid.pagination]
    exact hlaid.received.close hs hfooter

/-- The end of the document closes the sheet if one is open. -/
theorem closeDocument_ends (h : s.device.limit = none) (hlaid : s.Laid g p) :
    Ends closeDocument s (fun _ => False) fun _ t =>
      Drawing.IsDocument t.document.geometry p t.device.received.toList := by
  refine (endSheet_laid h hlaid).bind ?_
  rintro _ t ⟨hlimit, hclosed, hslot⟩
  refine .bind_ok rfl (.of_ok (draw_eq hlimit _) ?_)
  rw [drawn, moved_received, moved_geometry, hclosed.geometry]
  show Drawing.IsDocument g p (_ ++ [.endDocument t.document.cursor.sheets])
  have hreceived := hclosed.received
  rw [hslot] at hreceived
  generalize t.device.received.toList = ds, t.document.cursor.sheets = n at hreceived
  cases hreceived with
  | closed hsheets => exact ⟨n, _, hsheets, rfl⟩
  | opened _ ho => exact absurd ho.le_perSheet.1 (by decide)

theorem endPage_laid (hs : s.OnPage) (hlaid : s.Laid g p) :
    Ends (endPage false) s (fun _ => False) fun _ t =>
      t.device.limit = none ∧ t.startup = false ∧ t.Laid g p ∧ t.HasRoom := by
  refine (endPage_ends hs.unlimited hs.isOpen false).mono ?_
  rintro _ _ ⟨foot, hfoot, rfl⟩
  rw [hlaid.geometry]
  exact ⟨hs.unlimited, hs.inSong, hlaid.endPage hs.isOpen hfoot _⟩

/-- A song's end leaves room for another page. -/
theorem endSong_laid (hs : s.OnPage) (hlaid : s.Laid g p) :
    Ends endSong s (· = .brokenCharacter) fun _ t =>
      t.device.limit = none ∧ t.startup = false ∧ t.Laid g p ∧ t.HasRoom := by
  refine ((endSong_ends true hs).weaken fun _ h => h.2).mono ?_
  rintro _ _ ⟨u, foot, hu, hfoot, rfl⟩
  have hon := hu.onPage hs
  have hlaid' := hu.laid hs hlaid
  rw [hlaid'.geometry]
  exact ⟨hon.unlimited, hon.inSong, hlaid'.endPage hon.isOpen hfoot _⟩

theorem indexLine_songlike (font : Font) (h : L) (text : String) :
    Songlike true (indexLine font h text) :=
  .bind (advance_songlike _) fun _ => .read (fun _ _ => rfl) fun _ =>
    .bind (moveTo_songlike _ _) fun _ => draw_songlike rfl

theorem indexEntry_songlike (font : Font) (e : IndexEntry) :
    Songlike true (indexEntry font e : Typeset L Unit) :=
  .read (fun _ _ => rfl) fun _ => .bind (indexLine_songlike _ _ _) fun _ =>
    .read (fun _ _ => rfl) fun _ => .bind (moveTo_songlike _ _) fun _ =>
      .bind (draw_songlike rfl) fun _ => .forM _ fun _ => indexLine_songlike _ _ _

theorem endPage_after {x : Typeset L Unit} (hx : Songlike true x) (hs : s.OnPage)
    (hlaid : s.Laid g p) :
    Ends (x >>= fun _ => endPage false) s (· = .brokenCharacter) fun _ t =>
      t.device.limit = none ∧ t.Laid g p := by
  refine ((hx.wanders.ends hs).weaken fun _ h => h.2).bind fun _ t ht => ?_
  refine ((endPage_laid (ht.onPage hs) (ht.laid hs hlaid)).mono ?_).weaken fun _ h => h.elim
  exact fun _ _ hu => ⟨hu.1, hu.2.2.1⟩

theorem startPage_laid (h : s.device.limit = none) (hsong : s.startup = false)
    (hlaid : s.Laid g p) (hroom : s.HasRoom) :
    Ends startPage s (fun _ => False) fun _ t => t.OnPage ∧ t.Laid g p := by
  refine (startPage_ends h).mono ?_
  rintro _ _ ⟨log, rfl⟩
  rw [hlaid.geometry]
  exact ⟨⟨h, begun_slot_ne_zero _ _, hsong⟩, hlaid.startPage hroom log⟩

theorem indexPages_laid (h : s.device.limit = none) (hsong : s.startup = false)
    (hlaid : s.Laid g p) (hroom : s.HasRoom) (entries : List IndexEntry) :
    Ends (do
        startPage
        title indexTitle
        let font := (← document).styles.current .text
        entries.forM (indexEntry font)
        endPage false) s (· = .brokenCharacter) fun _ t => t.device.limit = none ∧ t.Laid g p := by
  refine ((startPage_laid h hsong hlaid hroom).weaken fun _ h => h.elim).bind ?_
  rintro _ t ⟨ht, hlaid⟩
  have htitle := ((title_songlike indexTitle).wanders.ends ht).weaken fun _ h => h.2
  refine htitle.bind fun _ u hu => .bind_ok rfl ?_
  exact endPage_after (.forM _ fun _ => indexEntry_songlike _ _) (hu.onPage ht) (hu.laid ht hlaid)

theorem printIndex_laid (h : s.device.limit = none) (hsong : s.startup = false)
    (hlaid : s.Laid g p) (hroom : s.HasRoom) :
    Ends printIndex s (· = .brokenCharacter) fun _ t => t.device.limit = none ∧ t.Laid g p := by
  show Ends (if (sortedByTitle s.document.index).isEmpty then pure () else _) s _ _
  split
  · exact ⟨h, hlaid⟩
  · refine .bind_ok rfl (.bind_ok rfl (.bind_ok rfl (.bind_ok rfl ?_)))
    refine indexPages_laid ?_ ?_ ⟨?_, ?_, ?_⟩ ?_ _
    · exact h
    · exact hsong
    · exact hlaid.geometry
    · exact hlaid.pagination
    · exact hlaid.received
    · exact hroom

/-- A run that is not broken off hands a whole document to a device that refuses nothing, be it
songs or a listing of the known chords. -/
theorem run_isDocument (settings : Settings L) (configurations : List (String × String))
    (overrides : Overrides) (songs : List (String × String)) :
    Ends (do prepare configurations overrides; printSongs songs; finish)
        (.start settings .unlimited) IsBreak (fun _ t => Drawing.IsDocument t.document.geometry
          settings.pagination t.device.received.toList) ∧
      Ends (do prepare configurations overrides; printSongs songs; printKnownChords)
        (.start settings .unlimited) IsBreak fun _ t => Drawing.IsDocument t.document.geometry
          settings.pagination t.device.received.toList := by
  have hclose : ∀ {s : Session L} {g}, s.device.limit = none ∧ s.Laid g settings.pagination →
      Ends closeDocument s (· = .brokenCharacter) fun _ t => Drawing.IsDocument
        t.document.geometry settings.pagination t.device.received.toList :=
    fun h => (closeDocument_ends h.1 h.2).weaken fun _ h => h.elim
  refine ⟨afterSongs_ends _ _ _ fun s hs => ?_, afterSongs_ends _ _ _ fun s hs => ?_⟩
  · refine (begin_inSong hs).bind fun _ t ht => (endSong_laid ht.onPage ht.laid).bind ?_
    rintro _ u ⟨hlimit, hsong, hlaid, hroom⟩
    show Ends (if u.settings.tableOfContents then _ else _) u _ _
    split
    · exact (printIndex_laid hlimit hsong hlaid hroom).bind fun _ _ hv => hclose hv
    · exact hclose ⟨hlimit, hlaid⟩
  · refine (begin_inSong hs).bind fun _ t ht => .bind_ok rfl ?_
    have hdiagrams : Songlike true (layOutDiagrams t.document.chords.known : Typeset L Unit) :=
      layOutDiagrams_songlike _
    refine ((hdiagrams.wanders.ends ht.onPage).weaken fun _ h => h.2).bind fun _ u hu => ?_
    have hpage := endPage_laid (hu.onPage ht.onPage) (hu.laid ht.onPage ht.laid)
    exact (hpage.weaken fun _ h => h.elim).bind fun _ v hv => hclose ⟨hv.1, hv.2.2.1⟩

end Typeset

end Songbook
