import Songbook.Proofs.IndexPages
import Songbook.Proofs.Printouts

/-!
# The numbers in the index

With a table of contents every sheet has a number, or every page if pages are numbered. A title goes
into the index with the number that its page is going to have: `Shows` follows both from the first
page on, whatever is laid out in between (`LaysOut.shows`), and the index is printed from it. So the
number in an entry is the one on the page, or on the sheet, that the title stands on
(`index_numbered`).
-/

namespace Songbook

variable {L : Type} [Length L]

namespace Session

/-- A page is open. So far these headings stand in the document, each with its number, and these
rows of the index. -/
def Shows (settings : Settings L) (headings : List (String × Int)) (rows : List IndexEntry)
    (s : Session L) : Prop :=
  ∃ o body, s.IsPrinting settings o body ∧
    o.headings settings ++ (body.filterMap PageItem.heading?).map
      (·, settings.label o.sheets.length o.pages.length) = headings ∧
    o.rows ++ body.filterMap PageItem.row? = rows

/-- No page is open. -/
def HasShown (settings : Settings L) (headings : List (String × Int)) (rows : List IndexEntry)
    (s : Session L) : Prop :=
  ∃ o, s.HasPrinted settings o ∧ o.headings settings = headings ∧ o.rows = rows

variable {settings : Settings L} {headings : List (String × Int)} {rows : List IndexEntry}
  {s t : Session L}

omit [Length L] in
theorem frame_but_index (h : t.frame = s.frame) :
    t.frame = { s.frame with index := t.document.index } := by
  have hindex : t.document.index = s.document.index := congrArg Frame.index h
  rw [hindex]
  exact h

theorem Shows.congr (h : s.Shows settings headings rows) (hdevice : t.device = s.device)
    (hframe : t.frame = { s.frame with index := t.document.index }) :
    t.Shows settings headings rows := by
  obtain ⟨o, body, hs, hheadings, hrows⟩ := h
  have hgeometry : t.document.geometry = s.document.geometry := congrArg Frame.geometry hframe
  refine ⟨o, body, ?_, hheadings, hrows⟩
  unfold IsPrinting
  rw [hgeometry]
  exact HasDone.congr hs hdevice hframe

theorem HasShown.congr (h : s.HasShown settings headings rows) (hdevice : t.device = s.device)
    (hframe : t.frame = { s.frame with index := t.document.index }) :
    t.HasShown settings headings rows := by
  obtain ⟨o, hs, hheadings⟩ := h
  exact ⟨o, ⟨hs.toHasDone.congr hdevice hframe, hs.notFull⟩, hheadings⟩

theorem Shows.onPage (h : s.Shows settings headings rows) : s.OnPage := by
  obtain ⟨o, body, hs, -⟩ := h
  have hslot : s.document.cursor.slot = o.pages.length + 1 := congrArg Counts.slot hs.counts
  exact ⟨hs.unlimited, by omega, hs.inSong⟩

theorem Shows.settings_eq (h : s.Shows settings headings rows) : s.settings = settings := by
  obtain ⟨o, body, hs, -⟩ := h
  exact hs.settings_eq

/-- The number that a title is entered with is the one that its page is going to have. -/
theorem IsPrinting.currentLabel_eq {o : Printout L} {body : List (PageItem L)}
    (h : s.IsPrinting settings o body) :
    Typeset.currentLabel s = settings.label o.sheets.length o.pages.length := by
  have hpage : s.document.cursor.pageLabel = settings.pageLabel o.sheets.length o.pages.length :=
    (congrArg Counts.pageLabel h.counts).trans (settings.pageLabel_counts _ _)
  have hsheet : s.document.cursor.sheetLabel = settings.sheetLabel o.sheets.length :=
    (congrArg Counts.sheetLabel h.counts).trans (settings.sheetLabel_counts (Nat.succ_ne_zero _))
  unfold Typeset.currentLabel Settings.label
  rw [h.settings_eq, hpage, hsheet]

theorem Shows.drawn (h : s.Shows settings headings rows) (items : List (PageItem L)) :
    (s.drawn (items.flatMap PageItem.drawings)).Shows settings
      (headings ++ (items.filterMap PageItem.heading?).map (·, Typeset.currentLabel s))
      (rows ++ items.filterMap PageItem.row?) := by
  obtain ⟨o, body, hs, rfl, rfl⟩ := h
  refine ⟨o, body ++ items, hs.drawn items, ?_, by simp⟩
  rw [hs.currentLabel_eq]
  simp

theorem Shows.drawn_plain (h : s.Shows settings headings rows) (ds : List (Drawing L))
    (hds : ∀ d ∈ ds, d.InBody) : (s.drawn ds).Shows settings headings rows := by
  obtain ⟨items, rfl, hheadings, hrows⟩ := PageItem.exists_plain hds
  simpa [hheadings, hrows] using h.drawn items

theorem Shows.pageEnded (h : s.Shows settings headings rows) (hall : settings.numberAll = true)
    (sheetToo : Bool) : (s.pageEnded sheetToo).HasShown settings headings rows := by
  obtain ⟨o, body, hs, rfl, rfl⟩ := h
  obtain ⟨o', hs', hheadings, hrows⟩ := hs.pageEnded hall sheetToo
  exact ⟨o', hs', hheadings, hrows⟩

theorem HasShown.pageBegun (h : s.HasShown settings headings rows) :
    s.pageBegun.Shows settings headings rows := by
  obtain ⟨o, hs, rfl, rfl⟩ := h
  exact ⟨o, [], hs.pageBegun, by simp, by simp⟩

end Session

/-- A title with its number, as the index has it. -/
def IndexEntry.key (e : IndexEntry) : String × Int := (e.title, e.page)

namespace Typeset

open Session

variable {settings : Settings L} {headings : List (String × Int)} {rows index : List IndexEntry}
  {s t : Session L}

/-- Whatever is laid out inside pages adds no headings, and the page is turned as a whole. -/
theorem LaysOut.shows {α : Type} {quiet : Bool} {x : Typeset L α} (h : LaysOut true quiet x)
    (hall : settings.numberAll = true) :
    Keeps (fun (index : List IndexEntry) (s : Session L) =>
      s.Shows settings headings rows ∧ s.document.index = index) (fun _ => False) x := by
  induction h with
  | pure a => exact .pure a
  | get => exact fun _ _ hs => hs
  | bind _ _ ihx ihf => exact .bind ihx ihf
  | draw hd =>
    intro _ s hs
    refine .of_ok (draw_eq hs.1.onPage.unlimited _) ⟨hs.1.drawn_plain _ ?_, hs.2⟩
    simpa using hd rfl
  | note _ => exact fun _ s hs => ⟨hs.1.congr rfl rfl, hs.2⟩
  | report _ p => exact fun _ s hs => ⟨hs.1.congr rfl rfl, hs.2⟩
  | change hdevice _ hframe =>
    intro _ s hs
    have hindex := congrArg Frame.index (hframe rfl s)
    exact ⟨hs.1.congr (hdevice s) (frame_but_index (hframe rfl s)), hindex.trans hs.2⟩
  | turn _ sheetToo =>
    intro _ s hs
    have hon := hs.1.onPage
    exact .of_ok (turnPage_eq hon.unlimited hon.isOpen sheetToo)
      ⟨(hs.1.pageEnded hall sheetToo).pageBegun, hs.2⟩

theorem LaysOut.ends_shows {α : Type} {quiet : Bool} {x : Typeset L α} (h : LaysOut true quiet x)
    (hall : settings.numberAll = true) (hs : s.Shows settings headings rows) :
    Ends x s (fun _ => False) fun _ t =>
      t.Shows settings headings rows ∧ t.document.index = s.document.index :=
  h.shows hall s.document.index s ⟨hs, rfl⟩

end Typeset

namespace Session

variable {settings : Settings L} {s t : Session L}

/-- What stands in the index are the headings so far, each with its number. -/
def Enters (settings : Settings L) (s : Session L) : Prop :=
  s.Shows settings (s.document.index.map IndexEntry.key) []

/-- The same between pages. -/
def HasEntered (settings : Settings L) (s : Session L) : Prop :=
  s.HasShown settings (s.document.index.map IndexEntry.key) []

end Session

namespace Typeset

open Session

section

variable {settings : Settings L} {s t : Session L} (hall : settings.numberAll = true)
include hall

theorem LaysOut.enters {quiet : Bool} {x : Typeset L Unit} (h : LaysOut true quiet x)
    (hs : s.Enters settings) : Ends x s (fun _ => False) fun _ t => t.Enters settings := by
  refine (h.ends_shows hall hs).mono fun _ t ht => ?_
  unfold Enters
  rw [ht.2]
  exact ht.1

omit hall in
/-- A title on the first page of its song is a heading, and goes into the index as that. -/
theorem titled_enters (hs : s.Enters settings) (text : String) :
    Ends (do title text; indexTitled text) s (fun _ => False) fun _ t => t.Enters settings := by
  have htitle := title_eq hs.onPage.unlimited text
  by_cases hindexed : isIndexed (s.titled text) = true
  · refine .bind_ok htitle ?_
    have henter : indexTitled text (s.titled text) = .ok () { s.titled text with document :=
        { (s.titled text).document with index := s.document.index ++
          [⟨text, [], currentLabel (s.titled text)⟩] } } := by
      show (if isIndexed (s.titled text) then _ else _ : Typeset L Unit) (s.titled text) = _
      rw [if_pos hindexed]
      rfl
    refine .of_ok henter ?_
    let items : List (PageItem L) :=
      [.plain (.moveTo ⟨s.document.geometry.width / 2, s.document.cursor.vertical⟩) trivial,
        .heading text (titleFont s.document.styles)]
    have hshows := (Shows.drawn hs items).congr (t := { s.titled text with document :=
        { (s.titled text).document with index := s.document.index ++
          [⟨text, [], currentLabel (s.titled text)⟩] } }) rfl rfl
    show Shows settings ((s.document.index ++ [_]).map IndexEntry.key) [] _
    rw [List.map_append]
    exact hshows
  · refine .bind_ok htitle ?_
    show Ends (if isIndexed (s.titled text) then _ else pure () : Typeset L Unit) _ _ _
    rw [if_neg hindexed]
    refine (Shows.drawn_plain hs [.moveTo ⟨_, _⟩, .text text .text _ .center .plain] ?_).congr
      (t := s.titled text) rfl rfl
    simp [Drawing.InBody]

omit [Length L] hall in
theorem key_addSubtitle (text : String) (entries : List IndexEntry) :
    (addSubtitle text entries).map IndexEntry.key = entries.map IndexEntry.key := by
  fun_induction addSubtitle text entries with
  | case1 => rfl
  | case2 e => rfl
  | case3 e entries _ ih => exact congrArg (e.key :: ·) ih

theorem subtitled_enters (hs : s.Enters settings) (text : String) :
    Ends (do subtitle text; indexSubtitled text) s (fun _ => False)
      fun _ t => t.Enters settings := by
  have hsubtitle : LaysOut true true (subtitle text : Typeset L Unit) := subtitle_laysOut text
  refine (hsubtitle.enters hall hs).bind fun _ t ht => ?_
  show Ends (if isIndexed t then _ else pure () : Typeset L Unit) t _ _
  split
  · show Shows settings ((addSubtitle text t.document.index).map IndexEntry.key) [] _
    rw [key_addSubtitle]
    exact Shows.congr ht rfl rfl
  · exact ht

theorem endSong_enters (hs : s.Enters settings) :
    Ends endSong s (fun _ => False) fun _ t => t.HasEntered settings := by
  have hend : ∀ t : Session L, t.Enters settings →
      Ends (endPage false) t (fun _ => False) fun _ u => u.HasEntered settings := fun t ht =>
    .of_ok (endPage_eq ht.onPage.unlimited ht.onPage.isOpen false) (ht.pageEnded hall false)
  have hdiagrams : LaysOut true true (do
      modifyCursor Cursor.belowColumns
      songDiagrams : Typeset L Unit) := .bind belowColumns_laysOut fun _ => songDiagrams_laysOut
  refine .bind_ok rfl ?_
  dsimp only
  split
  · rw [← bind_assoc]
    exact (hdiagrams.enters hall hs).bind fun _ => hend
  · exact hend s hs

omit hall in
theorem startPage_enters (hs : s.HasEntered settings) :
    Ends startPage s (fun _ => False) fun _ t => t.Enters settings := by
  obtain ⟨o, ho, -⟩ := id hs
  exact .of_ok (startPage_eq ho.unlimited) (HasShown.pageBegun hs)

theorem newSong_enters (hs : s.Enters settings) :
    Ends newSong s (fun _ => False) fun _ t => t.Enters settings := by
  refine (endSong_enters hall hs).bind fun _ t ht => .bind_ok rfl (.bind_ok rfl ?_)
  refine Ends.bind (P := fun _ u => u.Enters settings) (startPage_enters ?_) fun _ u hu => ?_
  · exact HasShown.congr ht rfl rfl
  · exact Shows.congr hu rfl rfl

theorem apply_enters (k : Keyword) {d : Directive L} (hd : d.setsPaper = false)
    (hs : s.Enters settings) :
    Ends (apply k d) s (fun _ => False) fun _ t => t.Enters settings := by
  by_cases hinner : d.isInner = true
  · exact LaysOut.enters hall (apply_laysOut k d fun _ => hinner) hs
  · cases d with
    | newSong => exact .bind_ok rfl (newSong_enters hall hs)
    | title text => exact .bind_ok rfl (titled_enters hs text)
    | subtitle text => exact .bind_ok rfl (subtitled_enters hall hs text)
    | paperType name => cases hd
    | formSpec spec => cases hd
    | _ => exact absurd rfl hinner

theorem dispatch_enters (hs : s.Enters settings) (text : String) :
    Ends (dispatch text) s (· = .brokenCharacter) fun _ t => t.Enters settings := by
  have hreport : ∀ (p : Problem) (t : Session L), t.Enters settings →
      Ends (report p) t (· = .brokenCharacter) fun _ u => u.Enters settings := fun p t ht =>
    .of_ok rfl (Shows.congr ht rfl rfl)
  have hperform : ∀ k args, ∀ t : Session L, t.Enters settings →
      Ends (perform k args) t (· = .brokenCharacter) fun _ u => u.Enters settings := by
    intro k args t ht
    refine perform_ends k args (fun p => hreport p t ht) fun d _ hd => ?_
    unfold Admits at hd
    rw [ht.onPage.inSong] at hd
    exact (apply_enters hall k hd ht).weaken fun _ h => h.elim
  cases hsplit : Keyword.splitText? text with
  | none =>
    unfold Ends
    rw [dispatch_broken hsplit]
  | some parts =>
    obtain ⟨name, args⟩ := parts
    exact dispatch_ends hsplit (fun _ => hreport _ s hs) fun k _ =>
      ⟨hperform k args s hs, fun _ => hperform k args _ (Shows.congr hs rfl rfl)⟩

theorem sink_enters :
    (sink : Markup.Sink Fault (Session L)).Keeps (·.Enters settings) (· = .brokenCharacter) where
  chord n name s hs := by
    show (if s.startup then (name, atLine n s)
      else resolveChord name (atLine n s)).2.Enters settings
    obtain ⟨chords, log, hchord⟩ := resolveChord_eq name (atLine n s)
    rw [hs.onPage.inSong, if_neg Bool.false_ne_true, hchord]
    exact Shows.congr hs rfl rfl
  line n content s hs := by
    have hline : LaysOut true false (sink.line n content : Typeset L Unit) :=
      .bind (aside_laysOut (fun _ => rfl) (fun _ => rfl) fun _ => rfl) fun _ => .read fun _ =>
        .ite (.ite (.report rfl _) (.pure _)) (.ite (setLine_laysOut content) (.pure _))
    exact (hline.enters hall hs).weaken fun _ h => h.elim
  problem _ _ _ hs := Shows.congr hs rfl rfl

theorem sink_entersDirectives : (sink : Markup.Sink Fault (Session L)).KeepsDirectives
    (·.Enters settings) (· = .brokenCharacter) := fun n text s hs =>
  .bind_ok rfl (dispatch_enters (s := atLine n s) hall (Shows.congr hs rfl rfl) text)

/-! ## A whole run -/

omit hall in
theorem withFirstPage_enters (hs : s.Unprinted settings false) (log : Array (LogEntry L)) :
    (s.withFirstPage log).Enters settings := by
  have hpagination : s.document.cursor.pagination = settings.pagination := by rw [hs.cursor]; rfl
  have hcounts : (s.document.cursor.resetColumns s.document.geometry).counts =
      settings.counts 0 0 := by
    rw [hs.cursor]
    simp [Cursor.resetColumns, Cursor.start, Cursor.counts, Settings.counts, Settings.sheetLabel,
      Settings.pageLabel]
  have hprinting : (s.withFirstPage log).IsPrinting settings ⟨[], []⟩ [] := by
    refine ⟨?_, Cursor.counts_begun hcounts _, List.forall_mem_nil _,
      settings.pagination.perSheet_pos, ?_, hs.startup, rfl, hs.settings⟩
    · rw [withFirstPage, moved_received, hs.device, hpagination]
      show _ = _ :: (_ ++ (Drawing.pageBeginning settings s.document.geometry 0 0 ++ []))
      rw [List.append_nil]
      rfl
    · show s.device.limit = none
      rw [hs.device]
      rfl
  have hindex : (s.withFirstPage log).document.index = [] := hs.index
  unfold Enters
  rw [hindex]
  exact ⟨_, _, hprinting, rfl, rfl⟩

/-- No song has begun yet, or the last one is not over. -/
def Readied (settings : Settings L) (s : Session L) : Prop :=
  s.Unprinted settings false ∨ s.Enters settings

omit hall in
theorem begin_enters (h : Readied settings s) :
    Ends begin s (fun _ => False) fun _ t => t.Enters settings := by
  rcases h with h | h
  · refine (begin_ends h).mono ?_
    rintro _ _ ⟨log, rfl⟩
    exact withFirstPage_enters h log
  · obtain ⟨o, body, hs, -⟩ := id h
    exact .of_ok (begin_of_started hs.started) h

theorem readSong_enters (h : Readied settings s) (name text : String) :
    Ends (readSong name text) s (· = .brokenCharacter) fun _ t => t.Enters settings := by
  have hrest : ∀ t : Session L, t.Enters settings → Ends (do
      modify fun s => { s with songs := s.songs + 1 }
      note (.typesetting name)
      modify fun s => { s with file := name, line := 0 }
      Markup.Reader.readText sink text) t (· = .brokenCharacter) fun _ u => u.Enters settings :=
    fun t ht => .bind_ok rfl (.bind_ok rfl (.bind_ok rfl (Markup.Reader.readText_ends
      (sink_enters hall) text (fun _ => sink_entersDirectives hall) (Shows.congr ht rfl rfl))))
  refine ((begin_enters h).weaken fun _ h => h.elim).bind fun _ t ht => .bind_ok rfl ?_
  dsimp only
  split
  · exact ((newSong_enters hall ht).weaken fun _ h => h.elim).bind fun _ => hrest
  · exact hrest t ht

theorem printSongs_readied (songs : List (String × String)) :
    Keeps (fun (_ : Unit) (s : Session L) => Readied settings s) (· = .brokenCharacter)
      (printSongs songs) :=
  .forM _ fun ⟨name, text⟩ _ _ _ hs => (readSong_enters hall hs name text).mono fun _ _ => .inr

end

end Typeset

/-! ## The index and the end -/

namespace Session

variable {settings : Settings L} {headings : List (String × Int)} {rows : List IndexEntry}
  {s t : Session L}

theorem Shows.advanced (h : s.Shows settings headings rows) (hall : settings.numberAll = true)
    (amount : L) : (s.advanced amount).Shows settings headings rows ∧
      (s.advanced amount).document.index = s.document.index := by
  have hadvance : Typeset.LaysOut true true (Typeset.advance amount) :=
    Typeset.advance_laysOut amount
  exact (hadvance.ends_shows hall h).holds
    (Typeset.advance_advanced h.onPage.unlimited h.onPage.isOpen amount)

theorem Shows.plainRows (h : s.Shows settings headings rows) (hall : settings.numberAll = true)
    (amount : L) {lines : List (L → List (Drawing L))}
    (hlines : ∀ line ∈ lines, ∀ v, ∀ d ∈ line v, d.InBody) :
    (lines.foldl (·.rowPrinted amount) s).Shows settings headings rows ∧
      (lines.foldl (·.rowPrinted amount) s).document.index = s.document.index := by
  induction lines generalizing s with
  | nil => exact ⟨h, rfl⟩
  | cons line lines ih =>
    obtain ⟨hadvanced, hindex⟩ := h.advanced hall amount
    have hline : (s.rowPrinted amount line).Shows settings headings rows :=
      hadvanced.drawn_plain _ (hlines line (by simp) _)
    obtain ⟨hrest, hsame⟩ := ih hline fun line hmem => hlines line (List.mem_cons_of_mem _ hmem)
    exact ⟨hrest, hsame.trans hindex⟩

/-- An entry takes a row with its number, and one for each of its subtitles. -/
theorem Shows.entryPrinted (h : s.Shows settings headings rows) (hall : settings.numberAll = true)
    (amount : L) (g : PageGeometry L) (font : Font) (e : IndexEntry) :
    ((e.rows g font).foldl (·.rowPrinted amount) s).Shows settings headings (rows ++ [e]) ∧
      ((e.rows g font).foldl (·.rowPrinted amount) s).document.index = s.document.index := by
  obtain ⟨hadvanced, hindex⟩ := h.advanced hall amount
  let v := (s.advanced amount).document.cursor.vertical
  have hrow := hadvanced.drawn [.row e font ⟨g.left, v⟩ ⟨g.width - g.left, v⟩]
  rw [show List.map _ _ = [] from rfl, List.append_nil] at hrow
  let line : String → L → List (Drawing L) := fun text v =>
    [.moveTo ⟨g.left + Typeset.subtitleIndent, v⟩, .text text .text font .left .plain]
  have hlines : ∀ row ∈ e.subtitles.map line, ∀ v, ∀ d ∈ row v, d.InBody := by
    simp [line, Drawing.InBody]
  obtain ⟨hrest, hsame⟩ := hrow.plainRows hall amount hlines
  exact ⟨hrest, hsame.trans hindex⟩

theorem Shows.entriesPrinted (h : s.Shows settings headings rows) (hall : settings.numberAll = true)
    (amount : L) (g : PageGeometry L) (font : Font) (entries : List IndexEntry) :
    ((entries.flatMap (·.rows g font)).foldl (·.rowPrinted amount) s).Shows settings headings
        (rows ++ entries) ∧
      ((entries.flatMap (·.rows g font)).foldl (·.rowPrinted amount) s).document.index =
        s.document.index := by
  induction entries generalizing s rows with
  | nil => exact ⟨by simpa using h, rfl⟩
  | cons e entries ih =>
    obtain ⟨hentry, hindex⟩ := h.entryPrinted hall amount g font e
    obtain ⟨hrest, hsame⟩ := ih hentry
    rw [List.flatMap_cons, List.foldl_append]
    exact ⟨by simpa using hrest, hsame.trans hindex⟩

theorem HasEntered.indexPrinted (h : s.HasEntered settings) (hall : settings.numberAll = true) :
    s.indexPrinted.HasShown settings (s.document.index.map IndexEntry.key)
        (Typeset.sortedByTitle s.document.index) ∧
      s.indexPrinted.document.index = Typeset.sortedByTitle s.document.index := by
  unfold Session.indexPrinted
  by_cases hnone : s.indexRows = []
  · have hsorted := (Typeset.indexRows_eq_nil_iff s).1 hnone
    have hindex : s.document.index = [] := by
      simpa [Typeset.sortedByTitle] using congrArg List.length hsorted
    rw [if_pos hnone, hsorted, hindex]
    have hentered := h
    unfold HasEntered at hentered
    rw [hindex] at hentered
    exact ⟨hentered, rfl⟩
  · rw [if_neg hnone]
    have hready : s.indexReady.HasShown settings (s.document.index.map IndexEntry.key) [] :=
      HasShown.congr h rfl rfl
    have hbegun : s.indexBegun.Shows settings (s.document.index.map IndexEntry.key) [] := by
      refine (hready.pageBegun.drawn_plain [.moveTo ⟨_, _⟩,
        .text Typeset.indexTitle .text _ .center .plain] ?_).congr (t := s.indexBegun) rfl rfl
      simp [Drawing.InBody]
    obtain ⟨hprinted, hindex⟩ := hbegun.entriesPrinted hall s.indexStep s.document.geometry
      (s.document.styles.current .text) (Typeset.sortedByTitle s.document.index)
    exact ⟨hprinted.pageEnded hall false, hindex⟩

/-- The whole document is these sheets, with all their numbers. -/
structure IsNumbered (settings : Settings L) (sheets : List (PrintedSheet L)) (s : Session L) :
    Prop where
  received : s.device.received.toList = .beginDocument s.document.geometry ::
    concatIdx (Drawing.ofSheet settings s.document.geometry) sheets ++ [.endDocument sheets.length]
  filled : ∀ sheet ∈ sheets, sheet.IsFilled settings.pagination

theorem HasPrinted.ended {sheets : List (PrintedSheet L)}
    (h : s.HasPrinted settings ⟨sheets, []⟩) :
    (s.drawn [.endDocument s.document.cursor.sheets]).IsNumbered settings sheets := by
  have hsheets : s.document.cursor.sheets = sheets.length := congrArg Counts.sheets h.counts
  refine ⟨?_, h.filled⟩
  rw [hsheets, Session.drawn, moved_received, h.received]
  simp [Printout.drawings]

theorem closed_index (s : Session L) : s.closed.document.index = s.document.index := by
  unfold Session.closed
  dsimp only
  split <;> rfl

theorem HasShown.closed (h : s.HasShown settings headings rows) (hall : settings.numberAll = true) :
    ∃ sheets : List (PrintedSheet L), s.closed.IsNumbered settings sheets ∧
      settings.sheetHeadings sheets = headings ∧ sheets.flatMap PrintedSheet.rows = rows := by
  obtain ⟨o, ho, rfl, rfl⟩ := h
  have hslot : s.document.cursor.slot = o.pages.length := congrArg Counts.slot ho.counts
  unfold Session.closed
  by_cases hopen : o.pages = []
  · obtain ⟨sheets, pages⟩ := o
    obtain rfl : pages = [] := hopen
    have hclosed : s.document.cursor.slot = 0 := hslot
    rw [if_pos hclosed]
    exact ⟨sheets, ho.ended, by simp [Printout.headings, Settings.headings],
      by simp [Printout.rows]⟩
  · have hlength : s.document.cursor.slot ≠ 0 := by
      rw [hslot]
      exact fun h => hopen (List.length_eq_zero_iff.1 h)
    rw [if_neg hlength]
    have hclosed := ho.toHasDone.sheetClosed hall hopen
    refine ⟨_, hclosed.ended, ?_, ?_⟩
    · rw [← o.headings_withSheet settings (Typeset.footerFont s.document)]
      simp [Printout.headings, Printout.withSheet, Settings.headings]
    · rw [← o.rows_withSheet (Typeset.footerFont s.document)]
      simp [Printout.rows, Printout.withSheet]

end Session

namespace Typeset

open Session

/-- With a table of contents every sheet has its number, upwards from the first, or every page if
pages are numbered. The index has the headings in the order of their titles, each with the number
on its page or sheet, and a row is printed for each. -/
theorem index_numbered (settings : Settings L) (configurations : List (String × String))
    (overrides : Overrides) (songs : List (String × String))
    (htoc : settings.tableOfContents = true) :
    RunsTo settings configurations overrides songs fun t =>
      ∃ (sheets : List (PrintedSheet L)) (entered : List IndexEntry),
        t.IsNumbered settings sheets ∧
        entered.map IndexEntry.key = settings.sheetHeadings sheets ∧
        t.document.index = sortedByTitle entered ∧
        sheets.flatMap PrintedSheet.rows = t.document.index := by
  have hall : settings.numberAll = true := by simp [Settings.numberAll, htoc]
  constructor
  refine (prepare_ends settings configurations overrides).bind fun _ s hs => ?_
  refine Ends.weaken ?_ fun _ => .inl
  refine (printSongs_readied hall songs () s (.inl hs)).bind fun _ t ht => ?_
  refine Ends.weaken ?_ fun _ (h : False) => h.elim
  refine (begin_enters ht).bind fun _ u hu => (endSong_enters hall hu).bind fun _ v hv => ?_
  obtain ⟨o, ho, -⟩ := id hv
  obtain ⟨hshown, hindex⟩ := hv.indexPrinted hall
  obtain ⟨sheets, hnumbered, hheadings, hrows⟩ := hshown.closed hall
  refine .bind_ok rfl ?_
  show Ends (if v.settings.tableOfContents then printIndex >>= fun _ => closeDocument
    else closeDocument) v _ _
  rw [ho.settings_eq, if_pos htoc]
  refine .bind_ok (printIndex_eq ho.unlimited ho.inSong) ?_
  obtain ⟨o', ho', -⟩ := id hshown
  have hclosed : v.indexPrinted.closed.document.index = sortedByTitle v.document.index :=
    (closed_index _).trans hindex
  refine .of_ok (closeDocument_eq ho'.unlimited) ⟨sheets, v.document.index, hnumbered,
    hheadings.symm, hclosed, ?_⟩
  rw [hrows, hclosed]

/-! ## Pages of two songs -/

/-- Two pages to a sheet, each with its number. -/
def pagesNumbered : Settings Rat := { indexed with pagination := .two, numberPages := true }

/-- It leaves the second half of its first sheet empty. -/
def spreadSong : String × String := ("", "la\n\x7bnpp\x7d\nla\n")

/-- The title of the second song stands on the third page, which has the number 4. -/
theorem index_numbered_spreadSong :
    pagesNumbered.tableOfContents = true ∧
    ∃ t : Session Rat, (do prepare [] noOverrides; printSongs [spreadSong, plainSong]; finish)
        (.start pagesNumbered .unlimited) = .ok () t ∧
      ∃ sheets, t.IsNumbered pagesNumbered sheets ∧
        sheets.flatMap PrintedSheet.rows = t.document.index ∧
        t.document.index = [⟨"a", [], 4⟩] := by
  obtain ⟨t, hrun⟩ : ∃ t : Session Rat, (do
      prepare [] noOverrides; printSongs [spreadSong, plainSong]; finish)
      (.start pagesNumbered .unlimited) = .ok () t := ⟨_, eq_ok_of_succeeds (by decide +kernel)⟩
  obtain ⟨sheets, entered, hnumbered, -, -, hrows⟩ :=
    (index_numbered pagesNumbered [] noOverrides [spreadSong, plainSong] rfl).of_ok hrun
  refine ⟨rfl, t, hrun, sheets, hnumbered, hrows, ?_⟩
  rw [← endState_of_ok hrun]
  decide +kernel

end Typeset

end Songbook
