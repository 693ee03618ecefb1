import Songbook.Proofs.Gates
import Songbook.Proofs.Likeness
import Songbook.Proofs.Moves
import Songbook.Proofs.Reading
import Songbook.Session.Run

/-!
# What songs do

Everything in a song is done by moves and looks only at what pages show (`Songlike`). One walk over
the layout says so of lines (`setLine_songlike`), directives (`dispatch_songlike`) and whole texts
(`readText_songlike`). Only directives make edits: the texts that open none make the other moves
alone.
-/

namespace Songbook.Typeset

open Session

variable {L : Type} [Length L]

/-- From an open page, `x` ends after moves of a song, and it leaves sessions alike. -/
structure Songlike {α : Type} (edits : Bool) (x : Typeset L α) : Prop where
  wanders : Wanders edits x
  respects : Respects x

namespace Songlike

variable {α β : Type} {edits : Bool} {x y : Typeset L α}

theorem pure (a : α) : Songlike edits (Pure.pure a : Typeset L α) := ⟨.pure a, .pure a⟩

theorem bind {f : α → Typeset L β} (hx : Songlike edits x) (hf : ∀ a, Songlike edits (f a)) :
    Songlike edits (x >>= f) :=
  ⟨.bind hx.wanders fun a => (hf a).wanders, .bind hx.respects fun a => (hf a).respects⟩

theorem readInSong {f : Session L → Typeset L β}
    (hview : ∀ s : Session L, s.settings.numberAll = false → f s = f s.view)
    (hf : ∀ s, s.startup = false → Songlike edits (f s)) : Songlike edits (get >>= f) :=
  ⟨.read fun _ s hs => (hf s (hs.2.onPage hs.1).inSong).wanders,
    .readInSong hview fun s hs _ => (hf s hs).respects⟩

theorem read {f : Session L → Typeset L β}
    (hview : ∀ s : Session L, s.settings.numberAll = false → f s = f s.view)
    (hf : ∀ s, Songlike edits (f s)) : Songlike edits (get >>= f) :=
  readInSong hview fun s _ => hf s

theorem ite {c : Prop} [Decidable c] (hx : Songlike edits x) (hy : Songlike edits y) :
    Songlike edits (if c then x else y) :=
  ⟨.ite hx.wanders hy.wanders, .ite hx.respects hy.respects⟩

theorem optional {g : β → Typeset L PUnit} (o : Option β) (h : ∀ b, Songlike edits (g b)) :
    Songlike edits (o.forM g) :=
  ⟨.optional o fun b => (h b).wanders, .optional o fun b => (h b).respects⟩

theorem foldlM {g : α → β → Typeset L α} (l : List β) (h : ∀ a b, Songlike edits (g a b)) (a : α) :
    Songlike edits (l.foldlM g a) :=
  ⟨.foldlM l (fun a b => (h a b).wanders) a, .foldlM l (fun a b => (h a b).respects) a⟩

theorem forM {g : β → Typeset L PUnit} (l : List β) (h : ∀ b, Songlike edits (g b)) :
    Songlike edits (l.forM g) :=
  ⟨.forM l fun b _ => (h b).wanders, .forM l fun b => (h b).respects⟩

theorem change {f : Session L → Session L} (hf : Plain f) (hmove : ∀ s, Move edits s (f s)) :
    Songlike edits (modify f : Typeset L Unit) :=
  ⟨wanders_of_move (fun _ => rfl) hmove, change_respects hf⟩

end Songlike

variable {edits : Bool}

theorem draw_songlike {d : Drawing L} (hd : d.isContent) : Songlike edits (draw d) :=
  ⟨draw_wanders hd, draw_respects d⟩

theorem moveTo_songlike (h v : L) : Songlike edits (moveTo h v) := draw_songlike rfl

theorem climb_songlike {f : Cursor L → Cursor L}
    (h : ∀ c, f c = { c with
      vertical := (f c).vertical, blankSpace := (f c).blankSpace, chorus := (f c).chorus })
    (hview : ∀ c, (f c).view = (f c.view).view) : Songlike edits (modifyCursor f) := by
  refine ⟨wanders_of_move (modifyCursor_eq f) fun s => ?_, modifyCursor_respects hview⟩
  rw [h s.document.cursor]
  exact .climb _ _ _

theorem note_songlike (e : LogEntry L) : Songlike edits (note e) :=
  .change ⟨fun _ => rfl, fun _ => rfl, fun _ => rfl, fun _ => rfl, fun _ => rfl⟩
    fun s => .record s.file s.line _

theorem report_songlike (p : Problem) : Songlike edits (report p : Typeset L Unit) :=
  .change ⟨fun _ => rfl, fun _ => rfl, fun _ => rfl, fun _ => rfl, fun _ => rfl⟩
    fun s => .record s.file s.line _

/-! ## Columns and pages -/

theorem turnPage_songlike (sheetToo : Bool) :
    Songlike edits (turnPage sheetToo : Typeset L Unit) :=
  ⟨turnPage_wanders sheetToo, turnPage_respects sheetToo⟩

theorem breakColumn_songlike : Songlike edits (breakColumn : Typeset L Unit) :=
  ⟨breakColumn_wanders, breakColumn_respects⟩

theorem down_songlike (amount : L) : Songlike edits (modifyCursor (·.down amount)) :=
  climb_songlike (fun _ => rfl) fun _ => rfl

theorem advance_songlike (amount : L) : Songlike edits (advance amount) :=
  .bind (down_songlike amount) fun _ =>
    .read (fun _ _ => rfl) fun _ => .ite breakColumn_songlike (.pure _)

theorem payBlankSpace_songlike : Songlike edits (payBlankSpace : Typeset L Unit) :=
  .read (fun _ _ => rfl) fun s => .bind (climb_songlike (fun _ => rfl) fun _ => rfl) fun _ =>
    .ite (advance_songlike s.document.cursor.blankSpace) (.pure _)

/-! ## Lines, comments and titles -/

theorem openChorus_songlike (rowSize : L) : Songlike edits (openChorus rowSize) := by
  refine climb_songlike (fun c => ?_) fun c => ?_
  · unfold Cursor.openChorus
    split <;> rfl
  · show (c.openChorus rowSize).view = (c.view.openChorus rowSize).view
    rcases c with ⟨⟩
    unfold Cursor.openChorus Cursor.view
    dsimp only
    split <;> rfl

theorem moveToLine_songlike : Songlike edits (moveToLine : Typeset L Unit) :=
  .read (fun _ _ => rfl) fun _ => moveTo_songlike _ _

theorem chordRow_songlike (line : Line) (textFont chordFont : Font) :
    Songlike edits (chordRow line textFont chordFont : Typeset L Unit) := by
  have hchords : Songlike edits (do
      openChorus (size chordFont)
      if !(← get).settings.lyricsOnly && line.hasChords then
        moveToLine
        draw (.chords line textFont chordFont) : Typeset L Unit) :=
    .bind (openChorus_songlike _) fun _ => .read (fun _ _ => rfl) fun _ =>
      .ite (.bind moveToLine_songlike fun _ => draw_songlike rfl) (.pure _)
  exact .bind payBlankSpace_songlike fun _ => .bind (advance_songlike _) fun _ =>
    .read (fun _ _ => rfl) fun _ => .ite (.bind (advance_songlike _) fun _ => hchords) hchords

theorem lyricsRow_songlike (line : Line) (slot : FontSlot) (font : Font) :
    Songlike edits (lyricsRow line slot font : Typeset L Unit) :=
  .ite (climb_songlike (fun _ => rfl) fun _ => rfl) <| .bind payBlankSpace_songlike fun _ =>
    .bind (advance_songlike _) fun _ => .bind (openChorus_songlike _) fun _ =>
      .bind moveToLine_songlike fun _ => draw_songlike rfl

theorem setLine_songlike (line : Line) : Songlike edits (setLine line : Typeset L Unit) :=
  .read (fun _ _ => rfl) fun _ => .ite
    (.bind (chordRow_songlike line _ _) fun _ => lyricsRow_songlike line _ _)
    (lyricsRow_songlike line _ _)

theorem comment_songlike (style : CommentStyle) (text : String) :
    Songlike edits (comment style text : Typeset L Unit) :=
  .ite (report_songlike _) <| .bind payBlankSpace_songlike fun _ => .read (fun _ _ => rfl) fun _ =>
    .bind (advance_songlike _) fun _ => .read (fun _ _ => rfl) fun _ =>
      .bind (moveTo_songlike _ _) fun _ => draw_songlike rfl

theorem centred_songlike (text : String) (font : Font) :
    Songlike edits (centred text font : Typeset L Unit) :=
  .read (fun _ _ => rfl) fun _ => .bind (moveTo_songlike _ _) fun _ =>
    .bind (draw_songlike rfl) fun _ => down_songlike _

/-! ## Diagrams -/

theorem ensureRoom_songlike (height : L) : Songlike edits (ensureRoom height) :=
  .read (fun _ _ => rfl) fun _ => .ite (turnPage_songlike false) (.pure _)

theorem layOutDiagram_songlike (font : Font) (gridSize h : L) (chord : ChordDefinition) :
    Songlike edits (layOutDiagram font gridSize h chord) := by
  have hrest : ∀ h : L, Songlike edits (do
      moveTo h (← document).cursor.vertical
      draw (.diagram chord chord.label? font gridSize)
      return h + cellWidth gridSize) := fun h =>
    .read (fun _ _ => rfl) fun _ => .bind (moveTo_songlike _ _) fun _ =>
      .bind (draw_songlike rfl) fun _ => .pure _
  exact .read (fun _ _ => rfl) fun _ => .ite
    (.bind (down_songlike _) fun _ => .bind (ensureRoom_songlike _) fun _ =>
      .bind (.pure _) hrest)
    (.bind (.pure _) hrest)

theorem layOutDiagrams_songlike (chords : List ChordDefinition) :
    Songlike edits (layOutDiagrams chords : Typeset L Unit) :=
  .ite (.pure _) <| .read (fun _ _ => rfl) fun _ => .read (fun _ _ => rfl) fun _ =>
    .bind payBlankSpace_songlike fun _ => .read (fun _ _ => rfl) fun _ =>
      .bind (ensureRoom_songlike _) fun _ =>
        .bind (.foldlM _ (fun _ _ => layOutDiagram_songlike _ _ _ _) _) fun _ => down_songlike _

theorem songDiagrams_songlike : Songlike edits (songDiagrams : Typeset L Unit) := by
  refine ⟨.read fun _ _ _ => (layOutDiagrams_songlike _).wanders, fun s t pre pre' h => ?_⟩
  have hdiagrams : Songlike edits (layOutDiagrams (s.document.chords.usedDefinitions.filter
    (wantsDiagram s.settings)) : Typeset L Unit) := layOutDiagrams_songlike _
  show EndAlike (layOutDiagrams _) (layOutDiagrams (t.document.chords.usedDefinitions.filter
    (wantsDiagram t.settings))) s t _ _
  rw [← h.chords.usedDefinitions, ← h.settings_eq]
  exact hdiagrams.respects s t pre pre' h

theorem belowColumns_songlike : Songlike edits (modifyCursor (L := L) Cursor.belowColumns) :=
  climb_songlike (fun _ => rfl) fun _ => rfl

/-- A song ends with its diagrams, if it has them, and its page. -/
theorem endSong_ends (edits : Bool) {s : Session L} (hs : s.OnPage) :
    Ends endSong s (Interrupts edits) fun _ t => ∃ u foot, Moves edits s u ∧
      PageEnd u false foot ∧
      t = u.moved (u.document.cursor.left u.document.geometry false) foot u.log := by
  have hpage : ∀ u, Moves edits s u → Ends (endPage false) u (Interrupts edits) fun _ t =>
      ∃ u foot, Moves edits s u ∧ PageEnd u false foot ∧
        t = u.moved (u.document.cursor.left u.document.geometry false) foot u.log := by
    intro u hu
    have hon := hu.onPage hs
    refine ((endPage_ends hon.1 hon.2 false).mono ?_).weaken fun _ h => h.elim
    rintro _ _ ⟨foot, hfoot, rfl⟩
    exact ⟨u, foot, hu, hfoot, rfl⟩
  show Ends (if !s.settings.lyricsOnly && s.document.modes.grids.current then
    modifyCursor Cursor.belowColumns >>= fun _ => songDiagrams >>= fun _ => endPage false
    else endPage false) s _ _
  split
  · have hdiagrams : Wanders edits (modifyCursor Cursor.belowColumns >>= fun _ => songDiagrams :
        Typeset L Unit) :=
      .bind belowColumns_songlike.wanders fun _ => songDiagrams_songlike.wanders
    exact (hdiagrams.ends hs).bind fun _ u hu => hpage u hu
  · exact hpage s .refl

theorem endSong_respects : Respects (endSong : Typeset L Unit) := by
  have hbelow : Songlike true (modifyCursor Cursor.belowColumns : Typeset L Unit) :=
    belowColumns_songlike
  have hdiagrams : Songlike true (songDiagrams : Typeset L Unit) := songDiagrams_songlike
  exact .read (fun _ _ => rfl) fun _ => .ite (.bind hbelow.respects fun _ =>
    .bind hdiagrams.respects fun _ => endPage_respects false) (endPage_respects false)

/-! ## The next song -/

/-- Without the chords, the modes and the chorus of the song that has ended. -/
def afterSong (s : Session L) : Session L :=
  { s with
    document := { s.document with
      chords := s.document.chords.startSong s.settings.dropSongDefinitions
      modes := s.document.modes.leaveSong
      cursor := { s.document.cursor with songPages := 0, chorus := .off } } }

/-- Begins a song on a page of its own. -/
def nextSong : Typeset L Unit := do
  modify afterSong
  startPage
  modifyDocument resetDocument

theorem newSong_eq : (newSong : Typeset L Unit) = (do endSong; nextSong) := rfl

omit [Length L] in
theorem Alike.afterSong {pre pre' : List (Drawing L)} {s t : Session L}
    (h : Alike pre pre' s t) : Alike pre pre' (afterSong s) (afterSong t) := by
  have hbooks := h.chords.startSong s.settings.dropSongDefinitions
  have hplain : Plain fun s : Session L => { s with document := { s.document with
      modes := s.document.modes.leaveSong
      cursor := { s.document.cursor with songPages := 0, chorus := .off } } } :=
    ⟨fun _ => rfl, fun _ => rfl, fun _ => rfl, fun _ => rfl, fun _ => rfl⟩
  have hsettings : s.settings.dropSongDefinitions = t.settings.dropSongDefinitions :=
    congrArg (·.dropSongDefinitions) h.settings_eq
  rw [hsettings] at hbooks
  have hafter := (h.plain hplain).withChords hbooks
  unfold Typeset.afterSong
  rw [hsettings]
  exact hafter

theorem resetDocument_respects : Respects (modifyDocument resetDocument : Typeset L Unit) :=
  change_respects ⟨fun _ => rfl, fun _ => rfl, fun _ => rfl, fun _ => rfl, fun _ => rfl⟩

theorem firstPage_respects :
    Respects (startPage >>= fun _ => modifyDocument resetDocument : Typeset L Unit) :=
  .bind startPage_respects fun _ => resetDocument_respects

theorem nextSong_respects : Respects (nextSong : Typeset L Unit) := fun _ _ _ _ h =>
  firstPage_respects _ _ _ _ (Alike.afterSong h)

/-- The next song begins with its fonts, chords and modes reset, on a page of its own. -/
theorem newSong_ends {s : Session L} (hs : s.OnPage) :
    Ends newSong s (Interrupts true) fun _ t => ∃ u ds log, Moves true s u ∧ PageTurn u false ds ∧
      t = (u.moved (u.document.cursor.songBegun u.document.geometry) ds log).inNextSong := by
  refine (endSong_ends true hs).bind ?_
  rintro _ _ ⟨u, foot, hu, hfoot, rfl⟩
  refine .bind_ok rfl (.bind_ok rfl ?_)
  refine Ends.bind ((startPage_ends ?_).weaken fun _ h => h.elim) ?_
  · exact (hu.onPage hs).1
  rintro _ _ ⟨log, rfl⟩
  refine .of_ok rfl ⟨u, _, log, hu, ⟨foot, hfoot, rfl⟩, ?_⟩
  exact congrArg Session.inNextSong (Session.moved_moved u
    (u.document.cursor.left u.document.geometry false) _ foot _ u.log log)

theorem newSong_songlike : Songlike true (newSong : Typeset L Unit) := by
  refine ⟨.of_ends fun s hs => ?_, .bind endSong_respects fun _ => nextSong_respects⟩
  refine (newSong_ends hs).mono ?_
  rintro _ _ ⟨u, ds, log, hu, hds, rfl⟩
  exact (hu.tail (.nextSong rfl hds)).tail (.revise rfl _ rfl rfl)

/-! ## Directives -/

theorem modifyModes_songlike (f : Modes → Modes) :
    Songlike true (modifyModes f : Typeset L Unit) :=
  .change ⟨fun _ => rfl, fun _ => rfl, fun _ => rfl, fun _ => rfl, fun _ => rfl⟩
    fun _ => .revise rfl _ rfl rfl

theorem modifyStyles_songlike (f : StyleSheet → StyleSheet) :
    Songlike true (modifyStyles f : Typeset L Unit) :=
  .change ⟨fun _ => rfl, fun _ => rfl, fun _ => rfl, fun _ => rfl, fun _ => rfl⟩
    fun _ => .revise rfl _ rfl rfl

theorem title_songlike (text : String) : Songlike true (title text : Typeset L Unit) :=
  .read (fun _ _ => rfl) fun _ => .bind (centred_songlike _ _) fun _ => modifyModes_songlike _

theorem subtitle_songlike (text : String) : Songlike true (subtitle text : Typeset L Unit) :=
  .read (fun _ _ => rfl) fun _ => centred_songlike _ _

omit [Length L] in
theorem tableOfContents_of_numberAll {settings : Settings L} (h : settings.numberAll = false) :
    settings.tableOfContents = false := by
  cases htoc : settings.tableOfContents with
  | true => simp [Settings.numberAll, htoc] at h
  | false => rfl

theorem indexTitled_songlike (text : String) :
    Songlike true (indexTitled text : Typeset L Unit) := by
  refine .read (fun s hs => ?_) fun s => .ite (.change
    ⟨fun _ => rfl, fun _ => rfl, fun _ => rfl, fun _ => rfl, fun _ => rfl⟩
    fun _ => .revise rfl _ rfl rfl) (.pure _)
  -- without a table of contents nothing is indexed, so the page's label does not matter
  have hoff : ∀ t : Session L, t.settings = s.settings → isIndexed t = false := by
    intro t ht
    unfold isIndexed
    rw [ht, tableOfContents_of_numberAll hs, Bool.false_and]
  simp only [hoff s rfl, hoff s.view rfl, Bool.false_eq_true, if_false]

theorem indexSubtitled_songlike (text : String) :
    Songlike true (indexSubtitled text : Typeset L Unit) :=
  .read (fun _ _ => rfl) fun _ => .ite (.change
    ⟨fun _ => rfl, fun _ => rfl, fun _ => rfl, fun _ => rfl, fun _ => rfl⟩
    fun _ => .revise rfl _ rfl rfl) (.pure _)

theorem endOfChorus_songlike : Songlike edits (endOfChorus : Typeset L Unit) := by
  unfold endOfChorus
  rw [document_bind]
  refine .read (fun _ _ => rfl) fun s => ?_
  split
  · exact report_songlike _
  · exact climb_songlike (fun _ => rfl) fun _ => rfl
  · exact .bind (.read (fun _ _ => rfl) fun _ => draw_songlike rfl) fun _ =>
      climb_songlike (fun _ => rfl) fun _ => rfl

theorem resize_songlike (k : Keyword) (slot : FontSlot) (size : SizeArgument) :
    Songlike true (resize k slot size : Typeset L Unit) := by
  refine .read (fun _ _ => rfl) fun s => ?_
  cases size with
  | absolute points => exact modifyStyles_songlike _
  | relative delta =>
    refine .ite (report_songlike _) ?_
    split
    · exact modifyStyles_songlike _
    · exact report_songlike _

theorem adjustment_songlike (name : String) (adjustment : Adjustment) :
    Songlike true (match adjustment with
      | .moved base => note (.baseFretMoved name base)
      | other => (ChordBook.problem? name other).forM report : Typeset L Unit) := by
  split
  · exact note_songlike _
  · exact .optional _ report_songlike

theorem enter_songlike (definition : ChordDefinition) : Songlike true (do
    let (book, adjustment) := (← document).chords.define definition
    modifyDocument fun d => { d with chords := book }
    match adjustment with
    | .moved base => note (.baseFretMoved definition.name base)
    | other => (ChordBook.problem? definition.name other).forM report : Typeset L Unit) := by
  constructor
  · refine .read fun _ _ _ => .bind ?_ fun _ => (adjustment_songlike _ _).wanders
    exact wanders_of_move (fun _ => rfl) fun _ => .revise rfl _ rfl rfl
  · intro s t pre pre' h
    have hchange : EndAlike
        (modifyDocument fun d => { d with chords := (s.document.chords.define definition).1 })
        (modifyDocument fun d => { d with chords := (t.document.chords.define definition).1 })
        s t (Alike pre pre') fun _ => Alike pre pre' :=
      ⟨rfl, h.withChords (h.chords.define definition)⟩
    show EndAlike
      (modifyDocument (fun d => { d with chords := (s.document.chords.define definition).1 }) >>=
        fun _ => _)
      (modifyDocument (fun d => { d with chords := (t.document.chords.define definition).1 }) >>=
        fun _ => _) s t _ _
    refine hchange.bind fun _ s' t' hst => ?_
    rw [h.chords.autoAdjust]
    exact (adjustment_songlike _ _).respects s' t' pre pre' hst

theorem define_songlike (args : String) (order : FretOrder) :
    Songlike true (define args order : Typeset L Unit) := by
  refine .read (fun _ _ => rfl) fun s => ?_
  split
  · exact report_songlike _
  · exact enter_songlike _

theorem conditionalBreak_songlike (lines : Nat) :
    Songlike edits (conditionalBreak lines : Typeset L Unit) :=
  .read (fun _ _ => rfl) fun _ => .bind (note_songlike _) fun _ =>
    .ite breakColumn_songlike (.pure _)

theorem startOfTab_songlike : Songlike true (startOfTab : Typeset L Unit) :=
  .read (fun _ _ => rfl) fun _ => .ite (report_songlike _) (modifyModes_songlike _)

theorem endOfTab_songlike : Songlike true (endOfTab : Typeset L Unit) :=
  .read (fun _ _ => rfl) fun _ => .ite (modifyModes_songlike _) (report_songlike _)

theorem startOfBlock_songlike (label : String) :
    Songlike true (startOfBlock label : Typeset L Unit) :=
  .read (fun _ _ => rfl) fun _ => .ite (report_songlike _) <|
    .bind (comment_songlike _ _) fun _ => modifyModes_songlike _

theorem endOfBlock_songlike : Songlike true (endOfBlock : Typeset L Unit) :=
  .read (fun _ _ => rfl) fun _ => .ite (modifyModes_songlike _) (report_songlike _)

theorem setColumns_songlike (count : Nat) :
    Songlike true (setColumns count : Typeset L Unit) :=
  ⟨wanders_of_move (fun s => modifyCursor_eq (·.setColumns count s.document.geometry) s)
    fun _ => .setColumns rfl count,
    change_respects ⟨fun _ => rfl, fun _ => rfl, fun _ => rfl, fun _ => rfl, fun _ => rfl⟩⟩

theorem twoColumn_songlike (on : Bool) : Songlike true (twoColumn on : Typeset L Unit) := by
  unfold twoColumn
  rw [document_bind]
  refine .read (fun _ _ => rfl) fun s => ?_
  split
  · exact report_songlike _
  · exact report_songlike _
  · exact setColumns_songlike 2
  · exact setColumns_songlike 1

theorem setExtensions_songlike (on : Bool) :
    Songlike true (setExtensions on : Typeset L Unit) :=
  .read (fun _ _ => rfl) fun _ =>
    .ite (.bind (report_songlike _) fun _ => modifyModes_songlike _) (modifyModes_songlike _)

/-- A directive that keeps the paper is as a song does it. -/
theorem apply_songlike (k : Keyword) {d : Directive L} (hd : d.setsPaper = false) :
    Songlike true (apply k d) := by
  refine .read (fun _ _ => by cases d <;> rfl) fun s => ?_
  cases d with
  | startOfChorus => exact climb_songlike (fun _ => rfl) fun _ => rfl
  | endOfChorus => exact endOfChorus_songlike
  | font slot family => exact modifyStyles_songlike _
  | size slot size => exact resize_songlike k slot size
  | comment style text => exact comment_songlike style text
  | newSong => exact newSong_songlike
  | title text => exact .bind (title_songlike text) fun _ => indexTitled_songlike text
  | subtitle text => exact .bind (subtitle_songlike text) fun _ => indexSubtitled_songlike text
  | define args => exact define_songlike args _
  | chord args => exact define_songlike args _
  | grid on => exact modifyModes_songlike _
  | newPage => exact turnPage_songlike false
  | newPhysicalPage => exact turnPage_songlike true
  | startOfTab => exact startOfTab_songlike
  | endOfTab => exact endOfTab_songlike
  | columnBreak => exact breakColumn_songlike
  | columns count => exact setColumns_songlike count
  | twoColumn on => exact twoColumn_songlike on
  | oldDefine => exact modifyModes_songlike _
  | newDefine => exact modifyModes_songlike _
  | startOfBlock label => exact startOfBlock_songlike label
  | endOfBlock => exact endOfBlock_songlike
  | bridge keyword => exact report_songlike _
  | indent keyword => exact report_songlike _
  | autoSpace on => exact .read (fun _ _ => rfl) fun _ => modifyModes_songlike _
  | paperType name => cases hd
  | formSpec spec => cases hd
  | conditionalBreak lines => exact conditionalBreak_songlike lines
  | setIndent points => exact modifyModes_songlike _
  | extensions on => exact setExtensions_songlike on
  | version version => exact .bind (note_songlike _) fun _ => modifyModes_songlike _

theorem perform_songlike (k : Keyword) (args : String) :
    Songlike true (perform k args : Typeset L Unit) := by
  refine .readInSong (fun _ _ => rfl) fun s hs => ?_
  split
  · exact report_songlike _
  · rename_i hnone
    have hk := refusal?_eq_none hnone
    rw [hs] at hk
    split
    · rename_i d hd
      refine apply_songlike k ?_
      rw [Directive.setsPaper_of_read hd]
      exact hk
    · exact report_songlike _

theorem dispatch_songlike (text : String) :
    Songlike true (dispatch text : Typeset L Unit) := by
  unfold dispatch
  split
  · exact ⟨.throw ⟨rfl, rfl⟩, .throw _⟩
  · split
    · exact report_songlike _
    · rename_i args _ _ k _
      refine .read (fun _ _ => rfl) fun s => ?_
      dsimp only
      split
      · split
        · exact .bind (report_songlike _) fun _ => perform_songlike k args
        · exact perform_songlike k args
      · exact perform_songlike k args

/-! ## Texts -/

theorem readLine_songlike (line : Line) : Songlike edits (readLine line : Typeset L Unit) :=
  .read (fun _ _ => rfl) fun _ => .ite (.ite (report_songlike _) (.pure _))
    (.ite (setLine_songlike line) (.pure _))

theorem atLine_songlike (n : Nat) :
    Songlike edits (modify (atLine n) : Typeset L Unit) :=
  .change ⟨fun _ => rfl, fun _ => rfl, fun _ => rfl, fun _ => rfl, fun _ => rfl⟩
    fun s => .record s.file n s.log

theorem countSong_songlike :
    Songlike true (modify fun s => { s with songs := s.songs + 1 } : Typeset L Unit) :=
  .change ⟨fun _ => rfl, fun _ => rfl, fun _ => rfl, fun _ => rfl, fun _ => rfl⟩
    fun _ => .count rfl _

theorem openFile_songlike (name : String) :
    Songlike true (modify fun s => { s with file := name, line := 0 } : Typeset L Unit) :=
  .change ⟨fun _ => rfl, fun _ => rfl, fun _ => rfl, fun _ => rfl, fun _ => rfl⟩
    fun s => .record name 0 s.log

omit [Length L] in
theorem useChord_eq (name : String) (s : Session L) : ∃ log, useChord name s =
    { s with document := { s.document with chords := s.document.chords.use name }, log } := by
  by_cases hnone : (s.document.chords.get? name).isNone
  · exact ⟨_, by simp only [useChord, if_pos hnone]; rfl⟩
  · exact ⟨s.log, by simp only [useChord, if_neg hnone]⟩

omit [Length L] in
/-- A chord changes the chord book and the log. -/
theorem resolveChord_eq (name : String) (s : Session L) : ∃ chords log,
    (resolveChord name s).2 = { s with document := { s.document with chords }, log } := by
  unfold resolveChord
  split
  · exact ⟨_, _, rfl⟩
  · unfold shownChord
    cases ChordName.read? name with
    | some n =>
      obtain ⟨log, huse⟩ := useChord_eq _ s
      exact ⟨_, log, huse⟩
    | none =>
      obtain ⟨log, huse⟩ := useChord_eq name (s.report _)
      exact ⟨_, log, huse⟩

theorem resolveChord_moves (name : String) (s : Session L) :
    Moves edits s (resolveChord name s).2 := by
  have huse : ∀ name (s : Session L), Moves edits s (useChord name s) := by
    intro name s
    obtain ⟨log, huse⟩ := useChord_eq name s
    rw [huse]
    exact (Relation.ReflTransGen.single (.record s.file s.line log)).tail (.useChord name)
  have hshown : Moves edits s (shownChord name s).2 := by
    unfold shownChord
    cases ChordName.read? name with
    | some n => exact .refl
    | none => exact .single (.record s.file s.line _)
  unfold resolveChord
  split
  · exact .refl
  · exact hshown.trans (huse _ _)

omit [Length L] in
theorem resolveChord_alike {pre pre' : List (Drawing L)} {s t : Session L}
    (h : Alike pre pre' s t) (name : String) :
    (resolveChord name s).1 = (resolveChord name t).1 ∧
      Alike pre pre' (resolveChord name s).2 (resolveChord name t).2 := by
  have hrecord : ∀ (s t : Session L) (log log' : Array (LogEntry L)), Alike pre pre' s t →
      Alike pre pre' { s with log } { t with log := log' } := fun _ _ _ _ h =>
    ⟨h.view, h.chords, h.unlimited, h.inSong, h.unnumbered, h.received⟩
  have huse : ∀ (s t : Session L) name, Alike pre pre' s t →
      Alike pre pre' (useChord name s) (useChord name t) := by
    intro s t name h
    obtain ⟨log, hs⟩ := useChord_eq name s
    obtain ⟨log', ht⟩ := useChord_eq name t
    rw [hs, ht]
    exact hrecord _ _ log log' (h.withChords (h.chords.use name))
  unfold resolveChord
  split
  · exact ⟨rfl, h⟩
  · unfold shownChord
    rw [h.settings_eq]
    cases ChordName.read? name with
    | some n => exact ⟨rfl, huse s t _ h⟩
    | none => exact ⟨rfl, huse _ _ name (hrecord s t _ _ h)⟩

theorem sink_keeps {I : Session L → Prop} (hI : ∀ s, I s → s.OnPage)
    (step : ∀ s t, Move edits s t → I s → I t) :
    (sink : Markup.Sink Fault (Session L)).Keeps I (Interrupts edits) where
  chord := by
    intro n name s hs
    show I (if s.startup then (name, atLine n s) else resolveChord name (atLine n s)).2
    rw [(hI s hs).inSong]
    exact (resolveChord_moves name _).keep step (step _ _ (.record s.file n s.log) hs)
  line := by
    intro n content s hs
    have hline : Wanders edits (modify (atLine n) >>= fun _ => readLine content :
        Typeset L Unit) :=
      .bind (atLine_songlike n).wanders fun _ => (readLine_songlike content).wanders
    exact (hline.ends (hI s hs)).mono fun _ _ h => h.keep step hs
  problem := fun n p s hs => step s _ (.record s.file n _) hs

theorem sink_keepsDirectives {I : Session L → Prop} (hI : ∀ s, I s → s.OnPage)
    (step : ∀ s t, Move true s t → I s → I t) :
    (sink : Markup.Sink Fault (Session L)).KeepsDirectives I (Interrupts true) := by
  intro n text s hs
  have hline : Wanders true (modify (atLine n) >>= fun _ => dispatch text : Typeset L Unit) :=
    .bind (atLine_songlike n).wanders fun _ => (dispatch_songlike text).wanders
  exact (hline.ends (hI s hs)).mono fun _ _ h => h.keep step hs

theorem sink_relates (pre pre' : List (Drawing L)) :
    (sink : Markup.Sink Fault (Session L)).Relates (Alike pre pre') fun _ => Alike pre pre' where
  chord := by
    intro n name s t h
    show (if s.startup then (name, atLine n s) else resolveChord name (atLine n s)).1 =
        (if t.startup then (name, atLine n t) else resolveChord name (atLine n t)).1 ∧
      Alike pre pre'
        (if s.startup then (name, atLine n s) else resolveChord name (atLine n s)).2
        (if t.startup then (name, atLine n t) else resolveChord name (atLine n t)).2
    have hstartup : s.startup = t.startup := congrArg (·.startup) h.view
    have hline : Alike pre pre' (atLine n s) (atLine n t) :=
      ⟨h.view, h.chords, h.unlimited, h.inSong, h.unnumbered, h.received⟩
    rw [← hstartup, h.inSong]
    exact resolveChord_alike hline name
  line := by
    intro n content s t h
    have hline : Songlike true (modify (atLine n) >>= fun _ => readLine content :
      Typeset L Unit) := .bind (atLine_songlike n) fun _ => readLine_songlike content
    exact hline.respects s t pre pre' h
  problem := fun _ _ _ _ h =>
    ⟨h.view, h.chords, h.unlimited, h.inSong, h.unnumbered, h.received⟩
  inTab := fun _ _ h => congrArg (·.inTab) h.document_eq.2.2.2

theorem sink_relatesDirectives (pre pre' : List (Drawing L)) :
    (sink : Markup.Sink Fault (Session L)).RelatesDirectives (Alike pre pre')
      fun _ => Alike pre pre' := by
  intro n text s t h
  have hline : Songlike true (modify (atLine n) >>= fun _ => dispatch text :
    Typeset L Unit) := .bind (atLine_songlike n) fun _ => dispatch_songlike text
  exact hline.respects s t pre pre' h

/-- A text wanders; without edits if it opens no directive. -/
theorem readText_wanders (text : String) (hd : '{' ∈ text.toList → edits = true) :
    Wanders edits (Markup.Reader.readText sink text : Typeset L Unit) := by
  refine .of_ends fun s hs => ?_
  have hI : ∀ t, s.OnPage ∧ Moves edits s t → t.OnPage := fun t ht => ht.2.onPage ht.1
  have step : ∀ t u, Move edits t u → s.OnPage ∧ Moves edits s t → s.OnPage ∧ Moves edits s u :=
    fun t u htu ht => ⟨ht.1, ht.2.tail htu⟩
  refine (Markup.Reader.readText_ends (sink_keeps hI step) text (fun hmem => ?_)
    ⟨hs, .refl⟩).mono fun _ _ ht => ht.2
  obtain rfl := hd hmem
  exact sink_keepsDirectives hI step

theorem readText_songlike (text : String) :
    Songlike true (Markup.Reader.readText sink text : Typeset L Unit) :=
  ⟨readText_wanders text fun _ => rfl, fun _ _ pre pre' h =>
    Markup.Reader.readText_endAlike (sink_relates pre pre') text
      (fun _ => sink_relatesDirectives pre pre') h⟩

end Songbook.Typeset
