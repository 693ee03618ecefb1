import Songbook.Proofs.Paging
import Songbook.Proofs.Runs

/-!
# What actions look at

No action looks at the device or at the log, and where only lyrics are printed none looks at the
chords either: not at the chord book, and not at the semitones by which chords are moved. What an
action does therefore follows from the rest of the session, its `sight`. An action is made of steps
that heed no more than that (`Heeds`); so what holds of such steps holds of all that directives and
lines do (`dispatch_heeds`, `readLine_heeds`). Where chords are not looked at, neither they nor
their diagrams nor tablatures are drawn.
-/

namespace Songbook

variable {L : Type}

/-- Shows no chords: no row of them, no diagram, and no text of a tablature. -/
def Drawing.isLyrical : Drawing L → Bool
  | .chords .. | .diagram .. | .text _ .tab .. => false
  | _ => true

/-- What is seen of a chord book. -/
def ChordBook.seen (b : ChordBook) : Bool → ChordBook
  | true => b
  | false => .empty false

namespace Session

/-- The session without what was drawn and logged. If chords are not looked at it is also without
these, and without the line being read, which is remembered when a chord is closed. -/
def sight (chords : Bool) (s : Session L) : Session L :=
  { s with
    settings := { s.settings with transpose := if chords then s.settings.transpose else 0 }
    document := { s.document with chords := s.document.chords.seen chords }
    device := .unlimited
    line := if chords then s.line else 0
    log := #[] }

/-- Chords are left out of sight only where lyrics alone are printed. -/
def Admits (chords : Bool) (s : Session L) : Prop := chords = false → s.settings.lyricsOnly = true

/-- The session with other chords and another log. -/
def entered (s : Session L) (book : ChordBook) (log : Array (LogEntry L)) : Session L :=
  { s with document := { s.document with chords := book }, log := log }

/-- A change of the session that does not look further than `sight`, and keeps the settings and what
was drawn and logged. -/
structure Unseeing (chords : Bool) (f : Session L → Session L) : Prop where
  sight : ∀ s, (f s).sight chords = (f (s.sight chords)).sight chords
  settings : ∀ s, (f s).settings = s.settings
  device : ∀ s, (f s).device = s.device
  log : ∀ s, (f s).log = s.log

/-- What is seen of a session, its settings, its device and its log are all of it. -/
theorem eq_of_sight {s t : Session L} (hsight : s.sight true = t.sight true)
    (hdevice : s.device = t.device) (hlog : s.log = t.log) : s = t := by
  have hsettings : s.settings = t.settings := congrArg (·.settings) hsight
  have hdocument : s.document = t.document := congrArg (·.document) hsight
  have hrest : (s.startup, s.file, s.line, s.started, s.songs) =
      (t.startup, t.file, t.line, t.started, t.songs) :=
    congrArg (fun u => (u.startup, u.file, u.line, u.started, u.songs)) hsight
  cases s
  cases t
  simp_all

end Session

namespace Typeset

/-- An action made of steps that look no further than `sight`. -/
inductive Heeds (chords : Bool) : {α : Type} → Typeset L α → Prop
  | pure {α : Type} (a : α) : Heeds chords (Pure.pure a : Typeset L α)
  | throw {α : Type} (e : Fault) : Heeds chords (MonadExcept.throw e : Typeset L α)
  | bind {α β : Type} {x : Typeset L α} {f : α → Typeset L β} (hx : Heeds chords x)
      (hf : ∀ a, Heeds chords (f a)) : Heeds chords (x >>= f)
  | look {β : Type} {f : Session L → Typeset L β}
      (hsight : ∀ s, s.Admits chords → f s = f (s.sight chords))
      (hf : ∀ s, s.Admits chords → Heeds chords (f s)) : Heeds chords (MonadState.get >>= f)
  | draw {d : Drawing L} (hd : chords = false → d.isLyrical) : Heeds chords (draw d)
  | note (e : LogEntry L) : Heeds chords (note e)
  | report (p : Problem) : Heeds chords (report p : Typeset L Unit)
  | change {f : Session L → Session L} (hf : Session.Unseeing chords f) :
      Heeds chords (modify f : Typeset L Unit)
  | enter {x : Typeset L Unit} (hchords : chords = false)
      (hx : ∀ s, ∃ book log, x s = .ok () (s.entered book log)) : Heeds chords x

variable {α β : Type} {chords : Bool} {x y : Typeset L α}

namespace Heeds

theorem read {f : Session L → Typeset L β} (hsight : ∀ s, f s = f (s.sight chords))
    (hf : ∀ s, Heeds chords (f s)) : Heeds chords (MonadState.get >>= f) :=
  .look (fun s _ => hsight s) fun s _ => hf s

theorem ite {c : Prop} [Decidable c] (hx : Heeds chords x) (hy : Heeds chords y) :
    Heeds chords (if c then x else y) := by
  split
  · exact hx
  · exact hy

/-- What is done only under a condition, and what follows it. -/
theorem optional {c : Prop} [Decidable c] {x : Typeset L PUnit} {k : PUnit → Typeset L α}
    (hx : Heeds chords x) (hk : Heeds chords (k ())) :
    Heeds chords (if c then x >>= k else k ()) :=
  .ite (.bind hx fun _ => hk) hk

theorem perhaps {g : β → Typeset L PUnit} (o : Option β) (h : ∀ b, Heeds chords (g b)) :
    Heeds chords (o.forM g) := by
  cases o with
  | none => exact .pure _
  | some b => exact h b

theorem forM {g : β → Typeset L PUnit} (l : List β) (h : ∀ b, Heeds chords (g b)) :
    Heeds chords (l.forM g) := by
  induction l with
  | nil => exact .pure _
  | cons b l ih => exact .bind (h b) fun _ => ih

theorem foldlM {g : α → β → Typeset L α} (l : List β) (h : ∀ a b, Heeds chords (g a b)) (a : α) :
    Heeds chords (l.foldlM g a) := by
  induction l generalizing a with
  | nil => exact .pure _
  | cons b l ih =>
    rw [List.foldlM_cons]
    exact .bind (h a b) ih

end Heeds

/-- A change of the document that does not look at its chords. -/
theorem modifyDocument_heeds {f : Document L → Document L}
    (hf : ∀ d book, f { d with chords := book } = { f d with chords := book }) :
    Heeds chords (modifyDocument f) := by
  refine .change ⟨fun s => ?_, fun _ => rfl, fun _ => rfl, fun _ => rfl⟩
  cases chords with
  | true => rfl
  | false =>
    show Session.sight false { s with document := f s.document } = Session.sight false
      { s.sight false with document := f { s.document with chords := .empty false } }
    rw [hf s.document (.empty false)]
    rfl

theorem modifyCursor_heeds (f : Cursor L → Cursor L) : Heeds chords (modifyCursor f) :=
  modifyDocument_heeds fun _ _ => rfl

theorem modifyModes_heeds (f : Modes → Modes) : Heeds chords (modifyModes f : Typeset L Unit) :=
  modifyDocument_heeds fun _ _ => rfl

theorem modifyStyles_heeds (f : StyleSheet → StyleSheet) :
    Heeds chords (modifyStyles f : Typeset L Unit) :=
  modifyDocument_heeds fun _ _ => rfl

theorem moveTo_heeds (h v : L) : Heeds chords (moveTo h v) := .draw fun _ => rfl

variable [Length L]

/-! ## The ends of pages -/

theorem chorusBar_heeds (top : L) : Heeds chords (chorusBar top) :=
  .read (fun _ => rfl) fun _ => .draw fun _ => rfl

theorem pageNumber_heeds (n : Int) : Heeds chords (pageNumber n : Typeset L Unit) :=
  .read (fun _ => rfl) fun _ => .bind (.draw fun _ => rfl) fun _ => .bind (moveTo_heeds _ _) fun _ =>
    .draw fun _ => rfl

theorem numbered_heeds (number : Option Int) :
    Heeds chords (numbered number : Typeset L Unit) := by
  cases number with
  | none => exact .pure _
  | some n => exact pageNumber_heeds n

theorem shift_heeds (g : PageGeometry L) (pagination : Pagination) (slot : Nat) :
    Heeds chords (match g.shift? pagination slot with
      | some (h, v) => do
        draw (.transform (.translate h v))
        modifyCursor (·.toPageTop g)
      | none => modifyCursor (·.toPageTop g) : Typeset L Unit) := by
  split
  · exact .bind (.draw fun _ => rfl) fun _ => modifyCursor_heeds _
  · exact modifyCursor_heeds _

theorem startPage_heeds : Heeds chords (startPage : Typeset L Unit) := by
  refine .bind (modifyCursor_heeds _) fun _ => .read (fun _ => rfl) fun s =>
    .ite ?_ (shift_heeds _ _ _)
  exact .bind (.note _) fun _ => .bind (.draw fun _ => rfl) fun _ =>
    .optional (.draw fun _ => rfl) (shift_heeds _ _ _)

theorem endSheet_heeds : Heeds chords (endSheet : Typeset L Unit) := by
  refine .read (fun _ => rfl) fun s => .ite (.pure _) ?_
  exact .optional (.draw fun _ => rfl) <| .optional (numbered_heeds _) <|
    .bind (.draw fun _ => rfl) fun _ => modifyCursor_heeds _

theorem runningTitle_heeds : Heeds chords (runningTitle : Typeset L Unit) := by
  refine .read (fun _ => rfl) fun s => ?_
  cases s.document.modes.title with
  | none => exact .pure _
  | some title =>
    exact .ite (.bind (moveTo_heeds _ _) fun _ => .draw fun _ => rfl) (.pure _)

theorem endPage_heeds (sheetToo : Bool) : Heeds chords (endPage sheetToo : Typeset L Unit) := by
  have hclose : ∀ (c : Prop) [Decidable c] (g : PageGeometry L), Heeds chords (do
      if c then endSheet
      modifyCursor (·.leavePage g) : Typeset L Unit) := fun c _ g =>
    .optional endSheet_heeds (modifyCursor_heeds _)
  refine .read (fun _ => rfl) fun s => .ite (.pure _) <| .bind runningTitle_heeds fun _ =>
    .optional (numbered_heeds _) ?_
  dsimp only
  split
  · exact .bind (chorusBar_heeds _) fun _ => hclose _ _
  · exact hclose _ _

theorem turnPage_heeds (sheetToo : Bool) : Heeds chords (turnPage sheetToo : Typeset L Unit) :=
  .bind (endPage_heeds sheetToo) fun _ => startPage_heeds

/-! ## Columns -/

theorem breakColumn_heeds : Heeds chords (breakColumn : Typeset L Unit) :=
  .read (fun _ => rfl) fun _ => .ite (turnPage_heeds false) <|
    .bind (modifyCursor_heeds _) fun _ => .note _

theorem advance_heeds (amount : L) : Heeds chords (advance amount) :=
  .bind (modifyCursor_heeds _) fun _ => .read (fun _ => rfl) fun _ =>
    .ite breakColumn_heeds (.pure _)

theorem payBlankSpace_heeds : Heeds chords (payBlankSpace : Typeset L Unit) :=
  .read (fun _ => rfl) fun _ => .bind (modifyCursor_heeds _) fun _ =>
    .ite (advance_heeds _) (.pure _)

theorem setColumns_heeds (count : Nat) : Heeds chords (setColumns count : Typeset L Unit) :=
  modifyDocument_heeds fun _ _ => rfl

theorem conditionalBreak_heeds (lines : Nat) :
    Heeds chords (conditionalBreak lines : Typeset L Unit) :=
  .read (fun _ => rfl) fun _ => .bind (.note _) fun _ => .ite breakColumn_heeds (.pure _)

/-! ## Lines and titles -/

theorem openChorus_heeds (rowSize : L) : Heeds chords (openChorus rowSize) :=
  modifyCursor_heeds _

theorem moveToLine_heeds : Heeds chords (moveToLine : Typeset L Unit) :=
  .read (fun _ => rfl) fun _ => moveTo_heeds _ _

/-- Where only lyrics are printed, the row of chords is left empty. -/
theorem chordRow_heeds (line : Line) (textFont chordFont : Font) :
    Heeds chords (chordRow line textFont chordFont : Typeset L Unit) := by
  have hchords : Heeds chords (do
      openChorus (size chordFont)
      if !(← get).settings.lyricsOnly && line.hasChords then
        moveToLine
        draw (.chords line textFont chordFont) : Typeset L Unit) := by
    refine .bind (openChorus_heeds _) fun _ => .look (fun _ _ => rfl) fun s hs => ?_
    cases chords with
    | true => exact .ite (.bind moveToLine_heeds fun _ => .draw nofun) (.pure _)
    | false =>
      rw [hs rfl]
      exact .pure _
  exact .bind payBlankSpace_heeds fun _ => .bind (advance_heeds _) fun _ =>
    .read (fun _ => rfl) fun _ => .ite (.bind (advance_heeds _) fun _ => hchords) hchords

theorem lyricsRow_heeds (line : Line) {slot : FontSlot} (hslot : chords = false → slot ≠ .tab)
    (font : Font) : Heeds chords (lyricsRow line slot font : Typeset L Unit) := by
  refine .ite (modifyCursor_heeds _) <| .bind payBlankSpace_heeds fun _ =>
    .bind (advance_heeds _) fun _ => .bind (openChorus_heeds _) fun _ =>
      .bind moveToLine_heeds fun _ => .draw fun hchords => ?_
  have := hslot hchords
  cases slot <;> first | rfl | contradiction

/-- Prints a line as the document says. -/
def setLineOn (d : Document L) (line : Line) : Typeset L Unit := do
  let slot : FontSlot := if d.modes.inTab then .tab else .text
  let textFont := d.styles.current slot
  let close := d.modes.autoSpace.current || d.modes.inTab
  if !(close && !line.hasChords) then chordRow line textFont (d.styles.current .chord)
  lyricsRow line slot textFont

theorem setLineOn_heeds {d : Document L} (hd : chords = false → d.modes.inTab = false)
    (line : Line) : Heeds chords (setLineOn d line) := by
  have hlyrics : ∀ font, Heeds chords (lyricsRow line (if d.modes.inTab then .tab else .text) font :
      Typeset L Unit) := by
    refine fun font => lyricsRow_heeds line (fun hchords => ?_) font
    rw [hd hchords]
    decide
  exact .ite (.bind (chordRow_heeds line _ _) fun _ => hlyrics _) (hlyrics _)

/-- Where only lyrics are printed, tablatures are passed over. -/
theorem readLine_heeds (line : Line) : Heeds chords (readLine line : Typeset L Unit) := by
  have hread : readLine line = (MonadState.get >>= fun s => if s.startup then
      if !line.text.isEmpty then report .notADirective else pure ()
    else if !(s.document.modes.inTab && s.settings.lyricsOnly) then setLineOn s.document line
    else pure () : Typeset L Unit) := by
    funext s
    rw [readLine, get_bind, get_bind]
    split
    · rfl
    · split <;> rfl
  rw [hread]
  refine .look (fun _ _ => rfl) fun s hs => .ite (.ite (.report _) (.pure _)) ?_
  split
  · rename_i hprinted
    refine setLineOn_heeds (fun hchords => ?_) line
    simpa [hs hchords] using hprinted
  · exact .pure _

theorem comment_heeds (style : CommentStyle) (text : String) :
    Heeds chords (comment style text : Typeset L Unit) := by
  refine .ite (.report _) <| .bind payBlankSpace_heeds fun _ => .read (fun _ => rfl) fun _ =>
    .bind (advance_heeds _) fun _ => .read (fun _ => rfl) fun _ => .bind (moveTo_heeds _ _) fun _ =>
      .draw fun _ => ?_
  cases style <;> rfl

theorem centred_heeds (text : String) (font : Font) :
    Heeds chords (centred text font : Typeset L Unit) :=
  .read (fun _ => rfl) fun _ => .bind (moveTo_heeds _ _) fun _ => .bind (.draw fun _ => rfl) fun _ =>
    modifyCursor_heeds _

theorem title_heeds (text : String) : Heeds chords (title text : Typeset L Unit) :=
  .read (fun _ => rfl) fun _ => .bind (centred_heeds _ _) fun _ => modifyModes_heeds _

theorem subtitle_heeds (text : String) : Heeds chords (subtitle text : Typeset L Unit) :=
  .read (fun _ => rfl) fun _ => centred_heeds _ _

/-! ## Diagrams -/

theorem ensureRoom_heeds (height : L) : Heeds chords (ensureRoom height) :=
  .read (fun _ => rfl) fun _ => .ite (turnPage_heeds false) (.pure _)

theorem layOutDiagram_heeds (font : Font) (gridSize h : L) (chord : ChordDefinition) :
    Heeds true (layOutDiagram font gridSize h chord) := by
  have hrest : ∀ h : L, Heeds true (do
      moveTo h (← document).cursor.vertical
      draw (.diagram chord chord.label? font gridSize)
      return h + cellWidth gridSize) := fun h =>
    .read (fun _ => rfl) fun _ => .bind (moveTo_heeds _ _) fun _ => .bind (.draw nofun) fun _ =>
      .pure _
  exact .read (fun _ => rfl) fun _ => .ite
    (.bind (modifyCursor_heeds _) fun _ => .bind (ensureRoom_heeds _) fun _ =>
      .bind (.pure _) hrest)
    (.bind (.pure _) hrest)

theorem layOutDiagrams_heeds (definitions : List ChordDefinition) :
    Heeds true (layOutDiagrams definitions : Typeset L Unit) :=
  .ite (.pure _) <| .read (fun _ => rfl) fun _ => .read (fun _ => rfl) fun _ =>
    .bind payBlankSpace_heeds fun _ => .read (fun _ => rfl) fun _ =>
      .bind (ensureRoom_heeds _) fun _ =>
        .bind (.foldlM _ (fun _ _ => layOutDiagram_heeds _ _ _ _) _) fun _ => modifyCursor_heeds _

/-- Where only lyrics are printed, a song ends without diagrams. -/
theorem endSong_heeds : Heeds chords (endSong : Typeset L Unit) := by
  refine .look (fun _ _ => rfl) fun s hs => ?_
  cases chords with
  | true =>
    have hdiagrams : Heeds true (songDiagrams : Typeset L Unit) :=
      .read (fun _ => rfl) fun _ => layOutDiagrams_heeds _
    exact .optional (.bind (modifyCursor_heeds _) fun _ => hdiagrams) (endPage_heeds false)
  | false =>
    rw [hs rfl]
    exact endPage_heeds false

/-! ## Songs and the index -/

theorem newSong_heeds : Heeds chords (newSong : Typeset L Unit) := by
  refine .bind endSong_heeds fun _ => .read (fun _ => rfl) fun s => ?_
  refine .bind (.change ⟨fun _ => ?_, fun _ => rfl, fun _ => rfl, fun _ => rfl⟩) fun _ =>
    .bind startPage_heeds fun _ => modifyDocument_heeds fun _ _ => rfl
  cases chords <;> rfl

omit [Length L] in
theorem indexTitled_heeds (text : String) : Heeds chords (indexTitled text : Typeset L Unit) :=
  .read (fun _ => rfl) fun _ => .ite (modifyDocument_heeds fun _ _ => rfl) (.pure _)

omit [Length L] in
theorem indexSubtitled_heeds (text : String) :
    Heeds chords (indexSubtitled text : Typeset L Unit) :=
  .read (fun _ => rfl) fun _ => .ite (modifyDocument_heeds fun _ _ => rfl) (.pure _)

theorem indexLine_heeds (font : Font) (h : L) (text : String) :
    Heeds chords (indexLine font h text) :=
  .bind (advance_heeds _) fun _ => .read (fun _ => rfl) fun _ => .bind (moveTo_heeds _ _) fun _ =>
    .draw fun _ => rfl

theorem indexEntry_heeds (font : Font) (e : IndexEntry) :
    Heeds chords (indexEntry font e : Typeset L Unit) :=
  .read (fun _ => rfl) fun _ => .bind (indexLine_heeds _ _ _) fun _ => .read (fun _ => rfl) fun _ =>
    .bind (moveTo_heeds _ _) fun _ => .bind (.draw fun _ => rfl) fun _ =>
      .forM _ fun _ => indexLine_heeds _ _ _

theorem printIndex_heeds : Heeds chords (printIndex : Typeset L Unit) :=
  .read (fun _ => rfl) fun _ => .ite (.pure _) <| .bind (.note _) fun _ =>
    .bind (modifyDocument_heeds fun _ _ => rfl) fun _ => .bind (modifyCursor_heeds _) fun _ =>
      .bind (modifyModes_heeds _) fun _ => .bind startPage_heeds fun _ =>
        .bind (title_heeds _) fun _ => .read (fun _ => rfl) fun _ =>
          .bind (.forM _ fun _ => indexEntry_heeds _ _) fun _ => endPage_heeds false

/-! ## Directives -/

theorem endOfChorus_heeds : Heeds chords (endOfChorus : Typeset L Unit) := by
  unfold endOfChorus
  rw [document_bind]
  refine .read (fun _ => rfl) fun s => ?_
  split
  · exact .report _
  · exact modifyCursor_heeds _
  · exact .bind (chorusBar_heeds _) fun _ => modifyCursor_heeds _

omit [Length L] in
theorem resize_heeds (k : Keyword) (slot : FontSlot) (size : SizeArgument) :
    Heeds chords (resize k slot size : Typeset L Unit) := by
  refine .read (fun _ => rfl) fun s => ?_
  cases size with
  | absolute points => exact modifyStyles_heeds _
  | relative delta =>
    refine .ite (.report _) ?_
    split
    · exact modifyStyles_heeds _
    · exact .report _

omit [Length L] in
/-- A definition is entered or reported. -/
theorem define_heeds (args : String) (order : FretOrder) :
    Heeds chords (define args order : Typeset L Unit) := by
  refine .read (fun _ => rfl) fun s => ?_
  split
  · exact .report _
  · rename_i definition _
    cases chords with
    | true =>
      refine .read (fun _ => rfl) fun s =>
        .bind (.change ⟨fun _ => rfl, fun _ => rfl, fun _ => rfl, fun _ => rfl⟩) fun _ => ?_
      split
      · exact .note _
      · exact .perhaps _ fun p => .report p
    | false =>
      refine .enter rfl fun s => ?_
      rw [document_bind, get_bind]
      obtain ⟨book, adjustment⟩ := s.document.chords.define definition
      refine ⟨book, ?_⟩
      cases adjustment with
      | moved base => exact ⟨_, rfl⟩
      | tooWide span => exact ⟨_, rfl⟩
      | kept => exact ⟨_, rfl⟩

theorem setGeometry_heeds (g : PageGeometry L) : Heeds chords (setGeometry g) :=
  modifyDocument_heeds fun _ _ => rfl

theorem changePaper_heeds (g : PageGeometry L) : Heeds chords (changePaper g) :=
  .bind (.note _) fun _ => setGeometry_heeds g

theorem twoColumn_heeds (on : Bool) : Heeds chords (twoColumn on : Typeset L Unit) := by
  unfold twoColumn
  rw [document_bind]
  refine .read (fun _ => rfl) fun s => ?_
  split
  · exact .report _
  · exact .report _
  · exact setColumns_heeds 2
  · exact setColumns_heeds 1

theorem apply_heeds (k : Keyword) (d : Directive L) : Heeds chords (apply k d) := by
  refine .read (fun _ => rfl) fun s => ?_
  cases d with
  | startOfChorus => exact modifyCursor_heeds _
  | endOfChorus => exact endOfChorus_heeds
  | font slot family => exact modifyStyles_heeds _
  | size slot size => exact resize_heeds k slot size
  | comment style text => exact comment_heeds style text
  | newSong => exact newSong_heeds
  | title text => exact .bind (title_heeds text) fun _ => indexTitled_heeds text
  | subtitle text => exact .bind (subtitle_heeds text) fun _ => indexSubtitled_heeds text
  | define args => exact define_heeds args _
  | chord args => exact define_heeds args _
  | grid on => exact modifyModes_heeds _
  | newPage => exact turnPage_heeds false
  | newPhysicalPage => exact turnPage_heeds true
  | startOfTab => exact .read (fun _ => rfl) fun _ => .ite (.report _) (modifyModes_heeds _)
  | endOfTab => exact .read (fun _ => rfl) fun _ => .ite (modifyModes_heeds _) (.report _)
  | columnBreak => exact breakColumn_heeds
  | columns count => exact setColumns_heeds count
  | twoColumn on => exact twoColumn_heeds on
  | oldDefine => exact modifyModes_heeds _
  | newDefine => exact modifyModes_heeds _
  | startOfBlock label =>
    exact .read (fun _ => rfl) fun _ => .ite (.report _) <|
      .bind (comment_heeds _ _) fun _ => modifyModes_heeds _
  | endOfBlock => exact .read (fun _ => rfl) fun _ => .ite (modifyModes_heeds _) (.report _)
  | bridge keyword => exact .report _
  | indent keyword => exact .report _
  | autoSpace on => exact .read (fun _ => rfl) fun _ => modifyModes_heeds _
  | paperType name =>
    dsimp only
    split
    · exact changePaper_heeds _
    · exact .report _
  | formSpec spec =>
    dsimp only
    split
    · exact .bind (.note _) fun _ => changePaper_heeds _
    · exact .report _
  | conditionalBreak lines => exact conditionalBreak_heeds lines
  | setIndent points => exact modifyModes_heeds _
  | extensions on => exact .read (fun _ => rfl) fun _ => .optional (.report _) (modifyModes_heeds _)
  | version version => exact .bind (.note _) fun _ => modifyModes_heeds _

theorem perform_heeds (k : Keyword) (args : String) :
    Heeds chords (perform k args : Typeset L Unit) := by
  refine .read (fun _ => rfl) fun s => ?_
  split
  · exact .report _
  · split
    · exact apply_heeds k _
    · exact .report _

theorem dispatch_heeds (text : String) : Heeds chords (dispatch text : Typeset L Unit) := by
  unfold dispatch
  split
  · exact .throw _
  · split
    · exact .report _
    · rename_i args _ _ k _
      refine .read (fun _ => rfl) fun s => .ite ?_ (perform_heeds k args)
      dsimp only
      split
      · exact .bind (.report _) fun _ => perform_heeds k args
      · exact perform_heeds k args

/-! ## Runs -/

omit [Length L] in
/-- The place being read, the file and the songs begun are kept apart from what is printed. -/
theorem aside_heeds {f : Session L → Session L}
    (hf : ∀ s, (f s).sight chords = (f (s.sight chords)).sight chords)
    (hkeeps : ∀ s, ((f s).settings, (f s).device, (f s).log) = (s.settings, s.device, s.log)) :
    Heeds chords (modify f : Typeset L Unit) :=
  .change ⟨hf, fun s => congrArg (·.1) (hkeeps s), fun s => congrArg (·.2.1) (hkeeps s),
    fun s => congrArg (·.2.2) (hkeeps s)⟩

theorem sink_line_heeds (n : Nat) (content : Line) :
    Heeds chords ((sink (L := L)).line n content) :=
  .bind (aside_heeds (fun _ => by cases chords <;> rfl) fun _ => rfl) fun _ =>
    readLine_heeds content

theorem sink_directive_heeds (n : Nat) (text : String) :
    Heeds chords ((sink (L := L)).directive n text) :=
  .bind (aside_heeds (fun _ => by cases chords <;> rfl) fun _ => rfl) fun _ => dispatch_heeds text

theorem begin_heeds : Heeds chords (begin : Typeset L Unit) :=
  .read (fun _ => rfl) fun _ => .ite (.pure _) <|
    .bind (aside_heeds (fun _ => by cases chords <;> rfl) fun _ => rfl) fun _ =>
      .read (fun _ => rfl) fun _ => .bind (.draw fun _ => rfl) fun _ =>
        .bind (modifyDocument_heeds fun _ _ => rfl) fun _ => startPage_heeds

theorem closeDocument_heeds : Heeds chords (closeDocument : Typeset L Unit) :=
  .bind endSheet_heeds fun _ => .read (fun _ => rfl) fun _ => .draw fun _ => rfl

theorem finish_heeds : Heeds chords (finish : Typeset L Unit) :=
  .bind begin_heeds fun _ => .bind endSong_heeds fun _ => .read (fun _ => rfl) fun _ =>
    .ite (.bind printIndex_heeds fun _ => closeDocument_heeds) closeDocument_heeds

theorem printKnownChords_heeds : Heeds true (printKnownChords : Typeset L Unit) :=
  .bind begin_heeds fun _ => .read (fun _ => rfl) fun _ => .bind (layOutDiagrams_heeds _) fun _ =>
    .bind (endPage_heeds false) fun _ => closeDocument_heeds

theorem songWith_heeds (name : String) {x : Typeset L Unit} (hx : Heeds chords x) :
    Heeds chords (songWith name x) := by
  have hrest : Heeds chords (do
      modify fun s => { s with songs := s.songs + 1 }
      note (.typesetting name)
      modify fun s => { s with file := name, line := 0 }
      x : Typeset L Unit) :=
    .bind (aside_heeds (fun _ => by cases chords <;> rfl) fun _ => rfl) fun _ =>
      .bind (.note _) fun _ =>
        .bind (aside_heeds (fun _ => by cases chords <;> rfl) fun _ => rfl) fun _ => hx
  exact .bind begin_heeds fun _ => .read (fun _ => rfl) fun _ =>
    .ite (.bind newSong_heeds fun _ => hrest) hrest

omit [Length L] in
theorem override_heeds {α : Type} (value : Option α) (f : α → StyleSheet → StyleSheet) :
    Heeds chords (override value f : Typeset L Unit) := by
  cases value with
  | none => exact .pure _
  | some a => exact modifyStyles_heeds _

theorem applyOverrides_heeds (o : Overrides) :
    Heeds chords (applyOverrides o : Typeset L Unit) := by
  unfold applyOverrides
  extract_lets rest
  have hrest : Heeds chords (rest ()) := by
    refine .read (fun _ => rfl) fun _ => .bind (override_heeds _ _) fun _ =>
      .bind (override_heeds _ _) fun _ => .bind (override_heeds _ _) fun _ =>
        .bind (override_heeds _ _) fun _ => ?_
    cases o.extensions with
    | none => exact .pure _
    | some on => exact modifyModes_heeds _
  cases o.paper with
  | none => exact hrest
  | some name =>
    dsimp only
    cases (PageGeometry.paper? name : Option (PageGeometry L)) with
    | none => exact .bind (.throw _) fun _ => hrest
    | some g => exact .bind (setGeometry_heeds g) fun _ => hrest

end Typeset

end Songbook
