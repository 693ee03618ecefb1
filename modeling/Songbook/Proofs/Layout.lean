import Songbook.Proofs.Paging

/-!
# What laying out is made of

Lines, titles, diagrams and pages are laid out by a few kinds of steps: the session is looked at, a
drawing is handed to the device, something changes that is not told of, or something is noted or
reported (`LaysOut`). Inside a page only what stands in its body is drawn, and pages are turned as a
whole. So what holds of these steps holds of all that directives do (`apply_laysOut`); but for new
songs, headings and other paper they stay inside pages.
-/

namespace Songbook

variable {L : Type}

/-- Stands in the body of a page: its strokes are upright, unlike the rules over page numbers. -/
def Drawing.InBody : Drawing L → Prop
  | .moveTo _ | .text .. | .chords .. | .diagram .. => True
  | .stroke points _ => ∃ h top bottom, points = [⟨h, top⟩, ⟨h, bottom⟩]
  | _ => False

/-- The counts of sheets and pages that numbers are taken from. -/
structure Counts where
  pagination : Pagination
  slot : Nat
  sheets : Nat
  sheetLabel : Int
  pageLabel : Int

def Cursor.counts (c : Cursor L) : Counts :=
  ⟨c.pagination, c.slot, c.sheets, c.sheetLabel, c.pageLabel⟩

/-- What stays as it is inside a page. -/
structure Frame (L : Type) where
  settings : Settings L
  startup : Bool
  started : Bool
  geometry : PageGeometry L
  counts : Counts
  index : List IndexEntry

def Session.frame (s : Session L) : Frame L :=
  ⟨s.settings, s.startup, s.started, s.document.geometry, s.document.cursor.counts,
    s.document.index⟩

/-- Begins no song, prints no heading and keeps the paper. -/
def Directive.isInner : Directive L → Bool
  | .newSong | .title _ | .subtitle _ | .paperType _ | .formSpec _ => false
  | _ => true

namespace Typeset

variable [Length L]

/-- An action of laying out. It may have to stay inside pages, and to report no problems. -/
inductive LaysOut (inside quiet : Bool) : {α : Type} → Typeset L α → Prop
  | pure {α : Type} (a : α) : LaysOut inside quiet (Pure.pure a : Typeset L α)
  | get : LaysOut inside quiet (get : Typeset L (Session L))
  | bind {α β : Type} {x : Typeset L α} {f : α → Typeset L β} (hx : LaysOut inside quiet x)
      (hf : ∀ a, LaysOut inside quiet (f a)) : LaysOut inside quiet (x >>= f)
  | draw {d : Drawing L} (hd : inside = true → d.InBody) : LaysOut inside quiet (draw d)
  | note {e : LogEntry L} (he : e.problem? = none) : LaysOut inside quiet (note e)
  | report (hquiet : quiet = false) (p : Problem) :
      LaysOut inside quiet (report p : Typeset L Unit)
  | change {f : Session L → Session L} (hdevice : ∀ s, (f s).device = s.device)
      (hlog : ∀ s, (f s).log = s.log) (hframe : inside = true → ∀ s, (f s).frame = s.frame) :
      LaysOut inside quiet (modify f : Typeset L Unit)
  | turn (hinside : inside = true) (sheetToo : Bool) : LaysOut inside quiet (turnPage sheetToo)

variable {α β : Type} {inside quiet : Bool} {x y : Typeset L α}

namespace LaysOut

theorem read {f : Session L → Typeset L β} (h : ∀ s, LaysOut inside quiet (f s)) :
    LaysOut inside quiet (MonadState.get >>= f) := .bind .get h

theorem ite {c : Prop} [Decidable c] (hx : LaysOut inside quiet x) (hy : LaysOut inside quiet y) :
    LaysOut inside quiet (if c then x else y) := by
  split
  · exact hx
  · exact hy

/-- What is done only under a condition, and what follows it. -/
theorem optional {c : Prop} [Decidable c] {x : Typeset L PUnit} {k : PUnit → Typeset L α}
    (hx : LaysOut inside quiet x) (hk : LaysOut inside quiet (k ())) :
    LaysOut inside quiet (if c then x >>= k else k ()) :=
  .ite (.bind hx fun _ => hk) hk

theorem perhaps {g : β → Typeset L PUnit} (o : Option β) (h : ∀ b, LaysOut inside quiet (g b)) :
    LaysOut inside quiet (o.forM g) := by
  cases o with
  | none => exact .pure _
  | some b => exact h b

theorem forM {g : β → Typeset L PUnit} (l : List β) (h : ∀ b, LaysOut inside quiet (g b)) :
    LaysOut inside quiet (l.forM g) := by
  induction l with
  | nil => exact .pure _
  | cons b l ih => exact .bind (h b) fun _ => ih

theorem foldlM {g : α → β → Typeset L α} (l : List β) (h : ∀ a b, LaysOut inside quiet (g a b))
    (a : α) : LaysOut inside quiet (l.foldlM g a) := by
  induction l generalizing a with
  | nil => exact .pure _
  | cons b l ih =>
    rw [List.foldlM_cons]
    exact .bind (h a b) fun a => ih a

end LaysOut

/-- Changes that no number of a page depends on. -/
theorem aside_laysOut {f : Session L → Session L} (hdevice : ∀ s, (f s).device = s.device)
    (hlog : ∀ s, (f s).log = s.log) (hframe : ∀ s, (f s).frame = s.frame) :
    LaysOut inside quiet (modify f : Typeset L Unit) :=
  .change hdevice hlog fun _ => hframe

theorem modifyModes_laysOut (f : Modes → Modes) :
    LaysOut inside quiet (modifyModes f : Typeset L Unit) :=
  aside_laysOut (fun _ => rfl) (fun _ => rfl) fun _ => rfl

theorem modifyStyles_laysOut (f : StyleSheet → StyleSheet) :
    LaysOut inside quiet (modifyStyles f : Typeset L Unit) :=
  aside_laysOut (fun _ => rfl) (fun _ => rfl) fun _ => rfl

/-- The cursor goes somewhere else on its page. -/
theorem climb_laysOut {f : Cursor L → Cursor L} (h : ∀ c, (f c).counts = c.counts) :
    LaysOut inside quiet (modifyCursor f) := by
  refine aside_laysOut (fun _ => rfl) (fun _ => rfl) fun s => ?_
  show Frame.mk _ _ _ _ (f s.document.cursor).counts _ = _
  rw [h]
  rfl

/-- Between pages the cursor may go anywhere. -/
theorem modifyCursor_laysOut (f : Cursor L → Cursor L) : LaysOut false quiet (modifyCursor f) :=
  .change (fun _ => rfl) (fun _ => rfl) nofun

theorem moveTo_laysOut (h v : L) : LaysOut inside quiet (moveTo h v) := .draw fun _ => trivial

/-! ## The ends of pages -/

theorem chorusBar_laysOut (top : L) : LaysOut inside quiet (chorusBar top) :=
  .read fun _ => .draw fun _ => ⟨_, _, _, rfl⟩

theorem pageNumber_laysOut (n : Int) : LaysOut false quiet (pageNumber n : Typeset L Unit) :=
  .read fun _ => .bind (.draw nofun) fun _ => .bind (moveTo_laysOut _ _) fun _ => .draw nofun

theorem numbered_laysOut (number : Option Int) :
    LaysOut false quiet (numbered number : Typeset L Unit) := by
  cases number with
  | none => exact .pure _
  | some n => exact pageNumber_laysOut n

theorem shift_laysOut (g : PageGeometry L) (pagination : Pagination) (slot : Nat) :
    LaysOut false quiet (match g.shift? pagination slot with
      | some (h, v) => do
        draw (.transform (.translate h v))
        modifyCursor (·.toPageTop g)
      | none => modifyCursor (·.toPageTop g) : Typeset L Unit) := by
  split
  · exact .bind (.draw nofun) fun _ => modifyCursor_laysOut _
  · exact modifyCursor_laysOut _

theorem startPage_laysOut : LaysOut false quiet (startPage : Typeset L Unit) := by
  refine .bind (modifyCursor_laysOut _) fun _ => .read fun s => .ite ?_ (shift_laysOut _ _ _)
  exact .bind (.note rfl) fun _ => .bind (.draw nofun) fun _ =>
    .optional (.draw nofun) (shift_laysOut _ _ _)

theorem endSheet_laysOut : LaysOut false quiet (endSheet : Typeset L Unit) := by
  refine .read fun s => .ite (.pure _) ?_
  exact .optional (.draw nofun) <| .optional (numbered_laysOut _) <|
    .bind (.draw nofun) fun _ => modifyCursor_laysOut _

theorem runningTitle_laysOut : LaysOut inside quiet (runningTitle : Typeset L Unit) := by
  refine .read fun s => ?_
  cases s.document.modes.title with
  | none => exact .pure _
  | some title =>
    exact .ite (.bind (moveTo_laysOut _ _) fun _ => .draw fun _ => trivial) (.pure _)

theorem endPage_laysOut (sheetToo : Bool) :
    LaysOut false quiet (endPage sheetToo : Typeset L Unit) := by
  have hclose : ∀ (c : Prop) [Decidable c] (g : PageGeometry L), LaysOut false quiet (do
      if c then endSheet
      modifyCursor (·.leavePage g) : Typeset L Unit) := fun c _ g =>
    .optional endSheet_laysOut (modifyCursor_laysOut _)
  refine .read fun s => .ite (.pure _) <| .bind runningTitle_laysOut fun _ =>
    .optional (numbered_laysOut _) ?_
  dsimp only
  split
  · exact .bind (chorusBar_laysOut _) fun _ => hclose _ _
  · exact hclose _ _

theorem turnPage_laysOut (sheetToo : Bool) :
    LaysOut inside quiet (turnPage sheetToo : Typeset L Unit) := by
  cases inside with
  | true => exact .turn rfl sheetToo
  | false => exact .bind (endPage_laysOut sheetToo) fun _ => startPage_laysOut

/-- What stays inside pages is laid out like the rest. -/
theorem LaysOut.outside (h : LaysOut inside quiet x) : LaysOut false quiet x := by
  induction h with
  | pure a => exact .pure a
  | get => exact .get
  | bind _ _ ihx ihf => exact .bind ihx ihf
  | draw _ => exact .draw nofun
  | note he => exact .note he
  | report hquiet p => exact .report hquiet p
  | change hdevice hlog _ => exact .change hdevice hlog nofun
  | turn _ sheetToo => exact turnPage_laysOut sheetToo

/-! ## Columns -/

theorem breakColumn_laysOut : LaysOut inside quiet (breakColumn : Typeset L Unit) :=
  .read fun _ => .ite (turnPage_laysOut false) <|
    .bind (climb_laysOut fun _ => rfl) fun _ => .note rfl

theorem advance_laysOut (amount : L) : LaysOut inside quiet (advance amount) :=
  .bind (climb_laysOut fun _ => rfl) fun _ => .read fun _ => .ite breakColumn_laysOut (.pure _)

theorem payBlankSpace_laysOut : LaysOut inside quiet (payBlankSpace : Typeset L Unit) :=
  .read fun _ => .bind (climb_laysOut fun _ => rfl) fun _ => .ite (advance_laysOut _) (.pure _)

theorem setColumns_laysOut (count : Nat) :
    LaysOut inside quiet (setColumns count : Typeset L Unit) :=
  aside_laysOut (fun _ => rfl) (fun _ => rfl) fun _ => rfl

theorem conditionalBreak_laysOut (lines : Nat) :
    LaysOut inside quiet (conditionalBreak lines : Typeset L Unit) :=
  .read fun _ => .bind (.note rfl) fun _ => .ite breakColumn_laysOut (.pure _)

/-! ## Lines and titles -/

theorem openChorus_laysOut (rowSize : L) : LaysOut inside quiet (openChorus rowSize) := by
  refine climb_laysOut fun c => ?_
  unfold Cursor.openChorus
  split <;> rfl

theorem moveToLine_laysOut : LaysOut inside quiet (moveToLine : Typeset L Unit) :=
  .read fun _ => moveTo_laysOut _ _

theorem chordRow_laysOut (line : Line) (textFont chordFont : Font) :
    LaysOut inside quiet (chordRow line textFont chordFont : Typeset L Unit) := by
  have hchords : LaysOut inside quiet (do
      openChorus (size chordFont)
      if !(← get).settings.lyricsOnly && line.hasChords then
        moveToLine
        draw (.chords line textFont chordFont) : Typeset L Unit) :=
    .bind (openChorus_laysOut _) fun _ => .read fun _ =>
      .ite (.bind moveToLine_laysOut fun _ => .draw fun _ => trivial) (.pure _)
  exact .bind payBlankSpace_laysOut fun _ => .bind (advance_laysOut _) fun _ =>
    .read fun _ => .ite (.bind (advance_laysOut _) fun _ => hchords) hchords

theorem lyricsRow_laysOut (line : Line) (slot : FontSlot) (font : Font) :
    LaysOut inside quiet (lyricsRow line slot font : Typeset L Unit) :=
  .ite (climb_laysOut fun _ => rfl) <| .bind payBlankSpace_laysOut fun _ =>
    .bind (advance_laysOut _) fun _ => .bind (openChorus_laysOut _) fun _ =>
      .bind moveToLine_laysOut fun _ => .draw fun _ => trivial

theorem setLine_laysOut (line : Line) : LaysOut inside quiet (setLine line : Typeset L Unit) :=
  .read fun _ => .ite
    (.bind (chordRow_laysOut line _ _) fun _ => lyricsRow_laysOut line _ _)
    (lyricsRow_laysOut line _ _)

/-- A comment that is not empty. -/
theorem comment_laysOut (style : CommentStyle) {text : String} (h : text.isEmpty = false) :
    LaysOut inside quiet (comment style text : Typeset L Unit) := by
  unfold comment
  rw [h]
  exact .bind payBlankSpace_laysOut fun _ => .read fun _ => .bind (advance_laysOut _) fun _ =>
    .read fun _ => .bind (moveTo_laysOut _ _) fun _ => .draw fun _ => trivial

theorem centred_laysOut (text : String) (font : Font) :
    LaysOut inside quiet (centred text font : Typeset L Unit) :=
  .read fun _ => .bind (moveTo_laysOut _ _) fun _ => .bind (.draw fun _ => trivial) fun _ =>
    climb_laysOut fun _ => rfl

theorem title_laysOut (text : String) : LaysOut inside quiet (title text : Typeset L Unit) :=
  .read fun _ => .bind (centred_laysOut _ _) fun _ => modifyModes_laysOut _

theorem subtitle_laysOut (text : String) : LaysOut inside quiet (subtitle text : Typeset L Unit) :=
  .read fun _ => centred_laysOut _ _

/-! ## Diagrams -/

theorem ensureRoom_laysOut (height : L) : LaysOut inside quiet (ensureRoom height) :=
  .read fun _ => .ite (turnPage_laysOut false) (.pure _)

theorem layOutDiagram_laysOut (font : Font) (gridSize h : L) (chord : ChordDefinition) :
    LaysOut inside quiet (layOutDiagram font gridSize h chord) := by
  have hrest : ∀ h : L, LaysOut inside quiet (do
      moveTo h (← document).cursor.vertical
      draw (.diagram chord chord.label? font gridSize)
      return h + cellWidth gridSize) := fun h =>
    .read fun _ => .bind (moveTo_laysOut _ _) fun _ => .bind (.draw fun _ => trivial) fun _ =>
      .pure _
  exact .read fun _ => .ite
    (.bind (climb_laysOut fun _ => rfl) fun _ => .bind (ensureRoom_laysOut _) fun _ =>
      .bind (.pure _) hrest)
    (.bind (.pure _) hrest)

theorem layOutDiagrams_laysOut (chords : List ChordDefinition) :
    LaysOut inside quiet (layOutDiagrams chords : Typeset L Unit) :=
  .ite (.pure _) <| .read fun _ => .read fun _ => .bind payBlankSpace_laysOut fun _ =>
    .read fun _ => .bind (ensureRoom_laysOut _) fun _ =>
      .bind (.foldlM _ (fun _ _ => layOutDiagram_laysOut _ _ _ _) _) fun _ =>
        climb_laysOut fun _ => rfl

theorem songDiagrams_laysOut : LaysOut inside quiet (songDiagrams : Typeset L Unit) :=
  .read fun _ => layOutDiagrams_laysOut _

theorem belowColumns_laysOut : LaysOut inside quiet (modifyCursor (L := L) Cursor.belowColumns) :=
  climb_laysOut fun _ => rfl

/-! ## The next song -/

theorem endSong_laysOut : LaysOut false quiet (endSong : Typeset L Unit) :=
  .read fun _ => .optional (.bind belowColumns_laysOut fun _ => songDiagrams_laysOut)
    (endPage_laysOut false)

theorem newSong_laysOut : LaysOut false quiet (newSong : Typeset L Unit) :=
  .bind endSong_laysOut fun _ => .read fun _ =>
    .bind (.change (fun _ => rfl) (fun _ => rfl) nofun) fun _ => .bind startPage_laysOut fun _ =>
      .change (fun _ => rfl) (fun _ => rfl) nofun

theorem indexTitled_laysOut (text : String) :
    LaysOut false quiet (indexTitled text : Typeset L Unit) :=
  .read fun _ => .ite (.change (fun _ => rfl) (fun _ => rfl) nofun) (.pure _)

theorem indexSubtitled_laysOut (text : String) :
    LaysOut false quiet (indexSubtitled text : Typeset L Unit) :=
  .read fun _ => .ite (.change (fun _ => rfl) (fun _ => rfl) nofun) (.pure _)

theorem changePaper_laysOut (g : PageGeometry L) : LaysOut false quiet (changePaper g) :=
  .bind (.note rfl) fun _ => .change (fun _ => rfl) (fun _ => rfl) nofun

/-! ## Directives -/

theorem comment_laysOut_told (style : CommentStyle) (text : String) :
    LaysOut inside false (comment style text : Typeset L Unit) := by
  cases h : text.isEmpty with
  | true =>
    unfold comment
    rw [h]
    exact .report rfl _
  | false => exact comment_laysOut style h

theorem endOfChorus_laysOut : LaysOut inside false (endOfChorus : Typeset L Unit) := by
  unfold endOfChorus
  rw [document_bind]
  refine .read fun s => ?_
  split
  · exact .report rfl _
  · exact climb_laysOut fun _ => rfl
  · exact .bind (chorusBar_laysOut _) fun _ => climb_laysOut fun _ => rfl

theorem resize_laysOut (k : Keyword) (slot : FontSlot) (size : SizeArgument) :
    LaysOut inside false (resize k slot size : Typeset L Unit) := by
  refine .read fun s => ?_
  cases size with
  | absolute points => exact modifyStyles_laysOut _
  | relative delta =>
    refine .ite (.report rfl _) ?_
    split
    · exact modifyStyles_laysOut _
    · exact .report rfl _

theorem define_laysOut (args : String) (order : FretOrder) :
    LaysOut inside false (define args order : Typeset L Unit) := by
  refine .read fun s => ?_
  split
  · exact .report rfl _
  · have henter : ∀ book, LaysOut inside false
        (modifyDocument fun d => { d with chords := book } : Typeset L Unit) := fun _ =>
      aside_laysOut (fun _ => rfl) (fun _ => rfl) fun _ => rfl
    refine .read fun s => .bind (henter _) fun _ => ?_
    split
    · exact .note rfl
    · exact .perhaps _ fun p => .report rfl p

theorem twoColumn_laysOut (on : Bool) : LaysOut inside false (twoColumn on : Typeset L Unit) := by
  unfold twoColumn
  rw [document_bind]
  refine .read fun s => ?_
  split
  · exact .report rfl _
  · exact .report rfl _
  · exact setColumns_laysOut 2
  · exact setColumns_laysOut 1

theorem paperType_laysOut (name : String) :
    LaysOut false false (match PageGeometry.paper? name with
      | some g => changePaper g
      | none => report (.unknownPaperType name) : Typeset L Unit) := by
  split
  · exact changePaper_laysOut _
  · exact .report rfl _

theorem formSpec_laysOut (spec : FormSpec L) :
    LaysOut false false (match PageGeometry.ofForm spec with
      | .ok g => do
        note (.form spec)
        changePaper g
      | .error p => report p : Typeset L Unit) := by
  split
  · exact .bind (.note rfl) fun _ => changePaper_laysOut _
  · exact .report rfl _

theorem apply_laysOut (k : Keyword) (d : Directive L) (h : inside = true → d.isInner) :
    LaysOut inside false (apply k d) := by
  have houter : d.isInner = false → inside = false := fun hd => by
    cases inside with
    | true => exact absurd (h rfl) (by simp [hd])
    | false => rfl
  refine .read fun s => ?_
  cases d with
  | startOfChorus => exact climb_laysOut fun _ => rfl
  | endOfChorus => exact endOfChorus_laysOut
  | font slot family => exact modifyStyles_laysOut _
  | size slot size => exact resize_laysOut k slot size
  | comment style text => exact comment_laysOut_told style text
  | newSong =>
    obtain rfl := houter rfl
    exact newSong_laysOut
  | title text =>
    obtain rfl := houter rfl
    exact .bind (title_laysOut text) fun _ => indexTitled_laysOut text
  | subtitle text =>
    obtain rfl := houter rfl
    exact .bind (subtitle_laysOut text) fun _ => indexSubtitled_laysOut text
  | define args => exact define_laysOut args _
  | chord args => exact define_laysOut args _
  | grid on => exact modifyModes_laysOut _
  | newPage => exact turnPage_laysOut false
  | newPhysicalPage => exact turnPage_laysOut true
  | startOfTab => exact .read fun _ => .ite (.report rfl _) (modifyModes_laysOut _)
  | endOfTab => exact .read fun _ => .ite (modifyModes_laysOut _) (.report rfl _)
  | columnBreak => exact breakColumn_laysOut
  | columns count => exact setColumns_laysOut count
  | twoColumn on => exact twoColumn_laysOut on
  | oldDefine => exact modifyModes_laysOut _
  | newDefine => exact modifyModes_laysOut _
  | startOfBlock label =>
    exact .read fun _ => .ite (.report rfl _) <|
      .bind (comment_laysOut_told _ _) fun _ => modifyModes_laysOut _
  | endOfBlock => exact .read fun _ => .ite (modifyModes_laysOut _) (.report rfl _)
  | bridge keyword => exact .report rfl _
  | indent keyword => exact .report rfl _
  | autoSpace on => exact .read fun _ => modifyModes_laysOut _
  | paperType name =>
    obtain rfl := houter rfl
    exact paperType_laysOut name
  | formSpec spec =>
    obtain rfl := houter rfl
    exact formSpec_laysOut spec
  | conditionalBreak lines => exact conditionalBreak_laysOut lines
  | setIndent points => exact modifyModes_laysOut _
  | extensions on =>
    exact .read fun _ => .optional (.report rfl _) (modifyModes_laysOut _)
  | version version => exact .bind (.note rfl) fun _ => modifyModes_laysOut _

theorem perform_laysOut (k : Keyword) (args : String) :
    LaysOut false false (perform k args : Typeset L Unit) := by
  refine .read fun s => ?_
  split
  · exact .report rfl _
  · split
    · exact apply_laysOut k _ nofun
    · exact .report rfl _

/-- A directive's text is interpreted unless it is broken at its keyword. -/
theorem dispatch_laysOut {text : String} (h : Keyword.splitText? text ≠ none) :
    LaysOut false false (dispatch text : Typeset L Unit) := by
  unfold dispatch
  split
  · rename_i hnone
    exact absurd hnone h
  · split
    · exact .report rfl _
    · rename_i args _ _ k _
      refine .read fun s => .ite ?_ (perform_laysOut k args)
      dsimp only
      split
      · exact .bind (.report rfl _) fun _ => perform_laysOut k args
      · exact perform_laysOut k args

end Typeset

end Songbook
