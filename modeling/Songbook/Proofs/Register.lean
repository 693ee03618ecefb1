import Songbook.Proofs.Configuring
import Songbook.Proofs.IndexPages

/-!
# The register of a session

Beside its pages a session has a register: the fonts, the chords, the index, the page that the song
began on and the diagrams drawn so far. Printing keeps it, and each directive enters in it what it
says (`apply_registers`, `dispatch_registers`). The diagrams of a song are drawn one by one, whatever
rows and pages they go to (`layOutDiagrams_registers`).
-/

namespace Songbook

variable {L : Type}

/-- The chord of a diagram. -/
def Drawing.diagram? : Drawing L → Option ChordDefinition
  | .diagram chord .. => some chord
  | _ => none

/-- What a session keeps beside its pages. -/
structure Register (L : Type) where
  settings : Settings L
  startup : Bool
  geometry : PageGeometry L
  styles : StyleSheet
  chords : ChordBook
  index : List IndexEntry
  /-- The page that the song began on. -/
  opened : Int
  /-- The chords of the diagrams drawn. -/
  diagrams : List ChordDefinition

namespace Session

/-- The chords of the diagrams drawn so far. -/
def diagrams (s : Session L) : List ChordDefinition :=
  s.device.received.toList.filterMap Drawing.diagram?

/-- The page that the song began on: so many pages before the present one as the song has pages
before its own. -/
def opened (s : Session L) : Int :=
  s.document.cursor.pages + 1 - s.document.cursor.songPages

def register (s : Session L) : Register L where
  settings := s.settings
  startup := s.startup
  geometry := s.document.geometry
  styles := s.document.styles
  chords := s.document.chords
  index := s.document.index
  opened := s.opened
  diagrams := s.diagrams

theorem diagrams_moved (s : Session L) (c : Cursor L) (ds : List (Drawing L))
    (log : Array (LogEntry L)) :
    (s.moved c ds log).diagrams = s.diagrams ++ ds.filterMap Drawing.diagram? := by
  rw [diagrams, moved_received, List.filterMap_append, diagrams]

/-- Drawings without diagrams and a cursor in the same song leave the register as it is. -/
theorem register_moved {s : Session L} {c : Cursor L} {ds : List (Drawing L)}
    {log : Array (LogEntry L)}
    (hc : (c.pages : Int) - c.songPages = s.document.cursor.pages - s.document.cursor.songPages)
    (hds : ds.filterMap Drawing.diagram? = []) : (s.moved c ds log).register = s.register := by
  have hopened : (s.moved c ds log).opened = s.opened := by
    show (c.pages : Int) + 1 - c.songPages = _
    unfold opened
    omega
  unfold register
  rw [hopened, diagrams_moved, hds, List.append_nil]
  rfl

end Session

namespace Typeset

open Session

/-- On a device that refuses nothing, `x` ends with the register that it began with. -/
abbrev KeepsRegister {α : Type} (x : Typeset L α) : Prop :=
  Keeps (fun (r : Register L) s => s.device.limit = none ∧ s.register = r) (fun _ => False) x

/-- On a device that refuses nothing, `x` enters in the register of `s` what makes it `r`. -/
def Registers {α : Type} (s : Session L) (x : Typeset L α) (r : Session L → Register L) : Prop :=
  Ends x s (fun _ => False) fun _ t => t.device.limit = none ∧ t.register = r t

theorem KeepsRegister.registers {α : Type} {x : Typeset L α} {s : Session L} (h : KeepsRegister x)
    (hs : s.device.limit = none) : Registers s x fun _ => s.register :=
  h s.register s ⟨hs, rfl⟩

theorem Registers.bind {α β : Type} {x : Typeset L α} {f : α → Typeset L β} {s : Session L}
    {r : Register L} (hx : Registers s x fun _ => r) (hf : ∀ a, KeepsRegister (f a)) :
    Registers s (x >>= f) fun _ => r :=
  Ends.bind hx fun a t ht => hf a r t ht

section

variable {α : Type}

theorem change_keepsRegister {f : Session L → Session L}
    (hlimit : ∀ s, (f s).device.limit = s.device.limit)
    (hregister : ∀ s, (f s).register = s.register) :
    KeepsRegister (modify f : Typeset L Unit) := fun _ s hs =>
  ⟨(hlimit s).trans hs.1, (hregister s).trans hs.2⟩

theorem note_keepsRegister (e : LogEntry L) : KeepsRegister (note e) :=
  change_keepsRegister (fun _ => rfl) fun _ => rfl

theorem report_keepsRegister (p : Problem) : KeepsRegister (report p : Typeset L Unit) :=
  change_keepsRegister (fun _ => rfl) fun _ => rfl

theorem modifyModes_keepsRegister (f : Modes → Modes) :
    KeepsRegister (modifyModes f : Typeset L Unit) :=
  change_keepsRegister (fun _ => rfl) fun _ => rfl

/-- The cursor goes somewhere else on its page. -/
theorem modifyCursor_keepsRegister {f : Cursor L → Cursor L}
    (hpages : ∀ c, (f c).pages = c.pages) (hsongPages : ∀ c, (f c).songPages = c.songPages) :
    KeepsRegister (modifyCursor f) := by
  rintro r s ⟨hs, rfl⟩
  refine .of_ok (modifyCursor_eq f s) ⟨hs, register_moved ?_ rfl⟩
  rw [hpages, hsongPages]

theorem draw_keepsRegister {d : Drawing L} (hd : d.diagram? = none) : KeepsRegister (draw d) := by
  rintro r s ⟨hs, rfl⟩
  exact .of_ok (draw_eq hs d) ⟨hs, register_moved rfl (by simp [hd])⟩

theorem moveTo_keepsRegister (h v : L) : KeepsRegister (moveTo h v) := draw_keepsRegister rfl

end

variable [Length L]

/-! ## Pages -/

theorem chorusBar_keepsRegister (top : L) : KeepsRegister (chorusBar top) :=
  .read fun _ _ _ => draw_keepsRegister rfl

theorem pageNumber_keepsRegister (n : Int) : KeepsRegister (pageNumber n : Typeset L Unit) := by
  refine .read fun _ s _ => ?_
  have hplaced : ∀ (a : L) (align : Align), KeepsRegister (do
      moveTo a (s.document.geometry.bottom / 3)
      draw (.text ("Page " ++ toString n) .text (footerFont s.document) align .plain)) :=
    fun a align => .bind (moveTo_keepsRegister _ _) fun _ => draw_keepsRegister rfl
  exact .bind (draw_keepsRegister rfl) fun _ => hplaced _ _

theorem numbered_keepsRegister (n : Option Int) :
    KeepsRegister (numbered n : Typeset L Unit) := by
  cases n with
  | none => exact .pure _
  | some n => exact pageNumber_keepsRegister n

theorem runningTitle_keepsRegister : KeepsRegister (runningTitle : Typeset L Unit) := by
  unfold runningTitle
  rw [document_bind]
  refine .read fun _ _ _ => ?_
  split
  · exact .ite (.bind (moveTo_keepsRegister _ _) fun _ => draw_keepsRegister rfl) (.pure _)
  · exact .pure _

theorem endSheet_keepsRegister : KeepsRegister (endSheet : Typeset L Unit) :=
  .read fun _ _ _ => .ite (.pure _) <| .guarded (draw_keepsRegister rfl) <|
    .guarded (numbered_keepsRegister _) <| .bind (draw_keepsRegister rfl) fun _ =>
      modifyCursor_keepsRegister (fun _ => rfl) fun _ => rfl

theorem endPage_keepsRegister (sheetToo : Bool) :
    KeepsRegister (endPage sheetToo : Typeset L Unit) := by
  have hleave : ∀ (c : Prop) [Decidable c] (g : PageGeometry L), KeepsRegister (do
      if c then endSheet
      modifyCursor (·.leavePage g) : Typeset L Unit) := fun c _ g =>
    .guarded endSheet_keepsRegister (modifyCursor_keepsRegister (fun _ => rfl) fun _ => rfl)
  refine .read fun _ s _ => .ite (.pure _) <| .bind runningTitle_keepsRegister fun _ =>
    .guarded (numbered_keepsRegister _) ?_
  dsimp only
  split
  · exact .bind (chorusBar_keepsRegister _) fun _ => hleave _ _
  · exact hleave _ _

omit [Length L] in
theorem countPage_songPages (c : Cursor L) : c.countPage.songPages = c.songPages := by
  unfold Cursor.countPage
  dsimp only
  split <;> rfl

omit [Length L] in
theorem begun_songPages (c : Cursor L) (g : PageGeometry L) :
    (c.begun g).songPages = c.songPages + 1 := congrArg (· + 1) (countPage_songPages c)

/-- A page more is begun in all, and one more in the song. -/
theorem startPage_keepsRegister : KeepsRegister (startPage : Typeset L Unit) := by
  rintro r s ⟨hs, rfl⟩
  refine (startPage_ends hs).mono ?_
  rintro _ _ ⟨log, rfl⟩
  refine ⟨hs, register_moved ?_ ?_⟩
  · have hpages : (s.document.cursor.begun s.document.geometry).pages =
        s.document.cursor.pages + 1 := Cursor.countPage_pages _
    have hsongPages := begun_songPages s.document.cursor s.document.geometry
    omega
  · unfold Drawing.sheetOpening Drawing.pageOpening
    split <;> split <;> (try split) <;> rfl

theorem turnPage_keepsRegister (sheetToo : Bool) :
    KeepsRegister (turnPage sheetToo : Typeset L Unit) :=
  .bind (endPage_keepsRegister sheetToo) fun _ => startPage_keepsRegister

theorem breakColumn_keepsRegister : KeepsRegister (breakColumn : Typeset L Unit) :=
  .read fun _ _ _ => .ite (turnPage_keepsRegister false) <|
    .bind (modifyCursor_keepsRegister (fun _ => rfl) fun _ => rfl) fun _ => note_keepsRegister _

theorem down_keepsRegister (amount : L) : KeepsRegister (modifyCursor (·.down amount)) :=
  modifyCursor_keepsRegister (fun _ => rfl) fun _ => rfl

theorem advance_keepsRegister (amount : L) : KeepsRegister (advance amount) :=
  .bind (down_keepsRegister amount) fun _ => .read fun _ _ _ =>
    .ite breakColumn_keepsRegister (.pure _)

theorem payBlankSpace_keepsRegister : KeepsRegister (payBlankSpace : Typeset L Unit) :=
  .read fun _ _ _ => .bind (modifyCursor_keepsRegister (fun _ => rfl) fun _ => rfl) fun _ =>
    .ite (advance_keepsRegister _) (.pure _)

/-! ## Lines, comments and titles -/

theorem openChorus_keepsRegister (rowSize : L) : KeepsRegister (openChorus rowSize) := by
  refine modifyCursor_keepsRegister (fun c => ?_) fun c => ?_ <;>
    · unfold Cursor.openChorus
      split <;> rfl

theorem moveToLine_keepsRegister : KeepsRegister (moveToLine : Typeset L Unit) :=
  .read fun _ _ _ => moveTo_keepsRegister _ _

theorem chordRow_keepsRegister (line : Line) (textFont chordFont : Font) :
    KeepsRegister (chordRow line textFont chordFont : Typeset L Unit) := by
  have hchords : KeepsRegister (do
      openChorus (size chordFont)
      if !(← get).settings.lyricsOnly && line.hasChords then
        moveToLine
        draw (.chords line textFont chordFont) : Typeset L Unit) :=
    .bind (openChorus_keepsRegister _) fun _ => .read fun _ _ _ =>
      .ite (.bind moveToLine_keepsRegister fun _ => draw_keepsRegister rfl) (.pure _)
  exact .bind payBlankSpace_keepsRegister fun _ => .bind (advance_keepsRegister _) fun _ =>
    .read fun _ _ _ => .ite (.bind (advance_keepsRegister _) fun _ => hchords) hchords

theorem lyricsRow_keepsRegister (line : Line) (slot : FontSlot) (font : Font) :
    KeepsRegister (lyricsRow line slot font : Typeset L Unit) :=
  .ite (modifyCursor_keepsRegister (fun _ => rfl) fun _ => rfl) <|
    .bind payBlankSpace_keepsRegister fun _ => .bind (advance_keepsRegister _) fun _ =>
      .bind (openChorus_keepsRegister _) fun _ => .bind moveToLine_keepsRegister fun _ =>
        draw_keepsRegister rfl

theorem setLine_keepsRegister (line : Line) : KeepsRegister (setLine line : Typeset L Unit) :=
  .read fun _ _ _ => .ite
    (.bind (chordRow_keepsRegister line _ _) fun _ => lyricsRow_keepsRegister line _ _)
    (lyricsRow_keepsRegister line _ _)

theorem readLine_keepsRegister (line : Line) : KeepsRegister (readLine line : Typeset L Unit) :=
  .read fun _ _ _ => .ite (.ite (report_keepsRegister _) (.pure _))
    (.ite (setLine_keepsRegister line) (.pure _))

theorem comment_keepsRegister (style : CommentStyle) (text : String) :
    KeepsRegister (comment style text : Typeset L Unit) :=
  .ite (report_keepsRegister _) <| .bind payBlankSpace_keepsRegister fun _ =>
    .read fun _ _ _ => .bind (advance_keepsRegister _) fun _ => .read fun _ _ _ =>
      .bind (moveTo_keepsRegister _ _) fun _ => draw_keepsRegister rfl

theorem centred_keepsRegister (text : String) (font : Font) :
    KeepsRegister (centred text font : Typeset L Unit) :=
  .read fun _ _ _ => .bind (moveTo_keepsRegister _ _) fun _ =>
    .bind (draw_keepsRegister rfl) fun _ => down_keepsRegister _

theorem title_keepsRegister (text : String) : KeepsRegister (title text : Typeset L Unit) :=
  .read fun _ _ _ => .bind (centred_keepsRegister _ _) fun _ => modifyModes_keepsRegister _

/-! ## Diagrams -/

theorem ensureRoom_keepsRegister (height : L) : KeepsRegister (ensureRoom height) :=
  .read fun _ _ _ => .ite (turnPage_keepsRegister false) (.pure _)

/-- On a device that refuses nothing, `x` draws diagrams of these chords and enters nothing else in
the register. -/
def DrawsDiagrams {α : Type} (chords : List ChordDefinition) (x : Typeset L α) : Prop :=
  ∀ s : Session L, s.device.limit = none →
    Registers s x fun _ => { s.register with diagrams := s.diagrams ++ chords }

namespace DrawsDiagrams

variable {α β : Type} {chords : List ChordDefinition} {x : Typeset L α} {f : α → Typeset L β}

omit [Length L]

theorem of_keeps (h : KeepsRegister x) : DrawsDiagrams [] x := fun s hs => by
  rw [List.append_nil]
  exact h.registers hs

theorem bind {more : List ChordDefinition} (hx : DrawsDiagrams chords x)
    (hf : ∀ a, DrawsDiagrams more (f a)) : DrawsDiagrams (chords ++ more) (x >>= f) := by
  intro s hs
  refine Ends.bind (hx s hs) fun a t ⟨ht, hregister⟩ => ?_
  refine (hf a t ht).mono fun _ u hu => ⟨hu.1, ?_⟩
  have hdiagrams : t.diagrams = s.diagrams ++ chords := congrArg Register.diagrams hregister
  rw [hu.2, hregister, hdiagrams, List.append_assoc]

theorem after (hx : KeepsRegister x) (hf : ∀ a, DrawsDiagrams chords (f a)) :
    DrawsDiagrams chords (x >>= f) := (of_keeps hx).bind hf

theorem before (hx : DrawsDiagrams chords x) (hf : ∀ a, KeepsRegister (f a)) :
    DrawsDiagrams chords (x >>= f) := by
  have hall := hx.bind fun a => of_keeps (hf a)
  rwa [List.append_nil] at hall

theorem read {f : Session L → Typeset L β} (h : ∀ s, DrawsDiagrams chords (f s)) :
    DrawsDiagrams chords (get >>= f) := fun s hs => h s s hs

theorem ite {c : Prop} [Decidable c] {y : Typeset L α} (hx : DrawsDiagrams chords x)
    (hy : DrawsDiagrams chords y) : DrawsDiagrams chords (if c then x else y) := by
  split
  · exact hx
  · exact hy

end DrawsDiagrams

omit [Length L] in
theorem draw_drawsDiagrams (chord : ChordDefinition) (label : Option String) (font : Font)
    (size : L) : DrawsDiagrams [chord] (draw (.diagram chord label font size)) := by
  intro s hs
  refine .of_ok (draw_eq hs _) ⟨hs, ?_⟩
  have hdiagrams := s.diagrams_moved s.document.cursor [.diagram chord label font size] s.log
  exact congrArg (fun diagrams => { s.register with diagrams }) hdiagrams

/-- In this row or the next, on this page or the next, a diagram is drawn once. -/
theorem layOutDiagram_drawsDiagrams (font : Font) (gridSize h : L) (chord : ChordDefinition) :
    DrawsDiagrams [chord] (layOutDiagram font gridSize h chord) := by
  have hdraw : ∀ h : L, DrawsDiagrams [chord] (do
      moveTo h (← document).cursor.vertical
      draw (.diagram chord chord.label? font gridSize)
      return h + cellWidth gridSize) := fun h =>
    .read fun _ => .after (moveTo_keepsRegister _ _) fun _ =>
      .before (draw_drawsDiagrams _ _ _ _) fun _ => .pure _
  exact .read fun _ => .ite
    (.after (down_keepsRegister _) fun _ => .after (ensureRoom_keepsRegister _) fun _ =>
      .after (.pure _) hdraw)
    (.after (.pure _) hdraw)

theorem foldlM_drawsDiagrams (font : Font) (gridSize : L) (chords : List ChordDefinition) (h : L) :
    DrawsDiagrams chords (chords.foldlM (layOutDiagram font gridSize) h) := by
  induction chords generalizing h with
  | nil => exact .of_keeps (.pure _)
  | cons chord chords ih =>
    rw [List.foldlM_cons]
    exact (layOutDiagram_drawsDiagrams font gridSize h chord).bind ih

theorem layOutDiagrams_drawsDiagrams (chords : List ChordDefinition) :
    DrawsDiagrams chords (layOutDiagrams chords : Typeset L Unit) := by
  unfold layOutDiagrams
  split
  · rename_i hempty
    rw [List.isEmpty_iff.1 hempty]
    exact .of_keeps (.pure _)
  · exact .read fun _ => .read fun _ => .after payBlankSpace_keepsRegister fun _ =>
      .read fun _ => .after (ensureRoom_keepsRegister _) fun _ =>
        .before (foldlM_drawsDiagrams _ _ chords _) fun _ => down_keepsRegister _

end Typeset

namespace Session

variable [Length L]

/-- The chords that get diagrams if the song ends now. -/
def closingDiagrams (s : Session L) : List ChordDefinition :=
  if !s.settings.lyricsOnly && s.document.modes.grids.current then
    s.document.chords.usedDefinitions.filter (Typeset.wantsDiagram s.settings)
  else []

/-- The register of the next song, which begins on the page of that number. -/
def nextRegister (s : Session L) (page : Nat) : Register L :=
  { s.register with
    styles := s.document.styles.reset
    chords := s.document.chords.startSong s.settings.dropSongDefinitions
    opened := page
    diagrams := s.diagrams ++ s.closingDiagrams }

/-- The register on other paper, if there is any. -/
def papered (s : Session L) (paper? : Option (PageGeometry L)) : Register L :=
  paper?.elim s.register fun geometry => { s.register with geometry, opened := 1 }

omit [Length L] in
theorem papered_styles (s : Session L) (paper? : Option (PageGeometry L)) :
    (s.papered paper?).styles = s.document.styles := by
  cases paper? <;> rfl

omit [Length L] in
theorem papered_startup (s : Session L) (paper? : Option (PageGeometry L)) :
    (s.papered paper?).startup = s.startup := by
  cases paper? <;> rfl

/-- The chord book after a definition with these arguments. -/
def defined (s : Session L) (args : String) (order : FretOrder) : ChordBook :=
  match ChordDefinition.read args order (Typeset.definitionOrigin s) with
  | .error _ => s.document.chords
  | .ok definition => (s.document.chords.define definition).1

end Session

/-- The fonts with another size in a slot, if it is a size. -/
def StyleSheet.resized (styles : StyleSheet) (slot : FontSlot) (size : SizeArgument) (scope : Scope)
    (extensions : Bool) : StyleSheet :=
  match size with
  | .absolute points => styles.setSize slot points scope extensions
  | .relative delta =>
    if extensions then ((styles.adjustSize? slot delta scope extensions).map (·.1)).getD styles
    else styles

variable [Length L]

/-- The register after a directive, if the page is then of that number. -/
def Directive.registered (d : Directive L) (s : Session L) (page : Nat) : Register L :=
  match d with
  | .font slot family => { s.register with
      styles := s.document.styles.setFamily slot family s.scope s.document.modes.extensions }
  | .size slot change => { s.register with
      styles := s.document.styles.resized slot change s.scope s.document.modes.extensions }
  | .newSong => s.nextRegister page
  | .title text => { s.register with
      index := if Typeset.isIndexed s then
          s.document.index ++ [⟨text, [], Typeset.currentLabel s⟩]
        else s.document.index }
  | .subtitle text => { s.register with
      index := if Typeset.isIndexed s then Typeset.addSubtitle text s.document.index
        else s.document.index }
  | .define args => { s.register with chords := s.defined args s.document.modes.fretOrder }
  | .chord args => { s.register with chords := s.defined args .baseLast }
  | .paperType _ | .formSpec _ => s.papered d.paper?
  | _ => s.register

namespace Typeset

open Session

variable {s : Session L}

/-- A song ends with the diagrams of its chords. -/
theorem endSong_registers (hs : s.device.limit = none) :
    Registers s endSong fun _ => { s.register with diagrams := s.diagrams ++ s.closingDiagrams } := by
  unfold Session.closingDiagrams
  show Ends (if !s.settings.lyricsOnly && s.document.modes.grids.current then _ else _) s _ _
  split
  · let below := s.moved s.document.cursor.belowColumns [] s.log
    have hbelow : below.register = s.register := register_moved rfl rfl
    have hdiagrams : below.diagrams = s.diagrams := congrArg Register.diagrams hbelow
    have hdraw : Registers below songDiagrams fun _ => { below.register with
        diagrams := below.diagrams ++
          s.document.chords.usedDefinitions.filter (wantsDiagram s.settings) } :=
      layOutDiagrams_drawsDiagrams _ below hs
    rw [hbelow, hdiagrams] at hdraw
    exact .bind_ok (modifyCursor_eq _ _) (hdraw.bind fun _ => endPage_keepsRegister false)
  · rw [List.append_nil]
    exact (endPage_keepsRegister false).registers hs

/-- A page is the first one of its song after the pages of the song have been forgotten. -/
theorem startPage_opens {s : Session L} (hs : s.device.limit = none)
    (hpages : s.document.cursor.songPages = 0) :
    Ends startPage s (fun _ => False) fun _ t => t.device.limit = none ∧
      t.register = s.register ∧ t.opened = t.document.cursor.pages := by
  obtain ⟨_, t, hok, ht, hregister⟩ := (startPage_keepsRegister s.register s ⟨hs, rfl⟩).exists_ok
  obtain ⟨_, u, hok', log, rfl⟩ := (startPage_ends hs).exists_ok
  rw [hok] at hok'
  cases hok'
  refine .of_ok hok ⟨ht, hregister, ?_⟩
  have hsongPages : (s.document.cursor.begun s.document.geometry).songPages = 1 := by
    rw [begun_songPages, hpages]
  show ((s.document.cursor.begun s.document.geometry).pages : Int) + 1 -
    (s.document.cursor.begun s.document.geometry).songPages = _
  rw [hsongPages]
  exact Int.add_sub_cancel _ 1

/-- The next song begins on the page that is begun for it. -/
theorem newSong_registers (hs : s.device.limit = none) :
    Registers s newSong fun t => s.nextRegister t.document.cursor.pages := by
  refine Ends.bind (endSong_registers hs) fun _ u ⟨hu, hended⟩ => .bind_ok rfl (.bind_ok rfl ?_)
  refine Ends.bind (startPage_opens (s := afterSong u) hu rfl) fun _ v ⟨hv, hbegun, hopened⟩ => ?_
  refine .of_ok rfl ⟨hv, ?_⟩
  have hreset : Session.register { v with document := resetDocument v.document } =
      { v.register with styles := v.register.styles.reset, opened := v.opened } := rfl
  have hafter : (afterSong u).register = { u.register with
      chords := u.register.chords.startSong u.register.settings.dropSongDefinitions
      opened := (afterSong u).opened } := rfl
  rw [hreset, hopened, hbegun, hafter, hended]
  rfl

/-! ## The end of the document -/

theorem indexLine_keepsRegister (font : Font) (h : L) (text : String) :
    KeepsRegister (indexLine font h text) :=
  .bind (advance_keepsRegister _) fun _ => .read fun _ _ _ => .bind (moveTo_keepsRegister _ _)
    fun _ => draw_keepsRegister rfl

theorem indexEntry_keepsRegister (font : Font) (e : IndexEntry) :
    KeepsRegister (indexEntry font e : Typeset L Unit) :=
  .read fun _ _ _ => .bind (indexLine_keepsRegister _ _ _) fun _ => .read fun _ _ _ =>
    .bind (moveTo_keepsRegister _ _) fun _ => .bind (draw_keepsRegister rfl) fun _ =>
      .forM _ fun text _ => indexLine_keepsRegister _ _ text

theorem closeDocument_keepsRegister : KeepsRegister (closeDocument : Typeset L Unit) :=
  .bind endSheet_keepsRegister fun _ => .read fun _ _ _ => draw_keepsRegister rfl

/-- The index is sorted and printed on pages that belong to no song. -/
theorem printIndex_registers (hs : s.device.limit = none) :
    Registers s printIndex fun t => { s.register with
      index := sortedByTitle s.document.index, opened := t.opened } := by
  show Ends (if (sortedByTitle s.document.index).isEmpty then _ else _) s _ _
  split
  · rename_i hempty
    have hperm : (sortedByTitle s.document.index).Perm s.document.index := List.mergeSort_perm _ _
    have hsorted : s.document.index = sortedByTitle s.document.index := by
      rw [List.isEmpty_iff] at hempty
      rw [hempty] at hperm ⊢
      exact hperm.symm.eq_nil
    refine ⟨hs, ?_⟩
    rw [← hsorted]
    rfl
  · have hpages : KeepsRegister (do
        startPage
        title indexTitle
        let font := (← document).styles.current .text
        (sortedByTitle s.document.index).forM (indexEntry font)
        endPage false : Typeset L Unit) :=
      .bind startPage_keepsRegister fun _ => .bind (title_keepsRegister _) fun _ =>
        .read fun _ _ _ => .bind (.forM _ fun e _ => indexEntry_keepsRegister _ e) fun _ =>
          endPage_keepsRegister false
    have hready : s.indexReady.register = { s.register with
        index := sortedByTitle s.document.index, opened := s.indexReady.opened } := rfl
    refine .bind_ok rfl (.bind_ok rfl (.bind_ok rfl (.bind_ok rfl ?_)))
    refine (hpages.registers (s := s.indexReady) hs).mono fun _ t ht => ⟨ht.1, ?_⟩
    have hopened : t.opened = s.indexReady.opened := congrArg Register.opened ht.2
    dsimp only
    rw [ht.2, hready, hopened]

/-- The document ends with the diagrams of the last song and with the index. -/
theorem finish_registers (hs : s.device.limit = none) (hstarted : s.started = true) :
    Registers s finish fun t => { s.register with
      index := if s.settings.tableOfContents then sortedByTitle s.document.index
        else s.document.index
      opened := t.opened
      diagrams := s.diagrams ++ s.closingDiagrams } := by
  refine .bind_ok (begin_of_started hstarted) (Ends.bind (endSong_registers hs) ?_)
  rintro _ u ⟨hu, hended⟩
  have hsettings : u.settings = s.settings := congrArg Register.settings hended
  have hindex : u.document.index = s.document.index := congrArg Register.index hended
  show Ends (if u.settings.tableOfContents then _ else _) u _ _
  rw [hsettings]
  split
  · refine Ends.bind (printIndex_registers hu) fun _ v ⟨hv, hprinted⟩ => ?_
    refine (closeDocument_keepsRegister.registers hv).mono fun _ t ht => ⟨ht.1, ?_⟩
    have hopened : t.opened = v.opened := congrArg Register.opened ht.2
    dsimp only
    rw [ht.2, hprinted, hended, hindex, hopened]
  · refine (closeDocument_keepsRegister.registers hu).mono fun _ t ht => ⟨ht.1, ?_⟩
    have hopened : t.opened = s.opened := congrArg Register.opened (ht.2.trans hended)
    dsimp only
    rw [ht.2, hended, hopened]
    rfl

/-! ## Directives -/

omit [Length L] in
theorem modifyStyles_registers (hs : s.device.limit = none) (f : StyleSheet → StyleSheet) :
    Registers s (modifyStyles f) fun _ => { s.register with styles := f s.document.styles } :=
  ⟨hs, rfl⟩

omit [Length L] in
theorem resize_registers (hs : s.device.limit = none) (k : Keyword) (slot : FontSlot)
    (change : SizeArgument) :
    Registers s (resize k slot change) fun _ => { s.register with
      styles := s.document.styles.resized slot change s.scope s.document.modes.extensions } := by
  refine .bind_ok rfl ?_
  cases change with
  | absolute points => exact modifyStyles_registers hs _
  | relative delta =>
    dsimp only [StyleSheet.resized]
    cases s.document.modes.extensions with
    | false => exact (report_keepsRegister _).registers hs
    | true =>
      cases s.document.styles.adjustSize? slot delta s.scope true with
      | none => exact (report_keepsRegister _).registers hs
      | some adjusted => exact modifyStyles_registers hs fun _ => adjusted.1

omit [Length L] in
theorem define_registers (hs : s.device.limit = none) (args : String) (order : FretOrder) :
    Registers s (define args order) fun _ => { s.register with chords := s.defined args order } := by
  refine .bind_ok rfl ?_
  unfold Session.defined
  dsimp only
  cases ChordDefinition.read args order (definitionOrigin s) with
  | error p => exact (report_keepsRegister p).registers hs
  | ok definition =>
    have hentered : Registers s
        (modifyDocument fun d => { d with chords := (s.document.chords.define definition).1 })
        fun _ => { s.register with chords := (s.document.chords.define definition).1 } := ⟨hs, rfl⟩
    refine .bind_ok rfl (hentered.bind fun _ => ?_)
    split
    · exact note_keepsRegister _
    · exact .optional _ report_keepsRegister

omit [Length L] in
/-- What is entered in the index on the first page of a song. -/
theorem index_registers {t : Session L} (ht : t.device.limit = none) (hsame : t.register = s.register)
    (hindexed : isIndexed t = isIndexed s) (f : List IndexEntry → List IndexEntry) :
    Registers t (if isIndexed t then modifyDocument fun d => { d with index := f d.index }
      else pure ()) fun _ => { s.register with
        index := if isIndexed s then f s.document.index else s.document.index } := by
  have hindex : t.document.index = s.document.index := congrArg Register.index hsame
  rw [← hindexed, ← hsame, ← hindex]
  split
  · exact ⟨ht, rfl⟩
  · exact ⟨ht, rfl⟩

theorem title_registers (hs : s.device.limit = none) (text : String) :
    Registers s (do title text; indexTitled text) fun _ => { s.register with
      index := if isIndexed s then s.document.index ++ [⟨text, [], currentLabel s⟩]
        else s.document.index } := by
  obtain ⟨_, t, hok, ht, hsame⟩ := (title_keepsRegister text s.register s ⟨hs, rfl⟩).exists_ok
  obtain rfl : s.titled text = t := by
    rw [title_eq hs] at hok
    cases hok
    rfl
  let entry : IndexEntry := ⟨text, [], currentLabel s⟩
  exact .bind_ok hok (index_registers (s := s) ht hsame rfl fun index => index ++ [entry])

theorem subtitle_registers (hs : s.device.limit = none) (text : String) :
    Registers s (do subtitle text; indexSubtitled text) fun _ => { s.register with
      index := if isIndexed s then addSubtitle text s.document.index else s.document.index } := by
  let printed := s.moved (s.document.cursor.down (size (s.document.styles.current .text)))
    [.moveTo ⟨s.document.geometry.width / 2, s.document.cursor.vertical⟩,
      .text text .text (s.document.styles.current .text) .center .plain] s.log
  have hprinted : printed.register = s.register := register_moved rfl rfl
  exact .bind_ok (centred_eq hs text _)
    (index_registers (s := s) (t := printed) hs hprinted rfl (addSubtitle text))

theorem setGeometry_registers (hs : s.device.limit = none) (g : PageGeometry L) :
    Registers s (setGeometry g) fun _ => { s.register with geometry := g, opened := 1 } :=
  ⟨hs, rfl⟩

theorem changePaper_registers (hs : s.device.limit = none) (g : PageGeometry L) :
    Registers s (changePaper g) fun _ => { s.register with geometry := g, opened := 1 } :=
  .bind_ok rfl (setGeometry_registers (s := s.note (.paper g.name)) hs g)

theorem endOfChorus_keepsRegister : KeepsRegister (endOfChorus : Typeset L Unit) := by
  unfold endOfChorus
  rw [document_bind]
  refine .read fun _ s _ => ?_
  have hoff : KeepsRegister (modifyCursor fun c : Cursor L => { c with chorus := .off }) :=
    modifyCursor_keepsRegister (fun _ => rfl) fun _ => rfl
  split
  · exact report_keepsRegister _
  · exact hoff
  · exact .bind (chorusBar_keepsRegister _) fun _ => hoff

theorem setColumns_keepsRegister (count : Nat) :
    KeepsRegister (setColumns count : Typeset L Unit) :=
  change_keepsRegister (fun _ => rfl) fun _ => rfl

theorem twoColumn_keepsRegister (on : Bool) :
    KeepsRegister (twoColumn on : Typeset L Unit) := by
  unfold twoColumn
  rw [document_bind]
  refine .read fun _ s _ => ?_
  split
  · exact report_keepsRegister _
  · exact report_keepsRegister _
  · exact setColumns_keepsRegister 2
  · exact setColumns_keepsRegister 1

omit [Length L] in
/-- A switch is set where it does not stand so already. -/
theorem switch_keepsRegister (c : Document L → Bool) (p : Problem) {x : Typeset L Unit}
    (hx : KeepsRegister x) :
    KeepsRegister (do if c (← document) then report p else x : Typeset L Unit) :=
  .read fun _ _ _ => .ite (report_keepsRegister p) hx

omit [Length L] in
theorem switchBack_keepsRegister (c : Document L → Bool) (p : Problem) (f : Modes → Modes) :
    KeepsRegister (do if c (← document) then modifyModes f else report p : Typeset L Unit) :=
  .read fun _ _ _ => .ite (modifyModes_keepsRegister f) (report_keepsRegister p)

theorem conditionalBreak_keepsRegister (lines : Nat) :
    KeepsRegister (conditionalBreak lines : Typeset L Unit) :=
  .read fun _ _ _ => .bind (note_keepsRegister _) fun _ => .ite breakColumn_keepsRegister (.pure _)

omit [Length L] in
theorem setExtensions_keepsRegister (on : Bool) :
    KeepsRegister (setExtensions on : Typeset L Unit) :=
  .read fun _ _ _ => .ite (.bind (report_keepsRegister _) fun _ => modifyModes_keepsRegister _)
    (modifyModes_keepsRegister _)

/-- Every directive enters in the register what it says. -/
theorem apply_registers (hs : s.device.limit = none) (k : Keyword) (d : Directive L) :
    Registers s (apply k d) fun t => d.registered s t.document.cursor.pages := by
  have hkeeps : ∀ {x : Typeset L Unit}, KeepsRegister x → Registers s x fun _ => s.register :=
    fun h => h.registers hs
  refine .bind_ok rfl ?_
  cases d with
  | startOfChorus => exact hkeeps (modifyCursor_keepsRegister (fun _ => rfl) fun _ => rfl)
  | endOfChorus => exact hkeeps endOfChorus_keepsRegister
  | font slot family => exact modifyStyles_registers hs _
  | size slot change => exact resize_registers hs k slot change
  | comment style text => exact hkeeps (comment_keepsRegister style text)
  | newSong => exact newSong_registers hs
  | title text => exact title_registers hs text
  | subtitle text => exact subtitle_registers hs text
  | define args => exact define_registers hs args _
  | chord args => exact define_registers hs args _
  | newPage => exact hkeeps (turnPage_keepsRegister false)
  | newPhysicalPage => exact hkeeps (turnPage_keepsRegister true)
  | startOfTab => exact hkeeps (switch_keepsRegister _ _ (modifyModes_keepsRegister _))
  | endOfTab => exact hkeeps (switchBack_keepsRegister _ _ _)
  | columnBreak => exact hkeeps breakColumn_keepsRegister
  | columns count => exact hkeeps (setColumns_keepsRegister count)
  | twoColumn on => exact hkeeps (twoColumn_keepsRegister on)
  | startOfBlock label => exact hkeeps (switch_keepsRegister _ _
      (.bind (comment_keepsRegister _ _) fun _ => modifyModes_keepsRegister _))
  | endOfBlock => exact hkeeps (switchBack_keepsRegister _ _ _)
  | bridge keyword => exact hkeeps (report_keepsRegister _)
  | indent keyword => exact hkeeps (report_keepsRegister _)
  | autoSpace on => exact hkeeps (.read fun _ _ _ => modifyModes_keepsRegister _)
  | paperType name =>
    show Registers s _ fun _ => (PageGeometry.paper? name).elim s.register _
    dsimp only
    cases (PageGeometry.paper? name : Option (PageGeometry L)) with
    | some g => exact changePaper_registers hs g
    | none => exact hkeeps (report_keepsRegister _)
  | formSpec spec =>
    show Registers s _ fun _ => (PageGeometry.ofForm spec).toOption.elim s.register _
    dsimp only
    cases PageGeometry.ofForm spec with
    | ok g => exact .bind_ok rfl (changePaper_registers (s := s.note (.form spec)) hs g)
    | error p => exact hkeeps (report_keepsRegister _)
  | conditionalBreak lines => exact hkeeps (conditionalBreak_keepsRegister lines)
  | extensions on => exact hkeeps (setExtensions_keepsRegister on)
  | version number =>
    exact hkeeps (.bind (note_keepsRegister _) fun _ => modifyModes_keepsRegister _)
  | _ => exact hkeeps (modifyModes_keepsRegister _)

/-- The directive that a text is where the session stands, if it is admitted and sound. -/
def directive? (s : Session L) (text : String) : Option (Directive L) :=
  (Keyword.splitText? text).bind fun (name, args) => (Keyword.ofName? name).bind fun k =>
    match refusal? k s.startup s.document.modes.extensions with
    | some _ => none
    | none => (Directive.read k args).toOption

theorem exists_keyword_of_directive? {text : String} {d : Directive L}
    (h : directive? s text = some d) :
    ∃ k args, refusal? k s.startup s.document.modes.extensions = none ∧
      Directive.read k args = .ok d := by
  obtain ⟨⟨name, args⟩, -, hname⟩ := Option.bind_eq_some_iff.1 h
  obtain ⟨k, -, hk⟩ := Option.bind_eq_some_iff.1 hname
  refine ⟨k, args, ?_⟩
  cases hrefusal : refusal? k s.startup s.document.modes.extensions with
  | some p =>
    rw [hrefusal] at hk
    cases hk
  | none =>
    rw [hrefusal] at hk
    cases hread : (Directive.read k args : Except Problem (Directive L)) with
    | error p =>
      rw [hread] at hk
      cases hk
    | ok e =>
      rw [hread] at hk
      cases hk
      exact ⟨rfl, rfl⟩

/-- The paper is not changed in songs. -/
theorem setsPaper_of_directive? (hs : s.startup = false) {text : String} {d : Directive L}
    (h : directive? s text = some d) : d.setsPaper = false := by
  obtain ⟨k, args, hrefusal, hread⟩ := exists_keyword_of_directive? h
  rw [hs] at hrefusal
  exact (Directive.setsPaper_of_read hread).trans (refusal?_eq_none hrefusal)

/-- Nothing is printed in configuration files. -/
theorem isContent_of_directive? (hs : s.startup = true) {text : String} {d : Directive L}
    (h : directive? s text = some d) : d.isContent = false := by
  obtain ⟨k, args, hrefusal, hread⟩ := exists_keyword_of_directive? h
  rw [hs] at hrefusal
  exact (Directive.isContent_of_read hread).trans (refusal?_eq_none hrefusal)

end Typeset

namespace Session

/-- The register after the text of a directive, if the page is then of that number. -/
def toldRegister (s : Session L) (text : String) (page : Nat) : Register L :=
  (Typeset.directive? s text).elim s.register (·.registered s page)

/-- What is being read, and what is noted of it, does not matter. -/
theorem toldRegister_record (s : Session L) (file : String) (line : Nat) (log : Array (LogEntry L))
    (text : String) (page : Nat) :
    toldRegister { s with file, line, log } text page = s.toldRegister text page := by
  show (Typeset.directive? s text).elim s.register _ = _
  unfold toldRegister
  cases Typeset.directive? s text with
  | none => rfl
  | some d => cases d <;> rfl

end Session

namespace Typeset

variable {s : Session L}

theorem perform_registers (hs : s.device.limit = none) {text name args : String} {k : Keyword}
    (hsplit : Keyword.splitText? text = some (name, args)) (hname : Keyword.ofName? name = some k) :
    Registers s (perform k args) fun t => s.toldRegister text t.document.cursor.pages := by
  unfold Session.toldRegister directive?
  rw [hsplit]
  dsimp only [Option.bind_some]
  rw [hname]
  dsimp only [Option.bind_some]
  refine .bind_ok rfl ?_
  cases refusal? k s.startup s.document.modes.extensions with
  | some p => exact (report_keepsRegister p).registers hs
  | none =>
    dsimp only
    cases (Directive.read k args : Except Problem (Directive L)) with
    | error p => exact (report_keepsRegister p).registers hs
    | ok d => exact apply_registers hs k d

/-- The text of a directive enters in the register what it says, unless it ends in half a
character. -/
theorem dispatch_registers (hs : s.device.limit = none) {text : String}
    (h : Keyword.splitText? text ≠ none) :
    Registers s (dispatch text) fun t => s.toldRegister text t.document.cursor.pages := by
  obtain ⟨⟨name, args⟩, hsplit⟩ := Option.ne_none_iff_exists'.1 h
  refine dispatch_ends hsplit (fun hname => ?_) fun k hname => ⟨perform_registers hs hsplit hname, ?_⟩
  · unfold Session.toldRegister directive?
    rw [hsplit]
    dsimp only [Option.bind_some]
    rw [hname]
    exact (report_keepsRegister _).registers hs
  · intro notice
    have hnoticed := perform_registers (s := s.report (.notice notice)) hs hsplit hname
    exact hnoticed.mono fun _ t ht =>
      ⟨ht.1, ht.2.trans (s.toldRegister_record s.file s.line _ text _)⟩

end Typeset

end Songbook
