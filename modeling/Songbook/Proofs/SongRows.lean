import Songbook.Proofs.LyricsLines
import Songbook.Proofs.PageEnds
import Songbook.Proofs.RowPairs
import Songbook.Proofs.Tellings

/-!
# The rows of a song

A line of lyrics and chords is set in at most two rows. Pages and columns may break before each of
them, but the rows that come to the device are those of the lines, each once and in order
(`RowsSet`, `Adds`): `readLine_adds` for a line, `readText_rows` for a text without braces.
-/

namespace Songbook

variable {L : Type} [Length L]

/-- A stretch of what is drawn while rows are set: a row from the point where it begins, or the end
of a page of `s` and the beginning of the next one. -/
inductive Stretch (L : Type)
  | row (origin : Point L) (d : Drawing L)
  | turn (s : Session L)

def Stretch.drawings : Stretch L → List (Drawing L)
  | .row origin d => [.moveTo origin, d]
  | .turn s => s.pageEnd false ++ (s.pageEnded false).pageStart

omit [Length L] in
def Stretch.row? : Stretch L → Option (Drawing L)
  | .row _ d => some d
  | .turn _ => none

namespace Session

/-- From `s` to `t` these rows have been set, one after the other. In between pages have been
turned, and moves have been made that draw nothing. -/
inductive RowsSet (s : Session L) : List (Drawing L) → Session L → Prop
  | none : RowsSet s [] s
  | row {rows : List (Drawing L)} {t : Session L} (h : RowsSet s rows t) (rowSize : L)
      (row : Drawing L) : RowsSet s (rows ++ [row]) (Typeset.drawnRow t rowSize row)
  | turn {rows : List (Drawing L)} {t : Session L} (h : RowsSet s rows t) :
      RowsSet s rows (t.turned false)
  | moves {rows : List (Drawing L)} {t u : Session L} (h : RowsSet s rows t)
      (hmoves : Moves false t u) (hdevice : u.device = t.device) : RowsSet s rows u

variable {rows : List (Drawing L)} {s t : Session L}

theorem RowsSet.onPage (h : s.RowsSet rows t) (hs : s.OnPage) : t.OnPage := by
  induction h with
  | none => exact hs
  | row h rowSize row ih =>
    refine ⟨ih.unlimited, ?_, ih.inSong⟩
    rw [Typeset.drawnRow_cursor, Cursor.openChorus_eq]
    exact ih.isOpen
  | turn h ih => exact ih.turned false
  | moves h hmoves hdevice ih => exact hmoves.onPage ih

theorem RowsSet.keeps (h : s.RowsSet rows t) : t.settings = s.settings ∧
    t.document.modes = s.document.modes ∧ t.document.styles = s.document.styles := by
  induction h with
  | none => exact ⟨rfl, rfl, rfl⟩
  | row h rowSize row ih => exact ih
  | turn h ih => exact ih
  | moves h hmoves hdevice ih =>
    refine hmoves.keep (I := fun u => u.settings = s.settings ∧
      u.document.modes = s.document.modes ∧ u.document.styles = s.document.styles) ?_ ih
    intro t u hmove ht
    cases hmove with
    | setColumns he => cases he
    | nextSong he => cases he
    | revise he => cases he
    | count he => cases he
    | _ => exact ht

theorem RowsSet.move (h : s.RowsSet rows t) {u : Session L} (hmove : Move false t u)
    (hdevice : u.device = t.device) : s.RowsSet rows u := h.moves (.single hmove) hdevice

/-- The cursor goes up or down its column. -/
theorem RowsSet.climb (h : s.RowsSet rows t) (vertical blankSpace : L) (chorus : Chorus L) :
    s.RowsSet rows (t.moved { t.document.cursor with vertical, blankSpace, chorus } [] t.log) :=
  h.move (.climb vertical blankSpace chorus) (by simp [moved])

theorem RowsSet.broken (h : s.RowsSet rows t) : s.RowsSet rows t.broken := by
  unfold Session.broken
  split
  · exact h.turn
  · rename_i hlast
    exact h.move (.nextColumn hlast) (by simp [moved])

theorem RowsSet.advanced (h : s.RowsSet rows t) (amount : L) :
    s.RowsSet rows (t.advanced amount) := by
  have hdown : s.RowsSet rows (t.moved (t.document.cursor.down amount) [] t.log) :=
    h.climb _ t.document.cursor.blankSpace t.document.cursor.chorus
  unfold Session.advanced
  split
  · exact hdown.broken
  · exact hdown

theorem RowsSet.paid (h : s.RowsSet rows t) : s.RowsSet rows t.paid := by
  have hfree : s.RowsSet rows (t.moved { t.document.cursor with blankSpace := 0 } [] t.log) :=
    h.climb t.document.cursor.vertical 0 t.document.cursor.chorus
  unfold Session.paid
  split
  · exact hfree
  · exact hfree.advanced _

/-- What the device has received since `s` are the rows, and between them nothing but ends and
beginnings of pages. -/
theorem RowsSet.stretches (h : s.RowsSet rows t) : ∃ parts : List (Stretch L),
    t.device.received.toList = s.device.received.toList ++ parts.flatMap Stretch.drawings ∧
      parts.filterMap Stretch.row? = rows ∧
      ∀ v, .turn v ∈ parts → ∃ rows, s.RowsSet rows v := by
  induction h with
  | none => exact ⟨[], by simp, rfl, by simp⟩
  | @row rows t h rowSize row ih =>
    obtain ⟨parts, hreceived, hrows, hturns⟩ := ih
    obtain ⟨origin, hrow⟩ : ∃ origin, (Typeset.drawnRow t rowSize row).device.received.toList =
        t.device.received.toList ++ [.moveTo origin, row] :=
      ⟨_, Typeset.drawnRow_received t rowSize row⟩
    refine ⟨parts ++ [.row origin row], ?_, ?_, ?_⟩
    · rw [hrow, hreceived, List.append_assoc, List.flatMap_append]
      rfl
    · rw [List.filterMap_append, hrows]
      rfl
    · simpa using hturns
  | @turn rows t h ih =>
    obtain ⟨parts, hreceived, hrows, hturns⟩ := ih
    have hturn : (t.turned false).device.received.toList = t.device.received.toList ++
        Stretch.drawings (.turn t) := by
      rw [turned, pageBegun, pageEnded, moved_received, moved_received, List.append_assoc]
      rfl
    refine ⟨parts ++ [.turn t], ?_, ?_, fun v hv => ?_⟩
    · rw [hturn, hreceived, List.append_assoc, List.flatMap_append, List.flatMap_singleton]
    · rw [List.filterMap_append, hrows]
      exact List.append_nil rows
    · rcases List.mem_append.1 hv with hv | hv
      · exact hturns v hv
      · cases List.mem_singleton.1 hv
        exact ⟨rows, h⟩
  | moves h hmoves hdevice ih => rwa [hdevice]

end Session

namespace Typeset

open Session Markup

variable {s₀ : Session L} {x : Typeset L Unit} {f : Unit → Typeset L Unit}
  {rows rows' : List (Drawing L)} {line : Line}

/-- Where rows have been set from `s₀` on, `x` sets these after them. -/
def Adds (s₀ : Session L) (x : Typeset L Unit) (rows : List (Drawing L)) : Prop :=
  ∀ before s, s₀.RowsSet before s →
    Ends x s (fun _ => False) fun _ t => s₀.RowsSet (before ++ rows) t

namespace Adds

theorem pure : Adds s₀ (Pure.pure ()) [] := fun before s hs => by
  rw [List.append_nil]
  exact hs

theorem after (hx : Adds s₀ x []) (hf : Adds s₀ (f ()) rows) : Adds s₀ (x >>= f) rows :=
  fun before s hs => (hx before s hs).bind fun _ t ht => by
    rw [List.append_nil] at ht
    exact hf before t ht

theorem bind (hx : Adds s₀ x rows) (hf : Adds s₀ (f ()) rows') :
    Adds s₀ (x >>= f) (rows ++ rows') := fun before s hs =>
  (hx before s hs).bind fun _ t ht => by
    rw [← List.append_assoc]
    exact hf _ t ht

theorem read {f : Session L → Typeset L Unit}
    (h : ∀ before s, s₀.RowsSet before s → Adds s₀ (f s) rows) : Adds s₀ (get >>= f) rows :=
  fun before s hs => h before s hs before s hs

/-- What sets no rows may be done only under a condition. -/
theorem optional {c : Prop} [Decidable c] (hx : Adds s₀ x []) (hf : Adds s₀ (f ()) rows) :
    Adds s₀ (if c then x >>= f else f ()) rows := by
  split
  · exact .after hx hf
  · exact hf

/-- A step that always succeeds and sets no rows. -/
theorem of_ok {g : Session L → Session L} (hx : ∀ before s, s₀.RowsSet before s →
    x s = .ok () (g s) ∧ s₀.RowsSet before (g s)) : Adds s₀ x [] := fun before s hs => by
  rw [List.append_nil]
  exact .of_ok (hx before s hs).1 (hx before s hs).2

end Adds

theorem openChorus_adds (rowSize : L) : Adds s₀ (openChorus rowSize) [] :=
  .of_ok fun _ s hs => ⟨modifyCursor_eq _ s, by
    rw [Cursor.openChorus_eq]
    exact hs.climb _ _ _⟩

section

variable (h₀ : s₀.OnPage)
include h₀

theorem advance_adds (amount : L) : Adds s₀ (advance amount) [] :=
  .of_ok fun _ _ hs => ⟨advance_advanced (hs.onPage h₀).unlimited (hs.onPage h₀).isOpen amount,
    hs.advanced amount⟩

theorem payBlankSpace_adds : Adds s₀ payBlankSpace [] :=
  .of_ok fun _ _ hs => ⟨payBlankSpace_paid (hs.onPage h₀).unlimited (hs.onPage h₀).isOpen, hs.paid⟩

theorem row_adds (rowSize : L) (row : Drawing L) :
    Adds s₀ (do openChorus rowSize; moveToLine; draw row) [row] := fun _ _ hs =>
  .of_ok (row_eq (hs.onPage h₀).unlimited rowSize row) (hs.row rowSize row)

/-- The row of chords of a line, if the line has any. -/
theorem chordRow_adds (hlyrics : s₀.settings.lyricsOnly = false) (textFont chordFont : Font) :
    Adds s₀ (chordRow line textFont chordFont)
      (if line.hasChords then [.chords line textFont chordFont] else []) := by
  have hrow : Adds s₀ (do
      openChorus (size chordFont)
      if !(← get).settings.lyricsOnly && line.hasChords then
        moveToLine
        draw (.chords line textFont chordFont))
      (if line.hasChords then [.chords line textFont chordFont] else []) := by
    have hread : ∀ before s, s₀.RowsSet before s → (do
        openChorus (size chordFont)
        if !(← get).settings.lyricsOnly && line.hasChords then
          moveToLine
          draw (.chords line textFont chordFont)) s = (do
        openChorus (size chordFont)
        if line.hasChords then
          moveToLine
          draw (.chords line textFont chordFont)) s := by
      intro before s hs
      rw [openChorus, bind_of_ok (modifyCursor_eq _ _), bind_of_ok (modifyCursor_eq _ _)]
      show (if !s.settings.lyricsOnly && line.hasChords then _ else _ : Typeset L Unit) _ = _
      rw [hs.keeps.1, hlyrics]
      rfl
    intro before s hs
    unfold Ends
    rw [hread before s hs]
    cases line.hasChords with
    | true => exact row_adds h₀ _ _ before s hs
    | false => exact (openChorus_adds _).bind .pure before s hs
  exact .after (payBlankSpace_adds h₀) <| .after (advance_adds h₀ _) <| .read fun _ _ _ =>
    .optional (advance_adds h₀ _) hrow

/-- The row of the lyrics of a line, unless they are blank. -/
theorem lyricsRow_adds (slot : FontSlot) (font : Font) :
    Adds s₀ (lyricsRow line slot font)
      (if line.isBlank then [] else [.text line.text slot font .left .plain]) := by
  unfold lyricsRow
  split
  · exact .of_ok fun _ s hs => ⟨modifyCursor_eq _ s, hs.climb _ _ _⟩
  · exact .after (payBlankSpace_adds h₀) <| .after (advance_adds h₀ _) <| row_adds h₀ _ _

end

/-! ## Songs -/

/-- The rows of a line: its chords if it has any, and below them its lyrics unless they are
blank. -/
def lineRows (d : Document L) (line : Line) : List (Drawing L) :=
  let textFont := d.styles.current .text
  (if line.hasChords then [.chords line textFont (d.styles.current .chord)] else []) ++
    if line.isBlank then [] else [.text line.text .text textFont .left .plain]

/-- The rows of a song's text. -/
def songRows (s : Session L) (text : String) : List (Drawing L) :=
  rowsOf (fun name => (resolveChord name s).1) (lineRows s.document)
    (text.toList.filter (· ≠ '\r'))

section

variable (h₀ : s₀.OnPage) (hlyrics : s₀.settings.lyricsOnly = false)
  (hTab : s₀.document.modes.inTab = false)
include h₀ hlyrics hTab

theorem readLine_adds (line : Line) :
    Adds s₀ (readLine line) (lineRows s₀.document line) := by
  refine .read fun before s hs => ?_
  obtain ⟨-, hmodes, -⟩ := hs.keeps
  have hset : Adds s₀ (setLine line) (lineRows s₀.document line) := by
    refine .read fun _ s hs => ?_
    obtain ⟨-, hmodes, hstyles⟩ := hs.keeps
    show Adds s₀ (if !((s.document.modes.autoSpace.current || s.document.modes.inTab) &&
      !line.hasChords) then chordRow line (s.document.styles.current
        (if s.document.modes.inTab then .tab else .text)) _ >>= fun _ => _ else _) _
    rw [hmodes, hstyles, hTab]
    unfold lineRows
    split
    · exact .bind (chordRow_adds h₀ hlyrics _ _) (lyricsRow_adds h₀ _ _)
    · have hnone : line.hasChords = false := by simp_all
      rw [hnone]
      exact lyricsRow_adds h₀ _ _
  rw [(hs.onPage h₀).inSong, hmodes, hTab]
  exact hset

theorem sink_sets : (sink (L := L)).Sets (fun name => (resolveChord name s₀).1)
    (lineRows s₀.document) s₀.RowsSet where
  inTab _ s hs := by
    show s.document.modes.inTab = false
    rw [hs.keeps.2.1, hTab]
  chord bs n name s hs := by
    have hline : s₀.RowsSet bs (atLine n s) := hs.move (.record s.file n s.log) rfl
    obtain ⟨chords, log, heq⟩ := resolveChord_eq name (atLine n s)
    show (if s.startup then (name, atLine n s) else resolveChord name (atLine n s)).1 = _ ∧
      s₀.RowsSet bs (if s.startup then (name, atLine n s) else resolveChord name (atLine n s)).2
    rw [(hs.onPage h₀).inSong]
    refine ⟨resolveChord_congr (s := atLine n s) hs.keeps.1 name,
      hline.moves (resolveChord_moves name _) ?_⟩
    show (resolveChord name (atLine n s)).2.device = _
    rw [heq]
  problem bs n p s hs := hs.move (.record s.file n _) rfl
  line bs n content s hs := by
    have hline : s₀.RowsSet bs (atLine n s) := hs.move (.record s.file n s.log) rfl
    exact .bind_ok rfl (readLine_adds h₀ hlyrics hTab content bs _ hline)
  empty := rfl

/-- A text without braces sets the rows of its lines of lyrics and chords, each once and in
order. -/
theorem readText_rows {text : String} (htext : ∀ c ∈ text.toList, c ≠ '{' ∧ c ≠ '}') :
    Ends (Reader.readText sink text) s₀ (fun _ => False) fun _ => s₀.RowsSet (songRows s₀ text) :=
  Reader.readText_sets (sink_sets h₀ hlyrics hTab) htext .none

end

variable {settings : Settings L} {s : Session L}

theorem songWith_pure_ends (h : s.Between settings) (name : String) :
    Ends (songWith name (pure ())) s (fun _ => False) fun _ t => t.InSong settings := by
  rcases h with h | h
  · obtain ⟨_, first, hbegin, log, rfl⟩ := (begin_ends h).exists_ok
    have hfirst : (s.withFirstPage log).InSong settings := ⟨_, ⟨s, log, h, rfl⟩, .refl⟩
    unfold Ends
    rw [songWith_begins hbegin hfirst.started]
    exact songWith_pure_inSong hfirst name
  · exact songWith_pure_inSong h name

/-- A song without braces is opened, and then its text sets rows, unless a tablature has been left
open. They are those of its lines of lyrics and chords, in order: of each line its chords, if it
has any, and then its lyrics, unless these are blank. What is drawn besides them are the ends and
the beginnings of pages. -/
theorem readSong_rows (h : s.Between settings) (hlyrics : settings.lyricsOnly = false)
    (name : String) {text : String} (htext : ∀ c ∈ text.toList, c ≠ '{' ∧ c ≠ '}') :
    ∃ u, songWith name (pure ()) s = .ok () u ∧ (u.document.modes.inTab = false →
      ∃ t, readSong name text s = .ok () t ∧ u.RowsSet (songRows u text) t ∧
        ∃ parts : List (Stretch L),
          t.device.received.toList = u.device.received.toList ++ parts.flatMap Stretch.drawings ∧
          parts.filterMap Stretch.row? = songRows u text ∧
          ∀ v, .turn v ∈ parts → ∃ rows, u.RowsSet rows v) := by
  obtain ⟨_, u, hopen, hu⟩ := (songWith_pure_ends h name).exists_ok
  refine ⟨u, hopen, fun hTab => ?_⟩
  have hlyrics' : u.settings.lyricsOnly = false := by
    rw [hu.settings_eq]
    exact hlyrics
  obtain ⟨_, t, hread, ht⟩ := (readText_rows hu.onPage hlyrics' hTab htext).exists_ok
  refine ⟨t, ?_, ht, ht.stretches⟩
  rw [readSong_eq, songWith_bind, bind_of_ok hopen]
  exact hread

/-- A line of lyrics under a chord, a comment, a chord over nothing, and lyrics alone. -/
theorem readSong_rows_commented :
    ∃ u t : Session Rat, songWith "" (pure ()) (.start .default .unlimited) = .ok () u ∧
      readSong "" "[C]la\n#b\n[D] \nlo" (.start .default .unlimited) = .ok () t ∧
      u.RowsSet [.chords ⟨"la", [⟨0, "C"⟩]⟩ ⟨"Times-Roman", 12⟩ ⟨"Helvetica-Oblique", 9⟩,
        .text "la" .text ⟨"Times-Roman", 12⟩ .left .plain,
        .chords ⟨" ", [⟨0, "D"⟩]⟩ ⟨"Times-Roman", 12⟩ ⟨"Helvetica-Oblique", 9⟩,
        .text "lo" .text ⟨"Times-Roman", 12⟩ .left .plain] t := by
  have htext : ∀ c ∈ "[C]la\n#b\n[D] \nlo".toList, c ≠ '\x7b' ∧ c ≠ '\x7d' := by simp
  obtain ⟨u, hopen, hread⟩ := readSong_rows (L := Rat) (.inl (unprinted_start .default)) rfl "" htext
  obtain ⟨hTab, htextFont, hchordFont, hC, hD⟩ : u.document.modes.inTab = false ∧
      u.document.styles.current .text = ⟨"Times-Roman", 12⟩ ∧
      u.document.styles.current .chord = ⟨"Helvetica-Oblique", 9⟩ ∧
      (resolveChord "C" u).1 = "C" ∧ (resolveChord "D" u).1 = "D" := by
    rw [← endState_of_ok hopen]
    decide +kernel
  obtain ⟨t, ht, hrows, -⟩ := hread hTab
  have hsong : songRows u "[C]la\n#b\n[D] \nlo" =
      [.chords ⟨"la", [⟨0, (resolveChord "C" u).1⟩]⟩ (u.document.styles.current .text)
          (u.document.styles.current .chord),
        .text "la" .text (u.document.styles.current .text) .left .plain,
        .chords ⟨" ", [⟨0, (resolveChord "D" u).1⟩]⟩ (u.document.styles.current .text)
          (u.document.styles.current .chord),
        .text "lo" .text (u.document.styles.current .text) .left .plain] := by
    simp [songRows, rowsOf, lyricsLines, physicalLines, lineOf, outside, marksOf, closedNames,
      keptName, Token.capacity, lineRows, Line.hasChords, Line.isBlank]
  rw [htextFont, hchordFont, hC, hD] at hsong
  rw [hsong] at hrows
  exact ⟨u, t, hopen, ht, hrows⟩

end Typeset

end Songbook
