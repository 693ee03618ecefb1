import Mathlib.Logic.Relation
import Songbook.Proofs.Paging

/-!
# Moves of a song

While a song is printed there is always an open page, and the session changes by a few kinds of
moves: something is drawn on the page, the cursor goes somewhere else in its column, to another
column or to another page, or things are changed that have no place on the page. The last, and what
else only directives do, are edits; lines of lyrics and chords make the other moves alone. What
every move keeps holds all through a song (`Moves.keep`).
-/

namespace Songbook

variable {L : Type} [Length L]

/-- After the song's last page has been left and the first page of the next one begun. -/
def Cursor.songBegun (c : Cursor L) (g : PageGeometry L) : Cursor L :=
  ({ c.left g false with songPages := 0, chorus := .off }.begun g).resetColumns g

namespace Session

/-- With fonts, chords and modes as the next song finds them. -/
def inNextSong (s : Session L) : Session L :=
  { s with
    document := { s.document with
      styles := s.document.styles.reset
      chords := s.document.chords.startSong s.settings.dropSongDefinitions
      modes := s.document.modes.leaveSong.reset } }

/-- A song is being printed on an open page of a device that refuses nothing. -/
structure OnPage (s : Session L) : Prop where
  unlimited : s.device.limit = none
  isOpen : s.document.cursor.slot ≠ 0
  inSong : s.startup = false

/-- One move of a song, and whether it may be an edit. -/
inductive Move (edits : Bool) : Session L → Session L → Prop
  /-- Something is drawn on the page. -/
  | draw {s : Session L} {d : Drawing L} (hd : d.isContent) : Move edits s (s.drawn [d])
  /-- The cursor goes up or down its column; room is owed or paid, a bar begins or ends. -/
  | climb {s : Session L} (vertical blankSpace : L) (chorus : Chorus L) :
      Move edits s (s.moved { s.document.cursor with vertical, blankSpace, chorus } [] s.log)
  | nextColumn {s : Session L} {log : Array (LogEntry L)} (h : ¬ s.document.cursor.onLastColumn) :
      Move edits s (s.moved (s.document.cursor.nextColumn s.document.geometry) [] log)
  | turn {s : Session L} {sheetToo : Bool} {ds : List (Drawing L)} {log : Array (LogEntry L)}
      (h : Typeset.PageTurn s sheetToo ds) :
      Move edits s (s.moved (s.document.cursor.turned s.document.geometry sheetToo) ds log)
  | useChord {s : Session L} (name : String) : Move edits s { s with
      document := { s.document with chords := s.document.chords.use name } }
  /-- What is being read, or what is noted of it, changes. -/
  | record {s : Session L} (file : String) (line : Nat) (log : Array (LogEntry L)) :
      Move edits s { s with file, line, log }
  | setColumns {s : Session L} (he : edits = true) (count : Nat) :
      Move edits s (s.moved (s.document.cursor.setColumns count s.document.geometry) [] s.log)
  | nextSong {s : Session L} {ds : List (Drawing L)} {log : Array (LogEntry L)}
      (he : edits = true) (h : Typeset.PageTurn s false ds) :
      Move edits s (s.moved (s.document.cursor.songBegun s.document.geometry) ds log)
  /-- Fonts, chords, modes and the index change. -/
  | revise {s : Session L} (he : edits = true) (d : Document L)
      (hg : d.geometry = s.document.geometry) (hc : d.cursor = s.document.cursor) :
      Move edits s { s with document := d }
  | count {s : Session L} (he : edits = true) (songs : Nat) : Move edits s { s with songs }

/-- Any number of moves. -/
abbrev Moves (edits : Bool) : Session L → Session L → Prop := Relation.ReflTransGen (Move edits)

variable {edits : Bool} {s t : Session L}

/-- What every move keeps holds all through a song. -/
theorem Moves.keep {I : Session L → Prop} (step : ∀ s t, Move edits s t → I s → I t)
    (h : Moves edits s t) (hs : I s) : I t := by
  induction h with
  | refl => exact hs
  | tail _ hlast ih => exact step _ _ hlast ih

omit [Length L] in
theorem begun_slot_ne_zero (c : Cursor L) (g : PageGeometry L) : (c.begun g).slot ≠ 0 := by
  show c.countPage.slot ≠ 0
  rw [Cursor.countPage_slot]
  omega

theorem Move.onPage (h : Move edits s t) (hs : s.OnPage) : t.OnPage := by
  cases h with
  | turn _ => exact ⟨hs.1, begun_slot_ne_zero _ _, hs.3⟩
  | nextSong _ _ => exact ⟨hs.1, begun_slot_ne_zero _ s.document.geometry, hs.3⟩
  | revise _ d _ hc =>
    refine ⟨hs.1, ?_, hs.3⟩
    show d.cursor.slot ≠ 0
    rw [hc]
    exact hs.2
  | _ => exact ⟨hs.1, hs.2, hs.3⟩

theorem Moves.onPage (h : Moves edits s t) (hs : s.OnPage) : t.OnPage :=
  h.keep (fun _ _ => Move.onPage) hs

end Session

namespace Typeset

open Session

/-- What edits may end in: half a character. -/
def Interrupts (edits : Bool) (e : Fault) : Prop := edits = true ∧ e = .brokenCharacter

/-- From an open page, `x` ends after moves of a song, or is interrupted. -/
abbrev Wanders {α : Type} (edits : Bool) (x : Typeset L α) : Prop :=
  Keeps (fun s₀ s : Session L => s₀.OnPage ∧ Moves edits s₀ s) (Interrupts edits) x

variable {α : Type} {edits : Bool} {x : Typeset L α} {s : Session L}

theorem Wanders.of_ends (h : ∀ s : Session L, s.OnPage →
    Ends x s (Interrupts edits) fun _ t => Moves edits s t) : Wanders edits x := fun _ s hs =>
  (h s (hs.2.onPage hs.1)).mono fun _ _ ht => ⟨hs.1, Relation.ReflTransGen.trans hs.2 ht⟩

theorem Wanders.ends (h : Wanders edits x) (hs : s.OnPage) :
    Ends x s (Interrupts edits) fun _ t => Moves edits s t :=
  (h s s ⟨hs, .refl⟩).mono fun _ _ ht => ht.2

theorem wanders_of_move {x : Typeset L Unit} {f : Session L → Session L}
    (h : ∀ s, x s = .ok () (f s)) (hf : ∀ s, Move edits s (f s)) : Wanders edits x :=
  .of_ends fun s _ => .of_ok (h s) (.single (hf s))

theorem draw_wanders {d : Drawing L} (hd : d.isContent) : Wanders edits (draw d) :=
  .of_ends fun _ hs => .of_ok (draw_eq hs.1 d) (.single (.draw hd))

theorem turnPage_wanders (sheetToo : Bool) :
    Wanders edits (turnPage sheetToo : Typeset L Unit) := by
  refine .of_ends fun s hs => ?_
  refine ((turnPage_ends hs.1 hs.2 sheetToo).mono ?_).weaken fun _ h => h.elim
  rintro _ _ ⟨ds, log, h, rfl⟩
  exact .single (.turn h)

theorem breakColumn_wanders : Wanders edits (breakColumn : Typeset L Unit) := by
  refine .of_ends fun s hs => ?_
  by_cases hlast : s.document.cursor.onLastColumn
  · unfold Ends
    rw [breakColumn_eq, if_pos hlast]
    exact (turnPage_wanders false).ends hs
  · exact .of_ok (by rw [breakColumn_eq, if_neg hlast]) (.single (.nextColumn hlast))

end Typeset

end Songbook
