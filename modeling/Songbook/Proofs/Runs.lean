import Songbook.Proofs.Songs
import Songbook.Proofs.Startup

/-!
# Runs in order

First come the configuration files and the overrides, then the songs, and then the end of the
document. Between the songs nothing has been printed yet, or the session has come from the first
page by moves of songs (`printSongs_keeps`); after the document's beginning, and in the middle of a
song, only the second is left (`holdsInSongs`).
-/

namespace Songbook

variable {L : Type} [Length L]

/-- Reads the beginning of a text and keeps the sink's state. -/
def Markup.Reader.readBeginning {ε σ : Type} (sink : Markup.Sink ε σ) (text : String) :
    EStateM ε σ Unit := fun s =>
  match feedAll sink text (start, s) with
  | .ok _ (_, s) => .ok () s
  | .error e (_, s) => .error e s

/-- What the characters end in, the beginning ends in. -/
theorem Markup.Reader.readBeginning_ends {ε σ : Type} {sink : Markup.Sink ε σ} {text : String}
    {s : σ} {E : ε → Prop} {I : σ → Prop}
    (h : Ends (feedAll sink text) (start, s) E fun _ p => I p.2) :
    Ends (readBeginning sink text) s E fun _ => I := by
  unfold Ends at h ⊢
  dsimp only [readBeginning]
  rcases hx : feedAll sink text (start, s) with ⟨a, p⟩ | ⟨e, p⟩ <;> rw [hx] at h
  · exact h
  · exact h

namespace Typeset

/-- Reads the configuration files, each with its name, and applies the overrides. -/
def prepare (configurations : List (String × String)) (overrides : Overrides) :
    Typeset L Unit := do
  configurations.forM fun (name, text) => readConfiguration name text
  applyOverrides overrides

/-- Prints songs, each with its name. -/
def printSongs (songs : List (String × String)) : Typeset L Unit :=
  songs.forM fun (name, text) => readSong name text

/-- Begins a song of that name and goes on with `x`. -/
def songWith (name : String) (x : Typeset L Unit) : Typeset L Unit := do
  begin
  if 0 < (← get).songs then newSong
  modify fun s => { s with songs := s.songs + 1 }
  note (.typesetting name)
  modify fun s => { s with file := name, line := 0 }
  x

theorem readSong_eq (name text : String) :
    (readSong name text : Typeset L Unit) = songWith name (Markup.Reader.readText sink text) := rfl

/-- A song is opened, and then it is read. -/
theorem songWith_bind (name : String) (x : Typeset L Unit) :
    songWith name x = songWith name (pure ()) >>= fun _ => x := by
  unfold songWith
  simp only [bind_assoc]
  refine congrArg _ (funext fun _ => congrArg _ (funext fun s => ?_))
  split <;> simp only [bind_assoc, pure_bind]

/-- Prints a song as far as the given beginning of its text. -/
def readPart (name beginning : String) : Typeset L Unit :=
  songWith name (Markup.Reader.readBeginning sink beginning)

end Typeset

namespace Session

/-- The document has just been begun. -/
def IsBegun (settings : Settings L) (b : Session L) : Prop :=
  ∃ s : Session L, ∃ log, s.Unprinted settings false ∧ b = s.withFirstPage log

/-- Songs have been printed since the document was begun. -/
def InSong (settings : Settings L) (s : Session L) : Prop :=
  ∃ b, IsBegun settings b ∧ Moves true b s

variable {settings : Settings L} {s t b : Session L}

theorem IsBegun.onPage (h : IsBegun settings b) : b.OnPage := by
  obtain ⟨s, log, hs, rfl⟩ := h
  refine ⟨?_, begun_slot_ne_zero _ _, hs.startup⟩
  show s.device.limit = none
  rw [hs.device]
  rfl

theorem InSong.onPage (h : s.InSong settings) : s.OnPage := by
  obtain ⟨b, hb, hs⟩ := h
  exact hs.onPage hb.onPage

theorem InSong.moves (h : s.InSong settings) (ht : Moves true s t) : t.InSong settings := by
  obtain ⟨b, hb, hs⟩ := h
  exact ⟨b, hb, hs.trans ht⟩

/-- What the beginning of the document gives and every move keeps holds all through the songs. -/
theorem InSong.keep {I : Session L → Prop} (h : s.InSong settings)
    (hI : ∀ b, IsBegun settings b → I b) (step : ∀ s t, Move true s t → I s → I t) : I s := by
  obtain ⟨b, hb, hs⟩ := h
  exact hs.keep step (hI b hb)

theorem InSong.started (h : s.InSong settings) : s.started = true := by
  refine h.keep (I := fun s => s.started = true) ?_ ?_
  · rintro b ⟨s, log, -, rfl⟩
    rfl
  · rintro s t hmove hs
    cases hmove <;> exact hs

theorem InSong.settings_eq (h : s.InSong settings) : s.settings = settings := by
  refine h.keep (I := fun s => s.settings = settings) ?_ ?_
  · rintro b ⟨s, log, hs, rfl⟩
    exact hs.settings
  · rintro s t hmove hs
    cases hmove <;> exact hs

theorem InSong.paper (h : s.InSong settings) : s.document.geometry.IsPaper := by
  refine h.keep (I := fun s => s.document.geometry.IsPaper) ?_ ?_
  · rintro b ⟨s, log, hs, rfl⟩
    exact hs.paper
  · rintro s t hmove hs
    cases hmove with
    | revise _ d hg _ =>
      show d.geometry.IsPaper
      rw [hg]
      exact hs
    | _ => exact hs

/-- No song is being printed: none has been, or all so far are done. -/
def Between (settings : Settings L) (s : Session L) : Prop :=
  s.Unprinted settings false ∨ s.InSong settings

end Session

namespace Typeset

open Session

variable {settings : Settings L} {s : Session L}

theorem readBeginning_wanders (text : String) :
    Wanders true (Markup.Reader.readBeginning sink text : Typeset L Unit) := by
  refine .of_ends fun s hs => ?_
  have hI : ∀ t, s.OnPage ∧ Moves true s t → t.OnPage := fun t ht => ht.2.onPage ht.1
  have step : ∀ t u, Move true t u → s.OnPage ∧ Moves true s t → s.OnPage ∧ Moves true s u :=
    fun t u htu ht => ⟨ht.1, ht.2.tail htu⟩
  exact (Markup.Reader.readBeginning_ends (I := fun t => s.OnPage ∧ Moves true s t)
    (Markup.Reader.feedAll_ends (sink_keeps hI step) text (fun _ => sink_keepsDirectives hI step)
      ⟨hs, .refl⟩)).mono fun _ _ ht => ht.2

theorem prepare_ends (settings : Settings L) (configurations : List (String × String))
    (overrides : Overrides) :
    Ends (prepare configurations overrides) (.start settings .unlimited) IsBreak
      fun _ t => t.Unprinted settings false := by
  have hread : Keeps (fun (_ : Unit) (s : Session L) => s.Unprinted settings false) IsBreak
      (configurations.forM fun (name, text) => readConfiguration name text) :=
    .forM _ fun ⟨name, text⟩ _ _ _ hs =>
      (readConfiguration_prepares hs name text).weaken fun _ => .inl
  exact (hread () _ (unprinted_start settings)).bind fun _ t ht =>
    applyOverrides_keeps overrides (settings, false) t ht

theorem begin_of_started (h : s.started = true) : begin s = .ok () s := by
  show (if s.started then pure () else _ : Typeset L Unit) s = _
  rw [h]
  rfl

/-- The first song begins the document, so it does not matter if that has been done. -/
theorem songWith_begins {first : Session L} (hbegin : begin s = .ok () first)
    (hfirst : first.started = true) (name : String) (x : Typeset L Unit) :
    songWith name x s = songWith name x first := by
  have hbegun : ∀ f : Unit → Typeset L Unit, (begin >>= f) s = (begin >>= f) first := fun f =>
    (bind_of_ok hbegin).trans (bind_of_ok (begin_of_started hfirst)).symm
  exact hbegun _

theorem begin_inSong (h : s.Between settings) :
    Ends begin s (· = .brokenCharacter) fun _ t => t.InSong settings := by
  rcases h with h | h
  · refine ((begin_ends h).mono ?_).weaken fun _ h => h.elim
    rintro _ _ ⟨log, rfl⟩
    exact ⟨_, ⟨s, log, h, rfl⟩, .refl⟩
  · exact .of_ok (begin_of_started h.started) h

theorem songWith_inSong (h : s.Between settings) (name : String) {x : Typeset L Unit}
    (hx : Wanders true x) :
    Ends (songWith name x) s (· = .brokenCharacter) fun _ t => t.InSong settings := by
  have hrest : Wanders true (do
      modify fun s => { s with songs := s.songs + 1 }
      note (.typesetting name)
      modify fun s => { s with file := name, line := 0 }
      x : Typeset L Unit) :=
    .bind countSong_songlike.wanders fun _ => .bind (note_songlike _).wanders fun _ =>
      .bind (openFile_songlike name).wanders fun _ => hx
  refine (begin_inSong h).bind fun _ t ht => ?_
  have hsong : Wanders true (do
      if 0 < (← get).songs then newSong
      modify fun s => { s with songs := s.songs + 1 }
      note (.typesetting name)
      modify fun s => { s with file := name, line := 0 }
      x : Typeset L Unit) :=
    .read fun _ _ _ => .ite (.bind newSong_songlike.wanders fun _ => hrest) hrest
  exact ((hsong.ends ht.onPage).mono fun _ _ hu => ht.moves hu).weaken fun _ h => h.2

theorem printSongs_keeps (settings : Settings L) (songs : List (String × String)) :
    Keeps (fun (_ : Unit) (s : Session L) => s.Between settings) (· = .brokenCharacter)
      (printSongs songs) :=
  .forM _ fun ⟨name, text⟩ _ _ s hs => by
    show Ends (readSong name text) s _ _
    rw [readSong_eq]
    exact (songWith_inSong hs name (readText_songlike text).wanders).mono fun _ _ ht => .inr ht

theorem readPart_inSong (h : s.Between settings) (name beginning : String) :
    Ends (readPart name beginning) s (· = .brokenCharacter) fun _ t => t.InSong settings :=
  songWith_inSong h name (readBeginning_wanders beginning)

/-- What is done after the preparation and any number of songs is done between songs. -/
theorem afterSongs_ends {x : Typeset L Unit} {Q : Session L → Prop}
    (configurations : List (String × String)) (overrides : Overrides)
    (songs : List (String × String)) (hx : ∀ s : Session L, s.Between settings →
      Ends x s (· = .brokenCharacter) fun _ => Q) :
    Ends (do prepare configurations overrides; printSongs songs; x)
      (.start settings .unlimited) IsBreak fun _ => Q := by
  refine (prepare_ends settings configurations overrides).bind fun _ s hs => ?_
  have hsongs := printSongs_keeps settings songs () s (.inl hs)
  exact (hsongs.bind fun _ t ht => hx t ht).weaken fun _ => .inl

/-- A whole run ends in a session of `Q`, unless it is broken off. -/
structure RunsTo (settings : Settings L) (configurations : List (String × String))
    (overrides : Overrides) (songs : List (String × String)) (Q : Session L → Prop) : Prop where
  ends : Ends (do prepare configurations overrides; printSongs songs; finish)
    (.start settings .unlimited) IsBreak fun _ => Q

theorem RunsTo.of_ok {configurations : List (String × String)} {overrides : Overrides}
    {songs : List (String × String)} {Q : Session L → Prop} {t : Session L}
    (h : RunsTo settings configurations overrides songs Q)
    (hrun : (do prepare configurations overrides; printSongs songs; finish)
      (.start settings .unlimited) = .ok () t) : Q t := h.ends.holds hrun

/-- `I` holds in every run with these settings, from the beginning of the document on and after
each further character of each song; a run that is broken off before that was broken off by half a
character or by overrides that name no known paper. -/
def HoldsInSongs (settings : Settings L) (I : Session L → Prop) : Prop :=
  ∀ (configurations : List (String × String)) (overrides : Overrides)
    (songs : List (String × String)),
    Ends (do prepare configurations overrides; printSongs songs; begin)
        (.start settings .unlimited) IsBreak (fun _ => I) ∧
      ∀ name beginning : String,
        Ends (do prepare configurations overrides; printSongs songs; readPart name beginning)
          (.start settings .unlimited) IsBreak fun _ => I

theorem holdsInSongs {I : Session L → Prop} (h : ∀ s : Session L, s.InSong settings → I s) :
    HoldsInSongs settings I := by
  refine fun configurations overrides songs => ⟨?_, fun name beginning => ?_⟩
  · refine afterSongs_ends configurations overrides songs fun s hs => ?_
    exact (begin_inSong hs).mono fun _ _ ht => h _ ht
  · refine afterSongs_ends configurations overrides songs fun s hs => ?_
    exact (readPart_inSong hs name beginning).mono fun _ _ ht => h _ ht

end Typeset

end Songbook
