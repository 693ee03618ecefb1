import Songbook.Proofs.Runs
import Songbook.Proofs.Switches
import Songbook.Proofs.WholeLines

/-!
# The switches that songs begin with

A new song finds all switches as the first song found them, but for the extensions and the order of
frets in definitions: these stay as the songs before have left them (`newSong_switchesBack`). The
switches are all that the meaning of a text goes by (`readAlike_of_likewise`).
-/

namespace Songbook

/-- A new song will find the switches `first`, but for the extensions and the order of frets. -/
def Modes.ReturnsTo (m first : Modes) : Prop :=
  m.nextSong = { first with extensions := m.extensions, fretOrder := m.fretOrder }

/-- The extensions and the order of frets are the same. -/
def Modes.Agree (m first : Modes) : Prop :=
  m.extensions = first.extensions ∧ m.fretOrder = first.fretOrder

theorem Modes.returned_eq_iff {m first : Modes} :
    { first with extensions := m.extensions, fretOrder := m.fretOrder } = first ↔
      m.Agree first := by
  rcases first with ⟨⟩
  simp [Agree]

variable {L : Type} [Length L]

/-- What `f` does to the switches a new song undoes, but for the extensions and the order of
frets. -/
def Modes.Undone (f : Modes → Modes) : Prop := ∀ m first, m.ReturnsTo first → (f m).ReturnsTo first

omit [Length L] in
theorem Directive.switched_undone (d : Directive L) : Modes.Undone d.switched := by
  intro m first h
  have hkeeps : (d.switched m).nextSong = { m.nextSong with
      extensions := (d.switched m).extensions, fretOrder := (d.switched m).fretOrder } := by
    cases d <;> rfl
  rw [Modes.ReturnsTo, hkeeps, h]

namespace Session

/-- Songs have been printed since the first one began. -/
structure Since (first s : Session L) : Prop where
  onPage : s.OnPage
  settings : s.settings = first.settings
  started : s.started = true
  modes : s.document.modes.ReturnsTo first.document.modes

omit [Length L] in
theorem Since.onward {first s t : Session L} {f : Modes → Modes} (h : Since first s)
    (ht : Onward f s t) (hf : Modes.Undone f) : Since first t where
  onPage := ht.onPage
  settings := ht.settings.trans h.settings
  started := ht.started.trans h.started
  modes := by
    rw [ht.modes]
    exact hf _ _ h.modes

/-- In the middle of songs with the same settings, where the switches stand alike. -/
structure Likewise (s t : Session L) : Prop where
  onPage : s.OnPage
  onPage_right : t.OnPage
  settings : s.settings = t.settings
  modes : s.document.modes = t.document.modes

variable {s t : Session L}

omit [Length L] in
theorem Likewise.onward {f : Modes → Modes} {s' t' : Session L} (h : Likewise s t)
    (hs : Onward f s s') (ht : Onward f t t') : Likewise s' t' where
  onPage := hs.onPage
  onPage_right := ht.onPage
  settings := by rw [hs.settings, ht.settings, h.settings]
  modes := by rw [hs.modes, ht.modes, h.modes]

end Session

namespace Typeset

open Session

variable {s t first : Session L}

/-! ## The session as a sink -/

theorem atLine_onward (hs : s.OnPage) (n : Nat) : Onward id s (atLine n s) :=
  Moves.onward (.single (.record s.file n s.log)) hs

theorem chord_onward (hs : s.OnPage) (n : Nat) (name : String) :
    Onward id s (sink.chord n name s).2 := by
  have hline := atLine_onward hs n
  show Onward id s (if s.startup then (name, atLine n s) else resolveChord name (atLine n s)).2
  rw [hs.inSong]
  exact hline.trans (Moves.onward (resolveChord_moves name (atLine n s)) hline.onPage)

theorem problem_onward (hs : s.OnPage) (n : Nat) (p : Problem) :
    Onward id s (sink.problem n p s) :=
  Moves.onward (.single (.record s.file n _)) hs

theorem line_switches (n : Nat) (content : Line) :
    Switches id (sink.line n content : Typeset L Unit) := by
  have hline : Wanders false (modify (atLine n) >>= fun _ => readLine content : Typeset L Unit) :=
    .bind (atLine_songlike n).wanders fun _ => (readLine_songlike content).wanders
  exact .of_wanders hline

theorem directive_switches (n : Nat) {text : String} (h : Keyword.splitText? text ≠ none) :
    Switches (dispatched L text) (sink.directive n text : Typeset L Unit) :=
  (Switches.of_wanders (atLine_songlike n).wanders).bind fun _ => dispatch_switches h

/-- A directive that ends in half a character is a fault. -/
theorem directive_broken (n : Nat) {text : String} (h : Keyword.splitText? text = none)
    (s : Session L) : sink.directive n text s = .error .brokenCharacter (atLine n s) := by
  show (modify (atLine n) >>= fun _ => dispatch text : Typeset L Unit) s = _
  unfold dispatch
  rw [h]
  rfl

/-! ## Two sessions -/

omit [Length L] in
theorem Switches.endAlike {f : Modes → Modes} {x : Typeset L Unit} (hx : Switches f x)
    (h : Likewise s t) : EndAlike x x s t Likewise fun _ => Likewise := by
  obtain ⟨_, s', hs, hs'⟩ := (hx s h.onPage).exists_ok
  obtain ⟨_, t', ht, ht'⟩ := (hx t h.onPage_right).exists_ok
  exact .of_ok hs ht (h.onward hs' ht')

omit [Length L] in
theorem shownChord_congr (h : s.settings = t.settings) (name : String) :
    (shownChord name s).1 = (shownChord name t).1 := by
  unfold shownChord
  rw [h]
  cases ChordName.read? name <;> rfl

omit [Length L] in
theorem resolveChord_congr (h : s.settings = t.settings) (name : String) :
    (resolveChord name s).1 = (resolveChord name t).1 := by
  unfold resolveChord
  split
  · rfl
  · exact shownChord_congr h name

theorem sink_relatesLikewise :
    (sink : Markup.Sink Fault (Session L)).Relates Likewise fun _ => Likewise where
  chord := by
    intro n name s t h
    refine ⟨?_, h.onward (chord_onward h.onPage n name) (chord_onward h.onPage_right n name)⟩
    show (if s.startup then (name, atLine n s) else resolveChord name (atLine n s)).1 =
      (if t.startup then (name, atLine n t) else resolveChord name (atLine n t)).1
    rw [h.onPage.inSong, h.onPage_right.inSong]
    exact resolveChord_congr (s := atLine n s) (t := atLine n t) h.settings name
  line := fun n content _ _ h => (line_switches n content).endAlike h
  problem := fun n p _ _ h =>
    h.onward (problem_onward h.onPage n p) (problem_onward h.onPage_right n p)
  inTab := fun _ _ h => congrArg Modes.inTab h.modes

theorem sink_relatesDirectivesLikewise :
    (sink : Markup.Sink Fault (Session L)).RelatesDirectives Likewise fun _ => Likewise := by
  intro n text s t h
  by_cases hsplit : Keyword.splitText? text = none
  · unfold EndAlike
    rw [directive_broken n hsplit, directive_broken n hsplit]
    exact ⟨rfl, h.onward (atLine_onward h.onPage n) (atLine_onward h.onPage_right n)⟩
  · exact (directive_switches n hsplit).endAlike h

/-- Every text has the same meaning in both: the same things are found in it, and it leaves the same
switches. So does every beginning of it, so that each directive meets the same switches. -/
def ReadAlike (s t : Session L) : Prop :=
  ∀ text, Markup.Reader.findings sink text s = Markup.Reader.findings sink text t ∧
    (endState (Markup.Reader.readText sink text) s).document.modes =
      (endState (Markup.Reader.readText sink text) t).document.modes

theorem readAlike_of_likewise (h : Likewise s t) : ReadAlike s t := by
  intro text
  have hread := Markup.Reader.readText_endAlike sink_relatesLikewise.recording text
    (fun _ => sink_relatesDirectivesLikewise.recording) (s := (s, [])) (t := (t, [])) ⟨h, rfl⟩
  obtain ⟨hlike, hfound⟩ := hread.endState
  rw [Markup.Reader.endState_readText sink text s, Markup.Reader.endState_readText sink text t]
  exact ⟨hfound, hlike.modes⟩

/-! ## Along a run -/

theorem dispatched_undone (text : String) : Modes.Undone (dispatched L text) := by
  intro m first h
  unfold dispatched
  split
  · exact h
  · split
    · exact h
    · unfold performed
      split
      · exact Directive.switched_undone _ m first h
      · exact h

omit [Length L] in
theorem Switches.since {f : Modes → Modes} {α : Type} {x : Typeset L α} (hx : Switches f x)
    (hf : Modes.Undone f) (h : Since first s) : Ends x s (fun _ => False) fun _ => Since first :=
  (hx s h.onPage).mono fun _ _ ht => h.onward ht hf

theorem id_undone : Modes.Undone id := fun _ _ h => h

theorem sink_keepsSince (first : Session L) :
    (sink : Markup.Sink Fault (Session L)).Keeps (Since first) (· = .brokenCharacter) where
  chord := fun n name _ h => h.onward (chord_onward h.onPage n name) id_undone
  line := fun n content _ h =>
    ((line_switches n content).since id_undone h).weaken fun _ h => h.elim
  problem := fun n p _ h => h.onward (problem_onward h.onPage n p) id_undone

theorem sink_keepsSinceDirectives (first : Session L) :
    (sink : Markup.Sink Fault (Session L)).KeepsDirectives (Since first)
      (· = .brokenCharacter) := by
  intro n text s h
  by_cases hsplit : Keyword.splitText? text = none
  · unfold Ends
    rw [directive_broken n hsplit]
  · exact ((directive_switches n hsplit).since (dispatched_undone text) h).weaken fun _ h => h.elim

theorem readText_since (text : String) (h : Since first s) :
    Ends (Markup.Reader.readText sink text) s (· = .brokenCharacter) fun _ => Since first :=
  Markup.Reader.readText_ends (sink_keepsSince first) text
    (fun _ => sink_keepsSinceDirectives first) h

theorem readBeginning_since (beginning : String) (h : Since first s) :
    Ends (Markup.Reader.readBeginning sink beginning) s (· = .brokenCharacter)
      fun _ => Since first :=
  Markup.Reader.readBeginning_ends (Markup.Reader.feedAll_ends (sink_keepsSince first) beginning
    (fun _ => sink_keepsSinceDirectives first) h)

/-- The first song has begun with `first`, or it is about to. -/
def Following (first s : Session L) : Prop := begin s = .ok () first ∨ Since first s

theorem begin_since (hfirst : Since first first) (h : Following first s) :
    ∃ t, begin s = .ok () t ∧ Since first t := by
  rcases h with h | h
  · exact ⟨first, h, hfirst⟩
  · exact ⟨s, begin_of_started h.started, h⟩

theorem songWith_since (hfirst : Since first first) (h : Following first s) (name : String)
    {x : Typeset L Unit} (hx : ∀ t, Since first t → Ends x t (· = .brokenCharacter)
      fun _ => Since first) :
    Ends (songWith name x) s (· = .brokenCharacter) fun _ => Since first := by
  obtain ⟨t, hbegin, ht⟩ := begin_since hfirst h
  refine .bind_ok hbegin ?_
  show Ends (if 0 < t.songs then _ else _) t _ _
  refine .optional (P := Since first) (fun _ => ?_) (fun _ => ht) fun u hu => ?_
  · exact (newSong_switches.since (Directive.switched_undone (.newSong : Directive L)) ht).weaken
      fun _ h => h.elim
  · refine .bind_ok rfl (.bind_ok rfl (.bind_ok rfl (hx _ ?_)))
    exact ⟨⟨hu.onPage.unlimited, hu.onPage.isOpen, hu.onPage.inSong⟩, hu.settings, hu.started,
      hu.modes⟩

theorem printSongs_since (hfirst : Since first first) (songs : List (String × String)) :
    Keeps (fun (_ : Unit) (s : Session L) => Following first s) (· = .brokenCharacter)
      (printSongs songs) :=
  .forM _ fun ⟨name, text⟩ _ _ s hs => by
    show Ends (readSong name text) s _ _
    rw [readSong_eq]
    exact (songWith_since hfirst hs name fun _ => readText_since text).mono fun _ _ ht => .inr ht

/-- The session as the first song finds it. -/
def firstSong (settings : Settings L) (configurations : List (String × String))
    (overrides : Overrides) : Session L :=
  endState (do prepare configurations overrides; begin) (.start settings .unlimited)

theorem withFirstPage_since {settings : Settings L} (h : s.Unprinted settings false)
    (log : Array (LogEntry L)) : Since (s.withFirstPage log) (s.withFirstPage log) := by
  refine ⟨IsBegun.onPage ⟨s, log, h, rfl⟩, rfl, rfl, ?_⟩
  obtain ⟨hinTab, hinBlock, htitle⟩ := h.outside
  show s.document.modes.reset.nextSong = s.document.modes.reset
  rcases hmodes : s.document.modes with ⟨⟩
  rw [hmodes] at hinTab hinBlock htitle
  cases hinTab
  cases hinBlock
  cases htitle
  rfl

/-- What is done after the preparation and any number of songs is done since the first song. -/
theorem afterSongs_since (settings : Settings L) (configurations : List (String × String))
    (overrides : Overrides) (songs : List (String × String)) {x : Typeset L Unit}
    {Q : Session L → Session L → Prop} (hx : ∀ first s : Session L, Since first first →
      Following first s → Ends x s (· = .brokenCharacter) fun _ => Q first) :
    Ends (do prepare configurations overrides; printSongs songs; x) (.start settings .unlimited)
      IsBreak fun _ => Q (firstSong settings configurations overrides) := by
  have hprepare := prepare_ends settings configurations overrides
  unfold Ends at hprepare
  rcases hs : prepare configurations overrides (.start settings .unlimited) with ⟨_, s⟩ | ⟨e, s⟩ <;>
    rw [hs] at hprepare
  · obtain ⟨_, _, hbegin, log, rfl⟩ := (begin_ends hprepare).exists_ok
    have hfirst := withFirstPage_since hprepare log
    have heq : firstSong settings configurations overrides = s.withFirstPage log :=
      endState_of_ok ((bind_of_ok hs).trans hbegin)
    rw [heq]
    refine .bind_ok hs (Ends.weaken ?_ fun _ => .inl)
    exact (printSongs_since hfirst songs () s (.inl hbegin)).bind fun _ t ht => hx _ t hfirst ht
  · unfold Ends
    rw [bind_eq, hs]
    exact hprepare

theorem readAlike_iff (h : t.OnPage) (hfirst : first.OnPage)
    (hsettings : t.settings = first.settings) :
    ReadAlike t first ↔ t.document.modes = first.document.modes := by
  refine ⟨fun hread => ?_, fun hmodes => readAlike_of_likewise ⟨h, hfirst, hsettings, hmodes⟩⟩
  -- an empty text leaves the switches as they are
  exact (hread "").2

variable (L) in
/-- The same directives are admitted, and definitions without keywords are read in the same way. -/
def TakenAlike (m m' : Modes) : Prop :=
  ∀ k args, (admitted? k args m : Option (Directive L)) = admitted? k args m' ∧
    ChordDefinition.read args m.fretOrder .song = ChordDefinition.read args m'.fretOrder .song

theorem isSome_admitted?_setIndent (m : Modes) :
    (admitted? .setIndent "" m : Option (Directive L)).isSome = m.extensions := by
  have hrefusal : ∀ extensions, refusal? .setIndent false extensions =
      if extensions then none else some (.extensionsDisabled "set_indent") := by decide
  rw [admitted?, hrefusal]
  cases m.extensions <;> rfl

/-- Without a base fret the first word cannot be read as one. -/
theorem isOk_read_baseless (order : FretOrder) :
    (ChordDefinition.read "X x 1 1 1 1 1" order .song).toBool = (order == .baseLast) := by
  cases order <;> decide +kernel

theorem takenAlike_iff {m m' : Modes} : TakenAlike L m m' ↔ m.Agree m' := by
  constructor
  · intro h
    refine ⟨?_, ?_⟩
    · rw [← isSome_admitted?_setIndent (L := L) m, (h .setIndent "").1, isSome_admitted?_setIndent]
    · have horder : (m.fretOrder == .baseLast) = (m'.fretOrder == .baseLast) := by
        rw [← isOk_read_baseless, (h .define "X x 1 1 1 1 1").2, isOk_read_baseless]
      revert horder
      cases m.fretOrder <;> cases m'.fretOrder <;> decide
  · rintro ⟨hextensions, horder⟩ k args
    rw [admitted?, admitted?, hextensions, horder]
    exact ⟨rfl, rfl⟩

/-- A song that begins after `s` finds the switches of the first song, but for the extensions and
the order of frets. If these agree too, every text has the meaning that it has in the first song;
if they do not, a directive is admitted in one of them only, or a definition is read otherwise. -/
def SwitchesBack (first s : Session L) : Prop :=
  ∃ t, newSong s = .ok () t ∧
    t.document.modes = { first.document.modes with
      extensions := s.document.modes.extensions, fretOrder := s.document.modes.fretOrder } ∧
    (t.document.modes = first.document.modes ↔ s.document.modes.Agree first.document.modes) ∧
    (ReadAlike t first ↔ s.document.modes.Agree first.document.modes) ∧
    (TakenAlike L t.document.modes first.document.modes ↔
      s.document.modes.Agree first.document.modes)

theorem Since.switchesBack (hfirst : first.OnPage) (h : Since first s) : SwitchesBack first s := by
  obtain ⟨_, t, hnew, ht⟩ := (newSong_switches s h.onPage).exists_ok
  have hmodes : t.document.modes = _ := ht.modes.trans h.modes
  have hread := readAlike_iff ht.onPage hfirst (ht.settings.trans h.settings)
  have htaken : TakenAlike L t.document.modes first.document.modes ↔
      s.document.modes.Agree first.document.modes := by
    rw [takenAlike_iff, hmodes]
    rfl
  rw [hmodes, Modes.returned_eq_iff] at hread
  refine ⟨t, hnew, hmodes, ?_, hread, htaken⟩
  rw [hmodes, Modes.returned_eq_iff]

/-- Whatever the configuration and the songs so far, as far as they have been read, a new song finds
the switches of the first one, but for the extensions and the order of frets. -/
theorem newSong_switchesBack (settings : Settings L) (configurations : List (String × String))
    (overrides : Overrides) (songs : List (String × String)) :
    Ends (do prepare configurations overrides; printSongs songs; begin)
        (.start settings .unlimited) IsBreak
        (fun _ => SwitchesBack (firstSong settings configurations overrides)) ∧
      ∀ name beginning : String,
        Ends (do prepare configurations overrides; printSongs songs; readPart name beginning)
          (.start settings .unlimited) IsBreak
          fun _ => SwitchesBack (firstSong settings configurations overrides) := by
  refine ⟨afterSongs_since settings configurations overrides songs fun first s hfirst hs => ?_,
    fun name beginning => afterSongs_since settings configurations overrides songs
      fun first s hfirst hs => ?_⟩
  · obtain ⟨t, hbegin, ht⟩ := begin_since hfirst hs
    exact .of_ok hbegin (Since.switchesBack hfirst.onPage ht)
  · exact (songWith_since hfirst hs name fun _ => readBeginning_since beginning).mono
      fun _ _ ht => Since.switchesBack hfirst.onPage ht

/-- A song that turns the extensions on, and the other order of frets. -/
def turningSong : String × String := ("a", "\x7bnew_define\x7d\n\x7benable_extensions\x7d\n")

/-- A song that needs both. -/
def needySong : String × String :=
  ("b", "\x7bset_indent: 4\x7d\n\x7bdefine: X x 1 1 1 1 1 1\x7d\n")

/-- A song that turns these switches leaves them so to the next one, which is printed without a
complaint after it, and with two where it comes first. -/
theorem newSong_keeps_switches :
    Ends (do prepare [] ⟨none, none, none, none, none, none⟩; printSongs [turningSong]; newSong)
      (.start .default .unlimited : Session Rat) (fun _ => False)
      (fun _ t => t.document.modes ≠
        (firstSong (L := Rat) .default [] ⟨none, none, none, none, none, none⟩).document.modes) ∧
    Ends (do prepare [] ⟨none, none, none, none, none, none⟩; printSongs [turningSong, needySong])
      (.start .default .unlimited : Session Rat) (fun _ => False)
      (fun _ t => t.diagnostics.length = 0) ∧
    Ends (do prepare [] ⟨none, none, none, none, none, none⟩; printSongs [needySong])
      (.start .default .unlimited : Session Rat) (fun _ => False)
      (fun _ t => t.diagnostics.length = 2) := by
  decide +kernel

end Typeset

end Songbook
