import Songbook.Proofs.ChordNames
import Songbook.Proofs.Refusals

/-!
# Printing lyrics alone

Where only lyrics are printed, chords come into the chord book and into the log, and go no further.
Two sessions that differ in nothing else (`Twins`) are treated alike by every step that does not
look at chords (`Heeds.twins`), and by texts that differ in their chord names (`sink_minds`). So
they draw the same, and no chords, in a whole run (`lyricsOnly_renamed`).
-/

namespace Songbook

open Markup

variable {L : Type}

namespace Session

/-- The same session with another transposition and other chords. -/
def retuned (s : Session L) (semitones : Int) (book : ChordBook) : Session L :=
  { s with
    settings := { s.settings with transpose := semitones }
    document := { s.document with chords := book } }

/-- Since `s` the same was drawn on both, and no chords. -/
def DrewLyrics (s t t' : Session L) : Prop :=
  t'.device = t.device ∧ ∃ ds, t.device.received.toList = s.device.received.toList ++ ds ∧
    ∀ d ∈ ds, d.isLyrical

/-- Two sessions that print lyrics alone and differ only in their chords and in the log. Since
`pre` they have drawn no chords. -/
structure Twins (pre : List (Drawing L)) (s t : Session L) : Prop where
  sight : s.sight false = t.sight false
  lyricsOnly : s.settings.lyricsOnly = true
  device : s.device = t.device
  received : ∃ ds, s.device.received.toList = pre ++ ds ∧ ∀ d ∈ ds, d.isLyrical

variable {pre : List (Drawing L)} {s t : Session L}

theorem Twins.lyricsOnly_right (h : Twins pre s t) : t.settings.lyricsOnly = true := by
  have hsettings : s.settings.lyricsOnly = t.settings.lyricsOnly :=
    congrArg (·.settings.lyricsOnly) h.sight
  rw [← hsettings]
  exact h.lyricsOnly

theorem Twins.document_eq (h : Twins pre s t) :
    t.document = { s.document with chords := t.document.chords } := by
  have hdocument : { s.document with chords := .empty false } =
      { t.document with chords := .empty false } := congrArg (·.document) h.sight
  calc t.document
      = { ({ t.document with chords := .empty false } : Document L) with
          chords := t.document.chords } := rfl
    _ = _ := by rw [← hdocument]

theorem Twins.inTab (h : Twins pre s t) : s.document.modes.inTab = t.document.modes.inTab :=
  congrArg (·.document.modes.inTab) h.sight

/-- The chords, the line being read and the log may become others on both sides. -/
theorem Twins.murmur (h : Twins pre s t) (chords chords' : ChordBook) (line line' : Nat)
    (log log' : Array (LogEntry L)) :
    Twins pre { s with document := { s.document with chords }, line, log }
      { t with document := { t.document with chords := chords' }, line := line', log := log' } :=
  ⟨h.sight, h.lyricsOnly, h.device, h.received⟩

theorem Twins.changed {f : Session L → Session L} (h : Twins pre s t) (hf : Unseeing false f) :
    Twins pre (f s) (f t) := by
  refine ⟨?_, ?_, ?_, ?_⟩
  · rw [hf.sight s, hf.sight t, h.sight]
  · rw [hf.settings]
    exact h.lyricsOnly
  · rw [hf.device, hf.device, h.device]
  · rw [hf.device]
    exact h.received

end Session

namespace Typeset

open Session

variable {α : Type} {pre : List (Drawing L)} {s t : Session L}

theorem draw_twins {d : Drawing L} (hd : d.isLyrical) (h : Twins pre s t) :
    EndAlike (draw d) (draw d) s t (Twins pre) fun _ => Twins pre := by
  have hdrawn : Twins pre
      { s with device := { s.device with received := s.device.received.push d } }
      { t with device := { t.device with received := t.device.received.push d } } := by
    obtain ⟨ds, hds, hlyrical⟩ := h.received
    refine ⟨h.sight, h.lyricsOnly, ?_, ds ++ [d], ?_, ?_⟩
    · rw [h.device]
    · rw [Array.toList_push, hds, List.append_assoc]
    · simpa [or_imp, forall_and, hd] using hlyrical
  have hrefusal : s.device.refusal? = t.device.refusal? := congrArg Device.refusal? h.device
  unfold EndAlike draw Device.draw
  rw [hrefusal]
  cases t.device.refusal? with
  | none => exact ⟨rfl, hdrawn⟩
  | some reason => exact ⟨rfl, hdrawn⟩

/-- What does not look at chords treats twins alike. -/
theorem Heeds.twins {x : Typeset L α} (hx : Heeds false x) {s t : Session L}
    (h : Twins pre s t) : EndAlike x x s t (Twins pre) fun _ => Twins pre := by
  induction hx generalizing s t with
  | pure a => exact ⟨rfl, h⟩
  | throw e => exact ⟨rfl, h⟩
  | bind _ _ ihx ihf => exact (ihx h).bind fun a _ _ => ihf a
  | @look _ f hsight _ ih =>
    have hs : s.Admits false := fun _ => h.lyricsOnly
    have hsame : f t = f s := by
      rw [hsight s hs, hsight t fun _ => h.lyricsOnly_right, h.sight]
    unfold EndAlike
    rw [get_bind, get_bind, hsame]
    exact ih s hs h
  | draw hd => exact draw_twins (hd rfl) h
  | note e => exact ⟨rfl, h.murmur _ _ _ _ _ _⟩
  | report p => exact ⟨rfl, h.murmur _ _ _ _ _ _⟩
  | change hf => exact ⟨rfl, h.changed hf⟩
  | enter _ hx =>
    obtain ⟨book, log, hs⟩ := hx s
    obtain ⟨book', log', ht⟩ := hx t
    exact .of_ok hs ht (h.murmur _ _ _ _ _ _)

variable [Length L]

/-! ## Lines -/

/-- The row of chords takes the same room, and nothing is drawn on it. -/
theorem chordRow_twins {line line' : Line} (htext : line.text = line'.text)
    (textFont chordFont : Font) (h : Twins pre s t) :
    EndAlike (chordRow line textFont chordFont) (chordRow line' textFont chordFont) s t (Twins pre)
      fun _ => Twins pre := by
  have hblank : line.isBlank = line'.isBlank := congrArg (·.toList.all (· == ' ')) htext
  refine (payBlankSpace_heeds.twins h).bind fun _ s t h =>
    ((advance_heeds _).twins h).bind fun _ s t h => ?_
  have hlast : ∀ s t : Session L, Twins pre s t → EndAlike
      (do openChorus (size chordFont)
          if !(← get).settings.lyricsOnly && line.hasChords then
            moveToLine
            draw (.chords line textFont chordFont) : Typeset L Unit)
      (do openChorus (size chordFont)
          if !(← get).settings.lyricsOnly && line'.hasChords then
            moveToLine
            draw (.chords line' textFont chordFont)) s t (Twins pre) fun _ => Twins pre := by
    refine fun s t h => ((openChorus_heeds (size chordFont)).twins h).bind fun _ s t h => ?_
    unfold EndAlike
    rw [get_bind, get_bind, h.lyricsOnly, h.lyricsOnly_right]
    exact ⟨rfl, h⟩
  have hroom : (!line'.isBlank &&
        decide (t.document.cursor.vertical - size textFont ≤ t.document.geometry.bottom)) =
      (!line.isBlank &&
        decide (s.document.cursor.vertical - size textFont ≤ s.document.geometry.bottom)) := by
    rw [h.document_eq, hblank]
  show EndAlike (if (!line.isBlank && _) = true then _ else _)
    (if (!line'.isBlank && _) = true then _ else _) s t _ _
  rw [hroom]
  exact EndAlike.optional (fun h => (advance_heeds _).twins h) hlast h

theorem lyricsRow_congr {line line' : Line} (htext : line.text = line'.text) (slot : FontSlot)
    (font : Font) : (lyricsRow line slot font : Typeset L Unit) = lyricsRow line' slot font := by
  unfold lyricsRow Line.isBlank
  rw [htext]

/-- Outside of tablatures lines are printed alike if they have the same lyrics, and chords both or
neither. -/
theorem setLineOn_twins {line line' : Line} (hline : line.text = line'.text ∧
      line.hasChords = line'.hasChords) (hTab : s.document.modes.inTab = false)
    (h : Twins pre s t) :
    EndAlike (setLineOn s.document line) (setLineOn t.document line') s t (Twins pre)
      fun _ => Twins pre := by
  obtain ⟨htext, hchords⟩ := hline
  have hsame : (setLineOn t.document line' : Typeset L Unit) = setLineOn s.document line' := by
    rw [h.document_eq]
    rfl
  have hlyrics : ∀ font, ∀ s t : Session L, Twins pre s t → EndAlike
      (lyricsRow line .text font) (lyricsRow line' .text font) s t (Twins pre)
      fun _ => Twins pre := by
    intro font s t h
    rw [← lyricsRow_congr htext]
    exact (lyricsRow_heeds line (by decide) font).twins h
  rw [hsame]
  unfold setLineOn
  rw [hTab, hchords]
  exact EndAlike.optional (fun h => chordRow_twins htext _ _ h) (hlyrics _) h

theorem readLine_twins {line line' : Line} (hline : s.document.modes.inTab = false →
      line.text = line'.text ∧ line.hasChords = line'.hasChords) (h : Twins pre s t) :
    EndAlike (readLine line) (readLine line') s t (Twins pre) fun _ => Twins pre := by
  have hstartup : s.startup = t.startup := congrArg (·.startup) h.sight
  show EndAlike (if s.startup = true then _ else _) (if t.startup = true then _ else _) s t _ _
  rw [← hstartup]
  refine .ite ?_ ?_
  · have hreport : ∀ c : Prop, [Decidable c] → ∀ s : Session L, ∃ log,
        (if c then report .notADirective else pure () : Typeset L Unit) s =
          .ok () { s with log := log } := by
      intro c _ s
      split
      · exact ⟨_, rfl⟩
      · exact ⟨s.log, rfl⟩
    obtain ⟨log, hs⟩ := hreport ((!line.text.isEmpty) = true) s
    obtain ⟨log', ht⟩ := hreport ((!line'.text.isEmpty) = true) t
    exact .of_ok hs ht (h.murmur _ _ _ _ _ _)
  · rw [h.lyricsOnly, h.lyricsOnly_right, ← h.inTab]
    cases hTab : s.document.modes.inTab with
    | true => exact ⟨rfl, h⟩
    | false => exact setLineOn_twins (hline hTab) hTab h

/-! ## Songs -/

theorem sink_minds : (sink (L := L)).Minds (Twins pre) fun _ => Twins pre := by
  have hchord : ∀ n name, ∀ s : Session L, ∃ book log, (sink.chord n name s).2 =
      { s with document := { s.document with chords := book }, line := n, log := log } := by
    intro n name s
    dsimp only [sink]
    split
    · exact ⟨_, _, rfl⟩
    · exact resolveChord_eq name (atLine n s)
  refine
    { chord_inTab := fun n name s => ?_
      problem_inTab := fun _ _ _ => rfl
      inTab := fun _ _ h => h.inTab
      chord_left := fun n name s t h => ?_
      chord_right := fun n name s t h => ?_
      problem_left := fun _ _ _ _ h => h.murmur _ _ _ _ _ _
      problem_right := fun _ _ _ _ h => h.murmur _ _ _ _ _ _
      directive := fun n text _ _ h => (sink_directive_heeds n text).twins h
      line := fun n content content' s t h hline => ?_ }
  · obtain ⟨book, log, heq⟩ := hchord n name s
    rw [heq]
    rfl
  · obtain ⟨book, log, heq⟩ := hchord n name s
    rw [heq]
    exact h.murmur book _ n _ log _
  · obtain ⟨book, log, heq⟩ := hchord n name t
    rw [heq]
    exact h.murmur _ book _ n _ log
  · exact readLine_twins (s := atLine n s) (t := atLine n t) hline
      (h.murmur _ _ _ _ _ _)

/-- Twice the same call, but for the names of the chords in the text that it reads. -/
inductive Call.Renamed : Call → Call → Prop
  | configuration (name : String) {text text' : String}
      (h : Markup.Renamed false text.toList text'.toList) :
      Renamed (.configuration name text) (.configuration name text')
  | overrides (o : Overrides) : Renamed (.overrides o) (.overrides o)
  | start : Renamed .start .start
  | song (name : String) {text text' : String}
      (h : Markup.Renamed false text.toList text'.toList) :
      Renamed (.song name text) (.song name text')
  | finish : Renamed .finish .finish

omit [Length L] in
theorem inStartup_twins {x y : Typeset L Unit} (hxy : ∀ s t : Session L, Twins pre s t →
      EndAlike x y s t (Twins pre) fun _ => Twins pre) (h : Twins pre s t) :
    EndAlike (inStartup x) (inStartup y) s t (Twins pre) fun _ => Twins pre := by
  have hstartup : ∀ {s t : Session L} (on : Bool), Twins pre s t →
      Twins pre { s with startup := on } { t with startup := on } := fun on h =>
    ⟨congrArg (fun u => { u with startup := on }) h.sight, h.lyricsOnly, h.device, h.received⟩
  have hrun := hxy _ _ (hstartup true h)
  unfold EndAlike inStartup at *
  rcases hs : x { s with startup := true } with ⟨a, s'⟩ | ⟨e, s'⟩ <;>
    rcases ht : y { t with startup := true } with ⟨b, t'⟩ | ⟨e', t'⟩ <;> rw [hs, ht] at hrun
  · exact ⟨rfl, hstartup false hrun.2⟩
  · exact hrun
  · exact hrun
  · exact ⟨hrun.1, hstartup false hrun.2⟩

theorem run_twins {call call' : Call} (hcall : call.Renamed call') (h : Twins pre s t) :
    EndAlike call.run call'.run s t (Twins pre) fun _ => Twins pre := by
  cases hcall with
  | @configuration name text text' htext =>
    have hfile : Heeds false (do
        note (.readingConfiguration name)
        modify fun s => { s with file := name } : Typeset L Unit) :=
      .bind (.note _) fun _ => aside_heeds (fun _ => rfl) fun _ => rfl
    show EndAlike ((do note (.readingConfiguration name); modify fun s => { s with file := name }) >>=
        fun _ => inStartup (Reader.readText sink text))
      ((do note (.readingConfiguration name); modify fun s => { s with file := name }) >>=
        fun _ => inStartup (Reader.readText sink text')) s t _ _
    exact (hfile.twins h).bind fun _ s t h => inStartup_twins
      (fun _ _ h => Reader.readText_renamed sink_minds htext h) h
  | overrides o => exact (applyOverrides_heeds o).twins h
  | start => exact begin_heeds.twins h
  | @song name text text' htext =>
    show EndAlike (readSong name text) (readSong name text') s t _ _
    rw [readSong_eq, readSong_eq, songWith_bind, songWith_bind name (Reader.readText sink text')]
    exact ((songWith_heeds name (.pure ())).twins h).bind fun _ _ _ h =>
      Reader.readText_renamed sink_minds htext h
  | finish => exact finish_heeds.twins h

theorem runs_twins {calls calls' : List Call} (hcalls : List.Forall₂ Call.Renamed calls calls')
    {s t : Session L} (h : Twins pre s t) :
    EndAlike (calls.forM Call.run) (calls'.forM Call.run) s t (Twins pre) fun _ => Twins pre := by
  induction hcalls generalizing s t with
  | nil => exact ⟨rfl, h⟩
  | cons hcall _ ih => exact EndAlike.bind (run_twins hcall h) fun _ _ _ => ih

/-- Where only lyrics are printed, neither the names of the chords in the texts nor the
transposition nor the chords that are known matter: calls that differ in these alone end in the same
way and draw the same. They draw no rows of chords, no diagrams and no tablatures. -/
theorem lyricsOnly_renamed {s : Session L} (hs : s.settings.lyricsOnly = true) (semitones : Int)
    (book : ChordBook) {calls calls' : List Call}
    (hcalls : List.Forall₂ Call.Renamed calls calls') :
    outcomeOf (calls.forM Call.run) s =
      outcomeOf (calls'.forM Call.run) (s.retuned semitones book) ∧
    s.DrewLyrics (endState (calls.forM Call.run) s)
      (endState (calls'.forM Call.run) (s.retuned semitones book)) := by
  have hstart : Twins s.device.received.toList s (s.retuned semitones book) :=
    ⟨rfl, hs, rfl, [], by simp, by simp⟩
  have hruns := runs_twins hcalls hstart
  have htwins := hruns.endState
  exact ⟨hruns.outcomeOf_eq, htwins.device.symm, htwins.received⟩

/-- A session that prints lyrics alone. -/
def wordsOnly : Session Rat := .start { Settings.default with lyricsOnly := true } .unlimited

/-- A song of one word, with a chord over it. -/
def oneWord (chord : String) : List Call := [.song "" ("[" ++ chord ++ "]la"), .finish]

/-- Another name over the word, and three semitones more. -/
theorem lyricsOnly_renamed_oneWord :
    succeeds ((oneWord "C").forM Call.run) wordsOnly = true ∧
    wordsOnly.DrewLyrics (endState ((oneWord "C").forM Call.run) wordsOnly)
      (endState ((oneWord "Dm").forM Call.run) (wordsOnly.retuned 3 (.empty true))) := by
  have hsong : Markup.Renamed false ('[' :: ['C'] ++ ']' :: ['l', 'a'])
      ('[' :: ['D', 'm'] ++ ']' :: ['l', 'a']) := .chord (by decide) (by decide) (.refl _ _)
  have hcalls : List.Forall₂ Call.Renamed (oneWord "C") (oneWord "Dm") :=
    .cons (.song "" hsong) (.cons .finish .nil)
  exact ⟨by decide +kernel, (lyricsOnly_renamed (s := wordsOnly) rfl 3 (.empty true) hcalls).2⟩

end Typeset

end Songbook
