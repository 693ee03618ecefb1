import Songbook.Proofs.RowPairs
import Songbook.Proofs.Tellings

/-!
# The orders of a run

What a run tells the session in its songs makes orders. A line makes two of them, one for the row of
its chords and one for its lyrics. Hearing what is told is following its orders (`told_eq_after`), so
songs are printed by following their orders from the first page on (`run_follows`), and the moments
between the orders are the states that a run goes through.
-/

namespace Songbook

/-- One thing that a run tells the session in its songs. -/
inductive Order where
  | song (name : String)
  | chord (line : Nat) (name : String)
  | directive (line : Nat) (text : String)
  | problem (line : Nat) (problem : Problem)
  /-- The row of chords over a line. -/
  | chords (line : Nat) (content : Line)
  | lyrics (content : Line)
deriving DecidableEq

/-- The keyword of the directive prints a title or a subtitle. -/
def isHeadingText (text : String) : Bool :=
  match Keyword.splitText? text with
  | some (name, _) => (Keyword.ofName? name).any Keyword.isHeading
  | none => false

/-- Prints a title or a subtitle. -/
def Order.isHeading : Order → Bool
  | .directive _ text => isHeadingText text
  | _ => false

def Markup.Event.orders : Markup.Event → List Order
  | .chord n name => [.chord n name]
  | .directive n text => [.directive n text]
  | .line n content => [.chords n content, .lyrics content]
  | .problem n p => [.problem n p]

namespace Typeset

open Session

/-- Lines are shown: a tablature is not if only lyrics are. -/
def showsLines (s : Session Rat) : Bool := !(s.document.modes.inTab && s.settings.lyricsOnly)

/-- The line takes a row for chords. -/
def takesChordRow (s : Session Rat) (line : Line) : Bool :=
  !((s.document.modes.autoSpace.current || s.document.modes.inTab) && !line.hasChords)

/-- What the session does at an order. -/
def follow : Order → Typeset Rat Unit
  | .song name => songWith name (pure ())
  | .chord n name => modify fun s => (sink.chord n name s).2
  | .directive n text => sink.directive n text
  | .problem n p => modify (sink.problem n p)
  | .chords n content => do
    modify (atLine n)
    let s ← get
    if showsLines s && takesChordRow s content then
      chordRow content (lyricsFont s) (chordsFont s)
  | .lyrics content => do
    let s ← get
    if showsLines s then lyricsRow content (lyricsSlot s) (lyricsFont s)

end Typeset

namespace Session

/-- After an order, be it broken off by half a character. -/
def followed (s : Session Rat) (o : Order) : Session Rat := endState (Typeset.follow o) s

/-- After some orders. -/
def after (s : Session Rat) (os : List Order) : Session Rat := os.foldl followed s

/-- After the last page of the song. -/
def songDone (s : Session Rat) : Session Rat := endState Typeset.endSong s

/-- After the last song, the index if there is to be one, and the end of the document. -/
def finished (s : Session Rat) : Session Rat :=
  (if s.settings.tableOfContents then s.songDone.indexPrinted else s.songDone).closed

/-- Before, between and after the orders. -/
def moments (s : Session Rat) (os : List Order) : List (Session Rat) := os.scanl followed s

variable {s : Session Rat} {os os' : List Order}

theorem after_append (s : Session Rat) (os os' : List Order) :
    s.after (os ++ os') = (s.after os).after os' :=
  List.foldl_append

theorem after_cons (s : Session Rat) (o : Order) (os : List Order) :
    s.after (o :: os) = (s.followed o).after os := rfl

theorem moments_cons (s : Session Rat) (o : Order) (os : List Order) :
    s.moments (o :: os) = s :: (s.followed o).moments os := List.scanl_cons

theorem after_mem_moments (s : Session Rat) (os os' : List Order) :
    s.after os ∈ s.moments (os ++ os') := by
  induction os generalizing s with
  | nil =>
    cases os' with
    | nil => exact List.mem_singleton_self _
    | cons o os' =>
      rw [List.nil_append, moments_cons]
      exact List.mem_cons_self
  | cons o os ih =>
    rw [List.cons_append, moments_cons]
    exact List.mem_cons_of_mem _ (ih (s.followed o))

theorem last_mem_moments (s : Session Rat) (os : List Order) : s.after os ∈ s.moments os := by
  have hmem := after_mem_moments s os []
  rwa [List.append_nil] at hmem

theorem mem_moments {m : Session Rat} (h : m ∈ s.moments os) :
    ∃ before rest, os = before ++ rest ∧ m = s.after before := by
  induction os generalizing s with
  | nil => exact ⟨[], [], rfl, List.mem_singleton.1 h⟩
  | cons o os ih =>
    rw [moments_cons] at h
    rcases List.mem_cons.1 h with rfl | h
    · exact ⟨[], o :: os, rfl, rfl⟩
    · obtain ⟨before, rest, rfl, hm⟩ := ih h
      exact ⟨o :: before, rest, rfl, hm⟩

/-- The moments of some orders among others. -/
theorem moments_within {before rest : List Order} {m : Session Rat}
    (h : m ∈ (s.after before).moments os) : m ∈ s.moments (before ++ (os ++ rest)) := by
  obtain ⟨os₁, os₂, rfl, rfl⟩ := mem_moments h
  have hmem := after_mem_moments s (before ++ os₁) (os₂ ++ rest)
  rw [after_append] at hmem
  simpa using hmem

/-- What every order keeps holds at every moment. -/
theorem moments_keep {I : Session Rat → Prop} (h : I s)
    (step : ∀ m ∈ s.moments os, ∀ o, I m → I (m.followed o)) : ∀ m ∈ s.moments os, I m := by
  induction os generalizing s with
  | nil =>
    intro m hm
    rwa [List.mem_singleton.1 hm]
  | cons o os ih =>
    rw [moments_cons] at step ⊢
    intro m hm
    rcases List.mem_cons.1 hm with rfl | hm
    · exact h
    · exact ih (step s List.mem_cons_self o h)
        (fun m hm => step m (List.mem_cons_of_mem _ hm)) m hm

theorem Move.edit {edits : Bool} {t : Session Rat} (h : Move edits s t) : Move true s t := by
  cases h with
  | draw hd => exact .draw hd
  | climb vertical blankSpace chorus => exact .climb vertical blankSpace chorus
  | nextColumn h => exact .nextColumn h
  | turn h => exact .turn h
  | useChord name => exact .useChord name
  | record file line log => exact .record file line log
  | setColumns _ count => exact .setColumns rfl count
  | nextSong _ h => exact .nextSong rfl h
  | revise _ d hg hc => exact .revise rfl d hg hc
  | count _ songs => exact .count rfl songs

/-- Only edits change the fonts. -/
theorem Moves.styles {t : Session Rat} (h : Moves false s t) :
    t.document.styles = s.document.styles := by
  refine h.keep (I := fun t => t.document.styles = s.document.styles) ?_ rfl
  intro t u hmove ht
  cases hmove with
  | revise he => cases he
  | nextSong he => cases he
  | _ => exact ht

end Session

namespace Typeset

open Session

variable {settings : Settings Rat} {s t u : Session Rat}

/-! ## Lines -/

theorem follow_lyrics_of_moves (hs : s.OnPage) (h : Moves false s t) (content : Line) :
    follow (.lyrics content) t = (if showsLines s then
      lyricsRow content (lyricsSlot s) (lyricsFont s) else pure ()) t := by
  have hon := h.onward hs
  have hshows : showsLines t = showsLines s := by
    rw [showsLines, hon.modes, hon.settings]
    rfl
  have hslot : lyricsSlot t = lyricsSlot s := by
    rw [lyricsSlot, hon.modes]
    rfl
  have hfont : lyricsFont t = lyricsFont s := by rw [lyricsFont, hslot, h.styles, lyricsFont]
  rw [← hshows, ← hslot, ← hfont]
  rfl

/-- A line is its row of chords and its lyrics. -/
theorem line_follows (hs : s.OnPage) (n : Nat) (content : Line) :
    sink.line n content s = (do follow (.chords n content); follow (.lyrics content)) s := by
  let u := atLine n s
  have hu : u.OnPage := ⟨hs.unlimited, hs.isOpen, hs.inSong⟩
  have hread : sink.line n content s =
      (if showsLines u then setLine content else pure () : Typeset Rat Unit) u := by
    show (if s.startup then _ else if showsLines u then setLine content else pure () :
      Typeset Rat Unit) u = _
    rw [hs.inSong, if_neg Bool.false_ne_true]
  have hset : setLine content u = (if takesChordRow u content then do
      chordRow content (lyricsFont u) (chordsFont u)
      lyricsRow content (lyricsSlot u) (lyricsFont u)
    else lyricsRow content (lyricsSlot u) (lyricsFont u)) u := rfl
  have hchords : follow (.chords n content) s = (if showsLines u && takesChordRow u content then
      chordRow content (lyricsFont u) (chordsFont u) else pure ()) u := rfl
  rw [hread]
  by_cases hshows : showsLines u = true
  · rw [if_pos hshows, hset]
    by_cases htakes : takesChordRow u content = true
    · -- the row of chords may turn the page, but fonts and modes stay as they are
      have hrow : Ends (chordRow content (lyricsFont u) (chordsFont u)) u (fun _ => False)
          fun _ t => Moves false u t :=
        ((chordRow_songlike content _ _).wanders.ends hu).weaken fun _ h => Bool.noConfusion h.1
      obtain ⟨_, v, hv, hmoves⟩ := hrow.exists_ok
      rw [hshows, htakes, Bool.and_self, if_pos rfl] at hchords
      rw [if_pos htakes, bind_of_ok hv, bind_of_ok (hchords.trans hv),
        follow_lyrics_of_moves hu hmoves, if_pos hshows]
    · rw [hshows, Bool.eq_false_iff.2 htakes, Bool.and_false, if_neg Bool.false_ne_true] at hchords
      rw [if_neg htakes, bind_of_ok hchords, follow_lyrics_of_moves hu .refl, if_pos hshows]
  · rw [Bool.eq_false_iff.2 hshows, Bool.false_and, if_neg Bool.false_ne_true] at hchords
    rw [if_neg hshows, bind_of_ok hchords, follow_lyrics_of_moves hu .refl, if_neg hshows]

/-! ## Along a run -/

theorem ends_of_wanders (h : s.InSong settings) {x : Typeset Rat Unit} (hx : Wanders false x) :
    Ends x s (fun _ => False) fun _ t => t.InSong settings :=
  ((hx.ends h.onPage).mono fun _ _ ht =>
    ht.keep (I := fun t => t.InSong settings) (fun _ _ hmove hu => hu.moves (.single hmove.edit))
      h).weaken fun _ h => Bool.noConfusion h.1

/-- Every order is followed to its end, but for a directive that ends in half a character. -/
theorem follow_ends (h : s.InSong settings) {o : Order}
    (ho : ∀ n text, o = .directive n text → Keyword.splitText? text ≠ none) :
    Ends (follow o) s (fun _ => False) fun _ t => t.InSong settings := by
  have hkeeps : (sink : Markup.Sink Fault (Session Rat)).Keeps (fun t => t.InSong settings)
      (Interrupts false) :=
    sink_keeps (fun _ h => h.onPage) fun _ _ hmove ht => ht.moves (.single hmove.edit)
  cases o with
  | song name => exact songWith_pure_inSong h name
  | chord n name => exact hkeeps.chord n name s h
  | directive n text =>
    exact (sink_keepsDirectives (I := fun t => t.InSong settings) (fun _ h => h.onPage)
      (fun _ _ hmove ht => ht.moves (.single hmove)) n text s h).faultless
      (directive_switches n (ho n text rfl) s h.onPage)
  | problem n p => exact hkeeps.problem n p s h
  | chords n content =>
    exact ends_of_wanders h (.bind (atLine_songlike n).wanders fun _ => .read fun _ _ _ =>
      .ite (chordRow_songlike content _ _).wanders (.pure _))
  | lyrics content =>
    exact ends_of_wanders h (.read fun _ _ _ =>
      .ite (lyricsRow_songlike content _ _).wanders (.pure _))

theorem followed_of_broken (n : Nat) {text : String} (h : Keyword.splitText? text = none)
    (s : Session Rat) : s.followed (.directive n text) = atLine n s := by
  have hbroken : follow (.directive n text) s = .error .brokenCharacter (atLine n s) :=
    directive_broken n h s
  rw [Session.followed, endState, hbroken]

theorem followed_inSong (h : s.InSong settings) (o : Order) : (s.followed o).InSong settings := by
  by_cases ho : ∀ n text, o = .directive n text → Keyword.splitText? text ≠ none
  · obtain ⟨_, t, hok, ht⟩ := (follow_ends h ho).exists_ok
    rwa [Session.followed, endState_of_ok hok]
  · push Not at ho
    obtain ⟨n, text, rfl, hsplit⟩ := ho
    rw [followed_of_broken n hsplit]
    exact h.moves (.single (.record s.file n s.log))

theorem after_inSong (h : s.InSong settings) (os : List Order) :
    (s.after os).InSong settings := by
  induction os generalizing s with
  | nil => exact h
  | cons o os ih => exact ih (followed_inSong h o)

/-- What is told, as orders. -/
def tellingOrders : Telling → List Order
  | .song name => [.song name]
  | .found e => e.orders

/-- Hearing a telling is following its orders. -/
theorem told_eq_after (h : s.InSong settings) (x : Telling) : s.told x = s.after (tellingOrders x) := by
  match x with
  | .song name | .found (.chord ..) | .found (.directive ..) | .found (.problem ..) => rfl
  | .found (.line n content) =>
    obtain ⟨_, t, hchords, ht⟩ := (follow_ends h (o := .chords n content) nofun).exists_ok
    obtain ⟨_, u, hlyrics, -⟩ := (follow_ends ht (o := .lyrics content) nofun).exists_ok
    have hline := (line_follows h.onPage n content).trans ((bind_of_ok hchords).trans hlyrics)
    have htold : s.told (.found (.line n content)) = u := endState_of_ok hline
    have hfollowed : s.followed (.chords n content) = t := endState_of_ok hchords
    have hlast : t.followed (.lyrics content) = u := endState_of_ok hlyrics
    show _ = (s.followed (.chords n content)).followed (.lyrics content)
    rw [htold, hfollowed, hlast]

theorem toldAll_eq_after (h : s.InSong settings) (xs : List Telling) :
    s.toldAll xs = s.after (xs.flatMap tellingOrders) := by
  induction xs generalizing s with
  | nil => rfl
  | cons x xs ih =>
    rw [List.flatMap_cons, after_append, ← told_eq_after h x]
    exact ih (told_inSong h x)

/-- What is found in a text, as orders. -/
def textOrders (s : Session Rat) (text : String) : List Order :=
  (Markup.Reader.findings sink text s).flatMap Markup.Event.orders

/-- The orders of a song printed after `s`. -/
def songOrders (s : Session Rat) (name text : String) : List Order :=
  .song name :: textOrders (s.followed (.song name)) text

/-- The orders of songs printed after `s`. -/
def songsOrders : Session Rat → List (String × String) → List Order
  | _, [] => []
  | s, (name, text) :: songs =>
    songOrders s name text ++ songsOrders (s.after (songOrders s name text)) songs

/-- The orders of a whole run. -/
def runOrders (settings : Settings Rat) (configurations : List (String × String))
    (overrides : Overrides) (songs : List (String × String)) : List Order :=
  songsOrders (firstSong settings configurations overrides) songs

theorem songOrders_eq (s : Session Rat) (name text : String) :
    songOrders s name text = (songTellings s name text).flatMap tellingOrders := by
  rw [songTellings, textTellings, List.flatMap_cons, List.flatMap_map]
  rfl

theorem songsOrders_eq (h : s.InSong settings) (songs : List (String × String)) :
    songsOrders s songs = (songsTellings s songs).flatMap tellingOrders := by
  induction songs generalizing s with
  | nil => rfl
  | cons song songs ih =>
    obtain ⟨name, text⟩ := song
    rw [songsOrders, songsTellings, List.flatMap_append, songOrders_eq, ← toldAll_eq_after h,
      ih (toldAll_inSong h _)]

theorem endSong_eq (h : s.InSong settings) :
    endSong s = .ok () s.songDone ∧ SongsOver settings s.songDone := by
  have hover : Ends endSong s (· = .brokenCharacter) fun _ => SongsOver settings := by
    have hends := songsOver_ends (.inr h)
    unfold Ends at hends ⊢
    rwa [bind_of_ok (begin_of_started h.started)] at hends
  obtain ⟨_, t, hok, ht⟩ := (hover.faultless
    ((endSong_ends false h.onPage).weaken fun _ h => Bool.noConfusion h.1)).exists_ok
  rw [Session.songDone, endState_of_ok hok]
  exact ⟨hok, ht⟩

theorem finish_eq (h : s.InSong settings) : finish s = .ok () s.finished := by
  obtain ⟨hend, hover⟩ := endSong_eq h
  have hsettings : s.songDone.settings = s.settings := hover.settings.trans h.settings_eq.symm
  refine (bind_of_ok (begin_of_started h.started)).trans ((bind_of_ok hend).trans ?_)
  show (if s.songDone.settings.tableOfContents then printIndex >>= fun _ => closeDocument
    else closeDocument) s.songDone = _
  rw [hsettings]
  unfold Session.finished
  split
  · exact (bind_of_ok (printIndex_eq hover.unlimited hover.inSong)).trans
      (closeDocument_eq (indexPrinted_unlimited hover.unlimited hover.inSong))
  · exact closeDocument_eq hover.unlimited

/-- A run follows its orders from the first page on, and then it finishes the document. -/
theorem run_follows (settings : Settings Rat) (configurations : List (String × String))
    (overrides : Overrides) (songs : List (String × String)) :
    RunsTo settings configurations overrides songs fun t =>
      (firstSong settings configurations overrides).IsBegun settings ∧
        t = ((firstSong settings configurations overrides).after
          (runOrders settings configurations overrides songs)).finished := by
  refine ⟨run_hears settings configurations overrides songs (fun _ _ => finish_congr)
    fun hbegins => ?_⟩
  have hsong := hbegins.inSong
  rw [runTellings, toldAll_eq_after hsong, ← songsOrders_eq hsong]
  have hlast := toldAll_inSong hsong (runTellings settings configurations overrides songs)
  rw [runTellings, toldAll_eq_after hsong, ← songsOrders_eq hsong] at hlast
  exact .of_ok (finish_eq hlast) ⟨hbegins.isBegun, rfl⟩

end Typeset

end Songbook
