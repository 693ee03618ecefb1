import Songbook.Proofs.Register
import Songbook.Proofs.SongSwitches

/-!
# What a run tells the session

In its songs a run tells the session one thing after the other: that a song begins, and then what is
found in its text. Hearing all of them from the first page on is printing the songs
(`printSongs_hears`), so what is true of a run is said of what it tells, with the session as it
stands at each telling. Each telling enters in the register what it says (`hear_registers`).
-/

namespace Songbook

/-- One thing that a run tells the session in its songs. -/
inductive Telling where
  | song (name : String)
  | found (e : Markup.Event)

/-- Is told of without a fault: no directive that ends in half a character. -/
def Telling.IsWhole : Telling → Prop
  | .found (.directive _ text) => Keyword.splitText? text ≠ none
  | _ => True

instance (x : Telling) : Decidable x.IsWhole := by
  unfold Telling.IsWhole
  split <;> infer_instance

variable {L : Type} [Length L]

namespace Typeset

/-- What the session does when it is told something. -/
def hear : Telling → Typeset L Unit
  | .song name => songWith name (pure ())
  | .found (.chord n name) => modify fun s => (sink.chord n name s).2
  | .found (.directive n text) => sink.directive n text
  | .found (.line n content) => sink.line n content
  | .found (.problem n p) => modify (sink.problem n p)

end Typeset

namespace Session

/-- After it has been told something, be it broken off by half a character. -/
def told (s : Session L) (x : Telling) : Session L := endState (Typeset.hear x) s

/-- After it has been told some things. -/
def toldAll (s : Session L) (xs : List Telling) : Session L := xs.foldl told s

/-- The names that a chord is entered under when it is closed: its shown name, unless it is the mark
for no chord. -/
def names (s : Session L) (name : String) : List String :=
  if ChordName.isNoChord name then [] else [(Typeset.shownChord name s).1]

theorem toldAll_append (s : Session L) (xs ys : List Telling) :
    s.toldAll (xs ++ ys) = (s.toldAll xs).toldAll ys := List.foldl_append

end Session

/-- The register after something has been found, if the page is then of that number. Configuration
files use no chords. -/
def Markup.Event.registered (e : Markup.Event) (s : Session L) (page : Nat) : Register L :=
  match e with
  | .chord _ name =>
    if s.startup then s.register
    else { s.register with chords := (s.names name).foldl ChordBook.use s.document.chords }
  | .directive _ text => s.toldRegister text page
  | _ => s.register

/-- Begins a song. -/
def Directive.isNewSong : Directive L → Bool
  | .newSong => true
  | _ => false

/-- The telling begins a song on a page of its own. -/
def Telling.beginsSong (x : Telling) (s : Session L) : Bool :=
  match x with
  | .song _ => 0 < s.songs
  | .found (.directive _ text) => (Typeset.directive? s text).any Directive.isNewSong
  | .found _ => false

/-- The directive that is told, if it is admitted and sound. -/
def Telling.directive? (x : Telling) (s : Session L) : Option (Directive L) :=
  match x with
  | .found (.directive _ text) => Typeset.directive? s text
  | _ => none

/-- The names that are printed for chords and are no marks for no chord. -/
def Telling.names (x : Telling) (s : Session L) : List String :=
  match x with
  | .found (.chord n name) =>
    if ChordName.isNoChord name then [] else [(Typeset.sink.chord n name s).1]
  | _ => []

/-- The register after a telling, if the page is then of that number. -/
def Telling.registered (x : Telling) (s : Session L) (page : Nat) : Register L :=
  match x with
  | .song _ => if 0 < s.songs then s.nextRegister page else s.register
  | .found e => e.registered s page

namespace Typeset

open Session

variable {settings : Settings L} {s t u : Session L}

/-! ## In songs -/

theorem songWith_pure_inSong (h : s.InSong settings) (name : String) :
    Ends (songWith name (pure ())) s (fun _ => False) fun _ t => t.InSong settings := by
  refine .bind_ok (begin_of_started h.started) ?_
  show Ends (if 0 < s.songs then _ else _) s _ _
  refine .optional (P := fun t => t.InSong settings) (fun _ => ?_) (fun _ => h) fun t ht => ?_
  · exact ((newSong_songlike.wanders.ends h.onPage).mono fun _ _ ht => h.moves ht).faultless
      (newSong_switches s h.onPage)
  · let u : Session L := { t with songs := t.songs + 1 }
    have hu : Moves true t u := .single (.count rfl _)
    exact .of_ok rfl (ht.moves ((hu.tail (.record u.file u.line _)).tail (.record _ _ _)))

/-- Everything is heard to its end, but for a directive that ends in half a character. -/
theorem hear_inSong (h : s.InSong settings) {x : Telling} (hx : x.IsWhole) :
    Ends (hear x) s (fun _ => False) fun _ t => t.InSong settings := by
  have hpage : ∀ t : Session L, t.InSong settings → t.OnPage := fun _ ht => ht.onPage
  have hmoves : ∀ (t u : Session L), Move true t u → t.InSong settings → u.InSong settings :=
    fun _ _ hmove ht => ht.moves (.single hmove)
  have hkeeps : (sink : Markup.Sink Fault (Session L)).Keeps (fun t => t.InSong settings)
      (Interrupts true) := sink_keeps hpage hmoves
  match x, hx with
  | .song name, _ => exact songWith_pure_inSong h name
  | .found (.chord n name), _ => exact hkeeps.chord n name s h
  | .found (.directive n text), hx =>
    exact (sink_keepsDirectives hpage hmoves n text s h).faultless
      (directive_switches n hx s h.onPage)
  | .found (.line n content), _ =>
    exact (hkeeps.line n content s h).faultless (line_switches n content s h.onPage)
  | .found (.problem n p), _ => exact hkeeps.problem n p s h

/-- What ends in half a character changes nothing but the line being read. -/
theorem hear_broken {x : Telling} (hx : ¬ x.IsWhole) (s : Session L) :
    ∃ n, hear x s = .error .brokenCharacter (atLine n s) := by
  match x with
  | .found (.directive n text) => exact ⟨n, directive_broken n (Decidable.not_not.1 hx) s⟩
  | .song _ | .found (.chord ..) | .found (.line ..) | .found (.problem ..) =>
    exact absurd trivial hx

theorem told_of_broken {x : Telling} (hx : ¬ x.IsWhole) (s : Session L) :
    ∃ n, s.told x = atLine n s := by
  obtain ⟨n, hbroken⟩ := hear_broken hx s
  exact ⟨n, by rw [Session.told, endState, hbroken]⟩

theorem told_inSong (h : s.InSong settings) (x : Telling) : (s.told x).InSong settings := by
  by_cases hx : x.IsWhole
  · obtain ⟨_, t, hok, ht⟩ := (hear_inSong h hx).exists_ok
    rwa [Session.told, endState_of_ok hok]
  · obtain ⟨n, htold⟩ := told_of_broken hx s
    rw [htold]
    exact h.moves (.single (.record s.file n s.log))

theorem toldAll_inSong (h : s.InSong settings) (xs : List Telling) :
    (s.toldAll xs).InSong settings := by
  induction xs generalizing s with
  | nil => exact h
  | cons x xs ih => exact ih (told_inSong h x)

/-! ## The register -/

omit [Length L] in
theorem shownChord_snd (name : String) (s : Session L) :
    (shownChord name s).2 = s ∨ ∃ p, (shownChord name s).2 = s.report p := by
  unfold shownChord
  cases ChordName.read? name with
  | some n => exact .inl rfl
  | none => exact .inr ⟨_, rfl⟩

omit [Length L] in
theorem resolveChord_register (name : String) (s : Session L) : ∃ log,
    (resolveChord name s).2 = { s with
      document := { s.document with
        chords := (s.names name).foldl ChordBook.use s.document.chords }
      log } := by
  unfold resolveChord Session.names
  split
  · exact ⟨_, rfl⟩
  · obtain ⟨log, huse⟩ := useChord_eq (shownChord name s).1 (shownChord name s).2
    refine ⟨log, huse.trans ?_⟩
    obtain hsame | ⟨p, hreport⟩ := shownChord_snd name s
    · rw [hsame]
      rfl
    · rw [hreport]
      rfl

theorem chord_registers (hs : s.device.limit = none) (n : Nat) (name : String) :
    Registers s (hear (.found (.chord n name))) fun _ =>
      (Markup.Event.chord n name).registered s 0 := by
  have hline : (atLine n s).names name = s.names name := by
    unfold Session.names
    rw [shownChord_congr (s := atLine n s) (t := s) rfl]
  show (sink.chord n name s).2.device.limit = none ∧ (sink.chord n name s).2.register =
    if s.startup then s.register else _
  show (if s.startup then (name, atLine n s) else resolveChord name (atLine n s)).2.device.limit =
    none ∧ (if s.startup then (name, atLine n s) else resolveChord name (atLine n s)).2.register = _
  split
  · exact ⟨hs, rfl⟩
  · obtain ⟨log, hchord⟩ := resolveChord_register name (atLine n s)
    rw [hchord, hline]
    exact ⟨hs, rfl⟩

/-- What is found enters in the register what it says, in songs and in configuration files. -/
theorem found_registers (hs : s.device.limit = none) {e : Markup.Event}
    (he : (Telling.found e).IsWhole) :
    Registers s (hear (.found e)) fun t => e.registered s t.document.cursor.pages := by
  cases e with
  | chord n name => exact chord_registers hs n name
  | directive n text =>
    refine .bind_ok rfl ((dispatch_registers (s := atLine n s) hs he).mono fun _ t ht => ?_)
    exact ⟨ht.1, ht.2.trans (s.toldRegister_record s.file n s.log text _)⟩
  | line n content =>
    exact .bind_ok rfl ((readLine_keepsRegister content).registers (s := atLine n s) hs)
  | problem n p => exact ⟨hs, rfl⟩

/-- Once the document has been begun every telling enters in the register what it says. -/
theorem hear_registers (hs : s.device.limit = none) (hstarted : s.started = true) {x : Telling}
    (hx : x.IsWhole) : Registers s (hear x) fun t => x.registered s t.document.cursor.pages := by
  cases x with
  | song name =>
    refine .bind_ok (begin_of_started hstarted) ?_
    show Ends (if 0 < s.songs then _ else _) s _ fun _ t => t.device.limit = none ∧
      t.register = if 0 < s.songs then s.nextRegister t.document.cursor.pages else s.register
    split
    · exact Ends.bind (newSong_registers hs) fun _ t ht => .bind_ok rfl (.bind_ok rfl ht)
    · exact .bind_ok rfl (.bind_ok rfl ⟨hs, rfl⟩)
  | found e => exact found_registers hs hx

theorem told_register (h : s.InSong settings) (x : Telling) :
    (s.told x).register = x.registered s (s.told x).document.cursor.pages := by
  by_cases hx : x.IsWhole
  · obtain ⟨_, t, hok, -, hregister⟩ :=
      (hear_registers h.onPage.unlimited h.started hx).exists_ok
    rw [Session.told, endState_of_ok hok]
    exact hregister
  · obtain ⟨n, htold⟩ := told_of_broken hx s
    rw [htold]
    match x with
    | .found (.directive _ text) =>
      have hnone : (directive? s text : Option (Directive L)) = none := by
        rw [directive?, Decidable.not_not.1 hx, Option.bind_none]
      show s.register = (directive? s text).elim s.register _
      rw [hnone]
      rfl
    | .song _ | .found (.chord ..) | .found (.line ..) | .found (.problem ..) =>
      exact absurd trivial hx

theorem names_of_startup (hs : s.startup = false) (n : Nat) (name : String) :
    (Telling.found (.chord n name)).names s = s.names name := by
  unfold Session.names
  show (if ChordName.isNoChord name then [] else [(if s.startup then (name, atLine n s) else
    resolveChord name (atLine n s)).1]) = _
  rw [hs]
  split
  · rfl
  · rename_i hmark
    have hline := shownChord_congr (s := atLine n s) (t := s) rfl name
    rw [← hline]
    show [(if ChordName.isNoChord name then (name, atLine n s) else _).1] = _
    rw [if_neg hmark]
    rfl

/-- A song begins, a directive is obeyed, or the names of chords are used if there are any. -/
theorem told_register_cases (h : s.InSong settings) (x : Telling) :
    (x.beginsSong s = true ∧
      (s.told x).register = s.nextRegister (s.told x).document.cursor.pages) ∨
    (x.beginsSong s = false ∧ x.directive? s = none ∧ (s.told x).register =
      { s.register with chords := (x.names s).foldl ChordBook.use s.document.chords }) ∨
    ∃ d, x.beginsSong s = false ∧ x.directive? s = some d ∧ x.names s = [] ∧
      d.isNewSong = false ∧ d.setsPaper = false ∧
      (s.told x).register = d.registered s (s.told x).document.cursor.pages := by
  have htold := told_register h x
  match x with
  | .song name =>
    change _ = if 0 < s.songs then _ else s.register at htold
    by_cases hsongs : 0 < s.songs
    · rw [if_pos hsongs] at htold
      exact .inl ⟨decide_eq_true hsongs, htold⟩
    · rw [if_neg hsongs] at htold
      exact .inr (.inl ⟨decide_eq_false hsongs, rfl, htold⟩)
  | .found (.chord n name) =>
    rw [names_of_startup h.onPage.inSong]
    change _ = if s.startup then s.register else _ at htold
    rw [h.onPage.inSong] at htold
    exact .inr (.inl ⟨rfl, rfl, htold⟩)
  | .found (.directive n text) =>
    change _ = (directive? s text).elim s.register _ at htold
    have hbegins : (Telling.found (.directive n text)).beginsSong s =
        (directive? s text).any Directive.isNewSong := rfl
    rw [hbegins, show (Telling.found (.directive n text)).directive? s = directive? s text from rfl]
    cases hd : (directive? s text : Option (Directive L)) with
    | none =>
      rw [hd] at htold
      exact .inr (.inl ⟨rfl, rfl, htold⟩)
    | some d =>
      rw [hd] at htold
      cases hnew : d.isNewSong with
      | true =>
        cases d with
        | newSong => exact .inl ⟨rfl, htold⟩
        | _ => cases hnew
      | false =>
        exact .inr (.inr ⟨d, hnew, rfl, rfl, hnew,
          setsPaper_of_directive? h.onPage.inSong hd, htold⟩)
  | .found (.line ..) | .found (.problem ..) => exact .inr (.inl ⟨rfl, rfl, htold⟩)

/-- A song keeps to its first page until the next one begins. -/
theorem told_opened (h : s.InSong settings) (x : Telling) :
    (s.told x).opened =
      if x.beginsSong s then ((s.told x).document.cursor.pages : Int) else s.opened := by
  rcases told_register_cases h x with ⟨hbegins, htold⟩ | ⟨hbegins, -, htold⟩ |
    ⟨d, hbegins, -, -, hnew, hpaper, htold⟩ <;> rw [hbegins]
  · exact congrArg Register.opened htold
  · exact congrArg Register.opened htold
  · refine (congrArg Register.opened htold).trans ?_
    cases d <;> first | rfl | exact Bool.noConfusion hnew | exact Bool.noConfusion hpaper

/-! ## In configuration files -/

/-- Reads a configuration file as far as the given beginning of its text. -/
def readConfigurationPart (name beginning : String) : Typeset L Unit := do
  note (.readingConfiguration name)
  modify fun s => { s with file := name, startup := true }
  Markup.Reader.readBeginning sink beginning

/-- `I` holds with these settings after each character of each configuration file; a run that is
broken off before that was broken off by half a character. -/
def HoldsInConfigurations (settings : Settings L) (I : Session L → Prop) : Prop :=
  ∀ (configurations : List (String × String)) (name beginning : String),
    Ends (do
        configurations.forM fun (name, text) => readConfiguration name text
        readConfigurationPart name beginning)
      (.start settings .unlimited) (· = .brokenCharacter) fun _ => I

/-- What is found enters the chords that are used, or what a directive says. -/
theorem registered_holds {P : Register L → Prop} (e : Markup.Event) (s : Session L) (page : Nat)
    (hchords : ∀ chords, P { s.register with chords })
    (hdirective : ∀ (text : String) (d : Directive L), directive? s text = some d →
      P (d.registered s page)) : P (e.registered s page) := by
  have hsame : P s.register := hchords s.document.chords
  match e with
  | .chord n name =>
    show P (if s.startup then s.register else _)
    split
    · exact hsame
    · exact hchords _
  | .directive n text =>
    show P ((directive? s text).elim s.register _)
    cases hd : (directive? s text : Option (Directive L)) with
    | none => exact hsame
    | some d => exact hdirective text d hd
  | .line .. | .problem .. => exact hsame

theorem registered_startup (e : Markup.Event) (s : Session L) (page : Nat) :
    (e.registered s page).startup = s.startup := by
  refine registered_holds (P := fun r => r.startup = s.startup) e s page (fun _ => rfl)
    fun text d _ => ?_
  cases d with
  | paperType name => exact s.papered_startup _
  | formSpec spec => exact s.papered_startup _
  | _ => rfl

section

variable {J : Register L → Prop}

/-- A configuration file is being read, and `J` holds of the register. -/
def Configuring (J : Register L → Prop) (s : Session L) : Prop :=
  s.startup = true ∧ s.device.limit = none ∧ J s.register

variable (hfound : ∀ (e : Markup.Event) (s : Session L) (page : Nat), s.startup = true →
  J s.register → J (e.registered s page))

include hfound

/-- What is found keeps `J` if the register does that keeps what is found. -/
theorem found_configuring (hs : Configuring J s) (e : Markup.Event) :
    Ends (hear (.found e)) s (· = .brokenCharacter) fun _ => Configuring J := by
  by_cases he : (Telling.found e).IsWhole
  · refine ((found_registers hs.2.1 he).mono ?_).weaken fun _ h => h.elim
    rintro _ t ⟨ht, hregister⟩
    refine ⟨?_, ht, hregister ▸ hfound e s _ hs.1 hs.2.2⟩
    exact (congrArg Register.startup hregister).trans ((registered_startup e s _).trans hs.1)
  · obtain ⟨n, hbroken⟩ := hear_broken he s
    unfold Ends
    rw [hbroken]

theorem sink_configuring : (sink : Markup.Sink Fault (Session L)).Keeps (Configuring J)
    (· = .brokenCharacter) where
  chord n name _ hs := found_configuring hfound hs (.chord n name)
  line n content _ hs := found_configuring hfound hs (.line n content)
  problem n p _ hs := found_configuring hfound hs (.problem n p)

theorem sink_configuringDirectives :
    (sink : Markup.Sink Fault (Session L)).KeepsDirectives (Configuring J)
      (· = .brokenCharacter) := fun n text _ hs =>
  found_configuring hfound hs (.directive n text)

variable (hstartup : ∀ (r : Register L) (startup : Bool), J r → J { r with startup })

include hstartup

theorem readConfigurations_keep (configurations : List (String × String)) :
    Keeps (fun (_ : Unit) (s : Session L) => s.device.limit = none ∧ J s.register)
      (· = .brokenCharacter)
      (configurations.forM fun (name, text) => readConfiguration name text) := by
  refine .forM _ fun ⟨name, text⟩ _ _ s hs => .bind_ok rfl (.bind_ok rfl ?_)
  have hopening : Configuring J (s.opening name) := ⟨rfl, hs.1, hstartup _ true hs.2⟩
  refine (inStartup_ends (s := { s.note (.readingConfiguration name) with file := name })
    (Markup.Reader.readText_ends (sink_configuring hfound) text
      (fun _ => sink_configuringDirectives hfound) hopening)).mono ?_
  rintro _ _ ⟨u, hu, rfl⟩
  exact ⟨hu.2.1, hstartup _ false hu.2.2⟩

theorem holdsInConfigurations (hstart : J (Session.start settings .unlimited).register) :
    HoldsInConfigurations settings fun s => J s.register := by
  intro configurations name beginning
  have hread := readConfigurations_keep hfound hstartup configurations ()
    (.start settings .unlimited) ⟨rfl, hstart⟩
  refine hread.bind fun _ s hs => .bind_ok rfl (.bind_ok rfl ?_)
  have hopening : Configuring J (s.opening name) := ⟨rfl, hs.1, hstartup _ true hs.2⟩
  exact (Markup.Reader.readBeginning_ends (Markup.Reader.feedAll_ends (sink_configuring hfound)
    beginning (fun _ => sink_configuringDirectives hfound) hopening)).mono fun _ _ ht => ht.2.2

end

/-! ## Along a run -/

/-- What is found in a text, as it is told. -/
def textTellings (s : Session L) (text : String) : List Telling :=
  (Markup.Reader.findings sink text s).map .found

/-- What has been found since `s` has been heard. -/
def HeardSince (settings : Settings L) (s : Session L) (p : Session L × List Markup.Event) : Prop :=
  p.1.InSong settings ∧ (p.2.map Telling.found).forM hear s = .ok () p.1

theorem HeardSince.event {p : Session L × List Markup.Event} (hp : HeardSince settings s p)
    (e : Markup.Event) {x : Typeset L Unit} (hx : x p.1 = hear (.found e) p.1) :
    Ends x p.1 (· = .brokenCharacter) fun _ t => HeardSince settings s (t, p.2 ++ [e]) := by
  by_cases he : (Telling.found e).IsWhole
  · obtain ⟨_, t, hok, ht⟩ := (hear_inSong hp.1 he).exists_ok
    refine .of_ok (hx.trans hok) ⟨ht, ?_⟩
    rw [List.map_append]
    exact forM_append_eq_ok hp.2 (forM_cons_eq_ok_iff.2 ⟨t, hok, rfl⟩)
  · obtain ⟨n, hbroken⟩ := hear_broken he p.1
    unfold Ends
    rw [hx, hbroken]

theorem recording_hears (s : Session L) :
    (sink : Markup.Sink Fault (Session L)).recording.Keeps (HeardSince settings s)
      (· = .brokenCharacter) where
  chord n name _ hp := hp.event (.chord n name) rfl
  line n content _ hp := Markup.Sink.withEvent_ends (hp.event (.line n content) rfl)
  problem n p _ hp := hp.event (.problem n p) rfl

theorem recording_hearsDirectives (s : Session L) :
    (sink : Markup.Sink Fault (Session L)).recording.KeepsDirectives (HeardSince settings s)
      (· = .brokenCharacter) := fun n text _ hp =>
  Markup.Sink.withEvent_ends (hp.event (.directive n text) rfl)

/-- A text is read by hearing what is found in it. -/
theorem readText_hears (h : s.InSong settings) (text : String) :
    Ends (Markup.Reader.readText sink text) s (· = .brokenCharacter) fun _ t =>
      t.InSong settings ∧ (textTellings s text).forM hear s = .ok () t := by
  rw [textTellings]
  exact Markup.Reader.readText_finds (Q := fun t es => HeardSince settings s (t, es)) <|
    Markup.Reader.readText_ends (recording_hears s) text (fun _ => recording_hearsDirectives s)
      (s := (s, [])) ⟨h, rfl⟩

/-- What a song printed after `s` tells. -/
def songTellings (s : Session L) (name text : String) : List Telling :=
  .song name :: textTellings (s.told (.song name)) text

theorem readSong_hears (h : s.InSong settings) (name text : String) :
    Ends (readSong name text) s (· = .brokenCharacter) fun _ t =>
      t.InSong settings ∧ (songTellings s name text).forM hear s = .ok () t := by
  obtain ⟨_, t, hok, ht⟩ := (hear_inSong h (x := .song name) trivial).exists_ok
  have htold : s.told (.song name) = t := endState_of_ok hok
  rw [readSong_eq, songWith_bind, songTellings, htold]
  refine .bind_ok hok ((readText_hears ht text).mono ?_)
  rintro _ u ⟨hu, htext⟩
  exact ⟨hu, forM_cons_eq_ok_iff.2 ⟨t, hok, htext⟩⟩

/-- What songs printed after `s` tell. -/
def songsTellings : Session L → List (String × String) → List Telling
  | _, [] => []
  | s, (name, text) :: songs =>
    songTellings s name text ++ songsTellings (s.toldAll (songTellings s name text)) songs

theorem printSongs_hears (h : s.InSong settings) (songs : List (String × String)) :
    Ends (printSongs songs) s (· = .brokenCharacter) fun _ t =>
      t.InSong settings ∧ (songsTellings s songs).forM hear s = .ok () t := by
  induction songs generalizing s with
  | nil => exact ⟨h, rfl⟩
  | cons song songs ih =>
    obtain ⟨name, text⟩ := song
    refine (readSong_hears h name text).bind ?_
    rintro _ t ⟨ht, hsong⟩
    refine (ih ht).mono ?_
    rintro _ u ⟨hu, hsongs⟩
    have htold : s.toldAll (songTellings s name text) = t := foldl_endState_of_forM hsong
    refine ⟨hu, ?_⟩
    rw [songsTellings, htold]
    exact forM_append_eq_ok hsong hsongs

/-- What a whole run tells. -/
def runTellings (settings : Settings L) (configurations : List (String × String))
    (overrides : Overrides) (songs : List (String × String)) : List Telling :=
  songsTellings (firstSong settings configurations overrides) songs

/-- So it is with any number of songs, if it does not matter to what comes after them. -/
theorem printSongs_begins {first : Session L} {x : Typeset L Unit} (hbegin : begin s = .ok () first)
    (hfirst : first.started = true) (songs : List (String × String)) (hx : x s = x first) :
    (do printSongs songs; x) s = (do printSongs songs; x) first := by
  cases songs with
  | nil => exact hx
  | cons song songs =>
    obtain ⟨name, text⟩ := song
    have hsongs : printSongs ((name, text) :: songs) s =
        printSongs ((name, text) :: songs) first := by
      have hsong : readSong name text s = readSong name text first := by
        rw [readSong_eq, songWith_begins hbegin hfirst]
      show (readSong name text >>= fun _ => printSongs songs) s =
        (readSong name text >>= fun _ => printSongs songs) first
      rw [bind_eq, bind_eq, hsong]
    rw [bind_eq, bind_eq, hsongs]

/-- The document of a run is begun. -/
def Begins (settings : Settings L) (configurations : List (String × String))
    (overrides : Overrides) : Prop :=
  (do prepare configurations overrides; begin) (.start settings .unlimited) =
    .ok () (firstSong settings configurations overrides)

theorem Begins.exists_prepared {configurations : List (String × String)} {overrides : Overrides}
    (h : Begins settings configurations overrides) :
    ∃ s log, prepare configurations overrides (.start settings .unlimited) = .ok () s ∧
      s.Unprinted settings false ∧
      firstSong settings configurations overrides = s.withFirstPage log := by
  have hprepare := prepare_ends settings configurations overrides
  unfold Ends at hprepare
  rcases hs : prepare configurations overrides (.start settings .unlimited) with ⟨_, s⟩ | ⟨e, s⟩ <;>
    rw [hs] at hprepare
  · obtain ⟨_, _, hbegin, log, rfl⟩ := (begin_ends hprepare).exists_ok
    exact ⟨s, log, rfl, hprepare, endState_of_ok ((bind_of_ok hs).trans hbegin)⟩
  · rw [Begins, bind_eq, hs] at h
    cases h

theorem Begins.isBegun {configurations : List (String × String)} {overrides : Overrides}
    (h : Begins settings configurations overrides) :
    (firstSong settings configurations overrides).IsBegun settings := by
  obtain ⟨s, log, -, hs, hfirst⟩ := h.exists_prepared
  exact ⟨s, log, hs, hfirst⟩

theorem Begins.inSong {configurations : List (String × String)} {overrides : Overrides}
    (h : Begins settings configurations overrides) :
    (firstSong settings configurations overrides).InSong settings := ⟨_, h.isBegun, .refl⟩

/-- What comes after the songs of a run finds the session after all that they tell. It must begin
the document if there are no songs. -/
theorem run_hears {Q : Session L → Prop} {x : Typeset L Unit} (settings : Settings L)
    (configurations : List (String × String)) (overrides : Overrides)
    (songs : List (String × String))
    (hx : ∀ s first, begin s = .ok () first → begin first = .ok () first → x s = x first)
    (hends : Begins settings configurations overrides →
      Ends x ((firstSong settings configurations overrides).toldAll
        (runTellings settings configurations overrides songs)) (fun _ => False) fun _ => Q) :
    Ends (do prepare configurations overrides; printSongs songs; x)
      (.start settings .unlimited) IsBreak fun _ => Q := by
  have hprepare := prepare_ends settings configurations overrides
  unfold Ends at hprepare
  rcases hs : prepare configurations overrides (.start settings .unlimited) with ⟨_, s⟩ | ⟨e, s⟩ <;>
    rw [hs] at hprepare
  · obtain ⟨_, first, hbegin, -⟩ := (begin_ends hprepare).exists_ok
    have hok : (do prepare configurations overrides; begin) (.start settings .unlimited) =
        .ok () first := (bind_of_ok hs).trans hbegin
    have hfirst : firstSong settings configurations overrides = first := endState_of_ok hok
    have hbegins : Begins settings configurations overrides := by
      rw [Begins, hfirst]
      exact hok
    have hsong := hbegins.inSong
    have hends := hends hbegins
    rw [runTellings] at hends
    rw [hfirst] at hsong hends
    refine .bind_ok hs ?_
    unfold Ends
    rw [printSongs_begins hbegin hsong.started songs
      (hx _ _ hbegin (begin_of_started hsong.started))]
    refine ((printSongs_hears hsong songs).weaken fun _ => .inl).bind ?_
    rintro _ t ⟨ht, hsongs⟩
    have htold : first.toldAll (songsTellings first songs) = t := foldl_endState_of_forM hsongs
    rw [htold] at hends
    exact hends.weaken fun _ h => h.elim
  · unfold Ends
    rw [bind_eq, hs]
    exact hprepare

theorem finish_congr {first : Session L} (hs : begin s = .ok () first)
    (hfirst : begin first = .ok () first) : finish s = finish first := by
  unfold finish
  rw [bind_of_ok hs, bind_of_ok hfirst]

/-- The songs of a run end in a session of `Q`, unless the run is broken off. -/
structure SongsTo (settings : Settings L) (configurations : List (String × String))
    (overrides : Overrides) (songs : List (String × String)) (Q : Session L → Prop) : Prop where
  ends : Ends (do prepare configurations overrides; printSongs songs; begin)
    (.start settings .unlimited) IsBreak fun _ => Q

theorem SongsTo.of_ok {configurations : List (String × String)} {overrides : Overrides}
    {songs : List (String × String)} {Q : Session L → Prop} {t : Session L}
    (h : SongsTo settings configurations overrides songs Q)
    (hrun : (do prepare configurations overrides; printSongs songs; begin)
      (.start settings .unlimited) = .ok () t) : Q t := h.ends.holds hrun

theorem songsTo_of_told {Q : Session L → Prop} (settings : Settings L)
    (configurations : List (String × String)) (overrides : Overrides)
    (songs : List (String × String))
    (h : Begins settings configurations overrides →
      Q ((firstSong settings configurations overrides).toldAll
        (runTellings settings configurations overrides songs))) :
    SongsTo settings configurations overrides songs Q := by
  refine ⟨run_hears settings configurations overrides songs (fun _ _ h h' => h.trans h'.symm)
    fun hbegins => ?_⟩
  have hstarted := (toldAll_inSong hbegins.inSong
    (runTellings settings configurations overrides songs)).started
  exact .of_ok (begin_of_started hstarted) (h hbegins)

end Typeset

end Songbook
