import Songbook.Proofs.ChordBooks
import Songbook.Proofs.Tellings
import Songbook.Proofs.Transposition

/-!
# The diagrams at the end of a song

The chord book counts the names printed in a song, each of them once in order of first use, and
knows every one of them whatever is defined in between (`Uses`). So when the song ends, none of its
chords is missing among the diagrams, and no other is drawn (`HasPrinted.endsInDiagrams`,
`songs_end_in_diagrams`).
-/

namespace Songbook

namespace ChordName

theorem isNoChord_transpose {name : String} {n : ChordName} (h : read? name = some n)
    (semitones : Int) : isNoChord (n.transpose semitones).text = false :=
  isNoChord_text ((framed_of_read? h).transpose semitones)

end ChordName

namespace ChordBook

variable {b : ChordBook} {names : List String}

theorem name_of_get? {name : String} {d : ChordDefinition} (h : b.get? name = some d) :
    d.name = name := by
  rw [get?, Option.orElse_eq_orElse, Option.orElse_eq_or] at h
  rcases Option.or_eq_some_iff.1 h with h | ⟨-, h⟩
  · have hname := List.find?_some h
    exact beq_iff_eq.1 hname
  · have hname := List.find?_some h
    exact beq_iff_eq.1 hname

/-- The book counts these names as used and knows all of them. -/
structure Uses (b : ChordBook) (names : List String) : Prop where
  used : b.used = names.eraseDups
  known : ∀ name ∈ names, b.get? name ≠ none

namespace Uses

theorem nil (h : b.used = []) : b.Uses [] := ⟨h, nofun⟩

theorem startSong (b : ChordBook) (drop : Bool) : (b.startSong drop).Uses [] := .nil rfl

theorem use (h : b.Uses names) (name : String) : (b.use name).Uses (names ++ [name]) := by
  constructor
  · rw [used_use, h.used, List.eraseDups_append]
    by_cases hname : name ∈ names
    · simp [List.removeAll, hname, List.mem_eraseDups]
    · simp [List.removeAll, hname, List.mem_eraseDups, List.eraseDups_cons]
  · intro other hother
    rw [Ne, get?_eq_none, entries_use]
    -- a name that nothing is known of is entered as a stub at its first use
    by_cases hnew : name = other ∧ b.get? name = none
    · simp only [if_pos hnew, List.cons_ne_nil, false_and, not_false_eq_true]
    · rw [if_neg hnew, ← get?_eq_none]
      rcases List.mem_append.1 hother with hmem | hmem
      · exact h.known other hmem
      · rw [List.mem_singleton.1 hmem] at hnew ⊢
        exact fun hnone => hnew ⟨rfl, hnone⟩

theorem uses (h : b.Uses names) (more : List String) :
    (more.foldl ChordBook.use b).Uses (names ++ more) := by
  induction more generalizing b names with
  | nil => rwa [List.append_nil]
  | cons name more ih => simpa using ih (h.use name)

/-- A definition takes the place of another one of its name only. -/
theorem define (h : b.Uses names) (d : ChordDefinition) : (b.define d).1.Uses names := by
  refine ⟨h.used, fun name hname => ?_⟩
  rw [Ne, get?_eq_none, entries_define]
  split
  · simp
  · rw [← get?_eq_none]
    exact h.known name hname

/-- No name is missing among the definitions. -/
theorem usedDefinitions_names (h : b.Uses names) :
    b.usedDefinitions.map (·.name) = names.eraseDups := by
  unfold usedDefinitions
  rw [List.map_filterMap, h.used, List.filterMap_congr (g := some), List.filterMap_some]
  intro name hname
  obtain ⟨d, hd⟩ := Option.ne_none_iff_exists'.1 (h.known name (List.mem_eraseDups.1 hname))
  rw [hd, Option.map_some, name_of_get? hd]

end Uses

theorem get?_of_mem_usedDefinitions {d : ChordDefinition} (h : d ∈ b.usedDefinitions) :
    b.get? d.name = some d := by
  obtain ⟨name, -, hname⟩ := List.mem_filterMap.1 h
  rw [name_of_get? hname, hname]

end ChordBook

variable {L : Type} [Length L]

namespace Session

/-- The names printed in the song that some tellings end in, where `names` have been printed in the
song before them. -/
def songNames (names : List String) (s : Session L) : List Telling → List String
  | [] => names
  | x :: xs => songNames (if x.beginsSong s then [] else names ++ x.names s) (s.told x) xs

/-- These are the diagrams of a song in which `names` have been printed: with diagrams on, each name
once in order of first use, in the definition now in force, without the easy builtin chords if they
are to be left out. -/
structure EndsInDiagrams (s : Session L) (names : List String) (diagrams : List ChordDefinition) :
    Prop where
  drawn : (s.settings.lyricsOnly = false ∧ s.document.modes.grids.current = true) →
    ∃ definitions : List ChordDefinition, definitions.map (·.name) = names.eraseDups ∧
      (∀ d ∈ definitions, s.document.chords.get? d.name = some d) ∧
      diagrams = definitions.filter fun d =>
        !(s.settings.noEasyGrids && d.origin == .builtin && d.difficulty == .easy)
  off : ¬ (s.settings.lyricsOnly = false ∧ s.document.modes.grids.current = true) → diagrams = []
  chords : ∀ d ∈ diagrams, ChordName.isNoChord d.name = false

end Session

namespace Typeset

open Session

variable {settings : Settings L} {s : Session L} {names : List String}

omit [Length L] in
/-- The mark for no chord is not among the names. -/
theorem isNoChord_of_mem_names {name shown : String} (h : shown ∈ s.names name) :
    ChordName.isNoChord shown = false := by
  unfold Session.names at h
  split at h
  · cases h
  · rename_i hmark
    rw [List.mem_singleton.1 h]
    unfold shownChord
    cases hread : ChordName.read? name with
    | none => simpa using hmark
    | some n =>
      dsimp only
      split
      · simpa using hmark
      · exact ChordName.isNoChord_transpose hread _

/-- What the chord book of a song has counted and the names that it has printed. -/
structure HasPrinted (s : Session L) (names : List String) : Prop where
  uses : s.document.chords.Uses names
  chords : ∀ name ∈ names, ChordName.isNoChord name = false

omit [Length L] in
theorem HasPrinted.endsInDiagrams (h : HasPrinted s names) :
    s.EndsInDiagrams names s.closingDiagrams := by
  have hclosing : ∀ d ∈ s.closingDiagrams, d.name ∈ names := by
    intro d hd
    unfold Session.closingDiagrams at hd
    split at hd
    · have hname := List.mem_map_of_mem (f := (·.name)) (List.mem_filter.1 hd).1
      rw [h.uses.usedDefinitions_names] at hname
      exact List.mem_eraseDups.1 hname
    · cases hd
  refine ⟨?_, ?_, fun d hd => h.chords _ (hclosing d hd)⟩
  · rintro ⟨hlyrics, hgrids⟩
    refine ⟨s.document.chords.usedDefinitions, h.uses.usedDefinitions_names,
      fun _ => ChordBook.get?_of_mem_usedDefinitions, ?_⟩
    unfold Session.closingDiagrams
    rw [hlyrics, hgrids]
    rfl
  · intro hoff
    unfold Session.closingDiagrams
    rw [if_neg (by simpa using hoff)]

/-! ## One telling -/

omit [Length L] in
theorem defined_uses (h : s.document.chords.Uses names) (args : String) (order : FretOrder) :
    (s.defined args order).Uses names := by
  unfold Session.defined
  split
  · exact h
  · exact h.define _

theorem isNoChord_of_mem_tellingNames (hs : s.startup = false) {x : Telling} {shown : String}
    (h : shown ∈ x.names s) : ChordName.isNoChord shown = false := by
  match x with
  | .found (.chord n name) =>
    rw [names_of_startup hs] at h
    exact isNoChord_of_mem_names h
  | .song _ | .found (.directive ..) | .found (.line ..) | .found (.problem ..) => cases h

/-- A song begins without names. Each telling adds those that it prints. -/
theorem told_hasPrinted (h : s.InSong settings) (hprinted : HasPrinted s names) (x : Telling) :
    HasPrinted (s.told x) (if x.beginsSong s then [] else names ++ x.names s) := by
  have hmarks : ∀ shown ∈ names ++ x.names s, ChordName.isNoChord shown = false := by
    intro shown hmem
    rcases List.mem_append.1 hmem with hmem | hmem
    · exact hprinted.chords shown hmem
    · exact isNoChord_of_mem_tellingNames h.onPage.inSong hmem
  rcases told_register_cases h x with ⟨hbegins, htold⟩ | ⟨hbegins, -, htold⟩ |
    ⟨d, hbegins, -, hnames, hnew, hpaper, htold⟩ <;> rw [hbegins]
  · have hchords : (s.told x).document.chords = _ := congrArg Register.chords htold
    exact ⟨hchords ▸ .startSong _ _, nofun⟩
  · have hchords : (s.told x).document.chords = _ := congrArg Register.chords htold
    exact ⟨hchords ▸ hprinted.uses.uses (x.names s), hmarks⟩
  · refine ⟨?_, hmarks⟩
    have hchords : (s.told x).document.chords = (d.registered s _).chords :=
      congrArg Register.chords htold
    rw [hchords, hnames, if_neg Bool.false_ne_true, List.append_nil]
    cases d with
    | define args => exact defined_uses hprinted.uses args _
    | chord args => exact defined_uses hprinted.uses args _
    | newSong => cases hnew
    | paperType name => cases hpaper
    | formSpec spec => cases hpaper
    | _ => exact hprinted.uses

/-- A song draws its diagrams when the next one begins. -/
theorem told_diagrams (h : s.InSong settings) (x : Telling) :
    (s.told x).diagrams = s.diagrams ++ if x.beginsSong s then s.closingDiagrams else [] := by
  rcases told_register_cases h x with ⟨hbegins, htold⟩ | ⟨hbegins, -, htold⟩ |
    ⟨d, hbegins, -, -, hnew, hpaper, htold⟩ <;>
    rw [hbegins] <;> refine (congrArg Register.diagrams htold).trans ?_
  · rfl
  · exact (List.append_nil _).symm
  · rw [if_neg Bool.false_ne_true, List.append_nil]
    cases d <;> first | rfl | exact Bool.noConfusion hnew | exact Bool.noConfusion hpaper

/-! ## Along a run -/

theorem toldAll_hasPrinted (h : s.InSong settings) (hprinted : HasPrinted s names) (xs : List Telling) :
    HasPrinted (s.toldAll xs) (s.songNames names xs) := by
  induction xs generalizing s names with
  | nil => exact hprinted
  | cons x xs ih => exact ih (told_inSong h x) (told_hasPrinted h hprinted x)

/-- Configuration files and overrides use no chords. -/
theorem prepare_unused (settings : Settings L) (configurations : List (String × String))
    (overrides : Overrides) :
    Ends (prepare configurations overrides) (.start settings .unlimited) (fun _ => True)
      fun _ t => t.document.chords.used = [] := by
  have hread : Keeps (fun (_ : Unit) (s : Session L) => s.document.chords.used = [])
      (fun _ : Fault => True) (configurations.forM fun file => readConfiguration file.1 file.2) :=
    .forM _ fun file _ _ s hs => by
      refine (readConfiguration_configures (P := fun _ => True) (fun _ _ _ => trivial) s file.1
        fun c (_ : c ∈ file.2.toList) => trivial).mono ?_
      rintro _ _ ⟨u, hu, rfl⟩
      exact hu.used.trans hs
  refine (hread () (.start settings .unlimited) rfl).bind fun _ s hs => ?_
  exact ((applyOverrides_configures overrides s).mono fun _ _ ht => ht.used.trans hs).weaken
    fun _ _ => trivial

theorem Begins.hasPrinted {configurations : List (String × String)} {overrides : Overrides}
    (h : Begins settings configurations overrides) :
    HasPrinted (firstSong settings configurations overrides) [] := by
  obtain ⟨s, log, hprepare, -, hfirst⟩ := h.exists_prepared
  have hunused := (prepare_unused settings configurations overrides).holds hprepare
  rw [hfirst]
  exact ⟨.nil hunused, nofun⟩

/-- At the end of each of its songs a run draws the diagrams of the chord names printed in that
song, and it draws no others. -/
theorem songs_end_in_diagrams (settings : Settings L) (configurations : List (String × String))
    (overrides : Overrides) (songs : List (String × String)) :
    RunsTo settings configurations overrides songs fun t =>
      let first := firstSong settings configurations overrides
      let tellings := runTellings settings configurations overrides songs
      (∀ before x after, tellings = before ++ x :: after →
        let s := first.toldAll before
        if x.beginsSong s then
          ∃ diagrams, (s.told x).diagrams = s.diagrams ++ diagrams ∧
            s.EndsInDiagrams (first.songNames [] before) diagrams
        else (s.told x).diagrams = s.diagrams) ∧
      ∃ diagrams, t.diagrams = (first.toldAll tellings).diagrams ++ diagrams ∧
        (first.toldAll tellings).EndsInDiagrams (first.songNames [] tellings) diagrams := by
  refine ⟨run_hears settings configurations overrides songs (fun _ _ => finish_congr)
    fun hbegins => ?_⟩
  have htold : ∀ xs, ((firstSong settings configurations overrides).toldAll xs).InSong settings :=
    toldAll_inSong hbegins.inSong
  have hprinted := toldAll_hasPrinted hbegins.inSong hbegins.hasPrinted
  have hlast := htold (runTellings settings configurations overrides songs)
  refine (finish_registers hlast.onPage.unlimited hlast.started).mono fun _ t ht => ⟨?_, ?_⟩
  · rintro before x after -
    dsimp only
    have hdiagrams := told_diagrams (htold before) x
    split
    · rename_i hbegins
      rw [if_pos hbegins] at hdiagrams
      exact ⟨_, hdiagrams, (hprinted before).endsInDiagrams⟩
    · rename_i hbegins
      rwa [if_neg hbegins, List.append_nil] at hdiagrams
  · exact ⟨_, congrArg Register.diagrams ht.2, (hprinted _).endsInDiagrams⟩

end Typeset

end Songbook
