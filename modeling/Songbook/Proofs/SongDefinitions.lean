import Mathlib.Data.List.Induction
import Songbook.Proofs.ChordBooks

/-!
# What dropping a song's definitions brings back

A book has one entry a name. A song that defines a chord of the configuration puts its own
definition in the place of the configured one, and dropping the song's definitions drops the entry:
of that chord only the builtin definition is left, if there is one. Every other chord is known again
as the configuration left it (`get?_afterSongs_iff`): what a song defines or uses without a
configured entry is all of the song's origin (`OnlySongs`), and a configured entry that no song
defines is never touched (`OutsideSongs`).
-/

namespace Songbook

namespace ChordBook

/-- What songs do to the book. -/
inductive SongCall where
  | use (name : String)
  | define (d : ChordDefinition)
  | startSong

/-- What a song defines is of the song's origin, and the next song drops it. -/
def SongCall.apply (b : ChordBook) : SongCall → ChordBook
  | .use name => b.use name
  | .define d => (b.define { d with origin := .song }).1
  | .startSong => b.startSong true

def SongCall.defines? : SongCall → Option String
  | .define d => some d.name
  | _ => none

/-- The names that songs have defined. -/
def redefined (calls : List SongCall) : List String := calls.filterMap SongCall.defines?

/-- What the configuration files make of an empty book. -/
def ofConfiguration (autoAdjust : Bool) (config : List ChordDefinition) : ChordBook :=
  config.foldl (fun b d => (b.define { d with origin := .configuration }).1) (.empty autoAdjust)

/-- What is left when the next song starts. -/
def afterSongs (b : ChordBook) (calls : List SongCall) : ChordBook :=
  (calls.foldl SongCall.apply b).startSong true

variable {b later : ChordBook} {name : String}

/-- Whatever is entered for the name, a song has entered it. -/
def OnlySongs (b : ChordBook) (name : String) : Prop :=
  ∀ d ∈ b.entries name, d.origin = .song

/-- The name is entered, and not by a song. -/
def OutsideSongs (b : ChordBook) (name : String) : Prop :=
  b.entries name ≠ [] ∧ ∀ d ∈ b.entries name, d.origin ≠ .song

theorem OnlySongs.define (b : ChordBook) (d : ChordDefinition) :
    ((SongCall.define d).apply b).OnlySongs d.name := by
  intro e he
  simp only [SongCall.apply, entries_define, if_true, List.mem_singleton] at he
  subst he
  exact (fitted_keeps b _).2

theorem OnlySongs.apply (h : b.OnlySongs name) (call : SongCall) :
    (call.apply b).OnlySongs name := by
  cases call with
  | use other =>
    intro d hd
    rw [SongCall.apply, entries_use] at hd
    split at hd
    · rw [List.mem_singleton] at hd
      subst hd
      rfl
    · exact h d hd
  | define d =>
    by_cases hname : d.name = name
    · subst hname
      exact .define b d
    · intro e he
      rw [SongCall.apply, entries_define, if_neg hname] at he
      exact h e he
  | startSong =>
    intro d hd
    rw [SongCall.apply, entries_startSong, if_pos rfl] at hd
    exact h d (List.mem_of_mem_filter hd)

theorem entries_apply (h : b.OutsideSongs name) {call : SongCall}
    (hcall : call.defines? ≠ some name) : (call.apply b).entries name = b.entries name := by
  obtain ⟨hne, horigin⟩ := h
  cases call with
  | use other =>
    rw [SongCall.apply, entries_use, if_neg]
    rintro ⟨rfl, hnone⟩
    exact hne (get?_eq_none.1 hnone).1
  | define d =>
    rw [SongCall.apply, entries_define, if_neg]
    intro hname
    exact hcall (congrArg some hname)
  | startSong =>
    rw [SongCall.apply, entries_startSong, if_pos rfl, List.filter_eq_self]
    intro d hd
    simpa using horigin d hd

theorem OnlySongs.run (calls : List SongCall) (h : b.OnlySongs name) :
    (calls.foldl SongCall.apply b).OnlySongs name := by
  induction calls generalizing b with
  | nil => exact h
  | cons call calls ih => exact ih (h.apply call)

/-- Once a song has defined the name, only songs enter it. -/
theorem onlySongs_of_redefined (b : ChordBook) {calls : List SongCall}
    (h : name ∈ redefined calls) : (calls.foldl SongCall.apply b).OnlySongs name := by
  obtain ⟨call, hmem, hcall⟩ := List.mem_filterMap.1 h
  obtain ⟨before, after, rfl⟩ := List.append_of_mem hmem
  cases call with
  | define d =>
    obtain rfl : d.name = name := by simpa [SongCall.defines?] using hcall
    rw [List.foldl_append, List.foldl_cons]
    exact (OnlySongs.define _ d).run after
  | use other => simp [SongCall.defines?] at hcall
  | startSong => simp [SongCall.defines?] at hcall

theorem entries_run (h : b.OutsideSongs name) {calls : List SongCall}
    (hcalls : name ∉ redefined calls) :
    (calls.foldl SongCall.apply b).entries name = b.entries name := by
  induction calls generalizing b with
  | nil => rfl
  | cons call calls ih =>
    have hcall : call.defines? ≠ some name := fun hname =>
      hcalls (List.mem_filterMap.2 ⟨call, List.mem_cons_self, hname⟩)
    have hlater : name ∉ redefined calls := fun hmem => by
      obtain ⟨other, hother, hname⟩ := List.mem_filterMap.1 hmem
      exact hcalls (List.mem_filterMap.2 ⟨other, List.mem_cons_of_mem _ hother, hname⟩)
    have hentries := entries_apply h hcall
    have hout : (call.apply b).OutsideSongs name := by
      unfold OutsideSongs
      rw [hentries]
      exact h
    rw [List.foldl_cons, ih hout hlater, hentries]

theorem get?_startSong_onlySongs (h : b.OnlySongs name) :
    (b.startSong true).get? name = ChordDefinition.builtin? name := by
  have hnil : (b.startSong true).entries name = [] := by
    rw [entries_startSong, if_pos rfl, List.filter_eq_nil_iff]
    intro d hd
    simp [h d hd]
  rw [get?_eq, hnil]
  rfl

theorem get?_startSong_outsideSongs (h : b.OutsideSongs name) :
    (b.startSong true).get? name = b.get? name := by
  have hentries : (b.startSong true).entries name = b.entries name :=
    entries_apply h (show SongCall.startSong.defines? ≠ some name by simp [SongCall.defines?])
  rw [get?_eq, get?_eq, hentries]

/-- What configuration files have entered: nothing for the names they do not define, and nothing of
another origin. -/
theorem entries_ofConfiguration (autoAdjust : Bool) (config : List ChordDefinition)
    (name : String) :
    (name ∈ config.map (·.name) ↔ (ofConfiguration autoAdjust config).entries name ≠ []) ∧
      ∀ d ∈ (ofConfiguration autoAdjust config).entries name, d.origin = .configuration := by
  induction config using List.reverseRecOn with
  | nil => simp [ofConfiguration, empty, entries]
  | append_singleton config d ih =>
    obtain ⟨hne, horigin⟩ := ih
    simp only [ofConfiguration, List.foldl_append, List.foldl_cons, List.foldl_nil, entries_define,
      List.map_append, List.mem_append]
    by_cases hname : d.name = name
    · simpa [hname] using (fitted_keeps _ _).2
    · rw [if_neg hname]
      refine ⟨?_, horigin⟩
      rw [← ofConfiguration, ← hne]
      simp [Ne.symm hname]

theorem origin_of_builtin? {d : ChordDefinition} (h : ChordDefinition.builtin? name = some d) :
    d.origin = .builtin := by
  have hall : ∀ d ∈ ChordDefinition.builtins, d.origin = .builtin := by decide
  exact hall d (List.mem_of_find?_eq_some h)

/-- When the next song starts no chord counts as used, and the chords are known as the configuration
left them, but for those of the configuration that a song has defined: of these only the builtin
definition is known. -/
theorem get?_afterSongs_iff (autoAdjust : Bool) (config : List ChordDefinition)
    (calls : List SongCall) :
    ((ofConfiguration autoAdjust config).afterSongs calls).used = [] ∧
      ∀ name,
        (((ofConfiguration autoAdjust config).afterSongs calls).get? name =
            (ofConfiguration autoAdjust config).get? name ↔
          ¬(name ∈ config.map (·.name) ∧ name ∈ redefined calls)) ∧
        ((ofConfiguration autoAdjust config).afterSongs calls).get? name =
          if name ∈ config.map (·.name) ∧ name ∈ redefined calls then
            ChordDefinition.builtin? name
          else (ofConfiguration autoAdjust config).get? name := by
  refine ⟨rfl, fun name => ?_⟩
  obtain ⟨hconfig, horigin⟩ := entries_ofConfiguration autoAdjust config name
  set b := ofConfiguration autoAdjust config
  by_cases hin : name ∈ config.map (·.name)
  · have hout : b.OutsideSongs name := ⟨hconfig.1 hin, fun d hd => by simp [horigin d hd]⟩
    by_cases hsong : name ∈ redefined calls
    · -- the song's definition stands where the configured one stood, and goes
      have hget := get?_startSong_onlySongs (onlySongs_of_redefined b hsong)
      rw [if_pos ⟨hin, hsong⟩]
      refine ⟨⟨fun hsame => ?_, fun hnot => absurd ⟨hin, hsong⟩ hnot⟩, hget⟩
      obtain ⟨d, ds, hd⟩ := List.exists_cons_of_ne_nil hout.1
      have hb : b.get? name = some d := by rw [get?_eq, hd]; rfl
      have hbuiltin := origin_of_builtin? (hget.symm.trans (hsame.trans hb))
      rw [horigin d (hd ▸ List.mem_cons_self)] at hbuiltin
      cases hbuiltin
    · have hentries := entries_run hout hsong
      have hget : (b.afterSongs calls).get? name = b.get? name := by
        have hlater : (calls.foldl SongCall.apply b).OutsideSongs name := by
          unfold OutsideSongs
          rw [hentries]
          exact hout
        rw [afterSongs, get?_startSong_outsideSongs hlater, get?_eq, get?_eq, hentries]
      rw [if_neg (fun h => hsong h.2)]
      exact ⟨⟨fun _ h => hsong h.2, fun _ => hget⟩, hget⟩
  · -- a name that the configuration does not enter is entered by songs alone
    have hnil : b.entries name = [] := by
      by_contra hne
      exact hin (hconfig.2 hne)
    have honly : b.OnlySongs name := fun d hd => by simp [hnil] at hd
    have hget : (b.afterSongs calls).get? name = b.get? name := by
      rw [afterSongs, get?_startSong_onlySongs (honly.run calls), get?_eq, hnil]
      rfl
    rw [if_neg (fun h => hin h.1)]
    exact ⟨⟨fun _ h => hin h.1, fun _ => hget⟩, hget⟩

/-- A chord of the configuration that one song defines in its own way is lost. -/
theorem get?_afterSongs_lost :
    let configured := ofConfiguration true [.entry "R1" 1 #v[0, 2, 2, 0, 0, 0] .hard]
    let ours := ChordDefinition.entry "R1" 1 #v[0, 2, 2, 1, 0, 0] .hard
    (configured.get? "R1").map (·.origin) = some .configuration ∧
      (configured.afterSongs [.define ours]).get? "R1" = none := by
  decide +kernel

end ChordBook

end Songbook
