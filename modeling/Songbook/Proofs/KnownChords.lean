import Mathlib.Data.List.Induction
import Songbook.Proofs.PrintedDefinitions
import Songbook.Proofs.SongDefinitions

/-!
# The chords known outside songs

Once the configuration files are read, the chords known are the builtin ones that no file defines
and one definition for each name that the files define, sorted by name (`known_ofConfiguration`).

The listing is taken from the entries of the book, and a name has one entry. A definition of a song
stands in the place of the configured one, which is lost from then on even if the song's definition
is dropped, and it hides the builtin chord of its name for as long as it stands. So the chords known
are the same later exactly if no song has defined a configured name and no definition of a builtin
name by a song is standing (`known_afterCalls_iff`). A name that a song uses without a definition
changes nothing.
-/

namespace Songbook

namespace ChordDefinition

variable {args : String} {order : FretOrder} {origin : Origin} {d : ChordDefinition}

theorem origin_of_read (h : read args order origin = .ok d) : d.origin = origin := by
  rcases hwords : Text.words args with _ | ⟨name, ws⟩
  · rw [read, hwords] at h
    cases h
  · by_cases hws : ws = []
    · rw [read, hwords, hws] at h
      cases h
    · obtain ⟨base, rows, -, -, rfl⟩ := (read_eq_ok_iff hwords hws).1 h
      rfl

/-- The definitions read from the arguments of directives; some cannot be read. -/
def readable (origin : Origin) (texts : List (String × FretOrder)) : List ChordDefinition :=
  texts.filterMap fun t => (read t.1 t.2 origin).toOption

theorem of_mem_readable {texts : List (String × FretOrder)} (h : d ∈ readable origin texts) :
    d.origin = origin ∧ d.isStub = false := by
  obtain ⟨t, -, hread⟩ := List.mem_filterMap.1 h
  cases hd : read t.1 t.2 origin with
  | error p => simp [hd, Except.toOption] at hread
  | ok e =>
    obtain rfl : e = d := by simpa [hd, Except.toOption] using hread
    obtain ⟨f, hprintable⟩ := printable_of_read hd
    exact ⟨origin_of_read hd, by simp [isStub, hprintable.fingering]⟩

end ChordDefinition

namespace ChordBook

/-- What is done with the book after the configuration. A song defines a chord by the arguments of
its directive, and the next song keeps the definitions of the last one or drops them. -/
inductive BookCall where
  | use (name : String)
  | define (args : String) (order : FretOrder)
  | startSong (drop : Bool)

namespace BookCall

/-- What a song defines by these arguments, if they can be read. -/
def definition? : BookCall → Option ChordDefinition
  | .define args order => (ChordDefinition.read args order .song).toOption
  | _ => none

def apply (b : ChordBook) (call : BookCall) : ChordBook :=
  match call with
  | .use name => b.use name
  | .define _ _ =>
    match call.definition? with
    | some d => (b.define d).1
    | none => b
  | .startSong drop => b.startSong drop

def defines? (call : BookCall) : Option String := call.definition?.map (·.name)

/-- The names that songs have defined. -/
def defined (calls : List BookCall) : List String := calls.filterMap defines?

/-- The names whose definition by a song is not dropped, when it was not for `names`. -/
def stands (names : List String) (call : BookCall) : List String :=
  match call with
  | .startSong true => []
  | _ => call.defines?.toList ++ names

/-- The names whose definition by a song is not dropped in the end. -/
def standing (calls : List BookCall) : List String := calls.foldl stands []

theorem standing_append (calls : List BookCall) (call : BookCall) :
    standing (calls ++ [call]) = stands (standing calls) call := by
  rw [standing, List.foldl_append]
  rfl

theorem mem_defined_append {calls : List BookCall} {call : BookCall} {name : String} :
    name ∈ defined (calls ++ [call]) ↔
      name ∈ defined calls ∨ call.defines? = some name := by
  rw [defined, List.filterMap_append, List.mem_append]
  cases hd : call.defines? <;> simp [defined, hd, eq_comm]

theorem mem_defined_of_standing {calls : List BookCall} {name : String}
    (h : name ∈ standing calls) : name ∈ defined calls := by
  induction calls using List.reverseRecOn with
  | nil => cases h
  | append_singleton calls call ih =>
    rw [standing_append] at h
    rw [mem_defined_append]
    cases call with
    | use other => exact .inl (ih h)
    | startSong drop =>
      cases drop with
      | true => cases h
      | false => exact .inl (ih h)
    | define args order =>
      rcases List.mem_append.1 h with hnew | hold
      · exact .inr (Option.mem_toList.1 hnew)
      · exact .inl (ih hold)

end BookCall

variable {b : ChordBook} {name : String}

theorem mem_entries {d : ChordDefinition} :
    d ∈ b.entries name ↔ d ∈ b.definitions ∧ d.name = name := by
  rw [entries, List.mem_filter, beq_iff_eq]

/-! ## What no song has entered -/

/-- The definitions that are not a song's. -/
def outside (b : ChordBook) : List ChordDefinition := b.definitions.filter (·.origin != .song)

/-- One entry a name. -/
def OneEach (b : ChordBook) : Prop := (b.definitions.map (·.name)).Nodup

theorem OneEach.insert (h : b.OneEach) (d : ChordDefinition) : (b.insert d).OneEach := by
  unfold OneEach ChordBook.insert
  rw [List.map_cons, List.nodup_cons]
  refine ⟨fun hmem => ?_, h.sublist (List.filter_sublist.map _)⟩
  obtain ⟨e, he, hname⟩ := List.mem_map.1 hmem
  simp [hname] at he

theorem definitions_use (b : ChordBook) (name : String) :
    (b.use name).definitions =
      if b.get? name = none then .stub name :: b.definitions else b.definitions := by
  have hstub : ∀ c : ChordBook, c.definitions = b.definitions →
      (if (c.get? name).isSome then c else c.insert (.stub name)).definitions =
        if b.get? name = none then .stub name :: b.definitions else b.definitions := by
    intro c hc
    have hget : c.get? name = b.get? name := by
      unfold get? defined?
      rw [hc]
    rw [hget]
    cases hnone : b.get? name with
    | some d => simpa using hc
    | none =>
      have hnil : b.definitions.filter (·.name == name) = [] := (get?_eq_none.1 hnone).1
      rw [Option.isSome_none, if_neg Bool.false_ne_true, if_pos rfl]
      show _ :: c.definitions.filter (·.name != name) = _
      rw [hc, List.filter_eq_self.2 fun d hd => ?_]
      simpa using List.filter_eq_nil_iff.1 hnil d hd
  unfold use
  dsimp only
  split
  · exact hstub b rfl
  · exact hstub _ rfl

theorem OneEach.use (h : b.OneEach) (name : String) : (b.use name).OneEach := by
  unfold OneEach
  rw [definitions_use]
  split
  · next hnone =>
    have hnil : b.entries name = [] := (get?_eq_none.1 hnone).1
    rw [List.map_cons, List.nodup_cons]
    refine ⟨fun hmem => ?_, h⟩
    obtain ⟨d, hd, hname⟩ := List.mem_map.1 hmem
    exact List.not_mem_nil (hnil ▸ mem_entries.2 ⟨hd, hname⟩)
  · exact h

theorem definitions_define (b : ChordBook) (d : ChordDefinition) :
    (b.define d).1.definitions = (b.fitted d).1 :: b.definitions.filter (·.name != d.name) := by
  show (b.fitted d).1 :: b.definitions.filter (·.name != (b.fitted d).1.name) = _
  rw [(fitted_keeps b d).1]

theorem origin_of_definition? {call : BookCall} {d : ChordDefinition}
    (h : call.definition? = some d) : d.origin = .song := by
  cases call with
  | use other => cases h
  | startSong drop => cases h
  | define args order =>
    cases hread : ChordDefinition.read args order .song with
    | error p => simp [BookCall.definition?, hread, Except.toOption] at h
    | ok e =>
      obtain rfl : e = d := by simpa [BookCall.definition?, hread, Except.toOption] using h
      exact ChordDefinition.origin_of_read hread

/-- A call takes from what is not a song's the name that it defines. -/
theorem outside_apply (b : ChordBook) (call : BookCall) :
    (call.apply b).outside =
      b.outside.filter fun d => call.defines? ≠ some d.name := by
  unfold outside BookCall.defines?
  cases call with
  | use other =>
    rw [BookCall.apply, definitions_use]
    split <;> simp [BookCall.definition?, ChordDefinition.stub]
  | startSong drop =>
    cases drop <;> simp [BookCall.apply, BookCall.definition?, startSong]
  | define args order =>
    cases hd : (BookCall.define args order).definition? with
    | none => simp [BookCall.apply, hd]
    | some d =>
      have hsong : (b.fitted d).1.origin = .song :=
        (fitted_keeps b d).2.trans (origin_of_definition? hd)
      rw [BookCall.apply, hd, definitions_define, List.filter_cons_of_neg (by simp [hsong]),
        List.filter_filter, List.filter_filter]
      refine List.filter_congr fun e _ => ?_
      by_cases he : e.name = d.name
      · simp [he]
      · simp [he, Ne.symm he]

/-- What is not a song's is what it was before the songs, less the names that they have defined. -/
theorem outside_run (b : ChordBook) (calls : List BookCall) :
    (calls.foldl BookCall.apply b).outside =
      b.outside.filter fun d => d.name ∉ BookCall.defined calls := by
  induction calls using List.reverseRecOn with
  | nil => simp [BookCall.defined]
  | append_singleton calls call ih =>
    rw [List.foldl_append]
    show (call.apply _).outside = _
    rw [outside_apply, ih, List.filter_filter]
    refine List.filter_congr fun d _ => ?_
    rw [← Bool.decide_and, decide_eq_decide, BookCall.mem_defined_append]
    tauto

/-! ## What songs have entered -/

/-- A definition of this name by a song is entered. -/
def FromSong (b : ChordBook) (name : String) : Prop :=
  ∃ d ∈ b.definitions, d.name = name ∧ d.origin = .song

theorem entries_eq_nil_iff : b.entries name = [] ↔
    ¬ b.FromSong name ∧ ∀ d ∈ b.outside, d.name ≠ name := by
  rw [entries, List.filter_eq_nil_iff]
  simp only [outside, FromSong, List.mem_filter, bne_iff_ne]
  constructor
  · intro h
    refine ⟨?_, fun d hd hname => h d hd.1 (by simpa using hname)⟩
    rintro ⟨d, hd, hname, -⟩
    exact h d hd (by simpa using hname)
  · rintro ⟨hsong, hout⟩ d hd hname
    rw [beq_iff_eq] at hname
    by_cases horigin : d.origin = .song
    · exact hsong ⟨d, hd, hname, horigin⟩
    · exact hout d ⟨hd, horigin⟩ hname

/-- For a builtin chord a call enters nothing but what it defines: its name is never a stub. -/
theorem fromSong_apply (hbuiltin : ChordDefinition.builtin? name ≠ none) {names : List String}
    (h : b.FromSong name ↔ name ∈ names) (call : BookCall) :
    (call.apply b).FromSong name ↔ name ∈ call.stands names := by
  cases call with
  | use other =>
    unfold FromSong
    rw [BookCall.apply, definitions_use]
    show _ ↔ name ∈ names
    rw [← h]
    split
    · next hnone =>
      have hother : other ≠ name := by
        rintro rfl
        exact hbuiltin (get?_eq_none.1 hnone).2
      simp [FromSong, ChordDefinition.stub, hother]
    · rfl
  | startSong drop =>
    cases drop with
    | true =>
      refine ⟨?_, nofun⟩
      rintro ⟨d, hd, -, hsong⟩
      simp [BookCall.apply, startSong, hsong] at hd
    | false => exact h
  | define args order =>
    show _ ↔ name ∈ (BookCall.define args order).defines?.toList ++ names
    rw [List.mem_append, ← h, Option.mem_toList, BookCall.defines?]
    cases hd : (BookCall.define args order).definition? with
    | none => simp [BookCall.apply, hd]
    | some d =>
      obtain ⟨hname, horigin⟩ := fitted_keeps b d
      rw [origin_of_definition? hd] at horigin
      unfold FromSong
      rw [BookCall.apply, hd]
      simp only [definitions_define, List.mem_cons, List.mem_filter, bne_iff_ne, Option.map_some,
        Option.some.injEq]
      by_cases hsame : d.name = name
      · exact ⟨fun _ => .inl hsame, fun _ => ⟨_, .inl rfl, hname.trans hsame, horigin⟩⟩
      · refine ⟨?_, ?_⟩
        · rintro ⟨e, rfl | he, hename, hsong⟩
          · exact absurd (hname.symm.trans hename) hsame
          · exact .inr ⟨e, he.1, hename, hsong⟩
        · rintro (hn | ⟨e, he, hename, hsong⟩)
          · exact absurd hn hsame
          · exact ⟨e, .inr ⟨he, fun hn => hsame (hn.symm.trans hename)⟩, hename, hsong⟩

theorem fromSong_run (hbuiltin : ChordDefinition.builtin? name ≠ none) (h : ¬ b.FromSong name)
    (calls : List BookCall) :
    (calls.foldl BookCall.apply b).FromSong name ↔ name ∈ BookCall.standing calls := by
  induction calls using List.reverseRecOn with
  | nil => simpa [BookCall.standing] using h
  | append_singleton calls call ih =>
    rw [List.foldl_append, BookCall.standing_append]
    exact fromSong_apply hbuiltin ih call

/-! ## The listing -/

theorem configured_eq (b : ChordBook) : b.configured =
    (b.outside.filter fun d => d.origin == .configuration && !d.isStub).mergeSort
      fun d e => !decide (e.name < d.name) := by
  unfold configured outside
  rw [List.filter_filter]
  refine congrArg (List.mergeSort · _) (List.filter_congr fun d _ => ?_)
  cases d.origin <;> simp

theorem mem_configured {d : ChordDefinition} :
    d ∈ b.configured ↔ d ∈ b.definitions ∧ d.origin = .configuration ∧ d.isStub = false := by
  rw [configured, List.mem_mergeSort, List.mem_filter]
  simp

/-- The names of the configured chords are in ascending order, and each comes once. -/
theorem OneEach.configured_pairwise (h : b.OneEach) :
    b.configured.Pairwise fun d e => d.name < e.name := by
  have hle : ∀ d e : ChordDefinition, (!decide (e.name < d.name)) = true ↔ d.name ≤ e.name := by
    intro d e
    rw [Bool.not_eq_true', decide_eq_false_iff_not, String.not_lt]
  have hsorted : b.configured.Pairwise fun d e => (!decide (e.name < d.name)) = true := by
    refine List.pairwise_mergeSort (fun d e f hde hef => ?_) (fun d e => ?_) _
    · exact (hle d f).2 (String.le_trans ((hle d e).1 hde) ((hle e f).1 hef))
    · rw [Bool.or_eq_true, hle, hle]
      exact String.le_total d.name e.name
  have hnodup : (b.configured.map (·.name)).Nodup := by
    refine ((List.mergeSort_perm _ _).map _).nodup_iff.2 ?_
    exact h.sublist (List.filter_sublist.map _)
  refine (hsorted.and (List.pairwise_map.1 hnodup)).imp fun hde => ?_
  exact Std.lt_of_le_of_ne ((hle _ _).1 hde.1) hde.2

theorem OneEach.run (h : b.OneEach) (calls : List BookCall) :
    (calls.foldl BookCall.apply b).OneEach := by
  induction calls using List.reverseRecOn with
  | nil => exact h
  | append_singleton calls call ih =>
    rw [List.foldl_append]
    generalize calls.foldl BookCall.apply b = b at ih
    show (call.apply b).OneEach
    cases call with
    | use other => exact ih.use other
    | startSong drop =>
      cases drop with
      | true => exact ih.sublist (List.filter_sublist.map _)
      | false => exact ih
    | define args order =>
      dsimp only [BookCall.apply]
      split
      · exact ih.insert _
      · exact ih

/-- Of the configured chords those are lost that songs have defined. -/
theorem OneEach.configured_run (h : b.OneEach) (calls : List BookCall) :
    (calls.foldl BookCall.apply b).configured =
      b.configured.filter fun d => d.name ∉ BookCall.defined calls := by
  refine List.Perm.eq_of_pairwise (fun d e _ _ hde hed => absurd hed (String.lt_asymm hde))
    (h.run calls).configured_pairwise (h.configured_pairwise.filter _) ?_
  rw [configured_eq, configured_eq, outside_run, List.filter_comm]
  exact (List.mergeSort_perm _ _).trans ((List.mergeSort_perm _ _).symm.filter _)

/-- A builtin chord is hidden by whatever is entered for its name. -/
theorem keepsBuiltin_iff (horigin : ∀ d ∈ b.definitions, d.origin ≠ .builtin)
    (d : ChordDefinition) : b.keepsBuiltin d = true ↔ b.entries d.name = [] := by
  rw [keepsBuiltin, defined?, ← List.head?_filter]
  show (match (b.entries d.name).head? with | some other => _ | none => _) = true ↔ _
  cases hentries : b.entries d.name with
  | nil => simp
  | cons e es =>
    have he : e ∈ b.definitions := (mem_entries.1 (hentries ▸ List.mem_cons_self)).1
    simpa using horigin e he

theorem keepsBuiltin_run (horigin : ∀ d ∈ b.definitions, d.origin = .configuration)
    (calls : List BookCall) {d : ChordDefinition} (hd : d ∈ ChordDefinition.builtins) :
    (calls.foldl BookCall.apply b).keepsBuiltin d = true ↔
      d.name ∉ BookCall.standing calls ∧
        ∀ e ∈ b.definitions, e.name = d.name → d.name ∈ BookCall.defined calls := by
  have hbuiltin : ChordDefinition.builtin? d.name ≠ none := by
    rw [ChordDefinition.builtin?, Ne, List.find?_eq_none]
    exact fun h => h d hd (by simp)
  have hsong : ¬ b.FromSong d.name := by
    rintro ⟨e, he, -, hsong⟩
    rw [horigin e he] at hsong
    cases hsong
  have hall : b.outside = b.definitions := by
    refine List.filter_eq_self.2 fun e he => ?_
    simp [horigin e he]
  have hsource : ∀ e ∈ (calls.foldl BookCall.apply b).definitions, e.origin ≠ .builtin := by
    intro e he hbuiltin
    have hout : e ∈ (calls.foldl BookCall.apply b).outside :=
      List.mem_filter.2 ⟨he, by simp [hbuiltin]⟩
    rw [outside_run, hall] at hout
    rw [horigin e (List.mem_of_mem_filter hout)] at hbuiltin
    cases hbuiltin
  rw [keepsBuiltin_iff hsource, entries_eq_nil_iff, fromSong_run hbuiltin hsong, outside_run, hall]
  refine and_congr_right' ⟨fun h e he hname => ?_, fun h e he hname => ?_⟩
  · by_contra hnot
    exact h e (List.mem_filter.2 ⟨he, by simpa [hname] using hnot⟩) hname
  · obtain ⟨hmem, hnot⟩ := List.mem_filter.1 he
    rw [decide_eq_true_eq, hname] at hnot
    exact hnot (h e hmem hname)

/-! ## What the configuration has entered -/

/-- The last of the definitions of a name. -/
def last? (config : List ChordDefinition) (name : String) : Option ChordDefinition :=
  config.reverse.find? (·.name == name)

theorem autoAdjust_ofConfiguration (autoAdjust : Bool) (config : List ChordDefinition) :
    (ofConfiguration autoAdjust config).autoAdjust = autoAdjust := by
  induction config using List.reverseRecOn with
  | nil => rfl
  | append_singleton config d ih =>
    rw [ofConfiguration, List.foldl_append]
    exact ih

theorem oneEach_ofConfiguration (autoAdjust : Bool) (config : List ChordDefinition) :
    (ofConfiguration autoAdjust config).OneEach := by
  induction config using List.reverseRecOn with
  | nil => exact List.nodup_nil
  | append_singleton config d ih =>
    rw [ofConfiguration, List.foldl_append]
    exact ih.insert _

/-- Of each name the configuration leaves the last definition, fitted. -/
theorem entries_ofConfiguration_eq (autoAdjust : Bool) (config : List ChordDefinition)
    (name : String) : (ofConfiguration autoAdjust config).entries name =
      ((last? config name).map fun d => ((ofConfiguration autoAdjust config).fitted
        { d with origin := .configuration }).1).toList := by
  have hfitted : ∀ config, (ofConfiguration autoAdjust config).fitted =
      (ofConfiguration autoAdjust []).fitted := by
    intro config
    funext d
    unfold fitted
    rw [autoAdjust_ofConfiguration, autoAdjust_ofConfiguration]
  induction config using List.reverseRecOn with
  | nil => rfl
  | append_singleton config d ih =>
    rw [hfitted] at ih ⊢
    rw [ofConfiguration, List.foldl_append]
    show ((ofConfiguration autoAdjust config).define { d with origin := .configuration }).1.entries
      name = _
    rw [entries_define, hfitted, ih, last?, last?, List.reverse_append, List.reverse_singleton,
      List.singleton_append, List.find?_cons]
    by_cases hname : d.name = name
    · simp [hname]
    · rw [if_neg hname, beq_false_of_ne hname]

theorem isStub_fitted (b : ChordBook) (d : ChordDefinition) :
    (b.fitted d).1.isStub = d.isStub := by
  unfold fitted
  split
  · next hf => simp [ChordDefinition.isStub, hf]
  · rfl

/-- What the configuration files leave in the book, given the arguments of their definitions. -/
def ofFiles (autoAdjust : Bool) (config : List (String × FretOrder)) : ChordBook :=
  ofConfiguration autoAdjust (ChordDefinition.readable .configuration config)

theorem mem_definitions_ofFiles {autoAdjust : Bool} {config : List (String × FretOrder)}
    {d : ChordDefinition} : d ∈ (ofFiles autoAdjust config).definitions ↔
      ∃ last, last? (ChordDefinition.readable .configuration config) d.name = some last ∧
        d = ((ofFiles autoAdjust config).fitted last).1 := by
  have hsame : ∀ last, last? (ChordDefinition.readable .configuration config) d.name = some last →
      { last with origin := .configuration } = last := by
    intro last hlast
    have hmem := List.mem_reverse.1 (List.mem_of_find?_eq_some hlast)
    rw [← (ChordDefinition.of_mem_readable hmem).1]
  rw [← and_iff_left (rfl : d.name = d.name) (a := d ∈ _), ← mem_entries, ofFiles,
    entries_ofConfiguration_eq, Option.mem_toList, Option.map_eq_some_iff]
  refine exists_congr fun last => and_congr_right fun hlast => ?_
  rw [hsame last hlast, eq_comm]

theorem of_mem_ofFiles {autoAdjust : Bool} {config : List (String × FretOrder)}
    {d : ChordDefinition} (h : d ∈ (ofFiles autoAdjust config).definitions) :
    d.origin = .configuration ∧ d.isStub = false ∧
      d.name ∈ (ChordDefinition.readable .configuration config).map (·.name) := by
  obtain ⟨last, hlast, rfl⟩ := mem_definitions_ofFiles.1 h
  have hmem := List.mem_reverse.1 (List.mem_of_find?_eq_some hlast)
  obtain ⟨horigin, hstub⟩ := ChordDefinition.of_mem_readable hmem
  obtain ⟨hname, hkept⟩ := fitted_keeps (ofFiles autoAdjust config) last
  refine ⟨hkept.trans horigin, (isStub_fitted _ _).trans hstub, ?_⟩
  rw [hname]
  exact List.mem_map_of_mem hmem

theorem mem_names_ofFiles (autoAdjust : Bool) {config : List (String × FretOrder)} {name : String} :
    name ∈ (ChordDefinition.readable .configuration config).map (·.name) ↔
      ∃ d ∈ (ofFiles autoAdjust config).definitions, d.name = name := by
  rw [(entries_ofConfiguration autoAdjust _ name).1, Ne, List.eq_nil_iff_forall_not_mem]
  push Not
  exact exists_congr fun d => mem_entries

theorem oneEach_ofFiles (autoAdjust : Bool) (config : List (String × FretOrder)) :
    (ofFiles autoAdjust config).OneEach := oneEach_ofConfiguration autoAdjust _

/-! ## The chords known -/

theorem known_run (autoAdjust : Bool) (config : List (String × FretOrder)) (calls : List BookCall) :
    (calls.foldl BookCall.apply (ofFiles autoAdjust config)).known =
      (ChordDefinition.builtins.filter fun d => d.name ∉ BookCall.standing calls ∧
        (d.name ∈ (ChordDefinition.readable .configuration config).map (·.name) →
          d.name ∈ BookCall.defined calls)) ++
      (ofFiles autoAdjust config).configured.filter fun d => d.name ∉ BookCall.defined calls := by
  rw [known, (oneEach_ofFiles autoAdjust config).configured_run calls]
  refine congrArg (· ++ _) (List.filter_congr fun d hd => ?_)
  rw [Bool.eq_iff_iff, decide_eq_true_eq,
    keepsBuiltin_run (fun e he => (of_mem_ofFiles he).1) calls hd, mem_names_ofFiles]
  refine and_congr_right' ⟨?_, fun h e he hname => h ⟨e, he, hname⟩⟩
  rintro h ⟨e, he, hname⟩
  exact h e he hname

variable {autoAdjust : Bool} {config : List (String × FretOrder)} {calls : List BookCall}

theorem known_ofFiles : (ofFiles autoAdjust config).known =
    (ChordDefinition.builtins.filter fun d =>
      d.name ∉ (ChordDefinition.readable .configuration config).map (·.name)) ++
      (ofFiles autoAdjust config).configured := by
  have h := known_run autoAdjust config []
  simpa [BookCall.standing, BookCall.defined] using h

theorem mem_configured_ofFiles {d : ChordDefinition} :
    d ∈ (ofFiles autoAdjust config).configured ↔ d ∈ (ofFiles autoAdjust config).definitions := by
  rw [mem_configured, and_iff_left_iff_imp]
  intro h
  exact ⟨(of_mem_ofFiles h).1, (of_mem_ofFiles h).2.1⟩

theorem mem_names_configured : name ∈ (ofFiles autoAdjust config).configured.map (·.name) ↔
    name ∈ (ChordDefinition.readable .configuration config).map (·.name) := by
  rw [mem_names_ofFiles autoAdjust, List.mem_map]
  exact exists_congr fun d => and_congr_left' mem_configured_ofFiles

theorem nodup_names_known : ((ofFiles autoAdjust config).known.map (·.name)).Nodup := by
  have hsorted := (oneEach_ofFiles autoAdjust config).configured_pairwise
  rw [known_ofFiles, List.map_append, List.nodup_append]
  refine ⟨ChordDefinition.nodup_builtins.sublist (List.filter_sublist.map _), ?_, ?_⟩
  · refine List.pairwise_map.2 (hsorted.imp fun {d e} hlt hsame => ?_)
    exact String.lt_irrefl e.name (hsame ▸ hlt)
  · rintro name hbuiltin other hother rfl
    obtain ⟨d, hd, rfl⟩ := List.mem_map.1 hbuiltin
    rw [mem_names_configured] at hother
    simpa [hother] using List.of_mem_filter hd

/-- The builtin chords of two listings are the same, and so are the configured ones. -/
theorem append_configured_inj {ds es fs gs : List ChordDefinition}
    (hds : ∀ d ∈ ds, d.origin = .builtin) (hfs : ∀ d ∈ fs, d.origin = .builtin)
    (hes : ∀ d ∈ es, d.origin = .configuration) (hgs : ∀ d ∈ gs, d.origin = .configuration) :
    ds ++ es = fs ++ gs ↔ ds = fs ∧ es = gs := by
  have hsplit : ∀ {as bs : List ChordDefinition}, (∀ d ∈ as, d.origin = .builtin) →
      (∀ d ∈ bs, d.origin = .configuration) → (as ++ bs).filter (·.origin == .builtin) = as := by
    intro as bs has hbs
    rw [List.filter_append, List.filter_eq_self.2 fun d hd => by simp [has d hd],
      List.filter_eq_nil_iff.2 fun d hd => by simp [hbs d hd], List.append_nil]
  refine ⟨fun h => ?_, fun h => by rw [h.1, h.2]⟩
  have hbuiltins : ds = fs := by
    rw [← hsplit hds hes, h, hsplit hfs hgs]
  subst hbuiltins
  exact ⟨rfl, List.append_cancel_left h⟩

/-- The configured chords stay if no song defines a name of the configuration. -/
theorem filter_configured_eq_iff :
    ((ofFiles autoAdjust config).configured.filter fun d => d.name ∉ BookCall.defined calls) =
      (ofFiles autoAdjust config).configured ↔
    ∀ d ∈ ChordDefinition.readable .configuration config, d.name ∉ BookCall.defined calls := by
  rw [List.filter_eq_self]
  constructor
  · intro h d hd
    have hname : d.name ∈ (ofFiles autoAdjust config).configured.map (·.name) :=
      mem_names_configured.2 (List.mem_map_of_mem hd)
    obtain ⟨e, he, hname⟩ := List.mem_map.1 hname
    simpa [hname] using h e he
  · intro h e he
    obtain ⟨d, hd, hname⟩ := List.mem_map.1 (mem_names_configured.1 (List.mem_map_of_mem he))
    simpa [hname] using h d hd

/-- Where no song has defined one of the given names, the builtin chords without such a name are the
same if and only if no song's definition of a builtin name is standing. -/
theorem filter_builtins_eq_iff {names : List String}
    (hnames : ∀ name ∈ names, name ∉ BookCall.defined calls) :
    (ChordDefinition.builtins.filter fun d => d.name ∉ BookCall.standing calls ∧
        (d.name ∈ names → d.name ∈ BookCall.defined calls)) =
      ChordDefinition.builtins.filter (fun d => d.name ∉ names) ↔
    ∀ d ∈ ChordDefinition.builtins, d.name ∉ BookCall.standing calls := by
  refine ⟨fun h d hd hstanding => ?_, fun h => List.filter_congr fun d hd => ?_⟩
  · -- a builtin chord with a standing definition is no longer listed, and it was at first
    have hnew : d.name ∉ names := fun hmem =>
      hnames _ hmem (BookCall.mem_defined_of_standing hstanding)
    have hlisted : d ∈ ChordDefinition.builtins.filter (fun d => d.name ∉ names) :=
      List.mem_filter.2 ⟨hd, by simpa using hnew⟩
    rw [← h] at hlisted
    simpa [hstanding] using List.of_mem_filter hlisted
  · have hnot := hnames d.name
    have hfree := h d hd
    rw [decide_eq_decide]
    tauto

/-- Right after the configuration the chords known are the builtin ones whose name it does not
define, in the order of the table, and one for each name that it defines, sorted by name. Later,
whatever songs have used, defined and dropped, they are the builtin ones whose name is free again
and the configured ones that no song has defined: the same chords exactly if no song has defined a
name of the configuration and no song's definition of a builtin name is standing. -/
theorem known_afterCalls_iff (autoAdjust : Bool) (config : List (String × FretOrder))
    (calls : List BookCall) :
    let given := ChordDefinition.readable .configuration config
    let b := ofFiles autoAdjust config
    let later := calls.foldl BookCall.apply b
    (b.known = ChordDefinition.builtins.filter (fun d => d.name ∉ given.map (·.name)) ++
          b.configured ∧
        b.configured.Pairwise (fun d e => d.name < e.name) ∧
        (∀ name, name ∈ b.configured.map (·.name) ↔ name ∈ given.map (·.name)) ∧
        (∀ d, d ∈ b.configured ↔
          ∃ last, last? given d.name = some last ∧ d = (b.fitted last).1) ∧
        (b.known.map (·.name)).Nodup) ∧
      later.known =
        ChordDefinition.builtins.filter (fun d => d.name ∉ BookCall.standing calls ∧
            (d.name ∈ given.map (·.name) → d.name ∈ BookCall.defined calls)) ++
          b.configured.filter (fun d => d.name ∉ BookCall.defined calls) ∧
      (later.known = b.known ↔
        (∀ d ∈ given, d.name ∉ BookCall.defined calls) ∧
          ∀ d ∈ ChordDefinition.builtins, d.name ∉ BookCall.standing calls) := by
  intro given b later
  refine ⟨⟨known_ofFiles, (oneEach_ofFiles _ _).configured_pairwise, fun _ => mem_names_configured,
    fun _ => mem_configured_ofFiles.trans mem_definitions_ofFiles, nodup_names_known⟩,
    known_run autoAdjust config calls, ?_⟩
  have hbuiltin : ∀ d ∈ ChordDefinition.builtins, d.origin = .builtin := by decide
  have horigin : ∀ d ∈ b.configured, d.origin = .configuration := fun d hd =>
    (of_mem_ofFiles (mem_configured_ofFiles.1 hd)).1
  rw [known_run autoAdjust config calls, known_ofFiles, append_configured_inj
    (fun d hd => hbuiltin d (List.mem_of_mem_filter hd))
    (fun d hd => hbuiltin d (List.mem_of_mem_filter hd))
    (fun d hd => horigin d (List.mem_of_mem_filter hd)) horigin, and_comm]
  exact (and_congr_left' filter_configured_eq_iff).trans
    (and_congr_right fun hgiven => filter_builtins_eq_iff (List.forall_mem_map.2 hgiven))

/-- A song's own C hides the builtin one, and its own R1 is the end of the configured one. -/
theorem known_loses_chords :
    let b := ofFiles true [("R1 0 2 2 0 0 0", .baseLast)]
    let afterC := [BookCall.define "C 0 2 2 0 0 0" .baseLast].foldl BookCall.apply b
    let afterR := [BookCall.define "R1 0 2 2 1 0 0" .baseLast, .startSong true].foldl
      BookCall.apply b
    "C" ∈ b.known.map (·.name) ∧ "C" ∉ afterC.known.map (·.name) ∧ afterC.listing ≠ b.listing ∧
      "R1" ∈ b.known.map (·.name) ∧ "R1" ∉ afterR.known.map (·.name) := by
  decide +kernel

end ChordBook

end Songbook
