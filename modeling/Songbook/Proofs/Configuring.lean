import Songbook.Proofs.ChordBooks
import Songbook.Proofs.Gathered
import Songbook.Proofs.DirectiveTexts
import Songbook.Proofs.Gates
import Songbook.Proofs.WholeLines
import Songbook.Session.Run

/-!
# What configuration files change

A configuration file may change fonts, modes, definitions and the paper. `Configured` says what it
leaves as it was. Each directive that is no content keeps to that
(`apply_configures`), and so does a whole file (`readText_configures`): only the paper chosen last
counts. Before the document is begun, a file prints nothing and moves the cursor only to the margins
of that paper (`readConfiguration_prints_nothing`).
-/

namespace Songbook

variable {L : Type} [Length L]

/-- The paper that a directive chooses, if it is one. -/
def Directive.paper? : Directive L → Option (PageGeometry L)
  | .paperType name => PageGeometry.paper? name
  | .formSpec spec => (PageGeometry.ofForm spec).toOption
  | _ => none

/-- The paper that the text of a directive chooses in a configuration file. -/
def paperOfText? (text : String) : Option (PageGeometry L) :=
  (Keyword.splitText? text).bind fun (name, args) => (Keyword.ofName? name).bind fun k =>
    (Directive.read k args).toOption.bind Directive.paper?

def Markup.Event.paper? : Markup.Event → Option (PageGeometry L)
  | .directive _ text => paperOfText? text
  | _ => none

/-- The paper chosen last in what is found. -/
def lastPaper? (es : List Markup.Event) : Option (PageGeometry L) :=
  (es.filterMap Markup.Event.paper?).getLast?

theorem lastPaper?_append (es : List Markup.Event) (e : Markup.Event) :
    (lastPaper? (es ++ [e]) : Option (PageGeometry L)) = e.paper?.or (lastPaper? es) := by
  unfold lastPaper?
  rw [List.filterMap_append, List.getLast?_append]
  cases h : (e.paper? : Option (PageGeometry L)) <;> simp [h]

/-- On other paper, where the page is to begin. -/
def Cursor.onPaper (c : Cursor L) (g : PageGeometry L) : Cursor L :=
  { c with
    vertical := g.top
    horizontal := g.left
    columnTop := g.top
    columnWidth := g.textWidth
    lowest := g.top }

/-- The cursor stands before the first page. -/
def Document.AtStart (d : Document L) : Prop :=
  ∃ pagination number, d.cursor = .start d.geometry pagination number

namespace Session

/-- From `s` to `t` nothing has been drawn, printed or used. With other paper the cursor stands
before a first page of the same number. -/
structure Configured (s : Session L) (paper? : Option (PageGeometry L)) (t : Session L) : Prop where
  settings : t.settings = s.settings
  device : t.device = s.device
  started : t.started = s.started
  songs : t.songs = s.songs
  startup : t.startup = s.startup
  used : t.document.chords.used = s.document.chords.used
  definitions : ∀ d ∈ t.document.chords.definitions,
    d ∈ s.document.chords.definitions ∨ d.origin = Typeset.definitionOrigin s
  index : t.document.index = s.document.index
  title : t.document.modes.title = s.document.modes.title
  inTab : t.document.modes.inTab = s.document.modes.inTab
  inBlock : t.document.modes.inBlock = s.document.modes.inBlock
  geometry : t.document.geometry = paper?.getD s.document.geometry
  cursor : t.document.cursor = paper?.elim s.document.cursor fun g =>
    .start g s.document.cursor.pagination (s.document.cursor.sheetLabel + 1)

namespace Configured

variable {s t u : Session L} {p q : Option (PageGeometry L)}

theorem refl (s : Session L) : s.Configured none s :=
  ⟨rfl, rfl, rfl, rfl, rfl, rfl, fun _ => .inl, rfl, rfl, rfl, rfl, rfl, rfl⟩

/-- The paper chosen last counts. -/
theorem trans (h : s.Configured p t) (h' : t.Configured q u) : s.Configured (q.or p) u where
  settings := h'.settings.trans h.settings
  device := h'.device.trans h.device
  started := h'.started.trans h.started
  songs := h'.songs.trans h.songs
  startup := h'.startup.trans h.startup
  used := h'.used.trans h.used
  definitions := by
    intro d hd
    have horigin : Typeset.definitionOrigin t = Typeset.definitionOrigin s := by
      unfold Typeset.definitionOrigin
      rw [h.startup]
    exact (h'.definitions d hd).elim (h.definitions d) fun hd => .inr (hd.trans horigin)
  index := h'.index.trans h.index
  title := h'.title.trans h.title
  inTab := h'.inTab.trans h.inTab
  inBlock := h'.inBlock.trans h.inBlock
  geometry := by
    rw [h'.geometry, h.geometry]
    cases q <;> rfl
  cursor := by
    have hcursor := h'.cursor
    rw [h.cursor] at hcursor
    cases q with
    | none => exact hcursor
    | some g =>
      rw [hcursor]
      cases p with
      | none => rfl
      | some g' => simp [Cursor.start]

theorem atStart (h : s.Configured p t) (hs : s.document.AtStart) : t.document.AtStart := by
  obtain ⟨pagination, number, hcursor⟩ := hs
  unfold Document.AtStart
  rw [h.cursor, h.geometry]
  cases p with
  | none => exact ⟨pagination, number, hcursor⟩
  | some g => exact ⟨_, _, rfl⟩

end Configured

end Session

namespace Typeset

open Session

/-- `x` changes only what configuration files are for, and not the paper. -/
abbrev Configures {α : Type} (x : Typeset L α) : Prop :=
  Keeps (fun (s₀ : Session L) s => s₀.Configured none s) (fun _ => False) x

variable {s t : Session L}

theorem Configures.after {α : Type} {x : Typeset L α} {paper? : Option (PageGeometry L)}
    (h : Configures x) (ht : s.Configured paper? t) :
    Ends x t (fun _ => False) fun _ u => s.Configured paper? u :=
  (h t t (.refl t)).mono fun _ _ hu => ht.trans hu

theorem Configures.ends {α : Type} {x : Typeset L α} (h : Configures x) (s : Session L) :
    Ends x s (fun _ => False) fun _ t => s.Configured none t :=
  h.after (.refl s)

theorem change_configures {f : Session L → Session L}
    (h : ∀ s : Session L, s.Configured none (f s)) :
    Configures (modify f : Typeset L Unit) := fun _ s hs => hs.trans (h s)

theorem note_configures (e : LogEntry L) : Configures (note e) :=
  change_configures fun s => { Configured.refl s with }

theorem report_configures (p : Problem) : Configures (report p : Typeset L Unit) :=
  change_configures fun s => { Configured.refl s with }

theorem modifyStyles_configures (f : StyleSheet → StyleSheet) :
    Configures (modifyStyles f : Typeset L Unit) :=
  change_configures fun s => { Configured.refl s with }

theorem modifyModes_configures {f : Modes → Modes}
    (h : ∀ m, (f m).title = m.title ∧ (f m).inTab = m.inTab ∧ (f m).inBlock = m.inBlock) :
    Configures (modifyModes f : Typeset L Unit) := by
  refine change_configures fun s => ?_
  obtain ⟨htitle, htab, hblock⟩ := h s.document.modes
  exact { Configured.refl s with title := htitle, inTab := htab, inBlock := hblock }

theorem resize_configures (k : Keyword) (slot : FontSlot) (size : SizeArgument) :
    Configures (resize k slot size : Typeset L Unit) := by
  refine .read fun _ s _ => ?_
  cases size with
  | absolute points => exact modifyStyles_configures _
  | relative delta =>
    refine .ite (report_configures _) ?_
    split
    · exact modifyStyles_configures _
    · exact report_configures _

omit [Length L] in
theorem origin_of_read {args : String} {order : FretOrder} {origin : Origin}
    {d : ChordDefinition} (h : ChordDefinition.read args order origin = .ok d) :
    d.origin = origin := by
  unfold ChordDefinition.read at h
  split at h
  · cases h
  · split at h
    · cases h
    · -- whatever its rows are read from, the definition is made of them in the same way
      simp only [bind, Except.bind] at h
      split at h
      all_goals split at h
      all_goals first
        | cases h
        | (split at h <;> cases h; rfl)

theorem define_configures (args : String) (order : FretOrder) :
    Configures (define args order : Typeset L Unit) := by
  intro s₀ s hs
  suffices h : Ends (define args order) s (fun _ => False) fun _ t => s.Configured none t from
    h.mono fun _ _ ht => hs.trans ht
  refine .bind_ok rfl ?_
  dsimp only
  split
  · exact (report_configures _).ends s
  · rename_i d hread
    have henter : s.Configured none { s with document :=
        { s.document with chords := (s.document.chords.define d).1 } } := by
      refine { Configured.refl s with definitions := fun e he => ?_ }
      rcases List.mem_cons.1 he with rfl | he
      · exact .inr ((ChordBook.fitted_keeps _ d).2.trans (origin_of_read hread))
      · exact .inl (List.mem_of_mem_filter he)
    refine .bind_ok rfl (.bind_ok rfl ?_)
    dsimp only
    split
    · exact note_configures _ s _ henter
    · exact Keeps.optional _ report_configures s _ henter

theorem setExtensions_configures (on : Bool) : Configures (setExtensions on : Typeset L Unit) :=
  .read fun _ _ _ => .ite
    (.bind (report_configures _) fun _ => modifyModes_configures fun _ => ⟨rfl, rfl, rfl⟩)
    (modifyModes_configures fun _ => ⟨rfl, rfl, rfl⟩)

theorem setAutoSpace_configures (on : Bool) : Configures (setAutoSpace on : Typeset L Unit) := by
  refine .read fun _ s _ => modifyModes_configures fun m => ?_
  cases s.scope <;> exact ⟨rfl, rfl, rfl⟩

theorem setGeometry_configured (g : PageGeometry L) (s : Session L) :
    Ends (setGeometry g) s (fun _ => False) fun _ t => s.Configured (some g) t :=
  .of_ok rfl { Configured.refl s with geometry := rfl, cursor := rfl }

theorem changePaper_configured (g : PageGeometry L) (s : Session L) :
    Ends (changePaper g) s (fun _ => False) fun _ t => s.Configured (some g) t :=
  ((note_configures _).ends s).bind fun _ t ht =>
    (setGeometry_configured g t).mono fun _ _ hu => ht.trans hu

/-- A directive that is no content changes the paper if it chooses one, and else only what
configuration files are for. -/
theorem apply_configures (k : Keyword) {d : Directive L} (hd : d.isContent = false)
    (s : Session L) :
    Ends (apply k d) s (fun _ => False) fun _ t => s.Configured d.paper? t := by
  have hmodes : ∀ {f : Modes → Modes},
      (∀ m, (f m).title = m.title ∧ (f m).inTab = m.inTab ∧ (f m).inBlock = m.inBlock) →
      Ends (modifyModes f) s (fun _ => False) fun _ t => s.Configured none t := fun h =>
    (modifyModes_configures h).ends s
  refine .bind_ok rfl ?_
  cases d with
  | font slot family => exact (modifyStyles_configures _).ends s
  | size slot size => exact (resize_configures k slot size).ends s
  | define args => exact (define_configures args _).ends s
  | chord args => exact (define_configures args _).ends s
  | grid on => exact hmodes fun _ => ⟨rfl, rfl, rfl⟩
  | oldDefine => exact hmodes fun _ => ⟨rfl, rfl, rfl⟩
  | newDefine => exact hmodes fun _ => ⟨rfl, rfl, rfl⟩
  | autoSpace on => exact (setAutoSpace_configures on).ends s
  | paperType name =>
    show Ends _ s _ fun _ t => s.Configured (PageGeometry.paper? name) t
    dsimp only
    cases (PageGeometry.paper? name : Option (PageGeometry L)) with
    | some g => exact changePaper_configured g s
    | none => exact (report_configures _).ends s
  | formSpec spec =>
    show Ends _ s _ fun _ t => s.Configured (PageGeometry.ofForm spec).toOption t
    dsimp only
    cases PageGeometry.ofForm spec with
    | ok g =>
      exact ((note_configures _).ends s).bind fun _ t ht =>
        (changePaper_configured g t).mono fun _ _ hu => ht.trans hu
    | error p => exact (report_configures _).ends s
  | setIndent points => exact hmodes fun _ => ⟨rfl, rfl, rfl⟩
  | extensions on => exact (setExtensions_configures on).ends s
  | version version =>
    exact ((note_configures _).ends s).bind fun _ t ht =>
      Configures.after (modifyModes_configures fun _ => ⟨rfl, rfl, rfl⟩) ht
  | _ => cases hd

theorem paper?_eq_none {d : Directive L} (h : d.setsPaper = false) :
    d.paper? = none := by
  cases d <;> first | rfl | cases h

theorem startupOnly_of_refusal? {k : Keyword} {p : Problem} {extensions : Bool}
    (h : refusal? k true extensions = some p) : k.startupOnly = false := by
  cases k <;> first | rfl | (cases extensions <;> cases h)

theorem perform_configures (k : Keyword) (args : String) (hs : s.startup = true) :
    Ends (perform k args) s (fun _ => False) fun _ t =>
      s.Configured ((Directive.read k args).toOption.bind Directive.paper?) t := by
  unfold perform
  refine .bind_ok rfl ?_
  rw [hs]
  split
  · rename_i p hp
    -- what is refused chooses no paper, for the keywords that do are not refused here
    have hnone : ((Directive.read k args).toOption.bind Directive.paper? :
        Option (PageGeometry L)) = none := by
      cases hread : (Directive.read k args : Except Problem (Directive L)) with
      | error p => rfl
      | ok d =>
        exact paper?_eq_none
          ((Directive.setsPaper_of_read hread).trans (startupOnly_of_refusal? hp))
    rw [hnone]
    exact (report_configures _).ends s
  · rename_i hnone
    have hk : k.isContent = false := refusal?_eq_none hnone
    cases hread : (Directive.read k args : Except Problem (Directive L)) with
    | error p => exact (report_configures _).ends s
    | ok d => exact apply_configures k ((Directive.isContent_of_read hread).trans hk) s

theorem dispatch_configures {text : String} (h : Keyword.splitText? text ≠ none)
    (hs : s.startup = true) :
    Ends (dispatch text) s (fun _ => False) fun _ t => s.Configured (paperOfText? text) t := by
  cases hsplit : Keyword.splitText? text with
  | none => exact absurd hsplit h
  | some split =>
    obtain ⟨name, args⟩ := split
    have hperform : ∀ k t, s.Configured none t → Ends (perform k args) t (fun _ => False)
        fun _ u => s.Configured ((Directive.read k args).toOption.bind Directive.paper?) u :=
      fun k t ht => (perform_configures k args (ht.startup.trans hs)).mono fun _ _ hu => by
        simpa using ht.trans hu
    unfold paperOfText?
    rw [hsplit]
    refine dispatch_ends hsplit (fun hname => ?_) fun k hname => ?_
    · simp only [Option.bind_some, hname]
      exact (report_configures _).ends s
    · simp only [Option.bind_some, hname]
      exact ⟨hperform k s (.refl s), fun notice => hperform k _ { Configured.refl s with }⟩

/-! ## Files -/

section

variable {P : Char → Prop} {E : Fault → Prop}

theorem event_configured {es : List Markup.Event} {e : Markup.Event} {u : Session L}
    (h : s.Configured (lastPaper? es) t) (he : t.Configured e.paper? u) :
    s.Configured (lastPaper? (es ++ [e])) u := by
  rw [lastPaper?_append]
  exact h.trans he

theorem recording_configures (hs : s.startup = true) :
    (sink : Markup.Sink Fault (Session L)).recording.Keeps
      (fun p => s.Configured (lastPaper? p.2) p.1) E where
  chord := by
    rintro n name ⟨t, es⟩ ht
    refine event_configured ht (e := .chord n name) ?_
    show t.Configured none (if t.startup then (name, atLine n t) else _).2
    rw [ht.startup.trans hs]
    exact { Configured.refl t with }
  line := by
    rintro n content ⟨t, es⟩ ht
    have hline : Ends (sink.line n content) t E fun _ u => t.Configured none u := by
      refine .bind_ok rfl ?_
      show Ends (if t.startup then if !content.text.isEmpty then report .notADirective else pure ()
        else _) (atLine n t) _ _
      rw [ht.startup.trans hs]
      have hat : t.Configured none (atLine n t) := { Configured.refl t with }
      exact (Configures.after (.ite (report_configures _) (.pure _)) hat).weaken fun _ h => h.elim
    exact Markup.Sink.withEvent_ends (hline.mono fun _ _ hu => event_configured ht hu)
  problem := by
    rintro n p ⟨t, es⟩ ht
    exact event_configured ht (e := .problem n p) { Configured.refl t with }

theorem recording_configuresDirectives (hs : s.startup = true)
    (hbroken : ∀ text : String, (∀ c ∈ text.toList, P c) → Keyword.splitText? text = none →
      E .brokenCharacter) :
    (sink : Markup.Sink Fault (Session L)).recording.KeepsDirectivesOf P
      (fun p => s.Configured (lastPaper? p.2) p.1) E := by
  rintro n text ⟨t, es⟩ htext ht
  have hat : t.Configured none (atLine n t) := { Configured.refl t with }
  have hdirective : Ends (sink.directive n text) t E
      fun _ u => t.Configured (paperOfText? text) u := by
    refine .bind_ok rfl ?_
    by_cases hsplit : Keyword.splitText? text = none
    · unfold Ends
      rw [dispatch_broken hsplit]
      exact hbroken text htext hsplit
    · have hdispatch := dispatch_configures hsplit (s := atLine n t) (ht.startup.trans hs)
      refine (hdispatch.mono fun _ u hu => ?_).weaken fun _ h => h.elim
      simpa using hat.trans hu
  exact Markup.Sink.withEvent_ends (hdirective.mono fun _ _ hu => event_configured ht hu)

theorem readText_configures (hs : s.startup = true)
    (hbroken : ∀ text : String, (∀ c ∈ text.toList, P c) → Keyword.splitText? text = none →
      E .brokenCharacter) {text : String} (htext : ∀ c ∈ text.toList, P c) :
    Ends (Markup.Reader.readText sink text) s E fun _ t =>
      s.Configured (lastPaper? (Markup.Reader.findings sink text s)) t :=
  Markup.Reader.readText_finds (Q := fun t es => s.Configured (lastPaper? es) t) <|
    Markup.Reader.readText_gathers (recording_configures hs)
      (recording_configuresDirectives hs hbroken) htext (Configured.refl s)

omit [Length L] in
theorem inStartup_ends {x : Typeset L Unit} {Q : Session L → Prop}
    (h : Ends x { s with startup := true } E fun _ => Q) :
    Ends (inStartup x) s E fun _ t => ∃ u, Q u ∧ t = { u with startup := false } := by
  unfold Ends at h ⊢
  dsimp only [inStartup]
  rcases hx : x { s with startup := true } with ⟨a, u⟩ | ⟨e, u⟩ <;> rw [hx] at h
  · exact ⟨u, h, rfl⟩
  · exact h

end

end Typeset

namespace Session

/-- At the beginning of a configuration file. -/
def opening (s : Session L) (name : String) : Session L :=
  { s.note (.readingConfiguration name) with file := name, startup := true }

/-- The paper that a configuration file chooses. -/
def filePaper? (s : Session L) (name text : String) : Option (PageGeometry L) :=
  lastPaper? (Markup.Reader.findings Typeset.sink text (s.opening name))

/-- What is made of a session before its document is begun. -/
inductive Unbegun (settings : Settings L) (device : Device L) : Session L → Prop
  | start : Unbegun settings device (.start settings device)
  | configuration {s t : Session L} (name text : String) (h : Unbegun settings device s)
      (hread : Typeset.readConfiguration name text s = .ok () t) : Unbegun settings device t
  | overrides {s t : Session L} (o : Overrides) (h : Unbegun settings device s)
      (happly : Typeset.applyOverrides o s = .ok () t) : Unbegun settings device t

end Session

namespace Typeset

open Session

theorem readConfiguration_configures {P : Char → Prop} {E : Fault → Prop}
    (hbroken : ∀ text : String, (∀ c ∈ text.toList, P c) → Keyword.splitText? text = none →
      E .brokenCharacter) (s : Session L) (name : String) {text : String}
    (htext : ∀ c ∈ text.toList, P c) :
    Ends (readConfiguration name text) s E fun _ t =>
      ∃ u, (s.opening name).Configured (s.filePaper? name text) u ∧
        t = { u with startup := false } :=
  .bind_ok rfl (.bind_ok rfl (inStartup_ends (readText_configures rfl hbroken htext)))

theorem override_configures {α : Type} (value : Option α) (f : α → StyleSheet → StyleSheet) :
    Configures (override value f : Typeset L Unit) := by
  cases value with
  | none => exact .pure _
  | some a => exact modifyStyles_configures _

theorem applyOverrides_configures (o : Overrides) (s : Session L) :
    Ends (applyOverrides o) s (fun e => ∃ name, e = .unknownPaperType name) fun _ t =>
      s.Configured (o.paper.bind PageGeometry.paper?) t := by
  unfold applyOverrides
  extract_lets rest
  have hrest : Configures (rest ()) := by
    refine .read fun _ _ _ => .bind (override_configures _ _) fun _ =>
      .bind (override_configures _ _) fun _ => .bind (override_configures _ _) fun _ =>
        .bind (override_configures _ _) fun _ => ?_
    cases o.extensions with
    | none => exact .pure _
    | some on => exact modifyModes_configures fun _ => ⟨rfl, rfl, rfl⟩
  cases o.paper with
  | none => exact (hrest.ends s).weaken fun _ h => h.elim
  | some name =>
    dsimp only [Option.bind_some]
    cases (PageGeometry.paper? name : Option (PageGeometry L)) with
    | none => exact ⟨name, rfl⟩
    | some g =>
      exact ((setGeometry_configured g s).bind fun _ t ht => hrest.after ht).weaken
        fun _ h => h.elim

theorem atStart_of_unbegun {settings : Settings L} {device : Device L} {s : Session L}
    (h : s.Unbegun settings device) : s.document.AtStart := by
  induction h with
  | start => exact ⟨_, _, rfl⟩
  | @configuration s t name text _ hread ih =>
    have hends := readConfiguration_configures (P := fun _ => True) (E := fun _ => True)
      (fun _ _ _ => trivial) s name fun c (_ : c ∈ text.toList) => trivial
    obtain ⟨u, hu, rfl⟩ := hends.holds hread
    exact hu.atStart ih
  | @overrides s t o _ happly ih =>
    exact ((applyOverrides_configures o s).holds happly).atStart ih

/-- While all blanks are ASCII no text is cut in half a character. -/
theorem splitText?_of_ascii {text : String}
    (h : ∀ c ∈ text.toList, Text.isBlank c = true → c.toNat < 128) :
    Keyword.splitText? text ≠ none := by
  obtain ⟨keyword, delimiter, rest, hsplits⟩ := Keyword.exists_splits text
  have hnarrow : ∀ c ∈ delimiter, c.utf8Size = 1 := by
    intro c hc
    have hmem : c ∈ text.toList.dropWhile Text.isDelimiter := by
      rw [hsplits.body, Option.mem_def.1 hc]
      simp
    have hdelimiter : c = ':' ∨ Text.isBlank c = true := by
      simpa [Text.isDelimiter] using hsplits.delimits c hc
    rw [Char.utf8Size_eq_one_iff]
    rcases hdelimiter with rfl | hc
    · decide
    · exact Nat.le_of_lt_succ (h c ((List.dropWhile_suffix _).subset hmem) hc)
  rw [Keyword.splitText?_eq hsplits, if_pos hnarrow]
  simp

/-- Before the document is begun a configuration file whose blanks are ASCII is read to its end.
It prints nothing, and uses and indexes nothing; title, tablature, block and chorus are as they
were. The cursor moves only with the paper, and keeps its counts then; definitions are entered as
those of the configuration. -/
theorem readConfiguration_prints_nothing {settings : Settings L} {device : Device L}
    {s : Session L} (h : s.Unbegun settings device) (name : String) {text : String}
    (hblank : ∀ c ∈ text.toList, Text.isBlank c = true → c.toNat < 128) :
    ∃ t, readConfiguration name text s = .ok () t ∧ t.device = s.device ∧
      t.document.chords.used = s.document.chords.used ∧
      t.document.index = s.document.index ∧
      t.document.modes.title = s.document.modes.title ∧
      t.document.modes.inTab = s.document.modes.inTab ∧
      t.document.modes.inBlock = s.document.modes.inBlock ∧
      t.document.cursor.chorus = s.document.cursor.chorus ∧
      t.document.geometry = (s.filePaper? name text).getD s.document.geometry ∧
      t.document.cursor =
        (s.filePaper? name text).elim s.document.cursor s.document.cursor.onPaper ∧
      ∀ d ∈ t.document.chords.definitions,
        d ∈ s.document.chords.definitions ∨ d.origin = .configuration := by
  obtain ⟨pagination, number, hcursor⟩ := atStart_of_unbegun h
  obtain ⟨_, _, hok, u, hu, rfl⟩ := (readConfiguration_configures (E := fun _ => False)
    (fun _ htext => splitText?_of_ascii htext) s name hblank).exists_ok
  have hmoved : u.document.cursor =
      (s.filePaper? name text).elim s.document.cursor s.document.cursor.onPaper := by
    rw [hu.cursor]
    cases s.filePaper? name text with
    | none => rfl
    | some g =>
      show Cursor.start g s.document.cursor.pagination (s.document.cursor.sheetLabel + 1) = _
      simp [hcursor, Cursor.start, Cursor.onPaper]
  refine ⟨_, hok, hu.device, hu.used, hu.index, hu.title, hu.inTab, hu.inBlock, ?_, hu.geometry,
    hmoved, hu.definitions⟩
  show u.document.cursor.chorus = _
  rw [hmoved]
  cases s.filePaper? name text <;> rfl

/-- A file that chooses a paper moves the cursor to that paper's margins. -/
theorem readConfiguration_a4 :
    (Session.start .default .unlimited : Session Rat).Unbegun .default .unlimited ∧
      (∀ c ∈ "\x7bpaper_type: a4\x7d".toList, Text.isBlank c = true → c.toNat < 128) ∧
      ((Session.start .default .unlimited : Session Rat).filePaper? "chordrc"
        "\x7bpaper_type: a4\x7d").map (·.name) = some "a4" ∧
      ∃ t, readConfiguration "chordrc" "\x7bpaper_type: a4\x7d"
          (.start .default .unlimited : Session Rat) = .ok () t ∧
        t.device = .unlimited ∧ t.document.geometry.name = "a4" := by
  have hstart : (Session.start .default .unlimited : Session Rat).Unbegun .default .unlimited :=
    .start
  have hblank : ∀ c ∈ "\x7bpaper_type: a4\x7d".toList, Text.isBlank c = true → c.toNat < 128 := by
    simp [Text.isBlank]
  have hpaper : ((Session.start .default .unlimited : Session Rat).filePaper? "chordrc"
      "\x7bpaper_type: a4\x7d").map (·.name) = some "a4" := by
    decide +kernel
  obtain ⟨t, hok, hdevice, -, -, -, -, -, -, hgeometry, -⟩ :=
    readConfiguration_prints_nothing hstart "chordrc" hblank
  refine ⟨hstart, hblank, hpaper, t, hok, hdevice, ?_⟩
  rw [hgeometry]
  obtain ⟨g, hg, hname⟩ := Option.map_eq_some_iff.1 hpaper
  rw [hg]
  exact hname

end Typeset

end Songbook
