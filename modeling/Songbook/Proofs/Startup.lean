import Songbook.Proofs.Configuring
import Songbook.Proofs.Paging

/-!
# Before the first page

Configuration files and overrides print nothing and never leave the place before the first page:
`Unprinted` is what they keep (`readConfiguration_prepares`, `applyOverrides_keeps`), whatever paper
they choose. `begin_ends` says what the beginning of the document makes of such a session.
-/

namespace Songbook

variable {L : Type} [Length L]

/-- A paper that can be chosen: one of those known by name, or a sound form. -/
def PageGeometry.IsPaper (g : PageGeometry L) : Prop :=
  g ∈ papers ∨ ∃ form, ofForm form = .ok g

theorem PageGeometry.isPaper_of_paper? {name : String} {g : PageGeometry L}
    (h : paper? name = some g) : g.IsPaper :=
  .inl (List.mem_of_find?_eq_some h)

/-- Outside of tablatures, blocks and titled songs. -/
def Modes.IsOutside (m : Modes) : Prop :=
  m.inTab = false ∧ m.inBlock = false ∧ m.title = none

namespace Session

/-- Nothing has been printed, and the cursor stands before the first page. -/
structure Unprinted (settings : Settings L) (startup : Bool) (s : Session L) : Prop where
  device : s.device = .unlimited
  paper : s.document.geometry.IsPaper
  cursor : s.document.cursor =
    .start s.document.geometry settings.pagination (settings.firstPage.getD 1 : Nat)
  outside : s.document.modes.IsOutside
  index : s.document.index = []
  startup : s.startup = startup
  started : s.started = false
  songs : s.songs = 0
  settings : s.settings = settings

/-- The session with the document begun, on the first page of its first sheet. -/
def withFirstPage (s : Session L) (log : Array (LogEntry L)) : Session L :=
  { s with started := true, document := Typeset.resetDocument s.document }.moved
    ((s.document.cursor.resetColumns s.document.geometry).begun s.document.geometry)
    (.beginDocument s.document.geometry ::
      (Drawing.sheetOpening s.document.geometry s.document.cursor.pagination 1 ++
        Drawing.pageOpening s.document.geometry s.document.cursor.pagination 1)) log

theorem unprinted_start (settings : Settings L) :
    (start settings .unlimited).Unprinted settings false where
  device := rfl
  paper := .inl (by simp [start, Document.start, PageGeometry.papers])
  cursor := rfl
  outside := ⟨rfl, rfl, rfl⟩
  index := rfl
  startup := rfl
  started := rfl
  songs := rfl
  settings := rfl

end Session

namespace Typeset

open Session

variable {settings : Settings L} {s t : Session L}

theorem isPaper_of_paper? {d : Directive L} {g : PageGeometry L} (h : d.paper? = some g) :
    g.IsPaper := by
  cases d with
  | paperType name => exact PageGeometry.isPaper_of_paper? h
  | formSpec spec =>
    refine .inr ⟨spec, ?_⟩
    cases hform : PageGeometry.ofForm spec with
    | ok g' => simpa [Directive.paper?, hform, Except.toOption] using h
    | error p => simp [Directive.paper?, hform, Except.toOption] at h
  | _ => cases h

theorem isPaper_of_paperOfText? {text : String} {g : PageGeometry L}
    (h : paperOfText? text = some g) : g.IsPaper := by
  obtain ⟨⟨name, args⟩, -, hk⟩ := Option.bind_eq_some_iff.1 h
  obtain ⟨k, -, hd⟩ := Option.bind_eq_some_iff.1 hk
  obtain ⟨d, -, hg⟩ := Option.bind_eq_some_iff.1 hd
  exact isPaper_of_paper? hg

theorem isPaper_of_filePaper? {name text : String} {g : PageGeometry L}
    (h : s.filePaper? name text = some g) : g.IsPaper := by
  obtain ⟨e, -, he⟩ := List.mem_filterMap.1 (List.mem_of_getLast? h)
  cases e with
  | directive n text => exact isPaper_of_paperOfText? he
  | _ => cases he

/-- A new paper has the cursor before the first page again, with the number that the settings
ask for. -/
theorem unprinted_of_configured {startup : Bool} {paper? : Option (PageGeometry L)}
    (hs : s.Unprinted settings startup) (ht : s.Configured paper? t)
    (hpaper : ∀ g, paper? = some g → g.IsPaper) : t.Unprinted settings startup where
  device := ht.device.trans hs.device
  paper := by
    rw [ht.geometry]
    cases paper? with
    | none => exact hs.paper
    | some g => exact hpaper g rfl
  cursor := by
    rw [ht.cursor, ht.geometry]
    cases paper? with
    | none => exact hs.cursor
    | some g =>
      show Cursor.start g s.document.cursor.pagination (s.document.cursor.sheetLabel + 1) = _
      simp [hs.cursor, Cursor.start]
  outside := ⟨ht.inTab.trans hs.outside.1, ht.inBlock.trans hs.outside.2.1,
    ht.title.trans hs.outside.2.2⟩
  index := ht.index.trans hs.index
  startup := ht.startup.trans hs.startup
  started := ht.started.trans hs.started
  songs := ht.songs.trans hs.songs
  settings := ht.settings.trans hs.settings

theorem readConfiguration_prepares (h : s.Unprinted settings false) (name text : String) :
    Ends (readConfiguration name text) s (· = .brokenCharacter) fun _ t =>
      t.Unprinted settings false := by
  refine (readConfiguration_configures (P := fun _ => True) (E := (· = .brokenCharacter))
    (fun _ _ _ => rfl) s name fun c (_ : c ∈ text.toList) => trivial).mono ?_
  rintro _ _ ⟨u, hu, rfl⟩
  have hopening : (s.opening name).Unprinted settings true := { h with startup := rfl }
  exact { unprinted_of_configured hopening hu fun _ => isPaper_of_filePaper? with startup := rfl }

/-- How a run may be broken off: in half a character, or by overrides that name no known paper. -/
def IsBreak (e : Fault) : Prop := e = .brokenCharacter ∨ ∃ name, e = .unknownPaperType name

theorem applyOverrides_keeps (o : Overrides) :
    Keeps (fun (i : Settings L × Bool) (s : Session L) => s.Unprinted i.1 i.2) IsBreak
      (applyOverrides o) := by
  refine fun i s hs => ((applyOverrides_configures o s).weaken fun _ => .inr).mono fun _ t ht =>
    unprinted_of_configured hs ht fun g hg => ?_
  obtain ⟨name, -, hname⟩ := Option.bind_eq_some_iff.1 hg
  exact PageGeometry.isPaper_of_paper? hname

/-! ## The first page -/

/-- The document begins with the first page of its first sheet. -/
theorem begin_ends (h : s.Unprinted settings false) :
    Ends begin s (fun _ => False) fun _ t => ∃ log, t = s.withFirstPage log := by
  have hlimit : s.device.limit = none := by
    rw [h.device]
    rfl
  let reset : Session L := { s with started := true, document := resetDocument s.document }
  have hcursor : reset.document.cursor.slot = 0 ∧ reset.document.cursor.sheets = 0 := by
    show s.document.cursor.slot = 0 ∧ s.document.cursor.sheets = 0
    rw [h.cursor]
    exact ⟨rfl, rfl⟩
  obtain ⟨hslot, hsheets⟩ := hcursor
  have hstart := startPage_ends
    (s := reset.moved reset.document.cursor [.beginDocument s.document.geometry] s.log) hlimit
  simp only [Session.moved_cursor, Session.moved_geometry, hslot, hsheets, if_pos] at hstart
  show Ends (if s.started then pure () else _) s _ _
  rw [h.started]
  refine .bind_ok rfl (.bind_ok rfl (.bind_ok (draw_eq (s := { s with started := true }) hlimit _)
    (.bind_ok rfl (Ends.mono hstart ?_))))
  rintro _ _ ⟨log, rfl⟩
  exact ⟨log, Session.moved_moved ..⟩

end Typeset

end Songbook
