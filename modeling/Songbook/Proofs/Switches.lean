import Songbook.Proofs.Songs

/-!
# What directives switch

Printing leaves the switches alone, and each directive of a song sets its own: what it makes of them
is a function of what they were (`apply_switches`, `dispatch_switches`).
-/

namespace Songbook

variable {L : Type} [Length L]

/-- The switches that the next song finds. -/
def Modes.nextSong (m : Modes) : Modes := m.leaveSong.reset

/-- What a directive of a song makes of the switches. -/
def Directive.switched (d : Directive L) (m : Modes) : Modes :=
  match d with
  | .newSong => m.nextSong
  | .title text => { m with title := some text }
  | .grid on => { m with grids := m.grids.set on .current }
  | .startOfTab => { m with inTab := true }
  | .endOfTab => { m with inTab := false }
  | .oldDefine => { m with fretOrder := .baseFirst }
  | .newDefine => { m with fretOrder := .baseLast }
  | .startOfBlock _ => { m with inBlock := true }
  | .endOfBlock => { m with inBlock := false }
  | .autoSpace on => { m with autoSpace := m.autoSpace.set (on || m.autoSpace.initial) .current }
  | .setIndent points => { m with indent := m.indent.set points .current }
  | .extensions on => { m with extensions := on }
  | .version number => { m with version := m.version.set number .current }
  | _ => m

namespace Session

variable {s t : Session L}

omit [Length L] in
theorem OnPage.scope (h : s.OnPage) : s.scope = .current := by
  rw [Session.scope, h.inSong]
  rfl

/-- On an open page still, in the same document, with the switches as `f` has them. -/
structure Onward (f : Modes → Modes) (s t : Session L) : Prop where
  onPage : t.OnPage
  settings : t.settings = s.settings
  started : t.started = s.started
  modes : t.document.modes = f s.document.modes

omit [Length L] in
theorem Onward.trans {f g : Modes → Modes} {u : Session L} (h : Onward f s t) (h' : Onward g t u) :
    Onward (fun m => g (f m)) s u :=
  ⟨h'.onPage, h'.settings.trans h.settings, h'.started.trans h.started,
    h'.modes.trans (congrArg g h.modes)⟩

/-- Only edits change the switches. -/
theorem Moves.onward (h : Moves false s t) (hs : s.OnPage) : Onward id s t := by
  refine h.keep (I := Onward id s) ?_ ⟨hs, rfl, rfl, rfl⟩
  intro t u hmove ht
  have hu := hmove.onPage ht.onPage
  cases hmove with
  | setColumns he => cases he
  | nextSong he => cases he
  | revise he => cases he
  | count he => cases he
  | _ => exact ⟨hu, ht.settings, ht.started, ht.modes⟩

end Session

namespace Typeset

open Session

/-- From an open page, `x` ends on one, with the switches as `f` has them. -/
def Switches {α : Type} (f : Modes → Modes) (x : Typeset L α) : Prop :=
  ∀ s : Session L, s.OnPage → Ends x s (fun _ => False) fun _ => Onward f s

namespace Switches

variable {α β : Type} {f g : Modes → Modes} {x : Typeset L α} {y : α → Typeset L β}

omit [Length L] in
theorem bind (hx : Switches f x) (hy : ∀ a, Switches g (y a)) :
    Switches (fun m => g (f m)) (x >>= y) := fun s hs =>
  (hx s hs).bind fun a t ht => (hy a t ht.onPage).mono fun _ _ hu => ht.trans hu

/-- Printing leaves the switches alone. -/
theorem of_wanders (h : Wanders false x) : Switches id x := by
  intro s hs
  exact ((h.ends hs).mono fun _ t ht => ht.onward hs).weaken fun _ h => Bool.noConfusion h.1

end Switches

omit [Length L] in
theorem modifyDocument_switches {f : Document L → Document L} {g : Modes → Modes}
    (hslot : ∀ d, (f d).cursor.slot = d.cursor.slot) (hmodes : ∀ d, (f d).modes = g d.modes) :
    Switches g (modifyDocument f) := fun s hs =>
  ⟨⟨hs.unlimited, (hslot s.document).trans_ne hs.isOpen, hs.inSong⟩, rfl, rfl, hmodes s.document⟩

omit [Length L] in
theorem modifyModes_switches (f : Modes → Modes) : Switches f (modifyModes f : Typeset L Unit) :=
  modifyDocument_switches (fun _ => rfl) fun _ => rfl

omit [Length L] in
theorem modifyStyles_switches (f : StyleSheet → StyleSheet) :
    Switches id (modifyStyles f : Typeset L Unit) :=
  modifyDocument_switches (fun _ => rfl) fun _ => rfl

theorem report_switches (p : Problem) : Switches id (report p : Typeset L Unit) :=
  .of_wanders (report_songlike p).wanders

theorem note_switches (e : LogEntry L) : Switches id (note e) :=
  .of_wanders (note_songlike e).wanders

/-! ## Directives -/

theorem newSong_switches : Switches Modes.nextSong (newSong : Typeset L Unit) := by
  intro s hs
  refine Ends.bind ((endSong_ends false hs).weaken fun _ h => Bool.noConfusion h.1) ?_
  rintro _ _ ⟨u, foot, hu, -, rfl⟩
  refine .bind_ok rfl (.bind_ok rfl ?_)
  refine Ends.bind (startPage_ends ?_) ?_
  · exact (hu.onPage hs).unlimited
  rintro _ _ ⟨log, rfl⟩
  have ht := hu.onward hs
  exact ⟨⟨ht.onPage.unlimited, begun_slot_ne_zero _ u.document.geometry, ht.onPage.inSong⟩,
    ht.settings, ht.started, congrArg Modes.nextSong ht.modes⟩

theorem resize_switches (k : Keyword) (slot : FontSlot) (size : SizeArgument) :
    Switches id (resize k slot size : Typeset L Unit) := by
  intro s hs
  refine .bind_ok rfl ?_
  cases size with
  | absolute points => exact modifyStyles_switches _ s hs
  | relative delta =>
    show Ends (if !s.document.modes.extensions then _ else _) s _ _
    split
    · exact report_switches _ s hs
    · split
      · exact modifyStyles_switches _ s hs
      · exact report_switches _ s hs

theorem adjustment_switches (name : String) (adjustment : Adjustment) :
    Switches id (match adjustment with
      | .moved base => note (.baseFretMoved name base)
      | other => (ChordBook.problem? name other).forM report : Typeset L Unit) := by
  split
  · exact note_switches _
  · exact .of_wanders (.optional _ fun p => (report_songlike p).wanders)

theorem define_switches (args : String) (order : FretOrder) :
    Switches id (define args order : Typeset L Unit) := by
  intro s hs
  refine .bind_ok rfl ?_
  split
  · exact report_switches _ s hs
  · have henter : ∀ book, Switches id
        (modifyDocument fun d => { d with chords := book } : Typeset L Unit) := fun book =>
      modifyDocument_switches (fun _ => rfl) fun _ => rfl
    exact (henter _).bind (fun _ => adjustment_switches _ _) s hs

theorem setColumns_switches (count : Nat) : Switches id (setColumns count : Typeset L Unit) :=
  modifyDocument_switches (fun _ => rfl) fun _ => rfl

theorem twoColumn_switches (on : Bool) : Switches id (twoColumn on : Typeset L Unit) := by
  intro s hs
  unfold twoColumn
  rw [document_bind]
  refine .bind_ok rfl ?_
  split
  · exact report_switches _ s hs
  · exact report_switches _ s hs
  · exact setColumns_switches 2 s hs
  · exact setColumns_switches 1 s hs

/-- Nothing need be done where the switches stand already as `f` would have them. -/
theorem report_ends {f : Modes → Modes} {s : Session L} (hs : s.OnPage)
    (hf : f s.document.modes = s.document.modes) (p : Problem) :
    Ends (report p) s (fun _ => False) fun _ => Onward f s :=
  (report_switches p s hs).mono fun _ _ ht =>
    ⟨ht.onPage, ht.settings, ht.started, ht.modes.trans hf.symm⟩

theorem startOfTab_switches :
    Switches (fun m => { m with inTab := true }) (startOfTab : Typeset L Unit) := by
  intro s hs
  show Ends (if s.document.modes.inTab then _ else _) s _ _
  split
  · rename_i htab
    refine report_ends (f := fun m => { m with inTab := true }) hs ?_ _
    rw [← htab]
  · exact modifyModes_switches _ s hs

theorem endOfTab_switches :
    Switches (fun m => { m with inTab := false }) (endOfTab : Typeset L Unit) := by
  intro s hs
  show Ends (if s.document.modes.inTab then _ else _) s _ _
  split
  · exact modifyModes_switches _ s hs
  · rename_i htab
    refine report_ends (f := fun m => { m with inTab := false }) hs ?_ _
    rw [← Bool.eq_false_iff.2 htab]

theorem startOfBlock_switches (label : String) :
    Switches (fun m => { m with inBlock := true }) (startOfBlock label : Typeset L Unit) := by
  intro s hs
  show Ends (if s.document.modes.inBlock then _ else _) s _ _
  split
  · rename_i hblock
    refine report_ends (f := fun m => { m with inBlock := true }) hs ?_ _
    rw [← hblock]
  · exact (Switches.of_wanders (comment_songlike .shaded label).wanders).bind
      (fun _ => modifyModes_switches fun m => { m with inBlock := true }) s hs

theorem endOfBlock_switches :
    Switches (fun m => { m with inBlock := false }) (endOfBlock : Typeset L Unit) := by
  intro s hs
  show Ends (if s.document.modes.inBlock then _ else _) s _ _
  split
  · exact modifyModes_switches _ s hs
  · rename_i hblock
    refine report_ends (f := fun m => { m with inBlock := false }) hs ?_ _
    rw [← Bool.eq_false_iff.2 hblock]

theorem title_switches (text : String) :
    Switches (fun m => { m with title := some text }) (title text : Typeset L Unit) := fun s hs =>
  (Switches.of_wanders (centred_songlike text _).wanders).bind
    (fun _ => modifyModes_switches fun m => { m with title := some text }) s hs

omit [Length L] in
theorem index_switches (f : Session L → List IndexEntry → List IndexEntry) : Switches id (do
    let s ← get
    if isIndexed s then
      modifyDocument fun d => { d with index := f s d.index } : Typeset L Unit) := by
  have hmodify : ∀ f : List IndexEntry → List IndexEntry, Switches id
      (modifyDocument fun d => { d with index := f d.index } : Typeset L Unit) := fun _ =>
    modifyDocument_switches (fun _ => rfl) fun _ => rfl
  intro s hs
  show Ends (if isIndexed s then _ else _) s _ _
  split
  · exact hmodify (f s) s hs
  · exact ⟨hs, rfl, rfl, rfl⟩

theorem setExtensions_switches (on : Bool) :
    Switches (fun m => { m with extensions := on }) (setExtensions on : Typeset L Unit) := by
  intro s hs
  show Ends (if 6 < s.settings.warningLevel then _ else _) s _ _
  split
  · exact (report_switches _).bind
      (fun _ => modifyModes_switches fun m => { m with extensions := on }) s hs
  · exact modifyModes_switches (fun m => { m with extensions := on }) s hs

/-- A directive of a song makes of the switches what it says. -/
theorem apply_switches (k : Keyword) {d : Directive L} (hd : d.setsPaper = false) :
    Switches d.switched (apply k d) := by
  intro s hs
  refine .bind_ok rfl ?_
  -- four of the directives ask for the scope, which in a song is the current one
  cases d with
  | startOfChorus =>
    exact Switches.of_wanders (climb_songlike (fun _ => rfl) fun _ => rfl).wanders s hs
  | endOfChorus => exact Switches.of_wanders endOfChorus_songlike.wanders s hs
  | font slot family => exact modifyStyles_switches _ s hs
  | size slot size => exact resize_switches k slot size s hs
  | comment style text => exact Switches.of_wanders (comment_songlike style text).wanders s hs
  | newSong => exact newSong_switches s hs
  | title text =>
    exact (title_switches text).bind
      (fun _ => index_switches fun s index => index ++ [⟨text, [], currentLabel s⟩]) s hs
  | subtitle text =>
    have hprint : Switches id (subtitle text : Typeset L Unit) := fun s hs =>
      Switches.of_wanders (centred_songlike text _).wanders s hs
    exact hprint.bind (fun _ => index_switches fun _ => addSubtitle text) s hs
  | define args => exact define_switches args _ s hs
  | chord args => exact define_switches args _ s hs
  | grid on =>
    show Ends (modifyModes fun m => { m with grids := m.grids.set on s.scope }) s _ _
    rw [hs.scope]
    exact modifyModes_switches _ s hs
  | newPage => exact Switches.of_wanders (turnPage_wanders false) s hs
  | newPhysicalPage => exact Switches.of_wanders (turnPage_wanders true) s hs
  | startOfTab => exact startOfTab_switches s hs
  | endOfTab => exact endOfTab_switches s hs
  | columnBreak => exact Switches.of_wanders breakColumn_wanders s hs
  | columns count => exact setColumns_switches count s hs
  | twoColumn on => exact twoColumn_switches on s hs
  | oldDefine => exact modifyModes_switches _ s hs
  | newDefine => exact modifyModes_switches _ s hs
  | startOfBlock label => exact startOfBlock_switches label s hs
  | endOfBlock => exact endOfBlock_switches s hs
  | bridge keyword => exact report_switches _ s hs
  | indent keyword => exact report_switches _ s hs
  | autoSpace on =>
    show Ends (setAutoSpace on) s _ _
    refine .bind_ok rfl ?_
    rw [hs.scope]
    exact modifyModes_switches _ s hs
  | paperType name => cases hd
  | formSpec spec => cases hd
  | conditionalBreak lines =>
    exact Switches.of_wanders (conditionalBreak_songlike lines).wanders s hs
  | setIndent points =>
    show Ends (modifyModes fun m => { m with indent := m.indent.set points s.scope }) s _ _
    rw [hs.scope]
    exact modifyModes_switches _ s hs
  | extensions on => exact setExtensions_switches on s hs
  | version number =>
    show Ends (note (.languageVersion number) >>= fun _ =>
      modifyModes fun m => { m with version := m.version.set number s.scope }) s _ _
    rw [hs.scope]
    exact (note_switches _).bind (fun _ => modifyModes_switches _) s hs

/-- The directive that a keyword with its arguments is in a song with these switches, if it may be
used and is sound. -/
def admitted? (k : Keyword) (args : String) (m : Modes) : Option (Directive L) :=
  match refusal? k false m.extensions with
  | some _ => none
  | none => (Directive.read k args).toOption

variable (L) in
/-- What a keyword with its arguments makes of the switches. -/
def performed (k : Keyword) (args : String) (m : Modes) : Modes :=
  match (admitted? k args m : Option (Directive L)) with
  | some d => d.switched m
  | none => m

variable (L) in
/-- What the text of a directive makes of the switches. -/
def dispatched (text : String) (m : Modes) : Modes :=
  match Keyword.splitText? text with
  | none => m
  | some (name, args) =>
    match Keyword.ofName? name with
    | none => m
    | some k => performed L k args m

theorem perform_switches (k : Keyword) (args : String) :
    Switches (performed L k args) (perform k args : Typeset L Unit) := by
  intro s hs
  have hreport : ∀ p, (admitted? k args s.document.modes : Option (Directive L)) = none →
      Ends (report p) s (fun _ => False) fun _ => Onward (performed L k args) s := by
    intro p hnone
    refine report_ends hs ?_ p
    rw [performed, hnone]
  refine .bind_ok rfl ?_
  rw [hs.inSong]
  cases hrefusal : refusal? k false s.document.modes.extensions with
  | some p => exact hreport p (by rw [admitted?, hrefusal])
  | none =>
    have hadmitted : (admitted? k args s.document.modes : Option (Directive L)) =
        (Directive.read k args).toOption := by rw [admitted?, hrefusal]
    cases hread : (Directive.read k args : Except Problem (Directive L)) with
    | error p => exact hreport p (by rw [hadmitted, hread]; rfl)
    | ok d =>
      have hplace := refusal?_eq_none hrefusal
      have hpaper : d.setsPaper = false := by
        rw [Directive.setsPaper_of_read hread]
        exact hplace
      refine (apply_switches k hpaper s hs).mono fun _ t ht => ⟨ht.1, ht.2, ht.3, ?_⟩
      rw [ht.modes, performed, hadmitted, hread]
      rfl

/-- The text of a directive makes of the switches what it says, unless it ends in half a
character. -/
theorem dispatch_switches {text : String} (h : Keyword.splitText? text ≠ none) :
    Switches (dispatched L text) (dispatch text : Typeset L Unit) := by
  intro s hs
  cases hsplit : Keyword.splitText? text with
  | none => exact absurd hsplit h
  | some parts =>
    obtain ⟨name, args⟩ := parts
    unfold dispatched
    rw [hsplit]
    refine dispatch_ends hsplit (fun hname => report_ends hs ?_ _) fun k hname => ?_
    · dsimp only
      rw [hname]
    · dsimp only
      rw [hname]
      exact ⟨perform_switches k args s hs, fun notice =>
        ((report_switches (.notice notice)).bind fun _ => perform_switches k args) s hs⟩

end Typeset

end Songbook
