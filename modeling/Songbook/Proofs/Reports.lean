import Songbook.Proofs.DirectiveTexts
import Songbook.Proofs.Gates

/-!
# What a reported directive does

A directive that has something wrong with it is reported and does nothing else: the checks come
before the first change and the first drawing (`Skips`, `apply_skips`). Two directives are applied
although they are reported: a definition too wide for a diagram is entered, and a block is opened
also under an empty label. What is laid out reports nothing at all (`LaysOut.diagnostics_eq`).
-/

namespace Songbook

variable {L : Type}

/-- Nothing is wrong, the reader is told of something. -/
def Problem.isNotice : Problem → Bool
  | .notice _ => true
  | _ => false

/-- A definition that no diagram has room for. -/
def Problem.isUngridable : Problem → Bool
  | .ungridable .. => true
  | _ => false

/-- The problems among what was reported. -/
def Problem.faults (reported : List Problem) : List Problem := reported.filter (!·.isNotice)

namespace Session

/-- From `s` to `t` this was reported, at the place being read. -/
def Told (s t : Session L) (reported : List Problem) : Prop :=
  t.diagnostics = s.diagnostics ++ reported.map (⟨s.file, s.line, ·⟩)

variable {s t : Session L} {reported : List Problem} {p : Problem}

theorem diagnostics_note (s : Session L) (e : LogEntry L) :
    (s.note e).diagnostics = s.diagnostics ++ e.problem?.toList := by
  unfold diagnostics note
  rw [Array.toList_push, List.filterMap_append]
  cases he : e.problem? <;> simp [he]

theorem told_nothing (h : t.diagnostics = s.diagnostics) : s.Told t [] := by
  rw [Told, h, List.map_nil, List.append_nil]

theorem told_report (s : Session L) (p : Problem) : s.Told (s.report p) [p] :=
  s.diagnostics_note _

theorem Told.after (h : (s.report p).Told t reported) : s.Told t (p :: reported) := by
  unfold Told at h ⊢
  rw [h, told_report s p, List.append_assoc]
  rfl

end Session

theorem Problem.faults_notices {notices : List Problem} (h : ∀ p ∈ notices, p.isNotice = true) :
    faults notices = [] := by
  unfold faults
  rw [List.filter_eq_nil_iff]
  intro p hp
  simp [h p hp]

theorem Problem.faults_append {notices : List Problem} (h : ∀ p ∈ notices, p.isNotice = true)
    (p : Problem) : faults (notices ++ [p]) = if p.isNotice then [] else [p] := by
  have hnone : notices.filter (!·.isNotice) = [] := faults_notices h
  unfold faults
  rw [List.filter_append, hnone]
  cases hp : p.isNotice <;> simp [hp]

namespace Typeset

open Session

variable [Length L] {s : Session L} {x y : Typeset L Unit}

omit [Length L] in
theorem endState_bind_ok {α β : Type} {x : Typeset L α} {f : α → Typeset L β} {a : α}
    {t : Session L} (h : x s = .ok a t) : endState (x >>= f) s = endState (f a) t := by
  rw [endState, bind_of_ok h]
  rfl

omit [Length L] in
theorem endState_bind_error {α β : Type} {x : Typeset L α} {f : α → Typeset L β} {e : Fault}
    {t : Session L} (h : x s = .error e t) : endState (x >>= f) s = t := by
  rw [endState, bind_eq, h]

/-- What is laid out without reports reports nothing, also if the device refuses to go on. -/
theorem LaysOut.diagnostics_eq {α : Type} {inside : Bool} {x : Typeset L α}
    (h : LaysOut inside true x) (s : Session L) :
    (endState x s).diagnostics = s.diagnostics := by
  have houtside := h.outside
  clear h
  induction houtside generalizing s with
  | pure a => rfl
  | get => rfl
  | @bind _ _ x f _ _ ihx ihf =>
    have hx := ihx s
    unfold endState at hx
    rcases hok : x s with ⟨a, t⟩ | ⟨e, t⟩ <;> rw [hok] at hx
    · rw [endState_bind_ok hok, ihf a t]
      exact hx
    · rw [endState_bind_error hok]
      exact hx
  | @draw d _ =>
    unfold endState Typeset.draw
    rcases s.device.draw d with ⟨device, _ | reason⟩ <;> rfl
  | @note e he =>
    show (s.note e).diagnostics = _
    rw [diagnostics_note, he]
    exact List.append_nil _
  | report hquiet _ => cases hquiet
  | @change f _ hlog _ =>
    show (f s).diagnostics = _
    unfold diagnostics
    rw [hlog]
  | turn hinside _ => cases hinside

/-- At `s`, `x` reports nothing but notices; or it reports a problem and does nothing else; or it
enters a definition and reports that it is too wide. -/
inductive Skips (x : Typeset L Unit) (s : Session L) : Prop
  | applied {notices : List Problem} (hnotices : ∀ p ∈ notices, p.isNotice = true)
      (h : s.Told (endState x s) notices)
  | skipped {notices : List Problem} {p : Problem} {log : Array (LogEntry L)}
      (hnotices : ∀ p ∈ notices, p.isNotice = true) (h : x s = .ok () { s with log })
      (ht : s.Told { s with log } (notices ++ [p]))
  | entered {notices : List Problem} {p : Problem} {log : Array (LogEntry L)} {chords : ChordBook}
      (hnotices : ∀ p ∈ notices, p.isNotice = true) (hp : p.isUngridable = true)
      (h : x s = .ok () { s with log, document := { s.document with chords } })
      (ht : s.Told { s with log, document := { s.document with chords } } (notices ++ [p]))

theorem LaysOut.skips {inside : Bool} (h : LaysOut inside true x) (s : Session L) : Skips x s :=
  .applied (List.forall_mem_nil _) (told_nothing (h.diagnostics_eq s))

section

omit [Length L]

theorem report_skips (p : Problem) (s : Session L) : Skips (report p) s :=
  .skipped (List.forall_mem_nil _) rfl (told_report s p)

/-- A notice comes before whatever is done. -/
theorem notice_skips {text : String} (h : Skips x (s.report (.notice text))) :
    Skips (report (.notice text) >>= fun _ => x) s := by
  have hcons : ∀ {notices : List Problem}, (∀ p ∈ notices, p.isNotice = true) →
      ∀ p ∈ .notice text :: notices, p.isNotice = true := fun hnotices p hp => by
    rcases List.mem_cons.1 hp with rfl | hp
    · rfl
    · exact hnotices p hp
  cases h with
  | applied hnotices h => exact .applied (hcons hnotices) (Told.after h)
  | skipped hnotices h ht => exact .skipped (hcons hnotices) h (Told.after ht)
  | entered hnotices hp h ht => exact .entered (hcons hnotices) hp h (Told.after ht)

theorem Skips.of_eq (hxy : x s = y s) (h : Skips y s) : Skips x s := by
  have hend : endState x s = endState y s := by rw [endState, endState, hxy]
  cases h with
  | applied hnotices h => exact .applied hnotices (hend ▸ h)
  | skipped hnotices h ht => exact .skipped hnotices (hxy.trans h) ht
  | entered hnotices hp h ht => exact .entered hnotices hp (hxy.trans h) ht

theorem Skips.read {f : Session L → Typeset L Unit} (h : Skips (f s) s) :
    Skips (get >>= f) s := .of_eq (get_bind f s) h

/-- What is reported then, and what has become of the session. -/
theorem Skips.told (h : Skips x s) : ∃ reported, s.Told (endState x s) reported ∧
    (Problem.faults reported = [] ∨ ∃ p, Problem.faults reported = [p] ∧
      ((∃ log, x s = .ok () { s with log }) ∨ p.isUngridable = true ∧
        ∃ log chords, x s = .ok () { s with log, document := { s.document with chords } })) := by
  cases h with
  | applied hnotices h => exact ⟨_, h, .inl (Problem.faults_notices hnotices)⟩
  | @skipped notices p log hnotices h ht =>
    have hfaults := Problem.faults_append hnotices p
    refine ⟨_, (endState_of_ok h).symm ▸ ht, ?_⟩
    cases hp : p.isNotice with
    | true => exact .inl (by rw [hfaults, if_pos hp])
    | false => exact .inr ⟨p, by rw [hfaults, hp]; rfl, .inl ⟨log, h⟩⟩
  | @entered notices p log chords hnotices hp h ht =>
    have hfaults := Problem.faults_append hnotices p
    have hwrong : p.isNotice = false := by
      cases p <;> first | rfl | cases hp
    refine ⟨_, (endState_of_ok h).symm ▸ ht, .inr ⟨p, by rw [hfaults, hwrong]; rfl, .inr ⟨hp, ?_⟩⟩⟩
    exact ⟨log, chords, h⟩

end

/-! ## Directives -/

theorem comment_skips (style : CommentStyle) (text : String) (s : Session L) :
    Skips (comment style text) s := by
  cases h : text.isEmpty with
  | true =>
    have hreport := report_skips .emptyComment s
    unfold comment
    rwa [h]
  | false => exact (comment_laysOut style h : LaysOut false true _).skips s

theorem endOfChorus_skips (s : Session L) : Skips endOfChorus s := by
  have hstop : LaysOut false true (modifyCursor fun c : Cursor L => { c with chorus := .off }) :=
    climb_laysOut fun _ => rfl
  have hbar : ∀ top : L, LaysOut false true
      (chorusBar top >>= fun _ => modifyCursor fun c => { c with chorus := .off }) := fun top =>
    .bind (chorusBar_laysOut top) fun _ => hstop
  unfold endOfChorus
  rw [document_bind]
  refine .read ?_
  split
  · exact report_skips _ s
  · exact hstop.skips s
  · exact (hbar _).skips s

theorem resize_skips (k : Keyword) (slot : FontSlot) (size : SizeArgument) (s : Session L) :
    Skips (resize k slot size) s := by
  have hstyles : ∀ f, LaysOut false true (modifyStyles f : Typeset L Unit) :=
    modifyStyles_laysOut
  refine .read ?_
  cases size with
  | absolute points => exact (hstyles _).skips s
  | relative delta =>
    dsimp only
    split
    · exact report_skips _ s
    · split
      · exact (hstyles _).skips s
      · exact report_skips _ s

/-- A definition is entered, and reported only if it is too wide. -/
theorem enter_skips (d : ChordDefinition) (s : Session L) : Skips (do
    let (book, adjustment) := (← document).chords.define d
    modifyDocument fun d => { d with chords := book }
    match adjustment with
    | .moved base => note (.baseFretMoved d.name base)
    | other => (ChordBook.problem? d.name other).forM report) s := by
  have henter : ∀ book, LaysOut false true
      (modifyDocument fun d => { d with chords := book } : Typeset L Unit) := fun _ =>
    .change (fun _ => rfl) (fun _ => rfl) nofun
  rw [document_bind]
  refine .read ?_
  dsimp only
  rcases hadjusted : s.document.chords.define d with ⟨book, adjustment⟩
  cases adjustment with
  | moved base => exact (LaysOut.bind (henter book) fun _ => .note rfl).skips s
  | tooWide span =>
    let t : Session L := { s with document := { s.document with chords := book } }
    have ht := told_report t (.ungridable d.name span)
    exact .entered (List.forall_mem_nil _) rfl rfl ht
  | kept => exact (LaysOut.bind (henter book) fun _ => .pure _).skips s

theorem define_skips (args : String) (order : FretOrder) (s : Session L) :
    Skips (define args order) s := by
  refine .read ?_
  split
  · exact report_skips _ s
  · exact enter_skips _ s

theorem twoColumn_skips (on : Bool) (s : Session L) : Skips (twoColumn on) s := by
  have hcolumns : ∀ count, LaysOut false true (setColumns count : Typeset L Unit) :=
    setColumns_laysOut
  unfold twoColumn
  rw [document_bind]
  refine .read ?_
  split
  · exact report_skips _ s
  · exact report_skips _ s
  · exact (hcolumns 2).skips s
  · exact (hcolumns 1).skips s

theorem setExtensions_skips (on : Bool) (s : Session L) : Skips (setExtensions on) s := by
  have hset : LaysOut false true
      (modifyModes fun m => { m with extensions := on } : Typeset L Unit) := modifyModes_laysOut _
  refine .read ?_
  dsimp only
  split
  · exact notice_skips (hset.skips _)
  · exact hset.skips s

/-- A switch that is reported unless it stands the right way. -/
theorem switch_skips {c : Prop} [Decidable c] (p : Problem) (f : Modes → Modes) (s : Session L) :
    Skips (if c then report p else modifyModes f) s ∧
      Skips (if c then modifyModes f else report p) s := by
  have hmodes : LaysOut false true (modifyModes f : Typeset L Unit) := modifyModes_laysOut f
  by_cases h : c
  · simp only [if_pos h]
    exact ⟨report_skips p s, hmodes.skips s⟩
  · simp only [if_neg h]
    exact ⟨hmodes.skips s, report_skips p s⟩

/-- A labelled block, or any block inside another. -/
theorem startOfBlock_skips (label : String) (s : Session L)
    (h : label = "" → s.document.modes.inBlock = true) : Skips (startOfBlock label) s := by
  unfold startOfBlock
  rw [document_bind]
  refine .read ?_
  split
  · exact report_skips _ s
  · rename_i hout
    have hlabel : label.isEmpty = false := by
      rw [Bool.eq_false_iff, ne_eq, String.isEmpty_iff]
      exact fun hnil => hout (h hnil)
    have hopen : LaysOut false true (do
        comment .shaded label
        modifyModes fun m => { m with inBlock := true } : Typeset L Unit) :=
      .bind (comment_laysOut _ hlabel) fun _ => modifyModes_laysOut _
    exact hopen.skips s

/-- Every directive checks before it does anything, but for a block without a label. -/
theorem apply_skips (k : Keyword) (d : Directive L) (s : Session L)
    (h : d = .startOfBlock "" → s.document.modes.inBlock = true) : Skips (apply k d) s := by
  have hmodes : ∀ f, LaysOut false true (modifyModes f : Typeset L Unit) := modifyModes_laysOut
  have hpending : LaysOut false true (modifyCursor fun c : Cursor L =>
    { c with chorus := .pending }) := climb_laysOut fun _ => rfl
  refine .read ?_
  cases d with
  | startOfChorus => exact hpending.skips s
  | endOfChorus => exact endOfChorus_skips s
  | font slot family => exact (modifyStyles_laysOut _ : LaysOut false true _).skips s
  | size slot size => exact resize_skips k slot size s
  | comment style text => exact comment_skips style text s
  | newSong => exact newSong_laysOut.skips s
  | title text =>
    exact (LaysOut.bind (title_laysOut text) fun _ => indexTitled_laysOut text).skips s
  | subtitle text =>
    exact (LaysOut.bind (subtitle_laysOut text) fun _ => indexSubtitled_laysOut text).skips s
  | define args => exact define_skips args _ s
  | chord args => exact define_skips args _ s
  | grid on => exact (hmodes _).skips s
  | newPage => exact (turnPage_laysOut false : LaysOut false true _).skips s
  | newPhysicalPage => exact (turnPage_laysOut true : LaysOut false true _).skips s
  | startOfTab => exact .read (switch_skips _ _ s).1
  | endOfTab => exact .read (switch_skips _ _ s).2
  | columnBreak => exact (breakColumn_laysOut : LaysOut false true _).skips s
  | columns count => exact (setColumns_laysOut count : LaysOut false true _).skips s
  | twoColumn on => exact twoColumn_skips on s
  | oldDefine => exact (hmodes _).skips s
  | newDefine => exact (hmodes _).skips s
  | startOfBlock label =>
    exact startOfBlock_skips label s fun hlabel => h (congrArg Directive.startOfBlock hlabel)
  | endOfBlock => exact .read (switch_skips _ _ s).2
  | bridge keyword => exact report_skips _ s
  | indent keyword => exact report_skips _ s
  | autoSpace on => exact .read ((hmodes _).skips s)
  | paperType name =>
    dsimp only
    split
    · exact (changePaper_laysOut _).skips s
    · exact report_skips _ s
  | formSpec spec =>
    dsimp only
    split
    · exact (LaysOut.bind (.note rfl) fun _ => changePaper_laysOut _).skips s
    · exact report_skips _ s
  | conditionalBreak lines => exact (conditionalBreak_laysOut lines : LaysOut false true _).skips s
  | setIndent points => exact (hmodes _).skips s
  | extensions on => exact setExtensions_skips on s
  | version version => exact (LaysOut.bind (.note rfl) fun _ => hmodes _).skips s

/-- Only one keyword opens blocks, and its label is all that follows. -/
theorem startOfBlock_of_read {k : Keyword} {args label : String}
    (h : Directive.read k args = .ok (.startOfBlock label : Directive L)) :
    k = .startOfBlock ∧ Text.trim args = label := by
  cases k with
  | startOfBlock =>
    simp only [Directive.read, Except.ok.injEq, Directive.startOfBlock.injEq] at h
    exact ⟨rfl, h⟩
  | _ =>
    first
    | cases h
    | exact absurd rfl
        (Directive.of_map_ok (P := fun d => d ≠ .startOfBlock label) h fun _ => nofun)

/-- The keyword opens a block without a label, where a block may be opened. -/
structure UnlabelledBlock (k : Keyword) (args : String) (s : Session L) : Prop where
  keyword : k = .startOfBlock
  unlabelled : Text.trim args = ""
  admitted : refusal? k s.startup s.document.modes.extensions = none
  outside : s.document.modes.inBlock = false

theorem perform_skips {k : Keyword} {args : String} (h : ¬ UnlabelledBlock k args s) :
    Skips (perform k args) s := by
  refine .read ?_
  split
  · exact report_skips _ s
  · rename_i hadmitted
    split
    · rename_i d hread
      refine apply_skips k d s fun hd => ?_
      subst hd
      obtain ⟨hk, hlabel⟩ := startOfBlock_of_read hread
      cases hblock : s.document.modes.inBlock with
      | true => rfl
      | false => exact absurd ⟨hk, hlabel, hadmitted, hblock⟩ h
    · exact report_skips _ s

/-- A block without a label is reported and opened, and nothing is printed. -/
theorem perform_unlabelled {k : Keyword} {args : String} (h : UnlabelledBlock k args s) :
    perform k args s = .ok () { s with
      document := { s.document with modes := { s.document.modes with inBlock := true } }
      log := (s.report .emptyComment).log } := by
  obtain ⟨rfl, hlabel, hadmitted, houtside⟩ := h
  have hread : Directive.read .startOfBlock args = .ok (.startOfBlock "" : Directive L) := by
    simp only [Directive.read, hlabel]
  have hopen : startOfBlock "" s = .ok () { s with
      document := { s.document with modes := { s.document.modes with inBlock := true } }
      log := (s.report .emptyComment).log } := by
    unfold startOfBlock
    rw [document_bind, get_bind, if_neg (by rw [houtside]; exact Bool.false_ne_true)]
    rfl
  unfold perform
  rw [get_bind]
  dsimp only
  rw [hadmitted, hread]
  exact hopen

/-- The text opens a block without a label, where a block may be opened. -/
def OpensUnlabelled (text : String) (s : Session L) : Prop :=
  ∃ name args k, Keyword.splitText? text = some (name, args) ∧ Keyword.ofName? name = some k ∧
    UnlabelledBlock k args s

theorem dispatch_skips_of_not {text : String} (h : ¬ OpensUnlabelled text s) :
    Skips (dispatch text) s := by
  rcases hsplit : Keyword.splitText? text with _ | ⟨name, args⟩
  · refine .applied (List.forall_mem_nil _) (told_nothing ?_)
    rw [endState, dispatch_broken hsplit]
  · rcases dispatch_of_split hsplit s with ⟨-, hunknown⟩ | ⟨k, hk, hperform | ⟨notice, hnoticed⟩⟩
    · exact .of_eq hunknown (report_skips _ s)
    · exact .of_eq hperform (perform_skips fun hblock => h ⟨name, args, k, hsplit, hk, hblock⟩)
    · refine .of_eq hnoticed (notice_skips (perform_skips fun hblock => ?_))
      -- a notice changes nothing that the block depends on
      exact h ⟨name, args, k, hsplit, hk, hblock.keyword, hblock.unlabelled, hblock.admitted,
        hblock.outside⟩

/-- A block without a label is opened after the report, and nothing is printed. -/
theorem dispatch_opensUnlabelled {text : String} (h : OpensUnlabelled text s) :
    ∃ reported log, Problem.faults reported = [.emptyComment] ∧
      dispatch text s = .ok () { s with
        log, document := { s.document with modes := { s.document.modes with inBlock := true } } } ∧
      s.Told { s with
        log, document := { s.document with modes := { s.document.modes with inBlock := true } } }
        reported := by
  obtain ⟨name, args, k, hsplit, hk, hblock⟩ := h
  rcases dispatch_of_split hsplit s with ⟨hunknown, -⟩ | ⟨k', hk', hdispatch⟩
  · rw [hk] at hunknown
    cases hunknown
  · obtain rfl : k = k' := Option.some.inj (hk.symm.trans hk')
    rcases hdispatch with hperform | ⟨notice, hnoticed⟩
    · exact ⟨[.emptyComment], _, rfl, hperform.trans (perform_unlabelled hblock),
        told_report s .emptyComment⟩
    · have hlater : UnlabelledBlock k args (s.report (.notice notice)) :=
        ⟨hblock.keyword, hblock.unlabelled, hblock.admitted, hblock.outside⟩
      refine ⟨[.notice notice, .emptyComment], _, rfl,
        hnoticed.trans (perform_unlabelled hlater), ?_⟩
      exact Told.after (told_report (s.report (.notice notice)) .emptyComment)

/-- A directive reports one problem at most, besides notices. What it reports a problem of it does
not do: the session is as it was but for its log. Only a definition too wide for a diagram is
entered, and a block without a label is opened. -/
theorem dispatch_skips (text : String) (s : Session L) :
    ∃ reported, s.Told (endState (dispatch text) s) reported ∧
      (OpensUnlabelled text s ∧ Problem.faults reported = [.emptyComment] ∧
          (∃ log, dispatch text s = .ok () { s with
            log, document := { s.document with
              modes := { s.document.modes with inBlock := true } } }) ∨
        ¬ OpensUnlabelled text s ∧ (Problem.faults reported = [] ∨
          ∃ p, Problem.faults reported = [p] ∧
            ((∃ log, dispatch text s = .ok () { s with log }) ∨ p.isUngridable = true ∧
              ∃ log chords, dispatch text s =
                .ok () { s with log, document := { s.document with chords } }))) := by
  by_cases h : OpensUnlabelled text s
  · obtain ⟨reported, log, hfaults, hok, htold⟩ := dispatch_opensUnlabelled h
    exact ⟨reported, (endState_of_ok hok).symm ▸ htold, .inl ⟨h, hfaults, log, hok⟩⟩
  · obtain ⟨reported, htold, hfaults⟩ := (dispatch_skips_of_not h).told
    exact ⟨reported, htold, .inr ⟨h, hfaults⟩⟩

/-- With extensions the keyword alone opens such a block. -/
example : OpensUnlabelled "soblk"
    (.start { Settings.default with extensions := true } .unlimited : Session Rat) :=
  ⟨"soblk", "", .startOfBlock, by decide +kernel, by decide +kernel, rfl, by decide +kernel,
    rfl, rfl⟩

end Typeset

end Songbook
