import Songbook.Proofs.ChordBooks
import Songbook.Proofs.Paging

/-!
# Sessions that print alike

Two sessions print alike if they differ only in what no page shows: the numbers of sheets and pages
begun so far and their labels, the log, and chords that one of them knows by name only and none of
them uses (`Alike`). What is done to both of them in the same way leaves them alike and draws the
same on both, up to the numbers of sheets (`Respects`), as long as pages and sheets are not numbered
by their labels.
-/

namespace Songbook

variable {L : Type}

/-- The drawing without the number of its sheet. -/
def Drawing.bare : Drawing L → Drawing L
  | .beginSheet _ => .beginSheet 0
  | .endSheet _ => .endSheet 0
  | .endDocument _ => .endDocument 0
  | d => d

/-- The cursor without the numbers of sheets and pages. -/
def Cursor.view (c : Cursor L) : Cursor L :=
  { c with sheets := 0, pages := 0, sheetLabel := 0, pageLabel := 0 }

namespace Session

/-- The session without what no page shows, and without what was drawn. -/
def view (s : Session L) : Session L :=
  { s with
    document := { s.document with
      cursor := s.document.cursor.view
      chords := { s.document.chords with definitions := [] } }
    device := { s.device with received := #[] }
    file := ""
    line := 0
    log := #[] }

/-- Since `pre` and `pre'` were drawn, the two sessions have drawn the same, and they will go on
so. -/
structure Alike (pre pre' : List (Drawing L)) (s t : Session L) : Prop where
  view : s.view = t.view
  chords : s.document.chords.Kin t.document.chords
  unlimited : s.device.limit = none
  inSong : s.startup = false
  unnumbered : s.settings.numberAll = false
  received : ∃ ds ds', s.device.received.toList = pre ++ ds ∧
    t.device.received.toList = pre' ++ ds' ∧ ds.map Drawing.bare = ds'.map Drawing.bare

variable {pre pre' : List (Drawing L)} {s t : Session L}

theorem Alike.document_eq (h : Alike pre pre' s t) :
    s.document.geometry = t.document.geometry ∧ s.document.cursor.view = t.document.cursor.view ∧
      s.document.styles = t.document.styles ∧ s.document.modes = t.document.modes :=
  have hview := h.view
  ⟨congrArg (·.document.geometry) hview, congrArg (·.document.cursor) hview,
    congrArg (·.document.styles) hview, congrArg (·.document.modes) hview⟩

theorem Alike.settings_eq (h : Alike pre pre' s t) : s.settings = t.settings := by
  have hsettings : s.view.settings = t.view.settings := by rw [h.view]
  exact hsettings

theorem Alike.unlimited_right (h : Alike pre pre' s t) : t.device.limit = none := by
  have hlimit : s.device.limit = t.device.limit := congrArg (·.device.limit) h.view
  rw [← hlimit]
  exact h.unlimited

/-- The cursors go to places that look the same, and what is drawn looks the same. -/
theorem Alike.moved (h : Alike pre pre' s t) {c c' : Cursor L} (hc : c.view = c'.view)
    {ds ds' : List (Drawing L)} (hds : ds.map Drawing.bare = ds'.map Drawing.bare)
    (log log' : Array (LogEntry L)) : Alike pre pre' (s.moved c ds log) (t.moved c' ds' log') := by
  refine ⟨?_, h.chords, h.unlimited, h.inSong, h.unnumbered, ?_⟩
  · show { s.view with document := { s.view.document with cursor := c.view } } =
      { t.view with document := { t.view.document with cursor := c'.view } }
    rw [h.view, hc]
  · obtain ⟨es, es', hes, hes', heq⟩ := h.received
    refine ⟨es ++ ds, es' ++ ds', ?_, ?_, ?_⟩
    · rw [moved_received, hes, List.append_assoc]
    · rw [moved_received, hes', List.append_assoc]
    · rw [List.map_append, List.map_append, heq, hds]

/-- A change that does not look at what no page shows, and keeps the chords and the device. -/
structure Plain (f : Session L → Session L) : Prop where
  view : ∀ s, (f s).view = (f s.view).view
  chords : ∀ s, (f s).document.chords = s.document.chords
  device : ∀ s, (f s).device = s.device
  settings : ∀ s, (f s).settings = s.settings
  startup : ∀ s, (f s).startup = s.startup

theorem Alike.plain {f : Session L → Session L} (hf : Plain f) (h : Alike pre pre' s t) :
    Alike pre pre' (f s) (f t) := by
  refine ⟨?_, ?_, ?_, ?_, ?_, ?_⟩
  · rw [hf.view s, hf.view t, h.view]
  · rw [hf.chords, hf.chords]
    exact h.chords
  · rw [hf.device]
    exact h.unlimited
  · rw [hf.startup]
    exact h.inSong
  · rw [hf.settings]
    exact h.unnumbered
  · rw [hf.device, hf.device]
    exact h.received

theorem Alike.withChords (h : Alike pre pre' s t) {b b' : ChordBook} (hb : b.Kin b') :
    Alike pre pre' { s with document := { s.document with chords := b } }
      { t with document := { t.document with chords := b' } } := by
  refine ⟨?_, hb, h.unlimited, h.inSong, h.unnumbered, h.received⟩
  show { s.view with document := { s.view.document with
      chords := { b with definitions := [] } } } =
    { t.view with document := { t.view.document with chords := { b' with definitions := [] } } }
  have hbooks : ({ b with definitions := [] } : ChordBook) = { b' with definitions := [] } := by
    rw [hb.used, hb.autoAdjust]
  rw [h.view, hbooks]

end Session

namespace Typeset

open Session

variable {α β : Type}

/-- On sessions that are alike, `x` and `y` end in the same way. -/
abbrev Agree (x y : Typeset L α) (s t : Session L) : Prop :=
  ∀ pre pre', Alike pre pre' s t →
    EndAlike x y s t (Alike pre pre') fun _ => Alike pre pre'

/-- What `x` does to sessions that are alike leaves them alike. -/
def Respects (x : Typeset L α) : Prop := ∀ s t, Agree x x s t

namespace Respects

variable {x y : Typeset L α}

theorem pure (a : α) : Respects (Pure.pure a : Typeset L α) := fun _ _ _ _ h => ⟨rfl, h⟩

theorem throw (e : Fault) : Respects (MonadExcept.throw e : Typeset L α) := fun _ _ _ _ h =>
  ⟨rfl, h⟩

theorem bind {f : α → Typeset L β} (hx : Respects x) (hf : ∀ a, Respects (f a)) :
    Respects (x >>= f) := fun s t pre pre' h =>
  (hx s t pre pre' h).bind fun a s t h => hf a s t pre pre' h

theorem readInSong {f : Session L → Typeset L β}
    (hview : ∀ s : Session L, s.settings.numberAll = false → f s = f s.view)
    (hf : ∀ s : Session L, s.startup = false → s.settings.numberAll = false → Respects (f s)) :
    Respects (get >>= f) := by
  intro s t pre pre' h
  have hsame : f s = f t := by
    rw [hview s h.unnumbered, hview t (h.settings_eq ▸ h.unnumbered), h.view]
  show EndAlike (f s) (f t) s t _ _
  rw [← hsame]
  exact hf s h.inSong h.unnumbered s t pre pre' h

theorem read {f : Session L → Typeset L β}
    (hview : ∀ s : Session L, s.settings.numberAll = false → f s = f s.view)
    (hf : ∀ s, Respects (f s)) : Respects (get >>= f) :=
  readInSong hview fun s _ _ => hf s

theorem ite {c : Prop} [Decidable c] (hx : Respects x) (hy : Respects y) :
    Respects (if c then x else y) := by
  split
  · exact hx
  · exact hy

theorem optional {g : β → Typeset L PUnit} (o : Option β) (h : ∀ b, Respects (g b)) :
    Respects (o.forM g) := by
  cases o with
  | none => exact pure _
  | some b => exact h b

theorem forM {g : β → Typeset L PUnit} (l : List β) (h : ∀ b, Respects (g b)) :
    Respects (l.forM g) := by
  induction l with
  | nil => exact pure _
  | cons b l ih => exact bind (h b) fun _ => ih

theorem foldlM {g : α → β → Typeset L α} (l : List β) (h : ∀ a b, Respects (g a b)) (a : α) :
    Respects (l.foldlM g a) := by
  induction l generalizing a with
  | nil => exact pure _
  | cons b l ih =>
    rw [List.foldlM_cons]
    exact bind (h a b) fun a => ih a

/-- What was drawn stays, and what is drawn comes after it. -/
theorem grows {s : Session L} (hx : Respects x) (hlimit : s.device.limit = none)
    (hsong : s.startup = false) (hnumber : s.settings.numberAll = false) :
    s.device.received.toList <+: (endState x s).device.received.toList := by
  have hself : Alike s.device.received.toList s.device.received.toList s s :=
    ⟨rfl, .refl _, hlimit, hsong, hnumber, [], [], by simp, by simp, rfl⟩
  obtain ⟨ds, _, hds, -⟩ := (hx s s _ _ hself).endState.received
  exact ⟨ds, hds.symm⟩

end Respects

theorem change_respects {f : Session L → Session L} (hf : Plain f) :
    Respects (modify f : Typeset L Unit) := fun _ _ _ _ h => ⟨rfl, h.plain hf⟩

theorem draw_agree (d d' : Drawing L) (hd : d.bare = d'.bare) (s t : Session L) :
    Agree (draw d) (draw d') s t := fun _ _ h => by
  refine .of_ok (draw_eq h.unlimited d) (draw_eq h.unlimited_right d')
    (h.moved h.document_eq.2.1 ?_ _ _)
  rw [List.map_singleton, List.map_singleton, hd]

theorem draw_respects (d : Drawing L) : Respects (draw d) := draw_agree d d rfl

theorem note_agree (e e' : LogEntry L) (s t : Session L) : Agree (note e) (note e') s t :=
  fun _ _ h => ⟨rfl, ⟨h.view, h.chords, h.unlimited, h.inSong, h.unnumbered, h.received⟩⟩

variable [Length L]

/-! ## Pages -/

omit [Length L] in
theorem countPage_view (c : Cursor L) : c.countPage.view = c.view.countPage.view := by
  by_cases h : c.slot = 0 <;> simp [Cursor.countPage, Cursor.view, h]

omit [Length L] in
theorem modifyCursor_respects {f : Cursor L → Cursor L} (h : ∀ c, (f c).view = (f c.view).view) :
    Respects (modifyCursor f) := by
  refine change_respects ⟨fun s => ?_, fun _ => rfl, fun _ => rfl, fun _ => rfl, fun _ => rfl⟩
  show { s.view with document := { s.view.document with cursor := (f s.document.cursor).view } } =
    { s.view with document := { s.view.document with cursor := (f s.document.cursor.view).view } }
  rw [h]

theorem chorusBar_respects (top : L) : Respects (chorusBar top) :=
  .read (fun _ _ => rfl) fun _ => draw_respects _

theorem numbered_respects (n : Option Int) : Respects (numbered n : Typeset L Unit) := by
  cases n with
  | none => exact .pure _
  | some n =>
    refine .read (fun _ _ => rfl) fun s => .bind (draw_respects _) fun _ => ?_
    exact .bind (draw_respects _) fun _ => draw_respects _

theorem runningTitle_respects : Respects (runningTitle : Typeset L Unit) := by
  unfold runningTitle
  rw [document_bind]
  refine .read (fun _ _ => rfl) fun s => ?_
  split
  · exact .ite (.bind (draw_respects _) fun _ => draw_respects _) (.pure _)
  · exact .pure _

/-- A page begins in the same way, on a sheet of whatever number. -/
theorem startPage_respects : Respects (startPage : Typeset L Unit) := by
  intro s t pre pre' h
  -- the two pages are begun by the same drawings but for the numbers of their sheets
  obtain ⟨_, _, hs, log, rfl⟩ := (startPage_ends h.unlimited).exists_ok
  obtain ⟨_, _, ht, log', rfl⟩ := (startPage_ends h.unlimited_right).exists_ok
  refine .of_ok hs ht ?_
  obtain ⟨hg, hc, -, -⟩ := h.document_eq
  have hslot : s.document.cursor.slot = t.document.cursor.slot := congrArg (·.slot) hc
  have hpagination : s.document.cursor.pagination = t.document.cursor.pagination :=
    congrArg (·.pagination) hc
  rw [← hg, ← hslot, ← hpagination]
  refine h.moved ?_ ?_ _ _
  · show s.document.cursor.countPage.view.toPageTop _ = t.document.cursor.countPage.view.toPageTop _
    rw [countPage_view s.document.cursor, countPage_view t.document.cursor, hc]
  · have hopening : ∀ n m : Nat,
        (Drawing.sheetOpening s.document.geometry s.document.cursor.pagination n).map
          Drawing.bare =
        (Drawing.sheetOpening s.document.geometry s.document.cursor.pagination m).map
          Drawing.bare := by
      intro n m
      unfold Drawing.sheetOpening
      split <;> rfl
    rw [List.map_append, List.map_append]
    split
    · rw [hopening _ (t.document.cursor.sheets + 1)]
    · rfl

theorem number?_of_false {all : Bool} (h : all = false) (label label' : Int) (songPages : Nat) :
    number? all label songPages = number? all label' songPages := by
  rw [h]
  rfl

theorem endSheet_respects : Respects (endSheet : Typeset L Unit) := by
  intro s t pre pre' h
  have hc := h.document_eq.2.1
  have hslot : s.document.cursor.slot = t.document.cursor.slot := congrArg (·.slot) hc
  have hpagination : s.document.cursor.pagination = t.document.cursor.pagination :=
    congrArg (·.pagination) hc
  have hsongPages : s.document.cursor.songPages = t.document.cursor.songPages :=
    congrArg (·.songPages) hc
  have hlast : ∀ s' t' : Session L, Agree
      (draw (.endSheet s.document.cursor.sheets) >>= fun _ => modifyCursor Cursor.leaveSheet)
      (draw (.endSheet t.document.cursor.sheets) >>= fun _ => modifyCursor Cursor.leaveSheet)
      s' t' := fun s' t' pre pre' h =>
    (draw_agree (.endSheet s.document.cursor.sheets) (.endSheet t.document.cursor.sheets) rfl s' t'
      pre pre' h).bind fun _ s' t' h => modifyCursor_respects (fun _ => rfl) s' t' pre pre' h
  show EndAlike (if s.document.cursor.slot = 0 then _ else _)
    (if t.document.cursor.slot = 0 then _ else _) s t _ _
  rw [← hslot, ← hpagination, ← hsongPages, ← h.settings_eq,
    number?_of_false h.unnumbered t.document.cursor.sheetLabel s.document.cursor.sheetLabel]
  refine .ite ⟨rfl, h⟩ (.optional (fun h => draw_respects _ s t pre pre' h) (fun s' t' h => ?_) h)
  exact .optional (fun h => numbered_respects _ s' t' pre pre' h)
    (fun s' t' h => hlast s' t' pre pre' h) h

theorem endPage_respects (sheetToo : Bool) : Respects (endPage sheetToo : Typeset L Unit) := by
  unfold endPage
  refine .read (fun s hs => ?_) fun s => ?_
  · simp only [number?_of_false hs s.document.cursor.pageLabel 0]
    rfl
  have hleave := modifyCursor_respects (f := (·.leavePage s.document.geometry)) fun _ => rfl
  have hlast := Respects.ite
    (c := s.document.cursor.pagination.perSheet ≤ s.document.cursor.slot || sheetToo)
    (.bind endSheet_respects fun _ => hleave) hleave
  refine .ite (.pure _) (.bind runningTitle_respects fun _ => ?_)
  refine .ite (.bind (numbered_respects _) fun _ => ?_) ?_ <;> dsimp only
  all_goals
    split
    · exact .bind (chorusBar_respects _) fun _ => hlast
    · exact hlast

theorem turnPage_respects (sheetToo : Bool) : Respects (turnPage sheetToo : Typeset L Unit) :=
  .bind (endPage_respects sheetToo) fun _ => startPage_respects

theorem breakColumn_respects : Respects (breakColumn : Typeset L Unit) :=
  .read (fun _ _ => rfl) fun _ => .ite (turnPage_respects false)
    (.bind (modifyCursor_respects fun _ => rfl) fun _ => note_agree _ _)

end Typeset

end Songbook
