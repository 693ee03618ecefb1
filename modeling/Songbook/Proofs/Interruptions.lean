import Songbook.Markup.Reader
import Songbook.Proofs.Outcome

/-!
# Runs that are interrupted

One run may be stopped where the same run from a twin state goes on. As long as it is not, both go
through the same states; and once it is, the other one may only add to what it has. An action that
does so passes the interruption on (`Interruption.Passes`). This is closed under doing one thing
after the other, and reading a text passes on what each operation of the sink passes on
(`readText_passes`).
-/

namespace Songbook

open Markup

/-- How a run and its twin may be related: they are at the same point, or the first was stopped by
a fault. What a state has may grow, and the twin of a stopped run may go on. -/
structure Interruption (ε σ : Type) where
  Same : σ → σ → Prop
  Stopped : ε → σ → σ → Prop
  Grows : σ → σ → Prop
  refl : ∀ s, Grows s s
  trans : ∀ {s t u}, Grows s t → Grows t u → Grows s u
  goesOn : ∀ {e s t u}, Stopped e s t → Grows t u → Stopped e s u

namespace Interruption

variable {ε σ α β : Type} (I : Interruption ε σ)

/-- From states at the same point, `x` ends in the same way on both, or it is stopped on the first
one. -/
structure Passes (x : EStateM ε σ α) : Prop where
  grows : ∀ s, I.Grows s (endState x s)
  same : ∀ s t, I.Same s t → match x s with
    | .ok a s' => ∃ t', x t = .ok a t' ∧ I.Same s' t'
    | .error e s' =>
      (∃ t', x t = .error e t' ∧ I.Same s' t') ∨ I.Stopped e s' (endState x t)

variable {I} {x y : EStateM ε σ α} {f : α → EStateM ε σ β}

theorem Passes.of_ok {g : σ → σ} {a : α} (hx : ∀ s, x s = .ok a (g s))
    (hgrows : ∀ s, I.Grows s (g s)) (hsame : ∀ s t, I.Same s t → I.Same (g s) (g t)) :
    I.Passes x := by
  refine ⟨fun s => ?_, fun s t hst => ?_⟩
  · rw [endState_of_ok (hx s)]
    exact hgrows s
  · rw [hx s]
    exact ⟨g t, hx t, hsame s t hst⟩

theorem Passes.pure (a : α) : I.Passes (Pure.pure a : EStateM ε σ α) :=
  .of_ok (fun _ => rfl) I.refl fun _ _ h => h

theorem Passes.throw (e : ε) : I.Passes (MonadExcept.throw e : EStateM ε σ α) :=
  ⟨I.refl, fun _ t h => .inl ⟨t, rfl, h⟩⟩

theorem grows_bind {s : σ} (hx : I.Grows s (endState x s))
    (hf : ∀ a t, I.Grows t (endState (f a) t)) : I.Grows s (endState (x >>= f) s) ∧
      I.Grows (endState x s) (endState (x >>= f) s) := by
  have hon : I.Grows (endState x s) (endState (x >>= f) s) := by
    unfold endState
    rw [bind_eq]
    rcases x s with ⟨a, t⟩ | ⟨e, t⟩
    · exact hf a t
    · exact I.refl t
  exact ⟨I.trans hx hon, hon⟩

theorem Passes.bind (hx : I.Passes x) (hf : ∀ a, I.Passes (f a)) : I.Passes (x >>= f) := by
  refine ⟨fun s => (grows_bind (hx.grows s) fun a => (hf a).grows).1, fun s t hst => ?_⟩
  have hrun := hx.same s t hst
  rw [bind_eq]
  rcases hxs : x s with ⟨a, s'⟩ | ⟨e, s'⟩ <;> rw [hxs] at hrun
  · obtain ⟨t', ht', hst'⟩ := hrun
    have hrest := (hf a).same s' t' hst'
    have hend : endState (x >>= f) t = endState (f a) t' := by
      unfold endState
      rw [bind_of_ok ht']
    rw [bind_of_ok ht', hend]
    exact hrest
  · rcases hrun with ⟨t', ht', hst'⟩ | hstopped
    · refine .inl ⟨t', ?_, hst'⟩
      rw [bind_eq, ht']
    · exact .inr (I.goesOn hstopped (grows_bind (hx.grows t) fun a => (hf a).grows).2)

theorem Passes.read {f : σ → EStateM ε σ β} (hlook : ∀ s t, I.Same s t → f s = f t)
    (hf : ∀ s, I.Passes (f s)) : I.Passes (get >>= f) := by
  refine ⟨fun s => (hf s).grows s, fun s t hst => ?_⟩
  have hrun := (hf s).same s t hst
  have hend : endState (get >>= f) t = endState (f s) t := by
    rw [hlook s t hst]
    rfl
  rw [get_bind, get_bind, hend, ← hlook s t hst]
  exact hrun

theorem Passes.forM {g : β → EStateM ε σ PUnit} (l : List β) (h : ∀ b, I.Passes (g b)) :
    I.Passes (l.forM g) := by
  induction l with
  | nil => exact .pure _
  | cons b l ih => exact .bind (h b) fun _ => ih

/-! ## Readers -/

/-- Two readers in one place. -/
def reading (I : Interruption ε σ) : Interruption ε (Reader × σ) where
  Same p q := p.1 = q.1 ∧ I.Same p.2 q.2
  Stopped e p q := I.Stopped e p.2 q.2
  Grows p q := I.Grows p.2 q.2
  refl p := I.refl p.2
  trans := I.trans
  goesOn := I.goesOn

/-- The operations of the sink pass interruptions on. -/
structure SinkPasses (I : Interruption ε σ) (sink : Sink ε σ) : Prop where
  chord_grows : ∀ n name s, I.Grows s (sink.chord n name s).2
  chord_same : ∀ n name s t, I.Same s t →
    (sink.chord n name s).1 = (sink.chord n name t).1 ∧
      I.Same (sink.chord n name s).2 (sink.chord n name t).2
  problem_grows : ∀ n p s, I.Grows s (sink.problem n p s)
  problem_same : ∀ n p s t, I.Same s t → I.Same (sink.problem n p s) (sink.problem n p t)
  line : ∀ n content, I.Passes (sink.line n content)
  directive : ∀ n text, I.Passes (sink.directive n text)
  inTab : ∀ s t, I.Same s t → sink.inTab s = sink.inTab t

variable {sink : Sink ε σ}

theorem update_passes (f : Reader → Reader) : I.reading.Passes (Reader.update (ε := ε) f) := by
  refine .of_ok (g := fun p => (f p.1, p.2)) (fun _ => rfl) (fun p => I.refl p.2) ?_
  rintro ⟨r, s⟩ ⟨r', t⟩ ⟨hr, hst⟩
  exact ⟨congrArg f hr, hst⟩

theorem send_passes {x : EStateM ε σ Unit} (hx : I.Passes x) :
    I.reading.Passes (Reader.send x) := by
  have hend : ∀ (r : Reader) (s : σ), endState (Reader.send x) (r, s) = (r, endState x s) := by
    intro r s
    unfold endState
    dsimp only [Reader.send]
    rcases x s with ⟨a, s'⟩ | ⟨e, s'⟩ <;> rfl
  refine ⟨?_, ?_⟩
  · rintro ⟨r, s⟩
    rw [hend]
    exact hx.grows s
  · rintro ⟨r, s⟩ ⟨r', t⟩ ⟨hr, hst⟩
    obtain rfl : r = r' := hr
    have hrun := hx.same s t hst
    rw [hend]
    dsimp only [Reader.send]
    rcases hxs : x s with ⟨a, s'⟩ | ⟨e, s'⟩ <;> rw [hxs] at hrun
    · obtain ⟨t', ht', hst'⟩ := hrun
      rw [ht']
      exact ⟨(r, t'), rfl, rfl, hst'⟩
    · rcases hrun with ⟨t', ht', hst'⟩ | hstopped
      · rw [ht']
        exact .inl ⟨(r, t'), rfl, rfl, hst'⟩
      · exact .inr hstopped

theorem look_passes {f : Reader × σ → Reader.Step ε σ Unit}
    (hlook : ∀ r s t, I.Same s t → f (r, s) = f (r, t))
    (hf : ∀ r s, I.reading.Passes (f (r, s))) : I.reading.Passes (get >>= f) := by
  refine .read ?_ fun p => hf p.1 p.2
  rintro ⟨r, s⟩ ⟨r', t⟩ ⟨hr, hst⟩
  obtain rfl : r = r' := hr
  exact hlook r s t hst

section

variable (h : I.SinkPasses sink)
include h

theorem tell_passes (p : Problem) : I.reading.Passes (Reader.tell sink p) := by
  refine .of_ok (g := fun q => (q.1, sink.problem q.1.line p q.2)) (fun _ => rfl)
    (fun q => h.problem_grows _ _ _) ?_
  rintro ⟨r, s⟩ ⟨r', t⟩ ⟨hr, hst⟩
  obtain rfl : r = r' := hr
  exact ⟨rfl, h.problem_same _ _ _ _ hst⟩

theorem collect_passes (kind : Token) (c : Char) :
    I.reading.Passes (Reader.collect sink kind c) := by
  refine .of_ok (g := fun q => (q.1.setBuffer ((q.1.buffer kind).push kind c).1 kind,
    if ((q.1.buffer kind).push kind c).2 then
      sink.problem q.1.line (.bufferOverflow kind) q.2 else q.2)) (fun _ => rfl) ?_ ?_
  · rintro ⟨r, s⟩
    dsimp only [reading]
    split
    · exact h.problem_grows _ _ _
    · exact I.refl s
  · rintro ⟨r, s⟩ ⟨r', t⟩ ⟨hr, hst⟩
    obtain rfl : r = r' := hr
    refine ⟨rfl, ?_⟩
    dsimp only
    split
    · exact h.problem_same _ _ _ _ hst
    · exact hst

theorem closeChord_passes : I.reading.Passes (Reader.closeChord sink) := by
  refine .of_ok (g := fun q => ({ q.1 with
    chordName := .empty
    marks := ⟨q.1.lyrics.size, (sink.chord q.1.line q.1.chordName.text q.2).1⟩ :: q.1.marks
    mode := .text }, (sink.chord q.1.line q.1.chordName.text q.2).2)) (fun _ => rfl)
    (fun q => h.chord_grows _ _ _) ?_
  rintro ⟨r, s⟩ ⟨r', t⟩ ⟨hr, hst⟩
  obtain rfl : r = r' := hr
  obtain ⟨hshown, hst⟩ := h.chord_same r.line r.chordName.text s t hst
  dsimp only
  exact ⟨by rw [hshown], hst⟩

theorem closeDirective_passes : I.reading.Passes (Reader.closeDirective sink) :=
  look_passes (fun _ _ _ _ => rfl) fun r _ => .bind (update_passes _) fun _ =>
    .bind (send_passes (h.directive r.line r.directive.text)) fun _ => update_passes _

theorem endLine_passes : I.reading.Passes (Reader.endLine sink) := by
  refine look_passes (fun _ _ _ _ => rfl) fun r _ => ?_
  have hline : I.reading.Passes (if !r.hasDirective then do
      Reader.update fun r => { r with lyrics := .empty, marks := [] }
      Reader.send (sink.line r.line r.content)
      Reader.update fun r => r.reset.nextLine
    else Reader.update fun r => r.reset.nextLine) := by
    split
    · exact .bind (update_passes _) fun _ =>
        .bind (send_passes (h.line r.line r.content)) fun _ => update_passes _
    · exact update_passes _
  dsimp only
  split
  · exact .bind (tell_passes h _) fun _ => hline
  · exact .bind (tell_passes h _) fun _ => hline
  · exact hline

theorem place_passes (mode : Mode) (inTab : Bool) (c : Char) :
    I.reading.Passes (Reader.place sink mode inTab c) := by
  unfold Reader.place
  split
  · exact collect_passes h _ _
  · exact .bind (tell_passes h _) fun _ => update_passes _
  · split
    · exact collect_passes h _ _
    · exact update_passes _
  · exact collect_passes h _ _
  · exact closeChord_passes h
  · split
    · exact collect_passes h _ _
    · exact tell_passes h _
  · exact .bind (tell_passes h _) fun _ => .bind (update_passes _) fun _ => update_passes _
  · exact update_passes _
  · exact closeDirective_passes h
  · exact tell_passes h _
  · exact .pure _
  · exact collect_passes h _ _
  · exact collect_passes h _ _
  · exact collect_passes h _ _

theorem feed_passes (c : Char) : I.reading.Passes (Reader.feed sink c) := by
  unfold Reader.feed
  split
  · exact .pure _
  refine .bind (update_passes _) fun _ => look_passes (fun r s t hst => ?_) fun r s => ?_
  · simp only [h.inTab s t hst]
  dsimp only
  split
  · split
    · exact update_passes _
    · exact .pure _
  · split
    · exact endLine_passes h
    · split
      · exact update_passes _
      · exact place_passes h _ _ c

/-- A text passes on what each operation of the sink passes on. -/
theorem readText_passes (text : String) : I.Passes (Reader.readText sink text) := by
  have hread : I.reading.Passes (Reader.read sink text) := by
    refine .bind (.forM _ (feed_passes h)) fun _ => look_passes (fun _ _ _ _ => rfl) fun r _ => ?_
    dsimp only
    split
    · exact endLine_passes h
    · exact .pure _
  have hend : ∀ s, endState (Reader.readText sink text) s =
      (endState (Reader.read sink text) (Reader.start, s)).2 := by
    intro s
    unfold endState
    dsimp only [Reader.readText]
    rcases Reader.read sink text (Reader.start, s) with ⟨a, p⟩ | ⟨e, p⟩ <;> rfl
  refine ⟨fun s => ?_, fun s t hst => ?_⟩
  · rw [hend]
    exact hread.grows (Reader.start, s)
  · have hrun := hread.same (Reader.start, s) (Reader.start, t) ⟨rfl, hst⟩
    rw [hend]
    dsimp only [Reader.readText]
    rcases hs : Reader.read sink text (Reader.start, s) with ⟨a, p⟩ | ⟨e, p⟩ <;> rw [hs] at hrun
    · obtain ⟨q, hq, hpq⟩ := hrun
      rw [hq]
      exact ⟨q.2, rfl, hpq.2⟩
    · rcases hrun with ⟨q, hq, hpq⟩ | hstopped
      · rw [hq]
        exact .inl ⟨q.2, rfl, hpq.2⟩
      · exact .inr hstopped

end

end Interruption

end Songbook
