import Songbook.Proofs.PlainLines
import Songbook.Proofs.Reading

/-!
# One sink in place of another

The reader sees of a sink only what its operations answer. So a map of states that carries the
operations of one sink to those of another carries whole texts (`readText_carried`). A record of
what is found can be forgotten (`carries_fst`), and a text read further down finds the same there
(`carries_recording`).
-/

namespace Songbook.Markup

variable {ε σ τ α : Type}

/-- The number of the line that it was found on. -/
def Event.number : Event → Nat
  | .chord n _ => n
  | .directive n _ => n
  | .line n _ => n
  | .problem n _ => n

/-- Found so many lines further down. -/
def Event.below (k : Nat) : Event → Event
  | .chord n name => .chord (n + k) name
  | .directive n text => .directive (n + k) text
  | .line n content => .line (n + k) content
  | .problem n p => .problem (n + k) p

theorem Event.below_below (k m : Nat) (e : Event) : (e.below m).below k = e.below (k + m) := by
  cases e <;> simp [below, Nat.add_assoc, Nat.add_comm m]

theorem Event.map_below_zero (es : List Event) : es.map (Event.below 0) = es := by
  refine (List.map_congr_left fun e _ => ?_).trans es.map_id
  cases e <;> rfl

/-- The sink as it is met so many lines further down. -/
def Sink.below (sink : Sink ε σ) (k : Nat) : Sink ε σ where
  chord n := sink.chord (n + k)
  directive n := sink.directive (n + k)
  line n := sink.line (n + k)
  problem n := sink.problem (n + k)
  inTab := sink.inTab

theorem Sink.below_below (sink : Sink ε σ) (k m : Nat) :
    (sink.below k).below m = sink.below (k + m) := by
  simp only [below, Nat.add_assoc, Nat.add_comm m]

/-- The result with another state. -/
def onState (g : τ → σ) : EStateM.Result ε τ α → EStateM.Result ε σ α
  | .ok a t => .ok a (g t)
  | .error e t => .error e (g t)

theorem onState_onState {υ : Type} (g : τ → σ) (f : υ → τ) (x : EStateM.Result ε υ α) :
    onState g (onState f x) = onState (fun u => g (f u)) x := by
  cases x <;> rfl

theorem onState_id (x : EStateM.Result ε σ α) : onState (fun s => s) x = x := by
  cases x <;> rfl

theorem Sink.withEvent_eq (e : Event) (x : EStateM ε σ Unit) (p : σ × List Event) :
    withEvent e x p = onState (fun s => (s, p.2 ++ [e])) (x p.1) := by
  obtain ⟨s, es⟩ := p
  unfold withEvent
  dsimp only
  cases x s <;> rfl

theorem Sink.withEvent_ends {e : Event} {x : EStateM ε σ Unit} {p : σ × List Event} {E : ε → Prop}
    {Q : σ × List Event → Prop} (h : Ends x p.1 E fun _ t => Q (t, p.2 ++ [e])) :
    Ends (withEvent e x) p E fun _ => Q := by
  unfold Ends at h ⊢
  rw [withEvent_eq]
  cases hx : x p.1 <;> rw [hx] at h <;> exact h

theorem Reader.send_eq (x : EStateM ε σ Unit) (p : Reader × σ) :
    send x p = onState (fun s => (p.1, s)) (x p.2) := by
  obtain ⟨r, s⟩ := p
  unfold send
  dsimp only
  cases x s <;> rfl

theorem endState_of_onState {g : τ → σ} {x : EStateM ε τ α} {y : EStateM ε σ α} {s : σ} {t : τ}
    (h : y s = onState g (x t)) : endState y s = g (endState x t) := by
  unfold endState
  rw [h]
  cases x t <;> rfl

/-- What `b` does to its states `a` does, `k` lines further down, to what `g` makes of them. -/
structure Sink.Carries (b : Sink ε τ) (a : Sink ε σ) (k : Nat) (g : τ → σ) : Prop where
  chord : ∀ n name t, a.chord (n + k) name (g t) =
    ((b.chord n name t).1, g (b.chord n name t).2)
  directive : ∀ n text t, a.directive (n + k) text (g t) = onState g (b.directive n text t)
  line : ∀ n content t, a.line (n + k) content (g t) = onState g (b.line n content t)
  problem : ∀ n p t, a.problem (n + k) p (g t) = g (b.problem n p t)
  inTab : ∀ t, a.inTab (g t) = b.inTab t

theorem Sink.carries_fst (sink : Sink ε σ) : sink.recording.Carries sink 0 Prod.fst where
  chord _ _ _ := rfl
  directive n text t := by
    show sink.directive n text t.1 = onState Prod.fst (withEvent _ (sink.directive n text) t)
    rw [withEvent_eq, onState_onState, onState_id]
  line n content t := by
    show sink.line n content t.1 = onState Prod.fst (withEvent _ (sink.line n content) t)
    rw [withEvent_eq, onState_onState, onState_id]
  problem _ _ _ := rfl
  inTab _ := rfl

theorem Sink.withEvent_endAlike {R : σ → σ → Prop} {x : EStateM ε σ Unit} {s t : σ}
    (h : EndAlike x x s t R fun _ => R) (e : Event) (found : List Event) :
    EndAlike (withEvent e x) (withEvent e x) (s, found) (t, found)
      (fun p q => R p.1 q.1 ∧ p.2 = q.2) fun _ p q => R p.1 q.1 ∧ p.2 = q.2 := by
  unfold EndAlike at h ⊢
  rw [withEvent_eq, withEvent_eq]
  dsimp only
  cases hs : x s <;> cases ht : x t <;> rw [hs, ht] at h
  · exact ⟨rfl, h.2, rfl⟩
  · exact h
  · exact h
  · exact ⟨h.1, h.2, rfl⟩

/-- What keeps two states alike keeps their records the same. -/
theorem Sink.Relates.recording {sink : Sink ε σ} {R : σ → σ → Prop}
    (h : sink.Relates R fun _ => R) : sink.recording.Relates (fun p q => R p.1 q.1 ∧ p.2 = q.2)
      fun _ p q => R p.1 q.1 ∧ p.2 = q.2 where
  chord := by
    rintro n name ⟨s, _⟩ ⟨t, found⟩ ⟨hst, rfl⟩
    have hchord := h.chord n name s t hst
    exact ⟨hchord.1, hchord.2, rfl⟩
  line := by
    rintro n content ⟨s, _⟩ ⟨t, found⟩ ⟨hst, rfl⟩
    exact withEvent_endAlike (h.line n content s t hst) _ _
  problem := by
    rintro n p ⟨s, _⟩ ⟨t, found⟩ ⟨hst, rfl⟩
    exact ⟨h.problem n p s t hst, rfl⟩
  inTab := fun p q hpq => h.inTab p.1 q.1 hpq.1

theorem Sink.RelatesDirectives.recording {sink : Sink ε σ} {R : σ → σ → Prop}
    (h : sink.RelatesDirectives R fun _ => R) :
    sink.recording.RelatesDirectives (fun p q => R p.1 q.1 ∧ p.2 = q.2)
      fun _ p q => R p.1 q.1 ∧ p.2 = q.2 := by
  rintro n text ⟨s, _⟩ ⟨t, found⟩ ⟨hst, rfl⟩
  exact withEvent_endAlike (h n text s t hst) _ _

/-- What is found further down comes after what was found before. -/
theorem Sink.carries_recording (sink : Sink ε σ) (k : Nat) (before : List Event) :
    (sink.below k).recording.Carries sink.recording k
      fun p => (p.1, before ++ p.2.map (Event.below k)) where
  chord n name t := by
    simp [recording, below, Event.below]
  directive n text t := by
    simp [recording, below, Event.below, withEvent_eq, onState_onState]
  line n content t := by
    simp [recording, below, Event.below, withEvent_eq, onState_onState]
  problem n p t := by
    simp [recording, below, Event.below]
  inTab _ := rfl

namespace Reader

/-- The reader so many lines further down. -/
def below (r : Reader) (k : Nat) : Reader := { r with line := r.line + k }

/-- A reader and a sink's state in place of others. -/
def carry (k : Nat) (g : τ → σ) (p : Reader × τ) : Reader × σ := (p.1.below k, g p.2)

/-- What `x` does `y` does in place of it. -/
def Carried (k : Nat) (g : τ → σ) (x : Step ε τ Unit) (y : Step ε σ Unit) : Prop :=
  ∀ p, y (carry k g p) = onState (carry k g) (x p)

variable {k : Nat} {g : τ → σ}

theorem Carried.pure : Carried k g (pure () : Step ε τ Unit) (pure ()) := fun _ => rfl

theorem Carried.bind {x : Step ε τ Unit} {y : Step ε σ Unit} {x' : Unit → Step ε τ Unit}
    {y' : Unit → Step ε σ Unit} (h : Carried k g x y) (h' : Carried k g (x' ()) (y' ())) :
    Carried k g (x >>= x') (y >>= y') := by
  intro p
  rw [bind_eq, bind_eq, h p]
  cases x p with
  | ok _ q => exact h' q
  | error _ _ => rfl

theorem Carried.read {x : Reader × τ → Step ε τ Unit} {y : Reader × σ → Step ε σ Unit}
    (h : ∀ r t, Carried k g (x (r, t)) (y (r.below k, g t))) :
    Carried k g (get >>= x) (get >>= y) := fun p => h p.1 p.2 p

theorem Carried.ite {c : Prop} [Decidable c] {x x' : Step ε τ Unit} {y y' : Step ε σ Unit}
    (h : Carried k g x y) (h' : Carried k g x' y') :
    Carried k g (if c then x else x') (if c then y else y') := by
  split
  · exact h
  · exact h'

theorem update_carried {f : Reader → Reader} (h : ∀ r, f (r.below k) = (f r).below k) :
    Carried k g (update f : Step ε τ Unit) (update f) := by
  intro p
  show EStateM.Result.ok () (f (p.1.below k), g p.2) = _
  rw [h]
  rfl

theorem send_carried {x : EStateM ε τ Unit} {y : EStateM ε σ Unit}
    (h : ∀ t, y (g t) = onState g (x t)) : Carried k g (send x) (send y) := by
  intro p
  rw [send_eq, send_eq, onState_onState]
  show onState _ (y (g p.2)) = _
  rw [h, onState_onState]
  rfl

section

variable {b : Sink ε τ} {a : Sink ε σ} (h : b.Carries a k g)
include h

theorem tell_carried (p : Problem) : Carried k g (tell b p) (tell a p) := fun q =>
  congrArg (fun s => EStateM.Result.ok () (q.1.below k, s)) (h.problem q.1.line p q.2)

theorem collect_carried (kind : Token) (c : Char) :
    Carried k g (collect b kind c) (collect a kind c) := by
  rintro ⟨r, t⟩
  have hsame : (r.below k).buffer kind = r.buffer kind := by
    cases kind <;> rfl
  have hset : ∀ buffer, (r.below k).setBuffer buffer kind = (r.setBuffer buffer kind).below k := by
    cases kind <;> exact fun _ => rfl
  show EStateM.Result.ok () ((r.below k).setBuffer (((r.below k).buffer kind).push kind c).1 kind,
    if (((r.below k).buffer kind).push kind c).2 then a.problem (r.line + k) _ (g t) else g t) =
    EStateM.Result.ok () ((r.setBuffer ((r.buffer kind).push kind c).1 kind).below k,
      g (if ((r.buffer kind).push kind c).2 then b.problem r.line _ t else t))
  rw [hsame, hset, h.problem, apply_ite g]

theorem closeChord_carried : Carried k g (closeChord b) (closeChord a) := by
  rintro ⟨r, t⟩
  have hchord := h.chord r.line r.chordName.text t
  show EStateM.Result.ok () ({ r.below k with
      chordName := .empty
      marks := ⟨r.lyrics.size, (a.chord (r.line + k) r.chordName.text (g t)).1⟩ :: r.marks
      mode := .text }, (a.chord (r.line + k) r.chordName.text (g t)).2) = _
  rw [hchord]
  rfl

omit h in
theorem openDirective_carried : Carried k g (openDirective : Step ε τ Unit) openDirective :=
  update_carried fun _ => rfl

theorem closeDirective_carried : Carried k g (closeDirective b) (closeDirective a) :=
  .read fun r _ => .bind (update_carried fun _ => rfl) <|
    .bind (send_carried (h.directive r.line r.directive.text)) (update_carried fun _ => rfl)

omit h in
theorem byMode_carried (mode : Mode) {x y z : Step ε τ Unit} {x' y' z' : Step ε σ Unit}
    (hx : Carried k g x x') (hy : Carried k g y y') (hz : Carried k g z z') :
    Carried k g (match mode with | .directive => x | .chord => y | _ => z)
      (match mode with | .directive => x' | .chord => y' | _ => z') := by
  split
  · exact hx
  · exact hy
  · exact hz

theorem endLine_carried : Carried k g (endLine b) (endLine a) := by
  refine .read fun r _ => ?_
  have hlast : Carried k g (update fun r => r.reset.nextLine : Step ε τ Unit)
      (update fun r => r.reset.nextLine) := update_carried fun r => by
    simp [below, reset, nextLine, Nat.add_right_comm]
  have hline : Carried k g (if !r.hasDirective then do
        update fun r => { r with lyrics := .empty, marks := [] }
        send (b.line r.line r.content)
        update fun r => r.reset.nextLine
      else update fun r => r.reset.nextLine) (if !r.hasDirective then do
        update fun r => { r with lyrics := .empty, marks := [] }
        send (a.line (r.line + k) r.content)
        update fun r => r.reset.nextLine
      else update fun r => r.reset.nextLine) :=
    .ite (.bind (update_carried fun _ => rfl)
      (.bind (send_carried (h.line r.line r.content)) hlast)) hlast
  exact byMode_carried r.mode (.bind (tell_carried h _) hline) (.bind (tell_carried h _) hline) hline

theorem place_carried (mode : Mode) (inTab : Bool) (c : Char) :
    Carried k g (place b mode inTab c) (place a mode inTab c) := by
  have hopen : Carried k g (openChord : Step ε τ Unit) openChord := update_carried fun _ => rfl
  have hdrop : Carried k g (update fun r => { r with chordName := .empty } : Step ε τ Unit)
      (update fun r => { r with chordName := .empty }) := update_carried fun _ => rfl
  unfold place
  split
  · exact collect_carried h _ _
  · exact .bind (tell_carried h _) hopen
  · exact .ite (collect_carried h _ _) hopen
  · exact collect_carried h _ _
  · exact closeChord_carried h
  · exact .ite (collect_carried h _ _) (tell_carried h _)
  · exact .bind (tell_carried h _) (.bind hdrop openDirective_carried)
  · exact openDirective_carried
  · exact closeDirective_carried h
  · exact tell_carried h _
  · exact .pure
  · exact collect_carried h _ _
  · exact collect_carried h _ _
  · exact collect_carried h _ _

theorem feed_carried (c : Char) : Carried k g (feed b c) (feed a c) := by
  unfold feed
  refine .ite .pure (.bind (update_carried fun _ => rfl) (.read fun r t => ?_))
  show Carried k g (if r.mode = .skip then _ else _) (if r.mode = .skip then _ else _)
  rw [h.inTab]
  refine .ite (.ite (update_carried fun r => ?_) .pure)
    (.ite (endLine_carried h) (.ite (update_carried fun _ => rfl) (place_carried h _ _ _)))
  simp [below, nextLine, Nat.add_right_comm]

theorem feeds_carried (cs : List Char) : Carried k g (feeds b cs) (feeds a cs) := by
  induction cs with
  | nil => exact .pure
  | cons c cs ih => exact .bind (feed_carried h c) ih

theorem finish_carried : Carried k g (finish b) (finish a) :=
  .read fun _ _ => .ite (endLine_carried h) .pure

theorem read_carried (text : String) : Carried k g (read b text) (read a text) :=
  .bind (feeds_carried h text.toList) (finish_carried h)

end

theorem readText_eq (sink : Sink ε σ) (text : String) (s : σ) :
    readText sink text s = onState Prod.snd (read sink text (start, s)) := by
  unfold readText
  cases read sink text (start, s) <;> rfl

/-- A text does to the states of one sink what it does to those of the other. -/
theorem readText_carried {b : Sink ε τ} {a : Sink ε σ} (h : b.Carries a 0 g) (text : String)
    (t : τ) : readText a text (g t) = onState g (readText b text t) := by
  have hread : read a text (start, g t) = onState (carry 0 g) (read b text (start, t)) :=
    read_carried h text (start, t)
  rw [readText_eq, readText_eq, hread, onState_onState, onState_onState]
  rfl

/-- A text leaves a sink as it leaves it under a record. -/
theorem endState_readText (sink : Sink ε σ) (text : String) (s : σ) :
    endState (readText sink text) s = (endState (readText sink.recording text) (s, [])).1 :=
  endState_of_onState (readText_carried sink.carries_fst text (s, []))

end Reader

end Songbook.Markup
