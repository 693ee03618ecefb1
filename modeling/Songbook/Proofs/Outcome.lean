import Songbook.Session.Run

/-!
# Outcomes of actions

An action ends in a value with a state, or in a fault with the state it had come to. `Ends` says
what it may end in; it is proved along the action's text, one step after the other. `Keeps` is the
case that matters most: the states it ends in are of the kind it begins with. `EndAlike` compares
what two actions end in, from a state each; `EndAlike.ends` makes of a comparison of an action with
itself what it ends in.
-/

namespace Songbook

variable {ε σ α β : Type}

/-- From `s`, `x` ends in a value and a state of `Q`, or in a fault of `E`. -/
def Ends (x : EStateM ε σ α) (s : σ) (E : ε → Prop) (Q : α → σ → Prop) : Prop :=
  match x s with
  | .ok a t => Q a t
  | .error e _ => E e

variable {E : ε → Prop} {P : α → σ → Prop} {Q : β → σ → Prop} {x : EStateM ε σ α}
  {f : α → EStateM ε σ β} {s : σ}

instance [DecidablePred E] [∀ a, DecidablePred (P a)] : Decidable (Ends x s E P) :=
  match h : x s with
  | .ok a t => decidable_of_iff (P a t) (by rw [Ends, h])
  | .error e _ => decidable_of_iff (E e) (by rw [Ends, h])

theorem bind_eq (x : EStateM ε σ α) (f : α → EStateM ε σ β) (s : σ) :
    (x >>= f) s = match x s with
      | .ok a t => f a t
      | .error e t => .error e t := rfl

theorem bind_of_ok {a : α} {t : σ} (h : x s = .ok a t) : (x >>= f) s = f a t := by
  rw [bind_eq, h]

theorem Ends.of_ok {a : α} {t : σ} (h : x s = .ok a t) (hP : P a t) : Ends x s E P := by
  unfold Ends
  rw [h]
  exact hP

theorem Ends.holds {a : α} {t : σ} (h : Ends x s E P) (hok : x s = .ok a t) : P a t := by
  unfold Ends at h
  rwa [hok] at h

theorem Ends.mono {P' : α → σ → Prop} (h : Ends x s E P) (hP : ∀ a t, P a t → P' a t) :
    Ends x s E P' := by
  unfold Ends at h ⊢
  split at h
  · exact hP _ _ h
  · exact h

theorem Ends.weaken {E' : ε → Prop} (h : Ends x s E P) (hE : ∀ e, E e → E' e) :
    Ends x s E' P := by
  unfold Ends at h ⊢
  split at h
  · exact h
  · exact hE _ h

theorem Ends.bind (hx : Ends x s E P) (hf : ∀ a t, P a t → Ends (f a) t E Q) :
    Ends (x >>= f) s E Q := by
  unfold Ends at hx
  unfold Ends
  rw [bind_eq]
  rcases h : x s with ⟨a, t⟩ | ⟨e, t⟩ <;> rw [h] at hx
  · exact hf a t hx
  · exact hx

theorem Ends.bind_ok {a : α} {t : σ} (h : x s = .ok a t) (hf : Ends (f a) t E Q) :
    Ends (x >>= f) s E Q := by
  unfold Ends
  rw [bind_of_ok h]
  exact hf

/-- A step taken only under a condition, and then the rest. -/
theorem Ends.optional {c : Prop} [Decidable c] {x : EStateM ε σ PUnit}
    {k : PUnit → EStateM ε σ β} {P : σ → Prop} (hx : c → Ends x s E fun _ => P) (hs : ¬ c → P s)
    (hk : ∀ t, P t → Ends (k ()) t E Q) : Ends (if c then x >>= k else k ()) s E Q := by
  split
  · exact (hx ‹_›).bind fun _ t ht => hk t ht
  · exact hk s (hs ‹_›)

/-- The state that an action ends in, be it with a value or in a fault. -/
def endState (x : EStateM ε σ α) (s : σ) : σ :=
  match x s with
  | .ok _ t => t
  | .error _ t => t

/-- The value or the fault that an action ends in. -/
def outcomeOf (x : EStateM ε σ α) (s : σ) : Except ε α :=
  match x s with
  | .ok a _ => .ok a
  | .error e _ => .error e

/-- The action ends in a value. -/
def succeeds (x : EStateM ε σ α) (s : σ) : Bool :=
  match x s with
  | .ok .. => true
  | .error .. => false

theorem endState_of_ok {a : α} {t : σ} (h : x s = .ok a t) : endState x s = t := by
  rw [endState, h]

theorem Ends.at_endState (h : Ends x s E P) : Ends x s E fun a t => P a t ∧ t = endState x s := by
  unfold Ends at h ⊢
  unfold endState
  rcases hx : x s with ⟨a, t⟩ | ⟨e, t⟩ <;> rw [hx] at h
  · exact ⟨h, rfl⟩
  · exact h

theorem eq_ok_of_succeeds {x : EStateM ε σ Unit} (h : succeeds x s = true) :
    x s = .ok () (endState x s) := by
  unfold succeeds at h
  rcases hx : x s with ⟨a, t⟩ | ⟨e, t⟩ <;> rw [hx] at h
  · rw [endState_of_ok hx]
  · cases h

/-- What cannot fault ends in a value. -/
theorem Ends.exists_ok (h : Ends x s (fun _ => False) P) : ∃ a t, x s = .ok a t ∧ P a t := by
  unfold Ends at h
  split at h
  · exact ⟨_, _, by assumption, h⟩
  · exact h.elim

/-- What cannot fault ends only in what it ends in if it does not fault. -/
theorem Ends.faultless {P' : α → σ → Prop} (h : Ends x s E P)
    (hx : Ends x s (fun _ => False) P') : Ends x s (fun _ => False) P := by
  obtain ⟨a, t, hok, -⟩ := hx.exists_ok
  unfold Ends at h ⊢
  rwa [hok] at h ⊢

theorem get_bind (f : σ → EStateM ε σ β) (s : σ) : (get >>= f) s = f s s := rfl

/-! ## One action after the other -/

section

variable {g : β → EStateM ε σ PUnit} {t u : σ}

theorem forM_cons_eq_ok_iff {b : β} {l : List β} :
    (b :: l).forM g s = .ok () u ↔ ∃ t, g b s = .ok () t ∧ l.forM g t = .ok () u := by
  show (g b >>= fun _ => l.forM g) s = .ok () u ↔ _
  rw [bind_eq]
  rcases g b s with ⟨_, t⟩ | ⟨e, t⟩
  · exact ⟨fun h => ⟨t, rfl, h⟩, fun ⟨_, ht, h⟩ => by cases ht; exact h⟩
  · exact ⟨nofun, fun ⟨_, ht, _⟩ => by cases ht⟩

theorem forM_append_eq_ok {l l' : List β} (h : l.forM g s = .ok () t)
    (h' : l'.forM g t = .ok () u) : (l ++ l').forM g s = .ok () u := by
  induction l generalizing s with
  | nil =>
    cases h
    exact h'
  | cons b l ih =>
    obtain ⟨v, hb, hv⟩ := forM_cons_eq_ok_iff.1 h
    exact forM_cons_eq_ok_iff.2 ⟨v, hb, ih hv⟩

theorem foldl_endState_of_forM {l : List β} (h : l.forM g s = .ok () t) :
    l.foldl (fun s b => endState (g b) s) s = t := by
  induction l generalizing s with
  | nil =>
    cases h
    rfl
  | cons b l ih =>
    obtain ⟨v, hb, hv⟩ := forM_cons_eq_ok_iff.1 h
    rw [List.foldl_cons, endState_of_ok hb]
    exact ih hv

end

/-! ## What actions keep -/

/-- From a state of `P i`, `x` ends in a state of `P i` or in a fault of `E`, for each `i`. -/
def Keeps {ι : Type} (P : ι → σ → Prop) (E : ε → Prop) (x : EStateM ε σ α) : Prop :=
  ∀ i s, P i s → Ends x s E fun _ => P i

namespace Keeps

variable {ι : Type} {P : ι → σ → Prop} {x y : EStateM ε σ α}

theorem pure (a : α) : Keeps P E (Pure.pure a : EStateM ε σ α) := fun _ _ hs => hs

theorem throw {e : ε} (h : E e) : Keeps P E (MonadExcept.throw e : EStateM ε σ α) := fun _ _ _ => h

theorem weaken {E' : ε → Prop} (h : Keeps P E x) (hE : ∀ e, E e → E' e) : Keeps P E' x :=
  fun i s hs => (h i s hs).weaken hE

theorem bind (hx : Keeps P E x) (hf : ∀ a, Keeps P E (f a)) : Keeps P E (x >>= f) :=
  fun i s hs => (hx i s hs).bind fun a t ht => hf a i t ht

theorem read {f : σ → EStateM ε σ β} (h : ∀ i s, P i s → Keeps P E (f s)) :
    Keeps P E (get >>= f) := fun i s hs => h i s hs i s hs

theorem ite {c : Prop} [Decidable c] (hx : Keeps P E x) (hy : Keeps P E y) :
    Keeps P E (if c then x else y) := by
  split
  · exact hx
  · exact hy

/-- What is done only under a condition, and what follows it. -/
theorem guarded {c : Prop} [Decidable c] {x : EStateM ε σ PUnit} {f : PUnit → EStateM ε σ β}
    (hx : Keeps P E x) (hf : Keeps P E (f ())) : Keeps P E (if c then x >>= f else f ()) :=
  .ite (.bind hx fun _ => hf) hf

theorem optional {g : β → EStateM ε σ PUnit} (o : Option β) (h : ∀ b, Keeps P E (g b)) :
    Keeps P E (o.forM g) := by
  cases o with
  | none => exact pure _
  | some b => exact h b

theorem forM {g : β → EStateM ε σ PUnit} (l : List β) (h : ∀ b ∈ l, Keeps P E (g b)) :
    Keeps P E (l.forM g) := by
  induction l with
  | nil => exact pure _
  | cons b l ih =>
    exact bind (h b (by simp)) fun _ => ih fun c hc => h c (List.mem_cons_of_mem _ hc)

theorem foldlM {g : α → β → EStateM ε σ α} (l : List β) (h : ∀ a b, Keeps P E (g a b)) (a : α) :
    Keeps P E (l.foldlM g a) := by
  induction l generalizing a with
  | nil => exact pure _
  | cons b l ih =>
    rw [List.foldlM_cons]
    exact bind (h a b) fun a => ih a

end Keeps

/-! ## Two actions -/

/-- From `s` and `t`, `x` and `y` end in the same value and states of `R`, or in the same fault
and states of `F`. -/
def EndAlike (x y : EStateM ε σ α) (s t : σ) (R : σ → σ → Prop) (F : ε → σ → σ → Prop) : Prop :=
  match x s, y t with
  | .ok a s', .ok b t' => a = b ∧ R s' t'
  | .error e s', .error e' t' => e = e' ∧ F e s' t'
  | _, _ => False

variable {R R' : σ → σ → Prop} {F F' : ε → σ → σ → Prop} {y : EStateM ε σ α}
  {g : α → EStateM ε σ β} {t : σ}

theorem EndAlike.of_ok {a : α} {s' t' : σ} (hx : x s = .ok a s') (hy : y t = .ok a t')
    (h : R s' t') : EndAlike x y s t R F := by
  unfold EndAlike
  rw [hx, hy]
  exact ⟨rfl, h⟩

theorem EndAlike.mono (h : EndAlike x y s t R F) (hR : ∀ s t, R s t → R' s t)
    (hF : ∀ e s t, F e s t → F' e s t) : EndAlike x y s t R' F' := by
  unfold EndAlike at h ⊢
  split at h
  · exact ⟨h.1, hR _ _ h.2⟩
  · exact ⟨h.1, hF _ _ _ h.2⟩
  · exact h

theorem EndAlike.endState (h : EndAlike x y s t R fun _ => R) :
    R (endState x s) (endState y t) := by
  unfold EndAlike at h
  unfold Songbook.endState
  rcases hx : x s with ⟨a, s'⟩ | ⟨e, s'⟩ <;> rcases hy : y t with ⟨b, t'⟩ | ⟨e', t'⟩ <;>
    rw [hx, hy] at h
  · exact h.2
  · exact h.elim
  · exact h.elim
  · exact h.2

theorem EndAlike.outcomeOf_eq (h : EndAlike x y s t R F) : outcomeOf x s = outcomeOf y t := by
  unfold EndAlike at h
  unfold outcomeOf
  rcases hx : x s with ⟨a, s'⟩ | ⟨e, s'⟩ <;> rcases hy : y t with ⟨b, t'⟩ | ⟨e', t'⟩ <;>
    rw [hx, hy] at h
  · exact congrArg Except.ok h.1
  · exact h.elim
  · exact h.elim
  · exact congrArg Except.error h.1

theorem EndAlike.bind (hxy : EndAlike x y s t R F)
    (hfg : ∀ a s t, R s t → EndAlike (f a) (g a) s t R' F) :
    EndAlike (x >>= f) (y >>= g) s t R' F := by
  unfold EndAlike at hxy ⊢
  rw [bind_eq, bind_eq]
  rcases hx : x s with ⟨a, s'⟩ | ⟨e, s'⟩ <;> rcases hy : y t with ⟨b, t'⟩ | ⟨e', t'⟩ <;>
    rw [hx, hy] at hxy
  · obtain ⟨rfl, h⟩ := hxy
    exact hfg a s' t' h
  · exact hxy.elim
  · exact hxy.elim
  · exact hxy

theorem EndAlike.ite {c : Prop} [Decidable c] {x' y' : EStateM ε σ α}
    (h : EndAlike x y s t R F) (h' : EndAlike x' y' s t R F) :
    EndAlike (if c then x else x') (if c then y else y') s t R F := by
  split
  · exact h
  · exact h'

theorem EndAlike.optional {c : Prop} [Decidable c] {x y : EStateM ε σ PUnit}
    {k l : EStateM ε σ β} {I : σ → σ → Prop} (hxy : I s t → EndAlike x y s t I F)
    (hkl : ∀ s t, I s t → EndAlike k l s t R F) (h : I s t) :
    EndAlike (if c then x >>= fun _ => k else k) (if c then y >>= fun _ => l else l) s t R F := by
  split
  · exact (hxy h).bind fun _ s t h => hkl s t h
  · exact hkl s t h

theorem EndAlike.forM {I : σ → σ → Prop} {u v : β → EStateM ε σ PUnit} (l : List β)
    (h : ∀ b ∈ l, ∀ s t, I s t → EndAlike (u b) (v b) s t I F) {s t : σ} (hst : I s t) :
    EndAlike (l.forM u) (l.forM v) s t I F := by
  induction l generalizing s t with
  | nil => exact ⟨rfl, hst⟩
  | cons b l ih =>
    show EndAlike (u b >>= fun _ => l.forM u) (v b >>= fun _ => l.forM v) s t I F
    exact (h b (by simp) s t hst).bind fun _ s t hst =>
      ih (fun c hc => h c (List.mem_cons_of_mem _ hc)) hst

/-- An action that ends like itself from one state, in states alike, ends in such a state. -/
theorem EndAlike.ends {I : σ → Prop} (h : EndAlike x x s s (fun t t' => t = t' ∧ I t)
    fun e _ _ => E e) : Ends x s E fun _ => I := by
  unfold EndAlike at h
  unfold Ends
  rcases hx : x s with ⟨a, t⟩ | ⟨e, t⟩ <;> rw [hx] at h
  · exact h.2.2
  · exact h.2

theorem Ends.endAlike {I : σ → Prop} (h : Ends x s E fun _ => I) :
    EndAlike x x s s (fun t t' => t = t' ∧ I t) fun e _ _ => E e := by
  unfold Ends at h
  unfold EndAlike
  rcases hx : x s with ⟨a, t⟩ | ⟨e, t⟩ <;> rw [hx] at h
  · exact ⟨rfl, rfl, h⟩
  · exact ⟨rfl, h⟩

end Songbook
