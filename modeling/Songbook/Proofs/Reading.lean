import Songbook.Markup.Reader
import Songbook.Proofs.Outcome

/-!
# What reading a text keeps

The reader's own state does not depend on the sink's but for the names shown over the lyrics and
for tablatures. So two sinks' states that agree on these and are kept alike by each operation are
kept alike by a whole text (`readText_endAlike`), and what every operation keeps a text keeps
(`readText_ends`). Directives count only if the text opens one.
-/

namespace Songbook.Markup

variable {ε σ : Type}

/-- The operations of the sink keep states in the relation `R`, or end in the same fault and
states of `F`. Directives are left out. -/
structure Sink.Relates (sink : Sink ε σ) (R : σ → σ → Prop) (F : ε → σ → σ → Prop) : Prop where
  chord : ∀ n name s t, R s t →
    (sink.chord n name s).1 = (sink.chord n name t).1 ∧
      R (sink.chord n name s).2 (sink.chord n name t).2
  line : ∀ n content s t, R s t → EndAlike (sink.line n content) (sink.line n content) s t R F
  problem : ∀ n p s t, R s t → R (sink.problem n p s) (sink.problem n p t)
  inTab : ∀ s t, R s t → sink.inTab s = sink.inTab t

/-- So do its directives. -/
def Sink.RelatesDirectives (sink : Sink ε σ) (R : σ → σ → Prop) (F : ε → σ → σ → Prop) : Prop :=
  ∀ n text s t, R s t → EndAlike (sink.directive n text) (sink.directive n text) s t R F

namespace Reader

variable (sink : Sink ε σ) (R : σ → σ → Prop) (F : ε → σ → σ → Prop)

/-- Two readers in one place, inside a directive only if those are related too. -/
def Alike (p q : Reader × σ) : Prop :=
  p.1 = q.1 ∧ (p.1.mode = .directive → sink.RelatesDirectives R F) ∧ R p.2 q.2

variable {sink R F} in
theorem alike_start {s t : σ} (h : R s t) : Alike sink R F (start, s) (start, t) := by
  refine ⟨rfl, ?_, h⟩
  intro hm
  cases hm

/-- A step keeps two readers alike. -/
def Keeps (x : Step ε σ Unit) : Prop :=
  ∀ p q, Alike sink R F p q → EndAlike x x p q (Alike sink R F) fun e p q => F e p.2 q.2

variable {sink R F}

theorem Keeps.bind {x : Step ε σ Unit} {f : Unit → Step ε σ Unit} (hx : Keeps sink R F x)
    (hf : Keeps sink R F (f ())) : Keeps sink R F (x >>= f) := fun p q h =>
  (hx p q h).bind fun _ => hf

theorem Keeps.pure : Keeps sink R F (pure ()) := fun _ _ h => ⟨rfl, h⟩

theorem Keeps.read {f : Reader × σ → Step ε σ Unit}
    (h : ∀ r s t, R s t → f (r, s) = f (r, t))
    (hf : ∀ r s, (r.mode = .directive → sink.RelatesDirectives R F) →
      Keeps sink R F (f (r, s))) : Keeps sink R F (get >>= f) := by
  rintro ⟨r, s⟩ ⟨r', t⟩ ⟨hr, hd, hR⟩
  obtain rfl : r = r' := hr
  show EndAlike (f (r, s)) (f (r, t)) _ _ _ _
  rw [← h r s t hR]
  exact hf r s hd _ _ ⟨rfl, hd, hR⟩

theorem keeps_update {f : Reader → Reader}
    (h : ∀ r, (f r).mode = .directive → r.mode = .directive ∨ sink.RelatesDirectives R F) :
    Keeps sink R F (update f) := by
  rintro ⟨r, s⟩ ⟨r', t⟩ ⟨hr, hd, hR⟩
  obtain rfl : r = r' := hr
  exact ⟨rfl, rfl, fun hm => (h r hm).elim hd id, hR⟩

theorem keeps_send {x : EStateM ε σ Unit} (h : ∀ s t, R s t → EndAlike x x s t R F) :
    Keeps sink R F (send x) := by
  rintro ⟨r, s⟩ ⟨r', t⟩ ⟨hr, hd, hR⟩
  obtain rfl : r = r' := hr
  have hst := h s t hR
  unfold EndAlike at hst ⊢
  dsimp only [send]
  rcases hx : x s with ⟨a, s'⟩ | ⟨e, s'⟩ <;> rcases hy : x t with ⟨b, t'⟩ | ⟨e', t'⟩ <;>
    rw [hx, hy] at hst
  · exact ⟨rfl, rfl, hd, hst.2⟩
  · exact hst
  · exact hst
  · exact hst

section

variable (h : sink.Relates R F)
include h

theorem keeps_tell (p : Problem) : Keeps sink R F (tell sink p) := by
  rintro ⟨r, s⟩ ⟨r', t⟩ ⟨hr, hd, hR⟩
  obtain rfl : r = r' := hr
  exact ⟨rfl, rfl, hd, h.problem _ _ _ _ hR⟩

omit h in
theorem mode_setBuffer (r : Reader) (b : Buffer) (kind : Token) :
    (r.setBuffer b kind).mode = r.mode := by
  cases kind <;> rfl

theorem keeps_collect (kind : Token) (c : Char) : Keeps sink R F (collect sink kind c) := by
  rintro ⟨r, s⟩ ⟨r', t⟩ ⟨hr, hd, hR⟩
  obtain rfl : r = r' := hr
  refine ⟨rfl, rfl, fun hm => hd ?_, ?_⟩
  · rwa [mode_setBuffer] at hm
  · show R (if _ then _ else _) (if _ then _ else _)
    split
    · exact h.problem _ _ _ _ hR
    · exact hR

omit h in
theorem keeps_openChord : Keeps sink R F openChord :=
  keeps_update fun r hm => by cases hm

theorem keeps_closeChord : Keeps sink R F (closeChord sink) := by
  rintro ⟨r, s⟩ ⟨r', t⟩ ⟨hr, hd, hR⟩
  obtain rfl : r = r' := hr
  obtain ⟨hshown, hR⟩ := h.chord r.line r.chordName.text s t hR
  refine ⟨rfl, ?_, ?_, hR⟩
  · show Reader.mk .. = Reader.mk ..
    rw [hshown]
  · intro hm
    cases hm

omit h in
theorem keeps_openDirective (hd : sink.RelatesDirectives R F) : Keeps sink R F openDirective :=
  keeps_update fun _ _ => .inr hd

omit h in
theorem keeps_closeDirective (hd : sink.RelatesDirectives R F) :
    Keeps sink R F (closeDirective sink) :=
  .read (fun _ _ _ _ => rfl) fun r _ _ =>
    .bind (keeps_update fun _ hm => .inl hm)
      (.bind (keeps_send (hd r.line r.directive.text)) (keeps_update fun _ hm => by cases hm))

theorem keeps_endLine : Keeps sink R F (endLine sink) := by
  refine .read (fun _ _ _ _ => rfl) fun r _ _ => ?_
  have hlast : Keeps sink R F (update fun r : Reader => r.reset.nextLine) :=
    keeps_update fun _ hm => by cases hm
  have hline : Keeps sink R F (if !r.hasDirective then do
      update fun r => { r with lyrics := .empty, marks := [] }
      send (sink.line r.line r.content)
      update fun r => r.reset.nextLine
    else update fun r => r.reset.nextLine) := by
    split
    · exact .bind (keeps_update fun _ hm => .inl hm)
        (.bind (keeps_send (h.line r.line r.content)) hlast)
    · exact hlast
  dsimp only
  split
  · exact .bind (keeps_tell h _) hline
  · exact .bind (keeps_tell h _) hline
  · exact hline

theorem keeps_place (mode : Mode) (inTab : Bool) (c : Char)
    (hc : c = '{' → sink.RelatesDirectives R F)
    (hm : mode = .directive → sink.RelatesDirectives R F) :
    Keeps sink R F (place sink mode inTab c) := by
  unfold place
  split
  · exact keeps_collect h _ _
  · exact .bind (keeps_tell h _) keeps_openChord
  · split
    · exact keeps_collect h _ _
    · exact keeps_openChord
  · exact keeps_collect h _ _
  · exact keeps_closeChord h
  · split
    · exact keeps_collect h _ _
    · exact keeps_tell h _
  · exact .bind (keeps_tell h _)
      (.bind (keeps_update fun _ hm => .inl hm) (keeps_openDirective (hc rfl)))
  · exact keeps_openDirective (hc rfl)
  · exact keeps_closeDirective (hm rfl)
  · exact keeps_tell h _
  · exact .pure
  · exact keeps_collect h _ _
  · exact keeps_collect h _ _
  · exact keeps_collect h _ _

theorem keeps_feed (c : Char) (hc : c = '{' → sink.RelatesDirectives R F) :
    Keeps sink R F (feed sink c) := by
  unfold feed
  split
  · exact .pure
  refine .bind (keeps_update fun _ hm => .inl hm) (.read ?_ fun r s hm => ?_)
  · intro r s t hR
    simp only [h.inTab s t hR]
  · show Keeps sink R F (if r.mode = .skip then _ else _)
    split
    · split
      · exact keeps_update fun _ hm => by cases hm
      · exact .pure
    · split
      · exact keeps_endLine h
      · split
        · exact keeps_update fun _ hm => by cases hm
        · exact keeps_place h _ _ c hc hm

theorem keeps_feedAll (text : String) (hc : '{' ∈ text.toList → sink.RelatesDirectives R F) :
    Keeps sink R F (feedAll sink text) := fun _ _ hpq =>
  EndAlike.forM text.toList
    (fun c hmem p q hpq => keeps_feed h c (fun he => hc (he ▸ hmem)) p q hpq) hpq

theorem keeps_read (text : String) (hc : '{' ∈ text.toList → sink.RelatesDirectives R F) :
    Keeps sink R F (read sink text) := by
  refine .bind (keeps_feedAll h text hc) (.read (fun _ _ _ _ => rfl) fun r _ _ => ?_)
  show Keeps sink R F (if r.column ≠ 0 then _ else _)
  split
  · exact keeps_endLine h
  · exact .pure

/-- A text keeps alike what each operation of the sink keeps alike. -/
theorem readText_endAlike {s t : σ} (text : String)
    (hc : '{' ∈ text.toList → sink.RelatesDirectives R F) (hst : R s t) :
    EndAlike (readText sink text) (readText sink text) s t R F := by
  have hread := keeps_read h text hc _ _ (alike_start hst)
  unfold EndAlike at hread ⊢
  dsimp only [readText]
  rcases hx : read sink text (start, s) with ⟨a, p⟩ | ⟨e, p⟩ <;>
    rcases hy : read sink text (start, t) with ⟨b, q⟩ | ⟨e', q⟩ <;> rw [hx, hy] at hread
  · exact ⟨rfl, hread.2.2.2⟩
  · exact hread
  · exact hread
  · exact hread

end

/-! ## One sink -/

end Reader

/-- The operations of the sink keep `I`, or end in a fault of `E`. Directives are left out. -/
structure Sink.Keeps (sink : Sink ε σ) (I : σ → Prop) (E : ε → Prop) : Prop where
  chord : ∀ n name s, I s → I (sink.chord n name s).2
  line : ∀ n content s, I s → Ends (sink.line n content) s E fun _ => I
  problem : ∀ n p s, I s → I (sink.problem n p s)

/-- So do its directives. -/
def Sink.KeepsDirectives (sink : Sink ε σ) (I : σ → Prop) (E : ε → Prop) : Prop :=
  ∀ n text s, I s → Ends (sink.directive n text) s E fun _ => I

variable {sink : Sink ε σ} {I : σ → Prop} {E : ε → Prop}

theorem Sink.Keeps.relates (h : sink.Keeps I E) :
    sink.Relates (fun s t => s = t ∧ I s) fun e _ _ => E e where
  chord := by
    rintro n name s _ ⟨rfl, hs⟩
    exact ⟨rfl, rfl, h.chord n name s hs⟩
  line := by
    rintro n content s _ ⟨rfl, hs⟩
    exact (h.line n content s hs).endAlike
  problem := by
    rintro n p s _ ⟨rfl, hs⟩
    exact ⟨rfl, h.problem n p s hs⟩
  inTab := by
    rintro s _ ⟨rfl, -⟩
    rfl

theorem Sink.KeepsDirectives.relates (h : sink.KeepsDirectives I E) :
    sink.RelatesDirectives (fun s t => s = t ∧ I s) fun e _ _ => E e := by
  rintro n text s _ ⟨rfl, hs⟩
  exact (h n text s hs).endAlike

namespace Reader

/-- What reading ends in, the text ends in. -/
theorem readText_of_read {text : String} {s : σ} (h : Ends (read sink text) (start, s) E
    fun _ p => I p.2) : Ends (readText sink text) s E fun _ => I := by
  unfold Ends at h ⊢
  dsimp only [readText]
  rcases hx : read sink text (start, s) with ⟨a, p⟩ | ⟨e, p⟩ <;> rw [hx] at h
  · exact h
  · exact h

/-- A text keeps what each operation of the sink keeps. -/
theorem readText_ends {s : σ} (h : sink.Keeps I E) (text : String)
    (hc : '{' ∈ text.toList → sink.KeepsDirectives I E) (hs : I s) :
    Ends (readText sink text) s E fun _ => I :=
  (readText_endAlike h.relates text (fun hmem => (hc hmem).relates) ⟨rfl, hs⟩).ends

/-- So does a text whose last line has not ended. -/
theorem feedAll_ends {s : σ} (h : sink.Keeps I E) (text : String)
    (hc : '{' ∈ text.toList → sink.KeepsDirectives I E) (hs : I s) :
    Ends (feedAll sink text) (start, s) E fun _ p => I p.2 := by
  have hfeed := keeps_feedAll h.relates text (fun hmem => (hc hmem).relates) _ _
    (alike_start ⟨rfl, hs⟩)
  exact (hfeed.mono (fun p q hpq => ⟨Prod.ext hpq.1 hpq.2.2.1, hpq.2.2.2⟩) fun _ _ _ he => he).ends

end Reader

end Songbook.Markup
