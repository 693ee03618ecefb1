import Songbook.Proofs.Reading

/-!
# What directives are gathered from

The text of a directive is gathered from the characters of the text being read. So a sink's
directives need to be looked at only with texts of such characters (`readText_gathers`).
-/

namespace Songbook.Markup

variable {ε σ : Type} {P : Char → Prop}

/-- The buffer holds only characters of `P`. -/
def Buffer.Holds (P : Char → Prop) (b : Buffer) : Prop := ∀ c ∈ b.text.toList, P c

theorem Buffer.holds_empty : Buffer.empty.Holds P := by
  simp [Buffer.Holds]

theorem Buffer.Holds.push {b : Buffer} (h : b.Holds P) (kind : Token) {c : Char} (hc : P c) :
    (b.push kind c).1.Holds P := by
  unfold Buffer.push
  split
  · intro d hd
    simp only [text, String.toList_ofList, List.reverse_cons, List.mem_append,
      List.mem_singleton] at hd
    rcases hd with hd | rfl
    · exact h d (by simpa [text] using hd)
    · exact hc
  · exact h

/-- Directives of such characters keep `I`, or end in a fault of `E`. -/
def Sink.KeepsDirectivesOf (sink : Sink ε σ) (P : Char → Prop) (I : σ → Prop) (E : ε → Prop) :
    Prop :=
  ∀ n text s, (∀ c ∈ text.toList, P c) → I s → Ends (sink.directive n text) s E fun _ => I

namespace Reader

/-- Its directive so far is of such characters, and the sink's state is of `I`. -/
def Holds (P : Char → Prop) (I : σ → Prop) (p : Reader × σ) : Prop :=
  p.1.directive.Holds P ∧ I p.2

variable {sink : Sink ε σ} {I : σ → Prop} {E : ε → Prop}

/-- A step of the reader keeps that. -/
abbrev Gathers (P : Char → Prop) (I : σ → Prop) (E : ε → Prop) (x : Step ε σ Unit) : Prop :=
  Songbook.Keeps (fun (_ : Unit) p => Holds P I p) E x

theorem update_gathers {f : Reader → Reader}
    (h : ∀ r, r.directive.Holds P → (f r).directive.Holds P) :
    Gathers P I E (update f : Step ε σ Unit) := fun _ p hp => ⟨h p.1 hp.1, hp.2⟩

theorem send_gathers {x : EStateM ε σ Unit} (h : ∀ s, I s → Ends x s E fun _ => I) :
    Gathers P I E (send x) := by
  rintro _ ⟨r, s⟩ ⟨hr, hs⟩
  have hx := h s hs
  unfold Ends at hx ⊢
  dsimp only [send]
  rcases hok : x s with ⟨a, t⟩ | ⟨e, t⟩ <;> rw [hok] at hx
  · exact ⟨hr, hx⟩
  · exact hx

section

variable (h : sink.Keeps I E)
include h

theorem tell_gathers (p : Problem) : Gathers P I E (tell sink p) :=
  fun _ _ hq => ⟨hq.1, h.problem _ _ _ hq.2⟩

theorem collect_gathers (kind : Token) {c : Char} (hc : P c) :
    Gathers P I E (collect sink kind c) := by
  rintro _ ⟨r, s⟩ ⟨hr, hs⟩
  have hbuffer : (r.setBuffer ((r.buffer kind).push kind c).1 kind).directive.Holds P := by
    cases kind with
    | directive => exact hr.push .directive hc
    | _ => exact hr
  refine ⟨hbuffer, ?_⟩
  show I (if _ then _ else _)
  split
  · exact h.problem _ _ _ hs
  · exact hs

theorem closeChord_gathers : Gathers P I E (closeChord sink) :=
  fun _ _ hp => ⟨hp.1, h.chord _ _ _ hp.2⟩

omit h in
theorem openDirective_gathers : Gathers P I E (openDirective : Step ε σ Unit) :=
  update_gathers fun _ _ => Buffer.holds_empty

omit h in
theorem openChord_gathers : Gathers P I E (openChord : Step ε σ Unit) :=
  update_gathers fun _ hr => hr

omit h in
theorem closeDirective_gathers (hd : sink.KeepsDirectivesOf P I E) :
    Gathers P I E (closeDirective sink) := by
  refine .read fun _ p hp => .bind (update_gathers fun _ _ => Buffer.holds_empty) fun _ =>
    .bind (send_gathers fun s hs => ?_) fun _ => update_gathers fun _ _ => Buffer.holds_empty
  exact hd p.1.line p.1.directive.text s hp.1 hs

theorem endLine_gathers : Gathers P I E (endLine sink) := by
  have hlast : Gathers P I E (update fun r => r.reset.nextLine : Step ε σ Unit) :=
    update_gathers fun _ _ => Buffer.holds_empty
  refine .read fun _ p _ => ?_
  have hline : Gathers P I E (if !p.1.hasDirective then do
        update fun r => { r with lyrics := .empty, marks := [] }
        send (sink.line p.1.line p.1.content)
        update fun r => r.reset.nextLine
      else update fun r => r.reset.nextLine) :=
    .ite (.bind (update_gathers fun _ hr => hr) fun _ =>
      .bind (send_gathers (h.line p.1.line p.1.content)) fun _ => hlast) hlast
  dsimp only
  split
  · exact .bind (tell_gathers h _) fun _ => hline
  · exact .bind (tell_gathers h _) fun _ => hline
  · exact hline

theorem place_gathers (hd : sink.KeepsDirectivesOf P I E) (mode : Mode) (inTab : Bool) {c : Char}
    (hc : P c) : Gathers P I E (place sink mode inTab c) := by
  have hdrop : Gathers P I E (update fun r => { r with chordName := .empty } : Step ε σ Unit) :=
    update_gathers fun _ hr => hr
  unfold place
  split
  · exact collect_gathers h _ hc
  · exact .bind (tell_gathers h _) fun _ => openChord_gathers
  · exact .ite (collect_gathers h _ hc) openChord_gathers
  · exact collect_gathers h _ hc
  · exact closeChord_gathers h
  · exact .ite (collect_gathers h _ hc) (tell_gathers h _)
  · exact .bind (tell_gathers h _) fun _ => .bind hdrop fun _ => openDirective_gathers
  · exact openDirective_gathers
  · exact closeDirective_gathers hd
  · exact tell_gathers h _
  · exact .pure _
  · exact collect_gathers h _ hc
  · exact collect_gathers h _ hc
  · exact collect_gathers h _ hc

theorem feed_gathers (hd : sink.KeepsDirectivesOf P I E) {c : Char} (hc : P c) :
    Gathers P I E (feed sink c) := by
  unfold feed
  refine .ite (.pure _) (.bind (update_gathers fun _ hr => hr) fun _ => .read fun _ p _ => ?_)
  exact .ite (.ite (update_gathers fun _ hr => hr) (.pure _)) <|
    .ite (endLine_gathers h) <| .ite (update_gathers fun _ hr => hr) (place_gathers h hd _ _ hc)

/-- A text keeps what the sink keeps given the characters of the text. -/
theorem readText_gathers (hd : sink.KeepsDirectivesOf P I E) {text : String} {s : σ}
    (htext : ∀ c ∈ text.toList, P c) (hs : I s) :
    Ends (readText sink text) s E fun _ => I := by
  have hread : Gathers P I E (read sink text) := by
    refine .bind (.forM _ fun c hc => feed_gathers h hd (htext c hc)) fun _ => ?_
    exact .read fun _ _ _ => .ite (endLine_gathers h) (.pure _)
  exact readText_of_read ((hread () (start, s) ⟨Buffer.holds_empty, hs⟩).mono fun _ _ hp => hp.2)

end

end Reader

end Songbook.Markup
