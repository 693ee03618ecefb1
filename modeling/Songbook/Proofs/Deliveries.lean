import Songbook.Proofs.Gathered
import Songbook.Proofs.Sinks

/-!
# What a reader delivers

A reader that a sink has refused something is left half way through ending a line or a directive,
and it may be used again. What it delivers is well formed all the same (`deliveries_wellFormed`):
its tokens are never too long and hold none of the characters that end them, and chords stand in
order over the lyrics that are there. For the reader is well formed after every single step
(`WellFormed`), so wherever a fault breaks it off (`Upholds`).
-/

namespace Songbook

/-- From a state of `P`, `x` ends in a state of `P`, also in a fault. -/
def Upholds {ε σ α : Type} (P : σ → Prop) (x : EStateM ε σ α) : Prop :=
  ∀ s, P s → P (endState x s)

namespace Upholds

variable {ε σ α β : Type} {P : σ → Prop} {x y : EStateM ε σ α} {f : α → EStateM ε σ β}

theorem pure (a : α) : Upholds P (Pure.pure a : EStateM ε σ α) := fun _ hs => hs

theorem bind (hx : Upholds P x) (hf : ∀ a, Upholds P (f a)) : Upholds P (x >>= f) := by
  intro s hs
  have hfirst := hx s hs
  unfold endState at hfirst ⊢
  rw [bind_eq]
  rcases h : x s with ⟨a, t⟩ | ⟨e, t⟩ <;> rw [h] at hfirst
  · exact hf a t hfirst
  · exact hfirst

theorem read {f : σ → EStateM ε σ β} (h : ∀ s, P s → Upholds P (f s)) :
    Upholds P (get >>= f) := fun s hs => h s hs s hs

theorem ite {c : Prop} [Decidable c] (hx : Upholds P x) (hy : Upholds P y) :
    Upholds P (if c then x else y) := by
  split
  · exact hx
  · exact hy

theorem forM {g : β → EStateM ε σ PUnit} (l : List β) (h : ∀ b, Upholds P (g b)) :
    Upholds P (l.forM g) := by
  induction l with
  | nil => exact pure _
  | cons b l ih => exact bind (h b) fun _ => ih

end Upholds

namespace Markup

variable {ε σ : Type}

/-! ## Well-formed deliveries -/

/-- The characters that a token may hold. -/
def Token.Admits : Token → Char → Prop
  | .lyrics, c => c ∉ ['\n', '\r']
  | .chordName, c => c ∉ [' ', '[', ']', '{', '}', '\n', '\r']
  | .directive, c => c ∉ ['{', '}', '\n', '\r']

/-- The text of such a token. -/
structure Token.Holds (kind : Token) (text : String) : Prop where
  length : text.length ≤ kind.capacity
  admits : ∀ c ∈ text.toList, kind.Admits c

/-- The chords stand in order, and none beyond the lyrics. -/
structure WellFormedLine (l : Line) : Prop where
  lyrics : Token.lyrics.Holds l.text
  ordered : l.chords.Pairwise fun a b => a.offset ≤ b.offset
  inside : ∀ mark ∈ l.chords, mark.offset ≤ l.text.length

def Event.WellFormed : Event → Prop
  | .chord _ name => Token.chordName.Holds name
  | .directive _ text => Token.directive.Holds text
  | .line _ content => WellFormedLine content
  | .problem _ _ => True

theorem Buffer.length_text (b : Buffer) : b.text.length = b.size := by
  rw [text, String.length_ofList, List.length_reverse, size]

theorem Buffer.le_size_push (kind : Token) (b : Buffer) (c : Char) :
    b.size ≤ (b.push kind c).1.size := by
  unfold push
  split
  · exact Nat.le_succ _
  · exact Nat.le_refl _

namespace Token

variable {kind : Token}

theorem holds_empty (kind : Token) : kind.Holds Buffer.empty.text :=
  ⟨Nat.zero_le _, Buffer.holds_empty⟩

theorem Holds.push {b : Buffer} {c : Char} (h : kind.Holds b.text) (hc : kind.Admits c) :
    kind.Holds (b.push kind c).1.text := by
  have hsize : b.size ≤ kind.capacity := b.length_text ▸ h.length
  refine ⟨?_, Buffer.Holds.push h.admits kind hc⟩
  rw [Buffer.length_text]
  exact Buffer.size_push_le c hsize

end Token

theorem wellFormed_blank : WellFormedLine ⟨"", []⟩ :=
  ⟨Token.holds_empty .lyrics, .nil, by simp⟩

/-- A chord is set at the end of the lyrics. -/
theorem WellFormedLine.chord {l : Line} (h : WellFormedLine l) (name : String) :
    WellFormedLine ⟨l.text, l.chords ++ [⟨l.text.length, name⟩]⟩ := by
  refine ⟨h.lyrics, List.pairwise_append.2 ⟨h.ordered, List.pairwise_singleton _ _, ?_⟩, ?_⟩
  · intro mark hmark last hlast
    rw [List.mem_singleton.1 hlast]
    exact h.inside mark hmark
  · intro mark hmark
    rcases List.mem_append.1 hmark with hmark | hmark
    · exact h.inside mark hmark
    · obtain rfl := List.mem_singleton.1 hmark
      exact Nat.le_refl _

/-- The lyrics go on. -/
theorem WellFormedLine.lyric {l : Line} (h : WellFormedLine l) {text : String}
    (htext : Token.lyrics.Holds text) (hle : l.text.length ≤ text.length) :
    WellFormedLine ⟨text, l.chords⟩ :=
  ⟨htext, h.ordered, fun mark hmark => Nat.le_trans (h.inside mark hmark) hle⟩

namespace Reader

/-! ## The reader between steps -/

/-- What has been gathered could be delivered as it is, and directives are flagged. -/
structure WellFormed (r : Reader) : Prop where
  content : WellFormedLine r.content
  chordName : Token.chordName.Holds r.chordName.text
  directive : Token.directive.Holds r.directive.text
  flagged : r.mode = .directive → r.hasDirective = true

variable {r : Reader}

theorem wellFormed_atLine (n : Nat) : (atLine n).WellFormed :=
  ⟨wellFormed_blank, Token.holds_empty _, Token.holds_empty _, nofun⟩

theorem WellFormed.nextLine (h : r.WellFormed) : r.nextLine.WellFormed :=
  ⟨h.content, h.chordName, h.directive, nofun⟩

theorem WellFormed.collected {kind : Token} {c : Char} (h : r.WellFormed) (hc : kind.Admits c) :
    (r.setBuffer ((r.buffer kind).push kind c).1 kind).WellFormed := by
  cases kind with
  | lyrics =>
    have hlyrics : Token.lyrics.Holds (r.lyrics.push .lyrics c).1.text := h.content.lyrics.push hc
    refine ⟨h.content.lyric hlyrics ?_, h.chordName, h.directive, h.flagged⟩
    show r.lyrics.text.length ≤ _
    rw [Buffer.length_text, Buffer.length_text]
    exact Buffer.le_size_push _ _ _
  | chordName => exact ⟨h.content, h.chordName.push hc, h.directive, h.flagged⟩
  | directive => exact ⟨h.content, h.chordName, h.directive.push hc, h.flagged⟩

theorem WellFormed.chordClosed (h : r.WellFormed) (shown : String) :
    WellFormed { r with
      chordName := .empty, marks := ⟨r.lyrics.size, shown⟩ :: r.marks, mode := .text } := by
  refine ⟨?_, Token.holds_empty _, h.directive, nofun⟩
  have hchord : WellFormedLine ⟨r.lyrics.text, r.marks.reverse ++ [⟨r.lyrics.text.length, shown⟩]⟩ :=
    h.content.chord shown
  rw [Buffer.length_text] at hchord
  rw [Reader.content, List.reverse_cons]
  exact hchord

/-! ## Every step -/

/-- The reader is well formed, and so is all that the sink has been given. -/
def Delivers (p : Reader × σ × List Event) : Prop :=
  p.1.WellFormed ∧ ∀ e ∈ p.2.2, e.WellFormed

theorem update_delivers {f : Reader → Reader} (h : ∀ r, r.WellFormed → (f r).WellFormed) :
    Upholds Delivers (update f : Step ε (σ × List Event) Unit) := fun p hp => ⟨h p.1 hp.1, hp.2⟩

theorem forall_mem_concat {e : Event} {es : List Event} (hes : ∀ d ∈ es, d.WellFormed)
    (he : e.WellFormed) : ∀ d ∈ es ++ [e], d.WellFormed :=
  List.forall_mem_append.2 ⟨hes, List.forall_mem_singleton.2 he⟩

/-- Whether or not the sink refuses it, it has been delivered. -/
theorem send_delivers {e : Event} (he : e.WellFormed) (x : EStateM ε σ Unit) :
    Upholds Delivers (send (Sink.withEvent e x)) := by
  rintro ⟨r, s, found⟩ ⟨hr, hfound⟩
  have hrecord : (endState (send (Sink.withEvent e x)) (r, s, found)) =
      (r, endState x s, found ++ [e]) := by
    unfold endState
    rw [send_eq, Sink.withEvent_eq]
    cases x s <;> rfl
  rw [hrecord]
  exact ⟨hr, forall_mem_concat hfound he⟩

variable (sink : Sink ε σ)

theorem tell_delivers (p : Problem) : Upholds Delivers (tell sink.recording p) :=
  fun _ hp => ⟨hp.1, forall_mem_concat hp.2 trivial⟩

theorem collect_delivers {kind : Token} {c : Char} (hc : kind.Admits c) :
    Upholds Delivers (collect sink.recording kind c) := by
  rintro ⟨r, s, found⟩ ⟨hr, hfound⟩
  refine ⟨hr.collected hc, ?_⟩
  show ∀ e ∈ (if ((r.buffer kind).push kind c).2 then _ else _ : σ × List Event).2, e.WellFormed
  split
  · exact forall_mem_concat hfound trivial
  · exact hfound

theorem openChord_delivers :
    Upholds Delivers (openChord : Step ε (σ × List Event) Unit) :=
  update_delivers fun _ hr => ⟨hr.content, Token.holds_empty _, hr.directive, nofun⟩

theorem closeChord_delivers : Upholds Delivers (closeChord sink.recording) :=
  fun _ hp => ⟨hp.1.chordClosed _, forall_mem_concat hp.2 hp.1.chordName⟩

theorem openDirective_delivers :
    Upholds Delivers (openDirective : Step ε (σ × List Event) Unit) :=
  update_delivers fun _ hr => ⟨hr.content, hr.chordName, Token.holds_empty _, fun _ => rfl⟩

theorem closeDirective_delivers : Upholds Delivers (closeDirective sink.recording) := by
  refine .read fun p hp => ?_
  have hgiven : Event.WellFormed (.directive p.1.line p.1.directive.text) := hp.1.directive
  refine .bind (update_delivers fun _ hr => ?_) fun _ =>
    .bind (send_delivers hgiven _) fun _ => update_delivers fun _ _ => ?_
  · exact ⟨hr.content, hr.chordName, Token.holds_empty _, hr.flagged⟩
  · exact ⟨wellFormed_blank, Token.holds_empty _, Token.holds_empty _, nofun⟩

theorem endLine_delivers : Upholds Delivers (endLine sink.recording) := by
  refine .read fun p hp => ?_
  have hlast : Upholds Delivers (update fun r => r.reset.nextLine : Step ε (σ × List Event) Unit) :=
    update_delivers fun r _ => ⟨wellFormed_blank, Token.holds_empty _, Token.holds_empty _, nofun⟩
  have hline : Upholds Delivers (if !p.1.hasDirective then do
        update fun r => { r with lyrics := .empty, marks := [] }
        send (sink.recording.line p.1.line p.1.content)
        update fun r => r.reset.nextLine
      else update fun r => r.reset.nextLine) := by
    have hgiven : Event.WellFormed (.line p.1.line p.1.content) := hp.1.content
    refine .ite (.bind (update_delivers fun _ hr => ?_) fun _ =>
      .bind (send_delivers hgiven _) fun _ => hlast) hlast
    exact ⟨wellFormed_blank, hr.chordName, hr.directive, hr.flagged⟩
  dsimp only
  split
  · exact .bind (tell_delivers sink _) fun _ => hline
  · exact .bind (tell_delivers sink _) fun _ => hline
  · exact hline

theorem place_delivers (mode : Mode) (inTab : Bool) {c : Char} (hc : c ≠ '\n' ∧ c ≠ '\r') :
    Upholds Delivers (place sink.recording mode inTab c) := by
  have hdrop : Upholds Delivers
      (update fun r => { r with chordName := .empty } : Step ε (σ × List Event) Unit) :=
    update_delivers fun _ hr => ⟨hr.content, Token.holds_empty _, hr.directive, hr.flagged⟩
  have hlyrics : Token.lyrics.Admits c := by simpa [Token.Admits] using hc
  unfold place
  split
  · exact collect_delivers sink (by simp [Token.Admits])
  · exact .bind (tell_delivers sink _) fun _ => openChord_delivers
  · exact .ite (collect_delivers sink hlyrics) openChord_delivers
  · exact collect_delivers sink (by simp [Token.Admits])
  · exact closeChord_delivers sink
  · exact .ite (collect_delivers sink hlyrics) (tell_delivers sink _)
  · exact .bind (tell_delivers sink _) fun _ => .bind hdrop fun _ => openDirective_delivers
  · exact openDirective_delivers
  · exact closeDirective_delivers sink
  · exact tell_delivers sink _
  · exact .pure _
  · next hopen hclose hbrace hunbrace hspace =>
    have hname : Token.chordName.Admits c := by
      simpa [Token.Admits, hc.1, hc.2] using ⟨hspace, hopen, hclose, hbrace, hunbrace⟩
    exact collect_delivers sink hname
  · next hopen hclose hbrace hunbrace =>
    have hdirective : Token.directive.Admits c := by
      simpa [Token.Admits, hc.1, hc.2] using ⟨hbrace, hunbrace⟩
    exact collect_delivers sink hdirective
  · exact collect_delivers sink hlyrics

theorem feed_delivers (c : Char) : Upholds Delivers (feed sink.recording c) := by
  unfold feed
  split
  · exact .pure _
  next hreturn =>
  refine .bind (update_delivers fun _ hr => ?_) fun _ => .read fun p _ => ?_
  · exact ⟨hr.content, hr.chordName, hr.directive, hr.flagged⟩
  dsimp only
  split
  · exact .ite (update_delivers fun _ hr => hr.nextLine) (.pure _)
  split
  · exact endLine_delivers sink
  next hbreak =>
  refine .ite (update_delivers fun _ hr => ?_) (place_delivers sink _ _ ⟨hbreak, hreturn⟩)
  exact ⟨hr.content, hr.chordName, hr.directive, nofun⟩

theorem finish_delivers : Upholds Delivers (finish sink.recording) :=
  .read fun _ _ => .ite (endLine_delivers sink) (.pure _)

theorem read_delivers (text : String) : Upholds Delivers (read sink.recording text) :=
  .bind (.forM _ (feed_delivers sink)) fun _ => finish_delivers sink

end Reader

/-! ## Calls -/

/-- What can be asked of a reader. -/
inductive ReaderCall where
  | feed (c : Char)
  | finish
  | read (text : String)

def ReaderCall.perform (sink : Sink ε σ) : ReaderCall → Reader.Step ε σ Unit
  | .feed c => Reader.feed sink c
  | .finish => Reader.finish sink
  | .read text => Reader.read sink text

namespace Reader

/-- A reader and the state of its sinks after calls, each with a sink of its own. A call that ends
in a fault leaves them as they are there, and the next one goes on from that. -/
def called (calls : List (Sink ε σ × ReaderCall)) (p : Reader × σ) : Reader × σ :=
  calls.foldl (fun p call => endState (call.2.perform call.1) p) p

/-- The same calls, with a record of all that is delivered. -/
def recorded (calls : List (Sink ε σ × ReaderCall)) :
    List (Sink ε (σ × List Event) × ReaderCall) :=
  calls.map fun call => (call.1.recording, call.2)

theorem perform_delivers (sink : Sink ε σ) (call : ReaderCall) :
    Upholds Delivers (call.perform sink.recording) := by
  cases call with
  | feed c => exact feed_delivers sink c
  | finish => exact finish_delivers sink
  | read text => exact read_delivers sink text

theorem called_delivers (calls : List (Sink ε σ × ReaderCall)) {p : Reader × σ × List Event}
    (hp : Delivers p) : Delivers (called (recorded calls) p) := by
  induction calls generalizing p with
  | nil => exact hp
  | cons call calls ih => exact ih (perform_delivers call.1 call.2 p hp)

/-- The record changes nothing. -/
theorem perform_recording (sink : Sink ε σ) (call : ReaderCall) (r : Reader) (s : σ)
    (found : List Event) :
    endState (call.perform sink) (r, s) =
      (fun p => (p.1, p.2.1)) (endState (call.perform sink.recording) (r, s, found)) := by
  have hcarried : Carried 0 Prod.fst (call.perform sink.recording) (call.perform sink) := by
    cases call with
    | feed c => exact feed_carried sink.carries_fst c
    | finish => exact finish_carried sink.carries_fst
    | read text => exact read_carried sink.carries_fst text
  exact endState_of_onState (hcarried (r, s, found))

theorem called_recorded (calls : List (Sink ε σ × ReaderCall)) (p : Reader × σ × List Event) :
    called calls (p.1, p.2.1) =
      ((called (recorded calls) p).1, (called (recorded calls) p).2.1) := by
  induction calls generalizing p with
  | nil => rfl
  | cons call calls ih =>
    obtain ⟨r, s, found⟩ := p
    show called calls (endState (call.2.perform call.1) (r, s)) = _
    rw [perform_recording call.1 call.2 r s found]
    exact ih _

/-- Whatever is asked of a reader, with whatever sinks and however often they refuse what they are
given, everything that it delivers is well formed, and it is inside of a directive only on a line
that is flagged as one with a directive. -/
theorem deliveries_wellFormed (calls : List (Sink ε σ × ReaderCall)) (s : σ) :
    ∃ r t found, called (recorded calls) (start, s, []) = (r, t, found) ∧
      called calls (start, s) = (r, t) ∧ (∀ e ∈ found, e.WellFormed) ∧
      (r.mode = .directive → r.hasDirective = true) := by
  obtain ⟨hr, hfound⟩ := called_delivers calls (p := (start, s, []))
    ⟨wellFormed_atLine 1, List.forall_mem_nil _⟩
  exact ⟨_, _, _, rfl, called_recorded calls (start, s, []), hfound, hr.flagged⟩

end Reader

end Markup

end Songbook
