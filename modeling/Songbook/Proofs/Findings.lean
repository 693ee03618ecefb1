import Songbook.Proofs.LineKinds
import Songbook.Proofs.Sinks

/-!
# What the reader finds

`Finds` says of a step of the reader what it ends in and what it tells the sink, as the sink's
record has it. In the middle of a line the reader stands as the kind of the line so far has it
(`Stands`); every character takes it from one kind to the next (`feed_finds`), and the end of the
line finds what belongs to its kind (`newline_finds`), whatever the sink answers.
-/

namespace Songbook.Markup

variable {ε σ : Type}

/-- The sink refuses directives and lines with faults of `E` only. -/
structure Sink.Faults (sink : Sink ε σ) (E : ε → Prop) : Prop where
  directive : ∀ n text s, Ends (sink.directive n text) s E fun _ _ => True
  line : ∀ n content s, Ends (sink.line n content) s E fun _ _ => True

/-- The sink does not fail. -/
abbrev Sink.Accepts (sink : Sink ε σ) : Prop := sink.Faults fun _ => False

/-- A sink that minds nothing but tablatures. -/
def Sink.tablatures : Sink Empty Bool where
  chord _ name inTab := (name, inTab)
  directive _ text inTab :=
    .ok () (if text = "sot" then true else if text = "eot" then false else inTab)
  line _ _ := pure ()
  problem _ _ inTab := inTab
  inTab inTab := inTab

theorem Sink.tablatures_accepts : tablatures.Accepts := ⟨fun _ _ _ => ⟨⟩, fun _ _ _ => ⟨⟩⟩

/-- A chord on line `n`, or a problem on it other than a directive that the line does not end. -/
def Event.IsInner (n : Nat) : Event → Prop
  | .chord m _ => m = n
  | .problem m p => m = n ∧ p ≠ .unterminatedDirective
  | _ => False

/-- What is found on line `n` if it is of that kind, from its first character to its end. -/
def LineKind.Yields (n : Nat) (found : List Event) : LineKind → Prop
  | .comment => found = []
  | .directive text => ∃ inner, (∀ e ∈ inner, e.IsInner n) ∧
      found = inner ++ [.directive n (String.ofList (text.take Token.directive.capacity))]
  | .openDirective _ => ∃ inner, (∀ e ∈ inner, e.IsInner n) ∧
      found = inner ++ [.problem n .unterminatedDirective]
  | .lyrics => ∃ inner content, (∀ e ∈ inner, e.IsInner n) ∧ found = inner ++ [.line n content]

theorem Event.IsInner.number {n : Nat} {e : Event} (h : e.IsInner n) : e.number = n := by
  cases e with
  | chord m name => exact h
  | problem m p => exact h.1
  | directive m text => exact h.elim
  | line m content => exact h.elim

theorem LineKind.Yields.number {n : Nat} {found : List Event} {kind : LineKind}
    (h : kind.Yields n found) : ∀ e ∈ found, e.number = n := by
  have hlast : ∀ (inner : List Event) (last : Event), (∀ e ∈ inner, e.IsInner n) →
      last.number = n → ∀ e ∈ inner ++ [last], e.number = n := by
    intro inner last hinner hnumber e he
    rcases List.mem_append.1 he with he | he
    · exact (hinner e he).number
    · rw [List.mem_singleton.1 he]
      exact hnumber
  cases kind with
  | comment =>
    obtain rfl := h
    simp
  | directive text =>
    obtain ⟨inner, hinner, rfl⟩ := h
    exact hlast _ _ hinner rfl
  | openDirective text =>
    obtain ⟨inner, hinner, rfl⟩ := h
    exact hlast _ _ hinner rfl
  | lyrics =>
    obtain ⟨inner, content, hinner, rfl⟩ := h
    exact hlast _ _ hinner rfl

/-- A buffer holds the first of the characters that were added, as many as there is room for. -/
theorem Buffer.push_reversed {b : Buffer} {kind : Token} {cs : List Char}
    (h : b.reversed = (cs.take kind.capacity).reverse) (c : Char) :
    (b.push kind c).1.reversed = ((cs ++ [c]).take kind.capacity).reverse := by
  have hsize : b.size = min kind.capacity cs.length := by
    rw [size, h, List.length_reverse, List.length_take]
  unfold push
  by_cases hroom : b.size < kind.capacity
  · rw [if_pos hroom, List.take_of_length_le (by simp; omega)]
    show c :: b.reversed = _
    rw [h, List.take_of_length_le (by omega), List.reverse_append]
    rfl
  · -- what is beyond the capacity is dropped
    rw [if_neg hroom, List.take_append_of_le_length (by omega)]
    exact h

namespace Reader

variable {sink : Sink ε σ} {E : ε → Prop} {x : Step ε (σ × List Event) Unit} {r : Reader}
  {found : List Event} {P Q : Reader → List Event → Prop}

/-- From a reader that has come upon `found`, `x` ends in a reader that has come upon what `x` has
added to the sink's record too, as `Q` has it, or in a fault of `E`. -/
def Finds (x : Step ε (σ × List Event) Unit) (r : Reader) (found : List Event) (E : ε → Prop)
    (Q : Reader → List Event → Prop) : Prop :=
  ∀ t, Ends x (r, t) E fun _ p => ∃ new, p.2.2 = t.2 ++ new ∧ Q p.1 (found ++ new)

theorem Finds.pure (h : Q r found) : Finds (pure () : Step ε (σ × List Event) Unit) r found E Q :=
  fun _ => ⟨[], by simp, by simpa using h⟩

theorem Finds.mono (hx : Finds x r found E P) (h : ∀ r found, P r found → Q r found) :
    Finds x r found E Q := fun t => by
  refine (hx t).mono ?_
  rintro _ p ⟨new, hnew, hP⟩
  exact ⟨new, hnew, h _ _ hP⟩

theorem Finds.bind {f : Unit → Step ε (σ × List Event) Unit} (hx : Finds x r found E P)
    (hf : ∀ r found, P r found → Finds (f ()) r found E Q) : Finds (x >>= f) r found E Q := by
  refine fun t => (hx t).bind ?_
  rintro _ ⟨r, t⟩ ⟨new, hnew, hP⟩
  refine (hf r _ hP t).mono ?_
  rintro _ p ⟨later, hlater, hQ⟩
  refine ⟨new ++ later, ?_, ?_⟩
  · rw [hlater, hnew, List.append_assoc]
  · rwa [← List.append_assoc]

theorem Finds.read {f : Reader × (σ × List Event) → Step ε (σ × List Event) Unit}
    (h : ∀ t, Finds (f (r, t)) r found E Q) : Finds (get >>= f) r found E Q := fun t => h t t

theorem update_finds {f : Reader → Reader} (h : Q (f r) found) :
    Finds (update f : Step ε (σ × List Event) Unit) r found E Q :=
  fun _ => ⟨[], by simp, by simpa using h⟩

theorem tell_finds {p : Problem} (h : Q r (found ++ [.problem r.line p])) :
    Finds (tell sink.recording p) r found E Q :=
  fun _ => ⟨[.problem r.line p], rfl, h⟩

theorem withEvent_finds {e : Event} {y : EStateM ε σ Unit}
    (hy : ∀ s, Ends y s E fun _ _ => True) (t : σ × List Event) :
    Ends (Sink.withEvent e y) t E fun _ t' => t'.2 = t.2 ++ [e] :=
  Sink.withEvent_ends ((hy t.1).mono fun _ _ _ => rfl)

theorem send_finds {e : Event} {y : EStateM ε σ Unit} (hy : ∀ s, Ends y s E fun _ _ => True)
    (h : Q r (found ++ [e])) : Finds (send (Sink.withEvent e y)) r found E Q := by
  intro t
  have hends := withEvent_finds (e := e) hy t
  unfold Ends at hends ⊢
  rw [send_eq]
  cases hresult : Sink.withEvent e y t <;> rw [hresult] at hends
  · exact ⟨[e], hends, h⟩
  · exact hends

theorem collect_finds {kind : Token} {c : Char} (h : ∀ new,
    (∀ e ∈ new, e = .problem r.line (.bufferOverflow kind)) →
      Q (r.setBuffer ((r.buffer kind).push kind c).1 kind) (found ++ new)) :
    Finds (collect sink.recording kind c) r found E Q := by
  intro t
  show ∃ new, (if ((r.buffer kind).push kind c).2 then _ else t).2 = t.2 ++ new ∧
    Q (r.setBuffer ((r.buffer kind).push kind c).1 kind) (found ++ new)
  split
  · exact ⟨[.problem r.line (.bufferOverflow kind)], rfl, h _ fun e he => List.mem_singleton.1 he⟩
  · exact ⟨[], by simp, h _ (by simp)⟩

theorem closeChord_finds (h : ∀ shown, Q { r with
      chordName := .empty, marks := ⟨r.lyrics.size, shown⟩ :: r.marks, mode := .text }
    (found ++ [.chord r.line r.chordName.text])) :
    Finds (closeChord sink.recording) r found E Q :=
  fun _ => ⟨[.chord r.line r.chordName.text], rfl, h _⟩

/-! ## In the middle of a line -/

/-- Passing over the rest of line `n`, with nothing collected. -/
def Skips (n : Nat) (r : Reader) : Prop := r = { atLine n with mode := .skip, column := r.column }

/-- Among the lyrics and chords of line `n`, after so many characters. -/
structure InLyrics (n column : Nat) (r : Reader) (found : List Event) : Prop where
  line : r.line = n
  column : r.column = column
  mode : r.mode = .text ∨ r.mode = .chord
  hasDirective : r.hasDirective = false
  inner : ∀ e ∈ found, e.IsInner n

/-- Inside a directive of line `n` that has these characters so far. -/
structure InDirective (n : Nat) (text : List Char) (r : Reader) (found : List Event) : Prop where
  line : r.line = n
  mode : r.mode = .directive
  hasDirective : r.hasDirective = true
  column : r.column ≠ 0
  directive : r.directive.reversed = (text.take Token.directive.capacity).reverse
  inner : ∀ e ∈ found, e.IsInner n

/-- How the reader stands in the middle of line `n`, and what it has found on it, when the line so
far is of that kind. -/
inductive Stands (n : Nat) : LineKind → Reader → List Event → Prop
  | comment {r : Reader} (skips : r.Skips n) : Stands n .comment r []
  | directive {r : Reader} {text : List Char} {inner : List Event} (skips : r.Skips n)
      (h : ∀ e ∈ inner, e.IsInner n) : Stands n (.directive text) r
        (inner ++ [.directive n (String.ofList (text.take Token.directive.capacity))])
  | openDirective {r : Reader} {text : List Char} {found : List Event}
      (h : r.InDirective n text found) : Stands n (.openDirective text) r found
  | lyrics {r : Reader} {found : List Event} (h : r.InLyrics n r.column found)
      (first : r.column = 0 → r = atLine n ∧ found = []) : Stands n .lyrics r found

theorem stands_atLine (n : Nat) : Stands n .lyrics (atLine n) [] :=
  .lyrics ⟨rfl, rfl, .inl rfl, rfl, by simp⟩ fun _ => ⟨rfl, rfl⟩

variable {n k : Nat} {c : Char} {text : List Char}

theorem Stands.number {kind : LineKind} (h : Stands n kind r found) :
    ∀ e ∈ found, e.number = n := by
  cases h with
  | comment skips => simp
  | @directive _ text inner skips hinner =>
    have hyields : (LineKind.directive text).Yields n _ := ⟨inner, hinner, rfl⟩
    exact hyields.number
  | openDirective h => exact fun e he => (h.inner e he).number
  | lyrics h first => exact fun e he => (h.inner e he).number

theorem feed_skip (hreturn : c ≠ '\r') (hbreak : c ≠ '\n') (hmode : r.mode = .skip) (s : σ) :
    feed sink c (r, s) = .ok () ({ r with column := r.column + 1 }, s) := by
  show (if c = '\r' then _ else _ : Step ε σ Unit) (r, s) = _
  rw [if_neg hreturn]
  show (if r.mode = .skip then _ else _ : Step ε σ Unit) ({ r with column := r.column + 1 }, s) = _
  rw [if_pos hmode, if_neg hbreak]
  rfl

theorem feeds_skipping {cs : List Char} (hcs : ∀ c ∈ cs, c ≠ '\r' ∧ c ≠ '\n') {r : Reader}
    (hmode : r.mode = .skip) (s : σ) :
    feeds sink cs (r, s) = .ok () ({ r with column := r.column + cs.length }, s) := by
  induction cs generalizing r with
  | nil => rfl
  | cons c cs ih =>
    obtain ⟨hreturn, hbreak⟩ := hcs c (by simp)
    rw [feeds_cons (feed_skip hreturn hbreak hmode s),
      ih (fun d hd => hcs d (List.mem_cons_of_mem _ hd)) (by exact hmode)]
    simp only [List.length_cons, Nat.add_assoc, Nat.add_comm 1]

theorem feed_place (hreturn : c ≠ '\r') (hbreak : c ≠ '\n') (hmode : r.mode ≠ .skip)
    (hhash : ¬ (c = '#' ∧ r.column = 0)) (s : σ) :
    feed sink c (r, s) =
      place sink r.mode (sink.inTab s) c ({ r with column := r.column + 1 }, s) := by
  show (if c = '\r' then _ else _ : Step ε σ Unit) (r, s) = _
  rw [if_neg hreturn]
  show (if r.mode = .skip then _ else _ : Step ε σ Unit) ({ r with column := r.column + 1 }, s) = _
  rw [if_neg hmode, if_neg hbreak, if_neg]
  simpa using hhash

theorem feed_hash (hmode : r.mode ≠ .skip) (hfirst : r.column = 0) (s : σ) :
    feed sink '#' (r, s) = .ok () ({ r with column := r.column + 1, mode := .skip }, s) := by
  show (if r.mode = .skip then _ else _ : Step ε σ Unit) ({ r with column := r.column + 1 }, s) = _
  rw [if_neg hmode, if_neg (by decide), if_pos ⟨rfl, by simpa using hfirst⟩]
  rfl

theorem inner_append {inner new : List Event} (h : ∀ e ∈ inner, e.IsInner n)
    (h' : ∀ e ∈ new, e.IsInner n) : ∀ e ∈ inner ++ new, e.IsInner n := fun e he =>
  (List.mem_append.1 he).elim (h e) (h' e)

theorem tell_inLyrics {p : Problem} (h : r.InLyrics n k found) (hp : p ≠ .unterminatedDirective) :
    Finds (tell sink.recording p) r found E (InLyrics n k) :=
  tell_finds ⟨h.line, h.column, h.mode, h.hasDirective, inner_append h.inner (by
    simpa [Event.IsInner, h.line] using hp)⟩

theorem collect_inLyrics {kind : Token} (h : r.InLyrics n k found) (hkind : kind ≠ .directive)
    (c : Char) : Finds (collect sink.recording kind c) r found E (InLyrics n k) := by
  refine collect_finds fun new hnew => ?_
  have hinner : ∀ e ∈ found ++ new, e.IsInner n := by
    refine inner_append h.inner fun e he => ?_
    rw [hnew e he]
    exact ⟨h.line, by simp⟩
  cases kind with
  | lyrics => exact ⟨h.line, h.column, h.mode, h.hasDirective, hinner⟩
  | chordName => exact ⟨h.line, h.column, h.mode, h.hasDirective, hinner⟩
  | directive => cases hkind rfl

theorem openChord_inLyrics (h : r.InLyrics n k found) :
    Finds (openChord : Step ε (σ × List Event) Unit) r found E (InLyrics n k) :=
  update_finds ⟨h.line, h.column, .inr rfl, h.hasDirective, h.inner⟩

theorem closeChord_inLyrics (h : r.InLyrics n k found) :
    Finds (closeChord sink.recording) r found E (InLyrics n k) :=
  closeChord_finds fun _ => ⟨h.line, h.column, .inl rfl, h.hasDirective,
    inner_append h.inner (by simpa [Event.IsInner] using h.line)⟩

/-- A character that opens no directive leaves the reader among lyrics and chords. -/
theorem place_inLyrics (h : r.InLyrics n k found) (hbrace : c ≠ '{') (inTab : Bool) :
    Finds (place sink.recording r.mode inTab c) r found E (InLyrics n k) := by
  have hmode : r.mode ≠ .directive := by
    rcases h.mode with hm | hm <;> rw [hm] <;> simp
  unfold place
  split
  · exact absurd ‹_› hmode
  · exact (tell_inLyrics h (by simp)).bind fun _ _ h => openChord_inLyrics h
  · split
    · exact collect_inLyrics h (by simp) _
    · exact openChord_inLyrics h
  · exact absurd ‹_› hmode
  · exact closeChord_inLyrics h
  · split
    · exact collect_inLyrics h (by simp) _
    · exact tell_inLyrics h (by simp)
  · exact absurd rfl hbrace
  · exact absurd rfl hbrace
  · exact absurd ‹_› hmode
  · exact tell_inLyrics h (by simp)
  · exact .pure h
  · exact collect_inLyrics h (by simp) _
  · exact absurd ‹_› hmode
  · exact collect_inLyrics h (by simp) _

/-- An opening brace opens a directive. -/
theorem place_openDirective (h : r.InLyrics n k found) (hk : k ≠ 0) (inTab : Bool) :
    Finds (place sink.recording r.mode inTab '{') r found E fun r found =>
      r.InDirective n [] found ∧ r.column = k := by
  have hopen : ∀ {r found}, InLyrics n k r found → Finds (openDirective : Step ε
      (σ × List Event) Unit) r found E fun r found => r.InDirective n [] found ∧ r.column = k :=
    fun h => update_finds ⟨⟨h.line, rfl, rfl, h.column ▸ hk, rfl, h.inner⟩, h.column⟩
  rcases h.mode with hmode | hmode <;> rw [hmode]
  · exact hopen h
  · refine (tell_inLyrics h (by simp)).bind fun r found h => ?_
    exact Finds.bind (P := InLyrics n k)
      (update_finds ⟨h.line, h.column, h.mode, h.hasDirective, h.inner⟩) fun _ _ h => hopen h

/-- A character that is no brace is added to the directive, if there is room. -/
theorem collect_inDirective (h : r.InDirective n text found) (c : Char) :
    Finds (collect sink.recording .directive c) r found E fun r' found =>
      r'.InDirective n (text ++ [c]) found ∧ r'.column = r.column := by
  refine collect_finds fun new hnew =>
    ⟨⟨h.line, h.mode, h.hasDirective, h.column, Buffer.push_reversed h.directive c, ?_⟩, rfl⟩
  refine inner_append h.inner fun e he => ?_
  rw [hnew e he]
  exact ⟨h.line, by simp⟩

theorem closeDirective_finds (hE : sink.Faults E) (h : r.InDirective n text found) :
    Finds (closeDirective sink.recording) r found E fun r' found =>
      Stands n (.directive text) r' found ∧ r'.column = r.column := by
  have htext : r.directive.text = String.ofList (text.take Token.directive.capacity) := by
    rw [Buffer.text, h.directive, List.reverse_reverse]
  refine .read fun _ => .bind
    (P := fun r' found' => r'.line = n ∧ r'.column = r.column ∧ found' = found)
    (update_finds ⟨h.line, rfl, rfl⟩) ?_
  rintro r' _ ⟨hline, hcolumn, rfl⟩
  refine .bind (P := fun r' found' => r'.line = n ∧ r'.column = r.column ∧
      found' = _ ++ [.directive r.line r.directive.text])
    (send_finds (hE.directive _ _) ⟨hline, hcolumn, rfl⟩) ?_
  rintro r' _ ⟨hline, hcolumn, rfl⟩
  refine update_finds ⟨?_, hcolumn⟩
  rw [h.line, htext]
  refine .directive ?_ h.inner
  rw [Skips, ← hline]
  rfl

theorem place_inDirective (hE : sink.Faults E) (h : r.InDirective n text found) (c : Char)
    (isFirst inTab : Bool) :
    Finds (place sink.recording .directive inTab c) r found E fun r' found =>
      Stands n ((LineKind.openDirective text).next isFirst c) r' found ∧ r'.column = r.column := by
  by_cases hclose : c = '}'
  · subst hclose
    exact closeDirective_finds hE h
  by_cases hopen : c = '{'
  · subst hopen
    have hnext : (LineKind.openDirective text).next isFirst '{' = .openDirective [] := rfl
    rw [hnext]
    show Finds openDirective r found E _
    exact update_finds ⟨.openDirective ⟨h.line, rfl, rfl, h.column, rfl, h.inner⟩, rfl⟩
  · have hnext : (LineKind.openDirective text).next isFirst c = .openDirective (text ++ [c]) := by
      rw [LineKind.next, if_neg hclose, if_neg hopen]
    rw [place_collectsDirective ⟨hopen, hclose⟩, hnext]
    exact (collect_inDirective h c).mono fun _ _ h => ⟨.openDirective h.1, h.2⟩

theorem Finds.congr {y : Step ε (σ × List Event) Unit} {r' : Reader}
    (hxy : ∀ t, x (r, t) = y (r', t)) (hy : Finds y r' found E Q) : Finds x r found E Q := by
  intro t
  unfold Ends
  rw [hxy]
  exact hy t

theorem Finds.of_ok {r' : Reader} (hx : ∀ t, x (r, t) = .ok () (r', t)) (h : Q r' found) :
    Finds x r found E Q := .congr hx (.pure h)

theorem Finds.of_place (hreturn : c ≠ '\r') (hbreak : c ≠ '\n') (hmode : r.mode ≠ .skip)
    (hhash : ¬ (c = '#' ∧ r.column = 0)) (h : ∀ inTab, Finds (place sink.recording r.mode inTab c)
      { r with column := r.column + 1 } found E Q) : Finds (feed sink.recording c) r found E Q := by
  intro t
  unfold Ends
  rw [feed_place hreturn hbreak hmode hhash]
  exact h _ t

theorem Skips.mode (h : r.Skips n) : r.mode = .skip := by
  rw [h]

theorem Skips.further (h : r.Skips n) : ({ r with column := r.column + 1 } : Reader).Skips n := by
  unfold Skips
  rw [h]

theorem feed_lyrics (hreturn : c ≠ '\r') (hbreak : c ≠ '\n') (h : r.InLyrics n r.column found)
    (first : r.column = 0 → r = atLine n ∧ found = []) :
    Finds (feed sink.recording c) r found E fun r' found =>
      Stands n (LineKind.lyrics.next (r.column = 0) c) r' found ∧ r'.column = r.column + 1 := by
  have hmode : r.mode ≠ .skip := by
    rcases h.mode with hm | hm <;> rw [hm] <;> simp
  have hnear : InLyrics n (r.column + 1) { r with column := r.column + 1 } found :=
    ⟨h.line, rfl, h.mode, h.hasDirective, h.inner⟩
  by_cases hhash : c = '#' ∧ r.column = 0
  · -- only a reader that has just come to the line holds nothing that a comment would keep
    obtain ⟨rfl, hfirst⟩ := hhash
    obtain ⟨rfl, rfl⟩ := first hfirst
    exact .of_ok (feed_hash hmode hfirst) ⟨.comment rfl, rfl⟩
  refine .of_place hreturn hbreak hmode hhash fun inTab => ?_
  by_cases hbrace : c = '{'
  · subst hbrace
    have hnext : LineKind.lyrics.next (r.column = 0) '{' = .openDirective [] := by
      simp [LineKind.next]
    rw [hnext]
    refine (place_openDirective hnear (by simp) inTab).mono fun r' found h => ?_
    exact ⟨.openDirective h.1, h.2⟩
  · have hnext : LineKind.lyrics.next (r.column = 0) c = .lyrics := by
      rw [LineKind.next, if_neg, if_neg hbrace]
      simpa [and_comm] using hhash
    rw [hnext]
    refine (place_inLyrics hnear hbrace inTab).mono fun r' found h => ⟨.lyrics ?_ ?_, h.column⟩
    · rw [h.column]
      exact h
    · intro hfirst
      rw [h.column] at hfirst
      cases hfirst

/-- A character in the middle of a line leaves the reader as the kind of the longer line has it. -/
theorem feed_finds (hE : sink.Faults E) (hreturn : c ≠ '\r') (hbreak : c ≠ '\n')
    {kind : LineKind} (h : Stands n kind r found) : Finds (feed sink.recording c) r found E
      fun r' found => Stands n (kind.next (r.column = 0) c) r' found ∧
        r'.column = r.column + 1 := by
  cases h with
  | comment skips =>
    exact .of_ok (feed_skip hreturn hbreak skips.mode) ⟨.comment skips.further, rfl⟩
  | directive skips hinner =>
    exact .of_ok (feed_skip hreturn hbreak skips.mode) ⟨.directive skips.further hinner, rfl⟩
  | openDirective h =>
    have hmode := h.mode
    refine .of_place hreturn hbreak (by simp [hmode]) (by simp [h.column]) fun inTab => ?_
    have hnear : InDirective n _ { r with column := r.column + 1 } found :=
      ⟨h.line, h.mode, h.hasDirective, by simp, h.directive, h.inner⟩
    have hplace := place_inDirective hE hnear c (r.column = 0) inTab
    rwa [← hmode] at hplace
  | lyrics h first => exact feed_lyrics hreturn hbreak h first

/-! ## At the end of a line -/

/-- What the end of the line finds still open. -/
def leftOpen (r : Reader) : Option Problem :=
  match r.mode with
  | .directive => some .unterminatedDirective
  | .chord => some .unterminatedChord
  | _ => none

theorem endLine_eq (sink : Sink ε σ) (r : Reader) (s : σ) : endLine sink (r, s) =
    (let told := r.leftOpen.elim s fun p => sink.problem r.line p s
    if r.hasDirective then .ok () (atLine (r.line + 1), told)
    else match sink.line r.line r.content told with
      | .ok _ s => .ok () (atLine (r.line + 1), s)
      | .error e s => .error e ({ r with lyrics := .empty, marks := [] }, s)) := by
  have hsend : ∀ told, (do
      update fun r => { r with lyrics := .empty, marks := [] }
      send (sink.line r.line r.content)
      update fun r => r.reset.nextLine) (r, told) = match sink.line r.line r.content told with
        | .ok _ s => .ok () (atLine (r.line + 1), s)
        | .error e s => .error e ({ r with lyrics := .empty, marks := [] }, s) := by
    intro told
    show (send _ >>= _) ({ r with lyrics := .empty, marks := [] }, told) = _
    rw [bind_eq, send_eq]
    cases sink.line r.line r.content told <;> rfl
  rcases r with ⟨mode, _, _, _, _, hasDirective, _, _⟩
  cases hasDirective with
  | true => cases mode <;> rfl
  | false => cases mode <;> exact hsend _

/-- What the end of the line adds to what is found on it. -/
def ending (r : Reader) : List Event :=
  r.leftOpen.toList.map (Event.problem r.line) ++
    if r.hasDirective then [] else [.line r.line r.content]

theorem endLine_finds (hE : sink.Faults E) (r : Reader) (found : List Event) :
    Finds (endLine sink.recording) r found E fun r' found' =>
      r' = atLine (r.line + 1) ∧ found' = found ++ r.ending := by
  intro t
  have htold : (r.leftOpen.elim t fun p => sink.recording.problem r.line p t).2 =
      t.2 ++ r.leftOpen.toList.map (Event.problem r.line) := by
    cases r.leftOpen <;> simp [Sink.recording]
  refine Ends.mono (P := fun _ p => p.1 = atLine (r.line + 1) ∧ p.2.2 = t.2 ++ r.ending) ?_
    fun _ p hp => ⟨r.ending, hp.2, hp.1, rfl⟩
  unfold Ends ending
  rw [endLine_eq]
  dsimp only
  split_ifs with hflag
  · exact ⟨rfl, by rw [htold, List.append_nil]⟩
  · generalize (r.leftOpen.elim t fun p => sink.recording.problem r.line p t) = told at htold ⊢
    have hline : Ends (sink.recording.line r.line r.content) told E fun _ t' =>
        t'.2 = told.2 ++ [.line r.line r.content] := withEvent_finds (hE.line _ _) told
    unfold Ends at hline
    cases hresult : sink.recording.line r.line r.content told <;> rw [hresult] at hline
    · exact ⟨rfl, by rw [hline, htold, List.append_assoc]⟩
    · exact hline

theorem InLyrics.yields (h : r.InLyrics n k found) :
    LineKind.lyrics.Yields n (found ++ r.ending) := by
  unfold ending
  rw [h.hasDirective, h.line, if_neg (by simp), ← List.append_assoc]
  refine ⟨_, _, inner_append h.inner ?_, rfl⟩
  rcases h.mode with hmode | hmode <;> unfold leftOpen <;> rw [hmode] <;> simp [Event.IsInner]

theorem InDirective.yields (h : r.InDirective n text found) :
    (LineKind.openDirective text).Yields n (found ++ r.ending) := by
  unfold ending leftOpen
  rw [h.hasDirective, h.line, h.mode, if_pos rfl, List.append_nil]
  exact ⟨found, h.inner, rfl⟩

/-- A comment and the rest of a line after its directive count as an empty line if they are ended
otherwise than by a newline. -/
theorem Skips.ending (h : r.Skips n) : r.ending = [.line n ⟨"", []⟩] := by
  rw [h]
  rfl

theorem feed_newline_skip (h : r.Skips n) (s : σ) :
    feed sink '\n' (r, s) = .ok () (atLine (n + 1), s) := by
  rw [h]
  rfl

theorem feed_newline (hmode : r.mode ≠ .skip) (s : σ) :
    feed sink '\n' (r, s) = endLine sink ({ r with column := r.column + 1 }, s) := by
  show (if r.mode = .skip then _ else _ : Step ε σ Unit) ({ r with column := r.column + 1 }, s) = _
  rw [if_neg hmode, if_pos rfl]

/-- The newline takes the reader to the next line, and what is found then is what the line's kind
says. -/
theorem newline_finds (hE : sink.Faults E) {kind : LineKind} (h : Stands n kind r found) :
    Finds (feed sink.recording '\n') r found E fun r' found =>
      r' = atLine (n + 1) ∧ kind.Yields n found := by
  have hend : ∀ {kind : LineKind}, r.mode ≠ .skip → r.line = n → kind.Yields n (found ++ r.ending) →
      Finds (feed sink.recording '\n') r found E fun r' found =>
        r' = atLine (n + 1) ∧ kind.Yields n found := by
    intro kind hmode hline hyields
    refine .congr (feed_newline hmode) ?_
    refine (endLine_finds hE { r with column := r.column + 1 } found).mono ?_
    rintro _ _ ⟨rfl, rfl⟩
    exact ⟨by rw [← hline], hyields⟩
  cases h with
  | comment skips => exact .of_ok (feed_newline_skip skips) ⟨rfl, rfl⟩
  | directive skips hinner => exact .of_ok (feed_newline_skip skips) ⟨rfl, _, hinner, rfl⟩
  | openDirective h => exact hend (by simp [h.mode]) h.line h.yields
  | lyrics h => exact hend (by rcases h.mode with hm | hm <;> simp [hm]) h.line h.yields

end Reader

end Songbook.Markup
