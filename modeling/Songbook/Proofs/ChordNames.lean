import Songbook.Proofs.Findings

/-!
# Texts that differ in their chord names

Two texts may differ in the names inside closed brackets alone (`Renamed`). Readers of both then
stand beside each other: they are inside of the same things and have the same lyrics and as many
chords at the same places (`Beside`); only inside a tablature, where brackets are lyrics, do the
lyrics differ. So a sink whose states do not mind chords and problems, nor which names stand over a
line, comes to the same with both texts (`readText_renamed`).
-/

namespace Songbook.Markup

variable {ε σ : Type}

/-- A character that may stand in the name of a chord. -/
def isNameChar (c : Char) : Bool := !(['[', ']', '{', '}', '\n', '\r'].contains c)

/-- Whether a brace is open on the line, after one more character. -/
def opened (before : Bool) (c : Char) : Bool :=
  if c = '{' then true else if c = '}' ∨ c = '\n' then false else before

/-- The same text but for the names inside closed brackets. Between braces brackets are part of a
directive. -/
inductive Renamed : Bool → List Char → List Char → Prop
  | nil {brace : Bool} : Renamed brace [] []
  | char {brace : Bool} (c : Char) {cs ds : List Char} (h : Renamed (opened brace c) cs ds) :
      Renamed brace (c :: cs) (c :: ds)
  | chord {name name' cs ds : List Char} (hname : name.all isNameChar)
      (hname' : name'.all isNameChar) (h : Renamed false cs ds) :
      Renamed false ('[' :: name ++ ']' :: cs) ('[' :: name' ++ ']' :: ds)

theorem Renamed.refl (brace : Bool) (cs : List Char) : Renamed brace cs cs := by
  induction cs generalizing brace with
  | nil => exact .nil
  | cons c cs ih => exact .char c (ih _)

/-- What chords and problems do to the state of a sink. -/
inductive Sink.Murmurs (sink : Sink ε σ) (s : σ) : σ → Prop
  | none : Murmurs sink s s
  | chord {t : σ} (n : Nat) (name : String) (h : Murmurs sink s t) :
      Murmurs sink s (sink.chord n name t).2
  | problem {t : σ} (n : Nat) (p : Problem) (h : Murmurs sink s t) :
      Murmurs sink s (sink.problem n p t)

theorem Sink.Murmurs.trans {sink : Sink ε σ} {s t u : σ} (h : sink.Murmurs s t)
    (h' : sink.Murmurs t u) : sink.Murmurs s u := by
  induction h' with
  | none => exact h
  | chord n name _ ih => exact ih.chord n name
  | problem n p _ ih => exact ih.problem n p

/-- States of `R` stay so whatever chords and problems come to each of them, and are treated alike
by directives and by lines that differ in the names of their chords. Inside a tablature lines may
differ in their lyrics too. -/
structure Sink.Minds (sink : Sink ε σ) (R : σ → σ → Prop) (F : ε → σ → σ → Prop) : Prop where
  chord_inTab : ∀ n name s, sink.inTab (sink.chord n name s).2 = sink.inTab s
  problem_inTab : ∀ n p s, sink.inTab (sink.problem n p s) = sink.inTab s
  inTab : ∀ s t, R s t → sink.inTab s = sink.inTab t
  chord_left : ∀ n name s t, R s t → R (sink.chord n name s).2 t
  chord_right : ∀ n name s t, R s t → R s (sink.chord n name t).2
  problem_left : ∀ n p s t, R s t → R (sink.problem n p s) t
  problem_right : ∀ n p s t, R s t → R s (sink.problem n p t)
  directive : ∀ n text s t, R s t →
    EndAlike (sink.directive n text) (sink.directive n text) s t R F
  line : ∀ n content content' s t, R s t → (sink.inTab s = false →
    content.text = content'.text ∧ content.hasChords = content'.hasChords) →
    EndAlike (sink.line n content) (sink.line n content') s t R F

variable {sink : Sink ε σ} {R : σ → σ → Prop} {F : ε → σ → σ → Prop}

section

variable (h : sink.Minds R F)
include h

theorem Sink.Minds.murmurs_inTab {s t : σ} (hst : sink.Murmurs s t) :
    sink.inTab t = sink.inTab s := by
  induction hst with
  | none => rfl
  | chord n name _ ih => rw [h.chord_inTab, ih]
  | problem n p _ ih => rw [h.problem_inTab, ih]

theorem Sink.Minds.murmurs {s t s' t' : σ} (hst : R s t) (hs : sink.Murmurs s s')
    (ht : sink.Murmurs t t') : R s' t' := by
  have hleft : R s' t := by
    induction hs with
    | none => exact hst
    | chord n name _ ih => exact h.chord_left n name _ t ih
    | problem n p _ ih => exact h.problem_left n p _ t ih
  induction ht with
  | none => exact hleft
  | chord n name _ ih => exact h.chord_right n name s' _ ih
  | problem n p _ ih => exact h.problem_right n p s' _ ih

end

namespace Reader

/-- Two readers at the same place of a text, inside a directive only if `brace`. -/
structure Beside (sink : Sink ε σ) (R : σ → σ → Prop) (brace : Bool) (p q : Reader × σ) : Prop where
  mode : p.1.mode = q.1.mode
  chordName : p.1.chordName = q.1.chordName
  directive : p.1.directive = q.1.directive
  hasDirective : p.1.hasDirective = q.1.hasDirective
  line : p.1.line = q.1.line
  column : p.1.column = 0 ↔ q.1.column = 0
  lyrics : sink.inTab p.2 = false → p.1.lyrics = q.1.lyrics
  marks : sink.inTab p.2 = false → p.1.marks.map (·.offset) = q.1.marks.map (·.offset)
  inDirective : p.1.mode = .directive → brace = true
  state : R p.2 q.2

/-- A step keeps readers beside each other. -/
def KeepsBeside (sink : Sink ε σ) (R : σ → σ → Prop) (F : ε → σ → σ → Prop) (brace : Bool)
    (x : Step ε σ Unit) : Prop :=
  ∀ p q, Beside sink R brace p q →
    EndAlike x x p q (Beside sink R brace) fun e p q => F e p.2 q.2

variable {brace : Bool}

theorem KeepsBeside.bind {x : Step ε σ Unit} {f : Unit → Step ε σ Unit}
    (hx : KeepsBeside sink R F brace x) (hf : KeepsBeside sink R F brace (f ())) :
    KeepsBeside sink R F brace (x >>= f) := fun p q hpq => (hx p q hpq).bind fun _ => hf

theorem KeepsBeside.pure : KeepsBeside sink R F brace (pure ()) := fun _ _ h => ⟨rfl, h⟩

section

variable (h : sink.Minds R F)
include h

theorem Beside.murmur {p q : Reader × σ} {s t : σ} (hpq : Beside sink R brace p q)
    (hs : sink.Murmurs p.2 s) (ht : sink.Murmurs q.2 t) :
    Beside sink R brace (p.1, s) (q.1, t) := by
  have hsame := h.murmurs_inTab hs
  exact { hpq with
    lyrics := fun hTab => hpq.lyrics (hsame ▸ hTab)
    marks := fun hTab => hpq.marks (hsame ▸ hTab)
    state := h.murmurs hpq.state hs ht }

theorem tell_keepsBeside (p : Problem) : KeepsBeside sink R F brace (tell sink p) :=
  fun _ _ hpq => ⟨rfl, hpq.murmur h (.problem _ p .none) (.problem _ p .none)⟩

theorem collect_keepsBeside (kind : Token) (c : Char) :
    KeepsBeside sink R F brace (collect sink kind c) := by
  have hmurmurs : ∀ (r : Reader) (s : σ), sink.Murmurs s
      (if ((r.buffer kind).push kind c).2 then sink.problem r.line (.bufferOverflow kind) s
        else s) := by
    intro r s
    split
    · exact .problem _ _ .none
    · exact .none
  intro p q hpq
  refine ⟨rfl, ?_⟩
  show Beside sink R brace (p.1.setBuffer ((p.1.buffer kind).push kind c).1 kind, _)
    (q.1.setBuffer ((q.1.buffer kind).push kind c).1 kind, _)
  refine Beside.murmur h (p := (p.1.setBuffer ((p.1.buffer kind).push kind c).1 kind, p.2))
    (q := (q.1.setBuffer ((q.1.buffer kind).push kind c).1 kind, q.2)) ?_ (hmurmurs p.1 p.2)
    (hmurmurs q.1 q.2)
  have hpush : ∀ {b b' : Buffer}, b = b' → (b.push kind c).1 = (b'.push kind c).1 := by
    rintro b _ rfl
    rfl
  cases kind with
  | lyrics => exact { hpq with lyrics := fun hTab => hpush (hpq.lyrics hTab) }
  | chordName => exact { hpq with chordName := hpush hpq.chordName }
  | directive => exact { hpq with directive := hpush hpq.directive }

theorem closeChord_keepsBeside : KeepsBeside sink R F brace (closeChord sink) := by
  intro p q hpq
  refine ⟨rfl, ?_⟩
  refine Beside.murmur h (p := ({ p.1 with
      chordName := .empty, marks := ⟨p.1.lyrics.size, _⟩ :: p.1.marks, mode := .text }, p.2))
    (q := ({ q.1 with
      chordName := .empty, marks := ⟨q.1.lyrics.size, _⟩ :: q.1.marks, mode := .text }, q.2))
    ?_ (.chord _ _ .none) (.chord _ _ .none)
  exact { hpq with
    mode := rfl
    chordName := rfl
    marks := fun hTab => by
      simp only [List.map_cons, hpq.marks hTab, hpq.lyrics hTab]
    inDirective := nofun }

omit h in
theorem openChord_keepsBeside : KeepsBeside sink R F brace (openChord : Step ε σ Unit) :=
  fun _ _ hpq => ⟨rfl, { hpq with mode := rfl, chordName := rfl, inDirective := nofun }⟩

omit h in
theorem openDirective_keepsBeside :
    KeepsBeside sink R F true (openDirective : Step ε σ Unit) := fun _ _ hpq =>
  ⟨rfl, { hpq with
    mode := rfl, directive := rfl, hasDirective := rfl, inDirective := fun _ => rfl }⟩

omit h in
theorem closeDirective_eq (sink : Sink ε σ) (r : Reader) (s : σ) : closeDirective sink (r, s) =
    match sink.directive r.line r.directive.text s with
    | .ok _ t => .ok () ({ r.reset with mode := .skip }, t)
    | .error e t => .error e ({ r with directive := .empty }, t) := by
  show (send (sink.directive r.line r.directive.text) >>= _) ({ r with directive := .empty }, s) = _
  rw [bind_eq, send_eq]
  cases sink.directive r.line r.directive.text s <;> rfl

/-- After its directive a line is passed over, with nothing collected. -/
theorem closeDirective_beside (brace' : Bool) {p q : Reader × σ} (hpq : Beside sink R brace p q) :
    EndAlike (closeDirective sink) (closeDirective sink) p q (Beside sink R brace')
      fun e p q => F e p.2 q.2 := by
  obtain ⟨r, s⟩ := p
  obtain ⟨r', t⟩ := q
  have hsame := h.directive r.line r.directive.text s t hpq.state
  have hdirective : r.directive = r'.directive := hpq.directive
  have hline : r.line = r'.line := hpq.line
  unfold EndAlike at hsame ⊢
  rw [closeDirective_eq, closeDirective_eq, ← hdirective, ← hline]
  rcases hs : sink.directive r.line r.directive.text s with ⟨_, s'⟩ | ⟨e, s'⟩ <;>
    rcases ht : sink.directive r.line r.directive.text t with ⟨_, t'⟩ | ⟨e', t'⟩ <;>
    rw [hs, ht] at hsame
  · exact ⟨rfl, { hpq with
      mode := rfl, chordName := rfl, directive := rfl, hasDirective := rfl, lyrics := fun _ => rfl,
      marks := fun _ => rfl, inDirective := nofun, state := hsame.2 }⟩
  · exact hsame
  · exact hsame
  · exact hsame

theorem place_keepsBeside (mode : Mode) (inTab : Bool) (c : Char) (hc : c = '{' → brace = true) :
    KeepsBeside sink R F brace (place sink mode inTab c) := by
  have hbrace : c = '{' → KeepsBeside sink R F brace (openDirective : Step ε σ Unit) := by
    intro he
    rw [hc he]
    exact openDirective_keepsBeside
  unfold place
  split
  · exact collect_keepsBeside h _ _
  · exact .bind (tell_keepsBeside h _) openChord_keepsBeside
  · split
    · exact collect_keepsBeside h _ _
    · exact openChord_keepsBeside
  · exact collect_keepsBeside h _ _
  · exact closeChord_keepsBeside h
  · split
    · exact collect_keepsBeside h _ _
    · exact tell_keepsBeside h _
  · refine .bind (tell_keepsBeside h _) (.bind ?_ (hbrace rfl))
    exact fun _ _ hpq => ⟨rfl, { hpq with chordName := rfl }⟩
  · exact hbrace rfl
  · exact fun _ _ hpq => closeDirective_beside h brace hpq
  · exact tell_keepsBeside h _
  · exact .pure
  · exact collect_keepsBeside h _ _
  · exact collect_keepsBeside h _ _
  · exact collect_keepsBeside h _ _

/-- At the end of its line a reader is at the beginning of the next one. -/
theorem endLine_beside (brace' : Bool) {p q : Reader × σ} (hpq : Beside sink R brace p q) :
    EndAlike (endLine sink) (endLine sink) p q (Beside sink R brace') fun e p q => F e p.2 q.2 := by
  obtain ⟨r, s⟩ := p
  obtain ⟨r', t⟩ := q
  have hmode : r.mode = r'.mode := hpq.mode
  have hleft : r.leftOpen = r'.leftOpen := by
    unfold leftOpen
    rw [hmode]
  have hline : r.line = r'.line := hpq.line
  have hflag : r.hasDirective = r'.hasDirective := hpq.hasDirective
  have hnext : ∀ {s t : σ}, R s t → Beside sink R brace' (atLine (r.line + 1), s)
      (atLine (r.line + 1), t) := fun hst => ⟨rfl, rfl, rfl, rfl, rfl, Iff.rfl, fun _ => rfl,
    fun _ => rfl, nofun, hst⟩
  have htold : ∀ s, sink.Murmurs s (r.leftOpen.elim s fun p => sink.problem r.line p s) := by
    intro s
    cases r.leftOpen with
    | none => exact .none
    | some p => exact .problem _ _ .none
  have hstate := h.murmurs hpq.state (htold s) (htold t)
  have hsame := h.line r.line r.content r'.content _ _ hstate fun hTab => by
    rw [h.murmurs_inTab (htold s)] at hTab
    have hlyrics : r.lyrics = r'.lyrics := hpq.lyrics hTab
    have hmarks : r.marks.map (·.offset) = r'.marks.map (·.offset) := hpq.marks hTab
    refine ⟨congrArg Buffer.text hlyrics, ?_⟩
    have hempty := congrArg List.isEmpty hmarks
    simp only [List.isEmpty_map] at hempty
    simp only [Line.hasChords, content, List.isEmpty_reverse, hempty]
  unfold EndAlike at hsame ⊢
  rw [endLine_eq, endLine_eq, ← hleft, ← hline, ← hflag]
  dsimp only
  cases r.hasDirective with
  | true => exact ⟨rfl, hnext hstate⟩
  | false =>
    rcases hs : sink.line r.line r.content (r.leftOpen.elim s fun p => sink.problem r.line p s)
      with ⟨_, s'⟩ | ⟨e, s'⟩ <;>
      rcases ht : sink.line r.line r'.content
        (r.leftOpen.elim t fun p => sink.problem r.line p t) with ⟨_, t'⟩ | ⟨e', t'⟩ <;>
      rw [hs, ht] at hsame
    · exact ⟨rfl, hnext hsame.2⟩
    · exact hsame
    · exact hsame
    · exact hsame

omit h in
theorem feed_newline_comment {r : Reader} (hmode : r.mode = .skip) (s : σ) :
    feed sink '\n' (r, s) = .ok () (r.nextLine, s) := by
  show (if r.mode = .skip then _ else _ : Step ε σ Unit) ({ r with column := r.column + 1 }, s) = _
  rw [if_pos hmode]
  rfl

/-- The same character on both sides. -/
theorem feed_beside (c : Char) {p q : Reader × σ} (hpq : Beside sink R brace p q) :
    EndAlike (feed sink c) (feed sink c) p q (Beside sink R (opened brace c))
      fun e p q => F e p.2 q.2 := by
  obtain ⟨r, s⟩ := p
  obtain ⟨r', t⟩ := q
  by_cases hreturn : c = '\r'
  · subst hreturn
    exact ⟨rfl, hpq⟩
  have hnext : Beside sink R brace ({ r with column := r.column + 1 }, s)
      ({ r' with column := r'.column + 1 }, t) :=
    { hpq with column := by simp }
  have hmode : r.mode = r'.mode := hpq.mode
  have hfirst : r.column = 0 ↔ r'.column = 0 := hpq.column
  by_cases hbreak : c = '\n'
  · subst hbreak
    by_cases hskip : r.mode = .skip
    · exact .of_ok (feed_newline_comment hskip s) (feed_newline_comment (hmode ▸ hskip) t)
        { hpq with
          mode := rfl, line := congrArg (· + 1) hpq.line, column := Iff.rfl, inDirective := nofun }
    · have hfed : feed sink '\n' (r, s) = _ := feed_newline hskip s
      have hfed' : feed sink '\n' (r', t) = _ := feed_newline (hmode ▸ hskip) t
      unfold EndAlike
      rw [hfed, hfed']
      exact endLine_beside h _ hnext
  by_cases hskip : r.mode = .skip
  · refine .of_ok (feed_skip hreturn hbreak hskip s) (feed_skip hreturn hbreak (hmode ▸ hskip) t)
      { hnext with inDirective := fun hd => ?_ }
    simp [hskip] at hd
  by_cases hhash : c = '#' ∧ r.column = 0
  · obtain ⟨rfl, hzero⟩ := hhash
    exact .of_ok (feed_hash hskip hzero s) (feed_hash (hmode ▸ hskip) (hfirst.1 hzero) t)
      { hnext with mode := rfl, inDirective := nofun }
  · have hfed : feed sink c (r, s) = _ := feed_place hreturn hbreak hskip hhash s
    have hfed' : feed sink c (r', t) = _ := feed_place hreturn hbreak (hmode ▸ hskip)
      (fun hc => hhash ⟨hc.1, hfirst.2 hc.2⟩) t
    have hplace : place sink r'.mode (sink.inTab t) c = place sink r.mode (sink.inTab s) c := by
      rw [hmode, h.inTab s t hpq.state]
    unfold EndAlike
    rw [hfed, hfed', hplace]
    by_cases hclosing : c = '}' ∧ r.mode = .directive
    · obtain ⟨rfl, hdirective⟩ := hclosing
      have hclose : place sink r.mode (sink.inTab s) '}' = closeDirective sink := by
        rw [hdirective]
        rfl
      rw [hclose]
      exact closeDirective_beside h _ hnext
    · refine place_keepsBeside h _ _ c (fun hc => ?_) _ _
        { hnext with inDirective := fun hd => ?_ }
      · unfold opened
        rw [if_pos hc]
      · have hopen : c ≠ '}' ∧ c ≠ '\n' := ⟨fun hc => hclosing ⟨hc, hd⟩, hbreak⟩
        unfold opened
        rw [if_neg (not_or.2 hopen), hpq.inDirective hd]
        split <;> rfl

/-! ## Names between brackets -/

omit h in
theorem isNameChar_ne {c : Char} (hc : isNameChar c = true) :
    c ≠ '[' ∧ c ≠ ']' ∧ c ≠ '{' ∧ c ≠ '}' ∧ c ≠ '\n' ∧ c ≠ '\r' := by
  simpa [isNameChar] using hc

variable (sink) in
omit h in
theorem collect_murmurs (kind : Token) (c : Char) (r : Reader) (s : σ) :
    ∃ b s', collect sink kind c (r, s) = .ok () (r.setBuffer b kind, s') ∧ sink.Murmurs s s' := by
  refine ⟨((r.buffer kind).push kind c).1, _, rfl, ?_⟩
  split
  · exact .problem _ _ .none
  · exact .none

/-- What names are collected into. -/
inductive NamedInto : Mode → Token → Prop
  | lyrics : NamedInto .text .lyrics
  | chordName : NamedInto .chord .chordName

variable (sink) in
omit h in
/-- Spaces in chord names are passed over. -/
theorem place_name {mode : Mode} {kind : Token} (hmode : NamedInto mode kind) {c : Char}
    (hc : isNameChar c = true) (inTab : Bool) :
    place sink mode inTab c = collect sink kind c ∨ place sink mode inTab c = pure () := by
  obtain ⟨hopen, hclose, hbrace, hbrace', -, -⟩ := isNameChar_ne hc
  unfold place
  cases hmode <;> split <;> first | exact .inl rfl | exact .inr rfl | contradiction

variable (sink) in
omit h in
theorem feeds_name {cs : List Char} (hcs : cs.all isNameChar = true) {kind : Token} {r : Reader}
    (hmode : NamedInto r.mode kind) (hcolumn : r.column ≠ 0) (s : σ) :
    ∃ b s', feeds sink cs (r, s) =
      .ok () ({ r with column := r.column + cs.length }.setBuffer b kind, s') ∧
      sink.Murmurs s s' := by
  induction cs generalizing r s with
  | nil =>
    refine ⟨r.buffer kind, s, ?_, .none⟩
    cases kind <;> rfl
  | cons c cs ih =>
    rw [List.all_cons, Bool.and_eq_true] at hcs
    obtain ⟨-, -, -, -, hbreak, hreturn⟩ := isNameChar_ne hcs.1
    have hskip : r.mode ≠ .skip := by
      intro hskip
      rw [hskip] at hmode
      cases hmode
    have hfed : ∃ b s', feed sink c (r, s) =
        .ok () ({ r with column := r.column + 1 }.setBuffer b kind, s') ∧ sink.Murmurs s s' := by
      rw [feed_place hreturn hbreak hskip fun hc => hcolumn hc.2]
      rcases place_name sink hmode hcs.1 (sink.inTab s) with hplace | hplace
      · rw [hplace]
        exact collect_murmurs _ _ _ _ _
      · rw [hplace]
        refine ⟨r.buffer kind, s, ?_, .none⟩
        cases kind <;> rfl
    obtain ⟨b, s', hfeed, hs'⟩ := hfed
    have hmode' : NamedInto ({ r with column := r.column + 1 }.setBuffer b kind).mode kind := by
      cases kind <;> exact hmode
    have hcolumn' : ({ r with column := r.column + 1 }.setBuffer b kind).column ≠ 0 := by
      cases kind <;> exact Nat.succ_ne_zero _
    obtain ⟨b', s'', hrest, hs''⟩ := ih hcs.2 hmode' hcolumn' s'
    refine ⟨b', s'', ?_, hs'.trans hs''⟩
    rw [feeds_cons hfeed, hrest]
    cases kind <;> simp [setBuffer] <;> omega

variable (sink) in
omit h in
theorem feed_bracket {c : Char} (hc : c = '[' ∨ c = ']') {r : Reader} (hskip : r.mode ≠ .skip)
    (s : σ) : feed sink c (r, s) =
      place sink r.mode (sink.inTab s) c ({ r with column := r.column + 1 }, s) := by
  rcases hc with rfl | rfl <;> exact feed_place (by decide) (by decide) hskip (by simp) s

variable (sink) in
omit h in
/-- A name is closed over the next lyrics character. -/
theorem feeds_closing {name : List Char} (hname : name.all isNameChar = true) {r : Reader}
    (hmode : r.mode = .chord) (hcolumn : r.column ≠ 0) (s : σ) :
    ∃ shown s', feeds sink (name ++ [']']) (r, s) = .ok () ({ r with
        column := r.column + name.length + 1
        chordName := .empty
        marks := ⟨r.lyrics.size, shown⟩ :: r.marks
        mode := .text }, s') ∧ sink.Murmurs s s' := by
  have hinto : NamedInto r.mode .chordName := by
    rw [hmode]
    exact .chordName
  obtain ⟨b, t, hfed, ht⟩ := feeds_name sink hname hinto hcolumn s
  have hmode' : ({ r with column := r.column + name.length }.setBuffer b .chordName).mode =
      .chord := hmode
  have hclose := feed_bracket sink (.inr rfl) (by rw [hmode']; decide) t
  rw [hmode'] at hclose
  refine ⟨(sink.chord r.line b.text t).1, _, ?_, ht.chord r.line b.text⟩
  rw [feeds_append hfed, feeds_cons hclose]
  rfl

/-- Brackets in a tablature are lyrics. -/
theorem feeds_tablature {name : List Char} (hname : name.all isNameChar = true) {r : Reader}
    (hmode : r.mode = .text) {s : σ} (hTab : sink.inTab s = true) :
    ∃ lyrics s', feeds sink ('[' :: name ++ [']']) (r, s) = .ok ()
      ({ r with column := r.column + 1 + name.length + 1, lyrics }, s') ∧ sink.Murmurs s s' := by
  have hcollect : ∀ {c : Char} {r : Reader} {s : σ}, c = '[' ∨ c = ']' → r.mode = .text →
      sink.inTab s = true → ∃ lyrics s', feed sink c (r, s) = .ok ()
        ({ r with column := r.column + 1, lyrics }, s') ∧ sink.Murmurs s s' := by
    intro c r s hc hmode hTab
    have hfeed := feed_bracket sink hc (by rw [hmode]; decide) s
    have hplace : place sink r.mode (sink.inTab s) c = collect sink .lyrics c := by
      rw [hmode, hTab]
      rcases hc with rfl | rfl <;> rfl
    obtain ⟨lyrics, s', hfed, hs'⟩ := collect_murmurs sink .lyrics c
      { r with column := r.column + 1 } s
    refine ⟨lyrics, s', ?_, hs'⟩
    rw [hfeed, hplace]
    exact hfed
  obtain ⟨lyrics₁, s₁, hopen, hs₁⟩ := hcollect (.inl rfl) hmode hTab
  have hinto : NamedInto r.mode .lyrics := by
    rw [hmode]
    exact .lyrics
  obtain ⟨lyrics₂, s₂, hfed, hs₂⟩ := feeds_name sink hname
    (r := { r with column := r.column + 1, lyrics := lyrics₁ }) hinto (by simp) s₁
  have hs := hs₁.trans hs₂
  obtain ⟨lyrics₃, s₃, hclose, hs₃⟩ := hcollect (r := { r with
    column := r.column + 1 + name.length, lyrics := lyrics₂ }) (.inr rfl) hmode
    ((h.murmurs_inTab hs).trans hTab)
  refine ⟨lyrics₃, s₃, ?_, hs.trans hs₃⟩
  rw [List.cons_append, feeds_cons hopen]
  exact ((feeds_append hfed).trans (feeds_cons hclose)).trans rfl

/-- What a closed bracket with a name makes of a reader that is not inside a directive: the rest of
a comment is passed over, in a tablature the bracket is lyrics, and else it is a chord. -/
inductive Bracketed (inTab : Bool) (r : Reader) : Reader → Prop
  | comment (column : Nat) (hcolumn : column ≠ 0) (hmode : r.mode = .skip) :
      Bracketed inTab r { r with column }
  | lyrics (column : Nat) (hcolumn : column ≠ 0) (lyrics : Buffer) (hmode : r.mode = .text)
      (hTab : inTab = true) : Bracketed inTab r { r with column, lyrics }
  | chord (column : Nat) (hcolumn : column ≠ 0) (shown : String)
      (hmode : r.mode = .chord ∨ r.mode = .text ∧ inTab = false) :
      Bracketed inTab r { r with
        column, chordName := .empty, marks := ⟨r.lyrics.size, shown⟩ :: r.marks, mode := .text }

theorem feeds_bracketed {name : List Char} (hname : name.all isNameChar = true) {r : Reader}
    (hmode : r.mode ≠ .directive) (s : σ) :
    ∃ r' s', feeds sink ('[' :: name ++ [']']) (r, s) = .ok () (r', s') ∧
      Bracketed (sink.inTab s) r r' ∧ sink.Murmurs s s' := by
  cases hm : r.mode with
  | directive => exact absurd hm hmode
  | skip =>
    refine ⟨_, s, feeds_skipping (fun c hc => ?_) hm s, .comment _ (by simp) hm, .none⟩
    rcases List.mem_cons.1 hc with rfl | hc
    · decide
    · rcases List.mem_append.1 hc with hc | hc
      · obtain ⟨-, -, -, -, hbreak, hreturn⟩ := isNameChar_ne (List.all_eq_true.1 hname c hc)
        exact ⟨hreturn, hbreak⟩
      · rw [List.mem_singleton.1 hc]
        decide
  | chord =>
    have hopen := feed_bracket sink (.inl rfl) (by rw [hm]; decide) s
    rw [hm] at hopen
    obtain ⟨shown, s', hfed, hs'⟩ := feeds_closing sink hname (r := { r with
      column := r.column + 1, chordName := .empty, mode := .chord }) rfl (by simp)
      (sink.problem r.line .nestedChord s)
    refine ⟨_, s', ?_, .chord (r.column + 1 + name.length + 1) (by omega) shown (.inl hm),
      (Sink.Murmurs.problem r.line .nestedChord .none).trans hs'⟩
    rw [List.cons_append, feeds_cons hopen]
    exact hfed
  | text =>
    have hopen := feed_bracket sink (.inl rfl) (by rw [hm]; decide) s
    rw [hm] at hopen
    cases hTab : sink.inTab s with
    | false =>
      rw [hTab] at hopen
      obtain ⟨shown, s', hfed, hs'⟩ := feeds_closing sink hname (r := { r with
        column := r.column + 1, chordName := .empty, mode := .chord }) rfl (by simp) s
      refine ⟨_, s', ?_, .chord (r.column + 1 + name.length + 1) (by omega) shown
        (.inr ⟨hm, rfl⟩), hs'⟩
      rw [List.cons_append, feeds_cons hopen]
      exact hfed
    | true =>
      rw [hTab] at hopen
      obtain ⟨lyrics, s', hfed, hs'⟩ := feeds_tablature h hname hm hTab
      exact ⟨_, s', hfed, .lyrics (r.column + 1 + name.length + 1) (by omega) lyrics hm rfl, hs'⟩

/-- Whatever the names between them, brackets leave readers beside each other. -/
theorem Bracketed.beside {r r' u u' : Reader} {s t s' t' : σ}
    (hpq : Beside sink R false (r, s) (r', t)) (hu : Bracketed (sink.inTab s) r u)
    (hu' : Bracketed (sink.inTab s) r' u') (hs : sink.Murmurs s s') (ht : sink.Murmurs t t') :
    Beside sink R false (u, s') (u', t') := by
  have hmode : r.mode = r'.mode := hpq.mode
  refine Beside.murmur h (p := (u, s)) (q := (u', t)) ?_ hs ht
  cases hu with
  | comment column hcolumn hm =>
    cases hu' with
    | comment column' hcolumn' _ => exact { hpq with column := iff_of_false hcolumn hcolumn' }
    | lyrics _ _ _ hm' _ => simp [← hmode, hm] at hm'
    | chord _ _ _ hm' => simp [← hmode, hm] at hm'
  | lyrics column hcolumn lyrics hm hTab =>
    cases hu' with
    | comment _ _ hm' => simp [← hmode, hm] at hm'
    | lyrics column' hcolumn' lyrics' _ _ =>
      exact { hpq with
        column := iff_of_false hcolumn hcolumn'
        lyrics := fun hfalse => by simp [hTab] at hfalse }
    | chord _ _ _ hm' => simp [← hmode, hm, hTab] at hm'
  | chord column hcolumn shown hm =>
    cases hu' with
    | comment _ _ hm' => simp [hmode, hm'] at hm
    | lyrics _ _ _ hm' hTab => simp [hmode, hm', hTab] at hm
    | chord column' hcolumn' shown' _ =>
      exact { hpq with
        mode := rfl
        chordName := rfl
        column := iff_of_false hcolumn hcolumn'
        marks := fun hTab => by
          have hlyrics : r.lyrics = r'.lyrics := hpq.lyrics hTab
          have hmarks : r.marks.map (·.offset) = r'.marks.map (·.offset) := hpq.marks hTab
          simp only [List.map_cons, hlyrics, hmarks]
        inDirective := nofun }

/-! ## Whole texts -/

theorem feeds_renamed {cs ds : List Char} (hcd : Renamed brace cs ds) {p q : Reader × σ}
    (hpq : Beside sink R brace p q) :
    EndAlike (feeds sink cs) (feeds sink ds) p q (fun p q => ∃ brace, Beside sink R brace p q)
      fun e p q => F e p.2 q.2 := by
  induction hcd generalizing p q with
  | nil => exact ⟨rfl, _, hpq⟩
  | @char brace c cs ds _ ih =>
    show EndAlike (feed sink c >>= fun _ => feeds sink cs) (feed sink c >>= fun _ => feeds sink ds)
      p q _ _
    exact (feed_beside h c hpq).bind fun _ _ _ hnext => ih hnext
  | @chord name name' cs ds hname hname' _ ih =>
    obtain ⟨r, s⟩ := p
    obtain ⟨r', t⟩ := q
    have hmode : r.mode ≠ .directive := fun hm => Bool.noConfusion (hpq.inDirective hm)
    have hmode' : r'.mode ≠ .directive := by
      have hsame : r.mode = r'.mode := hpq.mode
      rwa [← hsame]
    obtain ⟨u, s', hfed, hu, hs⟩ := feeds_bracketed h hname hmode s
    obtain ⟨u', t', hfed', hu', ht⟩ := feeds_bracketed h hname' hmode' t
    rw [← h.inTab s t hpq.state] at hu'
    have hrest := ih (Bracketed.beside h hpq hu hu' hs ht)
    have hleft : feeds sink ('[' :: name ++ ']' :: cs) (r, s) = feeds sink cs (u, s') := by
      rw [← feeds_append hfed, List.append_assoc]
      rfl
    have hright : feeds sink ('[' :: name' ++ ']' :: ds) (r', t) = feeds sink ds (u', t') := by
      rw [← feeds_append hfed', List.append_assoc]
      rfl
    unfold EndAlike at hrest ⊢
    rw [hleft, hright]
    exact hrest

/-- Two texts that differ in their chord names come to the same. -/
theorem readText_renamed {text text' : String} (htext : Renamed false text.toList text'.toList)
    {s t : σ} (hst : R s t) :
    EndAlike (readText sink text) (readText sink text') s t R F := by
  have hstart : Beside sink R false (start, s) (start, t) :=
    ⟨rfl, rfl, rfl, rfl, rfl, Iff.rfl, fun _ => rfl, fun _ => rfl, nofun, hst⟩
  have hread : EndAlike (read sink text) (read sink text') (start, s) (start, t)
      (fun p q => R p.2 q.2) fun e p q => F e p.2 q.2 := by
    refine EndAlike.bind (feeds_renamed h htext hstart) fun _ p q ⟨brace, hpq⟩ => ?_
    show EndAlike (if p.1.column ≠ 0 then endLine sink else pure ())
      (if q.1.column ≠ 0 then endLine sink else pure ()) p q _ _
    by_cases hfirst : p.1.column = 0
    · rw [if_neg (not_not.2 hfirst), if_neg (not_not.2 (hpq.column.1 hfirst))]
      exact ⟨rfl, hpq.state⟩
    · rw [if_pos hfirst, if_pos fun hq => hfirst (hpq.column.2 hq)]
      exact (endLine_beside h brace hpq).mono (fun _ _ hnext => hnext.state) fun _ _ _ hf => hf
  unfold EndAlike at hread ⊢
  rw [readText_eq, readText_eq]
  rcases hx : read sink text (start, s) with ⟨a, p⟩ | ⟨e, p⟩ <;>
    rcases hy : read sink text' (start, t) with ⟨b, q⟩ | ⟨e', q⟩ <;> rw [hx, hy] at hread
  · exact hread
  · exact hread
  · exact hread
  · exact hread

end

end Reader

end Songbook.Markup
