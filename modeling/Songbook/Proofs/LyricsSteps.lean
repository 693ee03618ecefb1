import Songbook.Proofs.LyricsLines

/-!
# Along a line of lyrics

What each character of a line does to the reader and to the sink before the line opens a directive,
told exactly: one lemma for each thing that can happen. How far the line has come is a `Progress`,
and `Partway` says that the reader stands there.
-/

namespace Songbook.Markup

variable {ε σ : Type}

/-- How far a line of lyrics and chords has come. -/
structure Progress where
  /-- The characters outside of brackets. -/
  lyrics : List Char
  /-- What the bracket that is open holds, if one is. -/
  name? : Option (List Char)

/-- The buffer has been given these characters. -/
structure Buffer.Given (kind : Token) (cs : List Char) (b : Buffer) : Prop where
  reversed : b.reversed = (cs.take kind.capacity).reverse
  overflowed : b.overflowed = decide (kind.capacity < cs.length)

namespace Buffer

variable {kind : Token} {cs : List Char} {b : Buffer}

theorem given_empty (kind : Token) : empty.Given kind [] := ⟨by simp [empty], rfl⟩

theorem Given.size (h : b.Given kind cs) : b.size = min kind.capacity cs.length := by
  rw [Buffer.size, h.reversed, List.length_reverse, List.length_take]

theorem Given.text (h : b.Given kind cs) : b.text = String.ofList (cs.take kind.capacity) := by
  rw [Buffer.text, h.reversed, List.reverse_reverse]

theorem Given.push (h : b.Given kind cs) (c : Char) :
    (b.push kind c).1.Given kind (cs ++ [c]) := by
  refine ⟨push_reversed h.reversed c, ?_⟩
  unfold Buffer.push
  rw [h.size, List.length_append, List.length_singleton]
  split
  · show b.overflowed = _
    rw [h.overflowed]
    exact decide_eq_decide.2 (by omega)
  · exact (decide_eq_true (by omega)).symm

/-- Only the first character that does not fit is told of. -/
theorem Given.push_snd (h : b.Given kind cs) (c : Char) :
    (b.push kind c).2 = decide (cs.length = kind.capacity) := by
  unfold Buffer.push
  rw [h.size]
  split
  · exact (decide_eq_false (by omega)).symm
  · show (!b.overflowed) = _
    rw [h.overflowed, ← decide_not]
    exact decide_eq_decide.2 (by omega)

end Buffer

namespace Reader

variable {sink : Sink ε σ} {n : Nat} {p : Progress} {ls name : List Char} {ms : List ChordMark}
  {r : Reader} {c : Char} {cs ds : List Char} {s s' : σ} {P Q : Reader → Prop}

/-- In line `n` the reader has come so far, with these marks over the lyrics. -/
structure Partway (n : Nat) (p : Progress) (ms : List ChordMark) (r : Reader) : Prop where
  line : r.line = n
  hasDirective : r.hasDirective = false
  lyrics : r.lyrics.Given .lyrics p.lyrics
  marks : r.marks = ms.reverse
  mode : r.mode = if p.name?.isSome then .chord else .text
  chordName : ∀ name ∈ p.name?, r.chordName.Given .chordName (name.filter (· ≠ ' '))

theorem partway_atLine (n : Nat) : (atLine n).Partway n ⟨[], none⟩ [] :=
  ⟨rfl, rfl, Buffer.given_empty _, rfl, rfl, by simp⟩

theorem Partway.midway (h : r.Partway n p ms) : r.Midway n p.lyrics ms p.name? :=
  ⟨h.line, h.hasDirective, h.lyrics.reversed, h.marks, h.mode,
    fun name hname => (h.chordName name hname).reversed⟩

/-- The number of characters seen does not matter. -/
theorem Partway.seen (h : r.Partway n p ms) (column : Nat) :
    Partway n p ms { r with column } :=
  ⟨h.line, h.hasDirective, h.lyrics, h.marks, h.mode, h.chordName⟩

/-- A bracket has just been opened. -/
theorem Partway.opened (h : r.Partway n p ms) (column : Nat) :
    Partway n ⟨p.lyrics, some []⟩ ms { r with column, chordName := .empty, mode := .chord } := by
  refine ⟨h.line, h.hasDirective, h.lyrics, h.marks, rfl, ?_⟩
  rintro name ⟨rfl⟩
  exact Buffer.given_empty _

/-- These characters take the reader from `r` to where `Q` says, and the sink from `s` to `s'`. -/
def Leads (sink : Sink ε σ) (cs : List Char) (r : Reader) (s s' : σ) (Q : Reader → Prop) : Prop :=
  ∃ r', feeds sink cs (r, s) = .ok () (r', s') ∧ r'.column = r.column + cs.length ∧ Q r'

theorem Leads.nil (h : Q r) : Leads sink [] r s s Q := ⟨r, rfl, rfl, h⟩

theorem Leads.append {s₁ : σ} (h : Leads sink cs r s s₁ P)
    (h' : ∀ r₁, P r₁ → r₁.column = r.column + cs.length → Leads sink ds r₁ s₁ s' Q) :
    Leads sink (cs ++ ds) r s s' Q := by
  obtain ⟨r₁, hfeeds, hcolumn, hP⟩ := h
  obtain ⟨r₂, hfeeds', hcolumn', hQ⟩ := h' r₁ hP hcolumn
  refine ⟨r₂, (feeds_append hfeeds).trans hfeeds', ?_, hQ⟩
  rw [hcolumn', hcolumn, List.length_append, Nat.add_assoc]

theorem Leads.cons {s₁ : σ} (h : Leads sink [c] r s s₁ P)
    (h' : ∀ r₁, P r₁ → r₁.column = r.column + 1 → Leads sink cs r₁ s₁ s' Q) :
    Leads sink (c :: cs) r s s' Q := Leads.append h h'

/-- A character that is put in its place. -/
theorem leads_of_place (r' : Reader) (hreturn : c ≠ '\r') (hbreak : c ≠ '\n')
    (hmode : r.mode ≠ .skip) (hhash : ¬ (c = '#' ∧ r.column = 0))
    (hplace : place sink r.mode (sink.inTab s) c ({ r with column := r.column + 1 }, s) =
      .ok () (r', s')) (hcolumn : r'.column = r.column + 1) (h : Q r') :
    Leads sink [c] r s s' Q :=
  ⟨r', feeds_cons ((feed_place hreturn hbreak hmode hhash s).trans hplace), hcolumn, h⟩

theorem Partway.skip_ne (h : r.Partway n p ms) : r.mode ≠ .skip := h.midway.skip_ne

/-! ## Outside of brackets -/

theorem collect_given (kind : Token) (h : (r.buffer kind).Given kind cs) (c : Char) :
    collect sink kind c (r, s) = .ok () (r.setBuffer ((r.buffer kind).push kind c).1 kind,
      if cs.length = kind.capacity then sink.problem r.line (.bufferOverflow kind) s else s) := by
  show EStateM.Result.ok () (r.setBuffer ((r.buffer kind).push kind c).1 kind,
    if ((r.buffer kind).push kind c).2 then sink.problem r.line (.bufferOverflow kind) s else s) = _
  simp only [h.push_snd, decide_eq_true_eq]

variable (sink s) in
/-- A character outside of brackets is one of the lyrics; in a tablature a bracket is, too. -/
theorem lyric_leads (hr : r.Partway n ⟨ls, none⟩ ms) (hc : isLyric c = true)
    (hbracket : sink.inTab s = true ∨ c ≠ '[' ∧ c ≠ ']') (hhash : ¬ (c = '#' ∧ r.column = 0)) :
    Leads sink [c] r s
      (if ls.length = Token.lyrics.capacity then sink.problem n (.bufferOverflow .lyrics) s else s)
      (Partway n ⟨ls ++ [c], none⟩ ms) := by
  obtain ⟨hopen, hclose, hbreak, hreturn⟩ := isLyric_ne hc
  have hmode : r.mode = .text := hr.mode
  have hplace : place sink r.mode (sink.inTab s) c = collect sink .lyrics c := by
    rw [hmode]
    exact place_collectsLyrics hbracket ⟨hopen, hclose⟩
  refine leads_of_place { r with column := r.column + 1, lyrics := (r.lyrics.push .lyrics c).1 }
    hreturn hbreak hr.skip_ne hhash ?_ rfl ?_
  · rw [← hr.line]
    exact (congrFun hplace _).trans
      (collect_given .lyrics (r := { r with column := r.column + 1 }) hr.lyrics c)
  · exact ⟨hr.line, hr.hasDirective, hr.lyrics.push c, hr.marks, hr.mode, by simp⟩

theorem open_leads (hr : r.Partway n ⟨ls, none⟩ ms) (htab : sink.inTab s = false) :
    Leads sink ['['] r s s (Partway n ⟨ls, some []⟩ ms) := by
  have hmode : r.mode = .text := hr.mode
  refine leads_of_place _ (by decide) (by decide) hr.skip_ne (by simp) ?_ rfl (hr.opened _)
  rw [hmode, htab]
  rfl

theorem strayClose_leads (hr : r.Partway n ⟨ls, none⟩ ms) (htab : sink.inTab s = false) :
    Leads sink [']'] r s (sink.problem n .unmatchedChordClose s) (Partway n ⟨ls, none⟩ ms) := by
  have hmode : r.mode = .text := hr.mode
  refine leads_of_place _ (by decide) (by decide) hr.skip_ne (by simp) ?_ rfl (hr.seen _)
  rw [hmode, htab, ← hr.line]
  rfl

/-! ## In a bracket -/

variable (sink s) in
/-- A character in a bracket is one of the name, but for spaces. -/
theorem nameChar_leads (hr : r.Partway n ⟨ls, some name⟩ ms) (hc : isLyric c = true)
    (hbracket : c ≠ '[' ∧ c ≠ ']') (hhash : ¬ (c = '#' ∧ r.column = 0)) :
    Leads sink [c] r s
      (if c ≠ ' ' ∧ (name.filter (· ≠ ' ')).length = Token.chordName.capacity then
        sink.problem n (.bufferOverflow .chordName) s else s)
      (Partway n ⟨ls, some (name ++ [c])⟩ ms) := by
  obtain ⟨hopen, hclose, hbreak, hreturn⟩ := isLyric_ne hc
  have hmode : r.mode = .chord := hr.mode
  have hname := hr.chordName name rfl
  by_cases hspace : c = ' '
  · subst hspace
    refine leads_of_place { r with column := r.column + 1 } hreturn hbreak hr.skip_ne hhash ?_
      rfl ?_
    · rw [hmode]
      rfl
    · exact ⟨hr.line, hr.hasDirective, hr.lyrics, hr.marks, hr.mode, by
        rintro _ ⟨rfl⟩
        simpa using hname⟩
  have hplace : place sink r.mode (sink.inTab s) c = collect sink .chordName c := by
    rw [hmode]
    exact place_collectsName hbracket ⟨hopen, hclose⟩ hspace _
  refine leads_of_place
    { r with column := r.column + 1, chordName := (r.chordName.push .chordName c).1 }
    hreturn hbreak hr.skip_ne hhash ?_ rfl ?_
  · simp only [ne_eq, hspace, not_false_eq_true, true_and]
    rw [← hr.line]
    exact (congrFun hplace _).trans
      (collect_given .chordName (r := { r with column := r.column + 1 }) hname c)
  · exact ⟨hr.line, hr.hasDirective, hr.lyrics, hr.marks, hr.mode, by
      rintro _ ⟨rfl⟩
      simpa [hspace] using hname.push c⟩

/-- A bracket in a bracket begins the name anew. -/
theorem nested_leads (hr : r.Partway n ⟨ls, some name⟩ ms) :
    Leads sink ['['] r s (sink.problem n .nestedChord s) (Partway n ⟨ls, some []⟩ ms) := by
  have hmode : r.mode = .chord := hr.mode
  refine leads_of_place _ (by decide) (by decide) hr.skip_ne (by simp) ?_ rfl (hr.opened _)
  rw [hmode, ← hr.line]
  rfl

variable (sink s) in
/-- A closing bracket sets the name that the sink shows over the next character. -/
theorem close_leads (hr : r.Partway n ⟨ls, some name⟩ ms) :
    Leads sink [']'] r s (sink.chord n (String.ofList (keptName name)) s).2
      (Partway n ⟨ls, none⟩ (ms ++ [⟨min Token.lyrics.capacity ls.length,
        (sink.chord n (String.ofList (keptName name)) s).1⟩])) := by
  have hmode : r.mode = .chord := hr.mode
  have hname : r.chordName.text = String.ofList (keptName name) := (hr.chordName name rfl).text
  rw [← hname, ← hr.lyrics.size, ← hr.line]
  refine leads_of_place { r with
      column := r.column + 1, chordName := .empty, mode := .text
      marks := ⟨r.lyrics.size, (sink.chord r.line r.chordName.text s).1⟩ :: r.marks }
    (by decide) (by decide) hr.skip_ne (by simp) ?_ rfl ?_
  · rw [hmode]
    rfl
  · exact ⟨rfl, hr.hasDirective, hr.lyrics, by simp [hr.marks], rfl, by simp⟩

/-! ## Braces and line ends -/

theorem strayBrace_leads (hr : r.Partway n p ms) :
    Leads sink ['}'] r s (sink.problem n .unmatchedDirectiveClose s) (Partway n p ms) := by
  have hmode := hr.mode
  refine leads_of_place _ (by decide) (by decide) hr.skip_ne (by simp) ?_ rfl (hr.seen _)
  rw [hmode, ← hr.line]
  split <;> rfl

variable (sink s) in
/-- An opening brace opens a directive, and drops the bracket that is open. -/
theorem brace_leads (hr : r.Partway n p ms) :
    Leads sink ['{'] r s (if p.name?.isSome then sink.problem n .directiveInChord s else s)
      fun r' => r'.mode = .directive ∧ r'.hasDirective = true := by
  have hmode := hr.mode
  refine leads_of_place { r with
      column := r.column + 1, chordName := if p.name?.isSome then .empty else r.chordName
      directive := .empty, hasDirective := true, mode := .directive }
    (by decide) (by decide) hr.skip_ne (by simp) ?_ rfl ⟨rfl, rfl⟩
  rw [hmode, ← hr.line]
  split <;> rfl

theorem Partway.leftOpen_eq (hr : r.Partway n p ms) :
    r.leftOpen = if p.name?.isSome then some .unterminatedChord else none := by
  unfold leftOpen
  rw [hr.mode]
  cases p.name? <;> rfl

/-- A line end gives the sink the line as it stands. -/
theorem newline_partway (hr : r.Partway n p ms) :
    feed sink '\n' (r, s) =
      match sink.line n ⟨String.ofList (p.lyrics.take Token.lyrics.capacity), ms⟩
        (if p.name?.isSome then sink.problem n .unterminatedChord s else s) with
      | .ok _ s => .ok () (atLine (n + 1), s)
      | .error e s =>
        .error e ({ r with column := r.column + 1, lyrics := .empty, marks := [] }, s) := by
  rw [feed_newline hr.skip_ne, endLine_eq, (hr.seen _).leftOpen_eq, (hr.seen _).midway.content_eq]
  dsimp only
  rw [hr.hasDirective, hr.line, apply_ite (Option.elim · s _)]
  rfl

end Reader

end Songbook.Markup
