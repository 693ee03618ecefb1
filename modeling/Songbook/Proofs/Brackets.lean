import Songbook.Proofs.LyricsSteps
import Songbook.Proofs.WholeLines

/-!
# Brackets and braces accounted for

Outside of tablatures every bracket of a line, up to its directive if it has one, closes into a
chord or is told of as a problem, and so is every closing brace there. What does not fit is told of
once for the lyrics and once for each name. A character does one of a few things to the line so far
(`Notes`); the accounts are kept through each of them (`AccountedFrom.cons`), and so through the
line (`line_accounted`).
-/

namespace Songbook.Markup

variable {ε σ : Type} {n : Nat}

/-- The names that brackets open, closed or not, with the spaces in them. The bracket that is open
at the beginning has that name so far. -/
def startedNames (name? : Option (List Char)) : List Char → List (List Char)
  | [] => name?.toList
  | c :: cs =>
    if c = '[' then name?.toList ++ startedNames (some []) cs
    else if c = ']' then name?.toList ++ startedNames none cs
    else startedNames (name?.map (· ++ [c])) cs

example : startedNames none "a[b c[d]e]f[g".toList = ["b c".toList, "d".toList, "g".toList] := by
  decide

/-- There is no room for all of it, spaces apart. -/
def isLongName (name : List Char) : Bool :=
  decide (Token.chordName.capacity < (name.filter (· ≠ ' ')).length)

/-- One if there is no room for all of them. -/
def lyricsExcess (cs : List Char) : Nat := if Token.lyrics.capacity < cs.length then 1 else 0

/-- What becomes of an opening bracket: a chord, or a problem on line `n`. -/
def Event.answersOpening (n : Nat) : Event → Bool
  | .chord _ _ => true
  | .problem m p => m = n && [.nestedChord, .unterminatedChord, .directiveInChord].contains p
  | _ => false

/-- What becomes of a closing bracket. -/
def Event.answersClosing (n : Nat) : Event → Bool
  | .chord _ _ => true
  | .problem m p => m = n && p = .unmatchedChordClose
  | _ => false

/-- What is found on line `n` accounts for these characters of it, all that are not of a
directive. -/
structure Accounted (n : Nat) (cs : List Char) (found : List Event) : Prop where
  opening : cs.count '[' = found.countP (Event.answersOpening n)
  closing : cs.count ']' = found.countP (Event.answersClosing n)
  braces : cs.count '}' = found.count (.problem n .unmatchedDirectiveClose)
  /-- Told of once, if at all. -/
  lyrics : found.count (.problem n (.bufferOverflow .lyrics)) =
    lyricsExcess (outside false (cs.filter (· ≠ '}')))
  /-- Told of once for each name that is too long. -/
  names : found.count (.problem n (.bufferOverflow .chordName)) =
    (startedNames none (cs.filter (· ≠ '}'))).countP isLongName

namespace Progress

def isOpen (p : Progress) : Bool := p.name?.isSome

/-- What a character other than an opening brace does to a line so far, and what is told then. -/
inductive Notes (n : Nat) : Progress → Char → List Event → Progress → Prop
  | strayBrace (p : Progress) : Notes n p '}' [.problem n .unmatchedDirectiveClose] p
  | opens (ls : List Char) : Notes n ⟨ls, none⟩ '[' [] ⟨ls, some []⟩
  | opensAnew (ls name : List Char) :
    Notes n ⟨ls, some name⟩ '[' [.problem n .nestedChord] ⟨ls, some []⟩
  | closes (ls name : List Char) :
    Notes n ⟨ls, some name⟩ ']' [.chord n (String.ofList (keptName name))] ⟨ls, none⟩
  | closesNothing (ls : List Char) :
    Notes n ⟨ls, none⟩ ']' [.problem n .unmatchedChordClose] ⟨ls, none⟩
  | lyric {c : Char} (ls : List Char) (hc : isLyric c = true) (hbracket : c ≠ '[' ∧ c ≠ ']') :
    Notes n ⟨ls, none⟩ c
      (if ls.length = Token.lyrics.capacity then [.problem n (.bufferOverflow .lyrics)] else [])
      ⟨ls ++ [c], none⟩
  | nameChar {c : Char} (ls name : List Char) (hc : isLyric c = true)
      (hbracket : c ≠ '[' ∧ c ≠ ']') :
    Notes n ⟨ls, some name⟩ c
      (if c ≠ ' ' ∧ (name.filter (· ≠ ' ')).length = Token.chordName.capacity then
        [.problem n (.bufferOverflow .chordName)] else [])
      ⟨ls, some (name ++ [c])⟩

end Progress

theorem countP_ite (q : Event → Bool) (e : Event) (cond : Prop) [Decidable cond] :
    (if cond then [e] else []).countP q = if cond ∧ q e = true then 1 else 0 := by
  split_ifs <;> simp_all

theorem lyricsExcess_append (ls : List Char) (c : Char) : lyricsExcess (ls ++ [c]) =
    lyricsExcess ls + if ls.length = Token.lyrics.capacity then 1 else 0 := by
  unfold lyricsExcess
  rw [List.length_append, List.length_singleton]
  split_ifs <;> omega

theorem isLongName_append (name : List Char) (c : Char) : [name ++ [c]].countP isLongName =
    [name].countP isLongName +
      if c ≠ ' ' ∧ (name.filter (· ≠ ' ')).length = Token.chordName.capacity then 1 else 0 := by
  rw [List.countP_singleton, List.countP_singleton]
  simp only [isLongName, decide_eq_true_eq, List.filter_append, List.length_append]
  by_cases hspace : c = ' '
  · simp [hspace]
  · have hkept : [c].filter (· ≠ ' ') = [c] := by simp [hspace]
    rw [hkept, List.length_singleton]
    simp only [hspace, ne_eq, not_false_eq_true, true_and]
    split_ifs <;> omega

namespace Progress.Notes

variable {p q : Progress} {c : Char} {new : List Event}

theorem opening (h : p.Notes n c new q) (cs : List Char) :
    p.isOpen.toNat + (c :: cs).count '[' =
      new.countP (Event.answersOpening n) + (q.isOpen.toNat + cs.count '[') := by
  cases h with
  | lyric ls hc hbracket => simp [countP_ite, isOpen, Event.answersOpening, hbracket.1]
  | nameChar ls name hc hbracket => simp [countP_ite, isOpen, Event.answersOpening, hbracket.1]
  | _ => simp [isOpen, Event.answersOpening] <;> omega

theorem closing (h : p.Notes n c new q) (cs : List Char) :
    (c :: cs).count ']' = new.countP (Event.answersClosing n) + cs.count ']' := by
  cases h with
  | lyric ls hc hbracket => simp [countP_ite, Event.answersClosing, hbracket.2]
  | nameChar ls name hc hbracket => simp [countP_ite, Event.answersClosing, hbracket.2]
  | _ => simp [Event.answersClosing, Nat.add_comm]

theorem braces (h : p.Notes n c new q) (cs : List Char) :
    (c :: cs).count '}' = new.count (.problem n .unmatchedDirectiveClose) + cs.count '}' := by
  cases h with
  | lyric ls hc hbracket => simp [List.count, countP_ite, (isLyric_ne hc).2.1]
  | nameChar ls name hc hbracket => simp [List.count, countP_ite, (isLyric_ne hc).2.1]
  | _ => simp [Nat.add_comm]

theorem lyrics (h : p.Notes n c new q) :
    lyricsExcess p.lyrics + new.count (.problem n (.bufferOverflow .lyrics)) =
      lyricsExcess q.lyrics := by
  cases h with
  | lyric ls hc hbracket => simp [List.count, countP_ite, lyricsExcess_append]
  | nameChar ls name hc hbracket => simp [List.count, countP_ite]
  | _ => simp

/-- The rest of the line adds the same to the lyrics after the character as it does with it. -/
theorem outside_eq (h : p.Notes n c new q) (cs : List Char) :
    p.lyrics ++ outside p.isOpen ((c :: cs).filter (· ≠ '}')) =
      q.lyrics ++ outside q.isOpen (cs.filter (· ≠ '}')) := by
  cases h with
  | lyric ls hc hbracket => simp [outside, isOpen, hbracket, (isLyric_ne hc).2.1]
  | nameChar ls name hc hbracket => simp [outside, isOpen, hbracket, (isLyric_ne hc).2.1]
  | _ => simp [outside, isOpen]

/-- A name counts from where it becomes long, wherever it ends. -/
theorem names (h : p.Notes n c new q) (cs : List Char) :
    p.name?.toList.countP isLongName + new.count (.problem n (.bufferOverflow .chordName)) +
        (startedNames q.name? (cs.filter (· ≠ '}'))).countP isLongName =
      q.name?.toList.countP isLongName +
        (startedNames p.name? ((c :: cs).filter (· ≠ '}'))).countP isLongName := by
  have hnone : isLongName [] = false := rfl
  cases h with
  | lyric ls hc hbracket =>
    simp [List.count, countP_ite, startedNames, hbracket, (isLyric_ne hc).2.1]
  | nameChar ls name hc hbracket =>
    have hlong := isLongName_append name c
    simp [List.count, countP_ite, startedNames, hbracket, (isLyric_ne hc).2.1] at hlong ⊢
    omega
  | _ => simp [startedNames, hnone, List.countP_cons, Nat.add_comm]

end Progress.Notes

/-- What is found from here on accounts for the characters that are to come, and for the bracket
that is open. -/
structure AccountedFrom (n : Nat) (p : Progress) (cs : List Char) (found : List Event) : Prop where
  opening : p.isOpen.toNat + cs.count '[' = found.countP (Event.answersOpening n)
  closing : cs.count ']' = found.countP (Event.answersClosing n)
  braces : cs.count '}' = found.count (.problem n .unmatchedDirectiveClose)
  lyrics : lyricsExcess p.lyrics + found.count (.problem n (.bufferOverflow .lyrics)) =
    lyricsExcess (p.lyrics ++ outside p.isOpen (cs.filter (· ≠ '}')))
  names : p.name?.toList.countP isLongName +
      found.count (.problem n (.bufferOverflow .chordName)) =
    (startedNames p.name? (cs.filter (· ≠ '}'))).countP isLongName

theorem AccountedFrom.cons {p q : Progress} {c : Char} {cs : List Char} {new found : List Event}
    (hnotes : p.Notes n c new q) (h : AccountedFrom n q cs found) :
    AccountedFrom n p (c :: cs) (new ++ found) where
  opening := by rw [hnotes.opening, h.opening, List.countP_append]
  closing := by rw [hnotes.closing, h.closing, List.countP_append]
  braces := by rw [hnotes.braces, h.braces, List.count_append]
  lyrics := by rw [hnotes.outside_eq, ← h.lyrics, ← hnotes.lyrics, List.count_append, Nat.add_assoc]
  names := by
    have hstep := hnotes.names cs
    have hrest := h.names
    rw [List.count_append]
    omega

theorem AccountedFrom.accounted {cs : List Char} {found : List Event}
    (h : AccountedFrom n ⟨[], none⟩ cs found) : Accounted n cs found where
  opening := by simpa [Progress.isOpen] using h.opening
  closing := h.closing
  braces := h.braces
  lyrics := by simpa [lyricsExcess, Progress.isOpen] using h.lyrics
  names := by simpa using h.names

/-- Accounts for no lyrics and no chords. -/
def Event.IsNeutral : Event → Prop
  | .chord _ _ => False
  | .directive _ _ => True
  | .line _ _ => True
  | .problem _ p => p = .unterminatedDirective ∨ p = .bufferOverflow .directive

theorem Event.IsNeutral.answers {e : Event} (h : e.IsNeutral) (n : Nat) :
    e.answersOpening n = false ∧ e.answersClosing n = false := by
  cases e with
  | problem m p => rcases h with rfl | rfl <;> simp [answersOpening, answersClosing]
  | chord m name => exact h.elim
  | _ => exact ⟨rfl, rfl⟩

/-- A bracket that is still open is told of, and then the account is settled. -/
theorem accountedFrom_nil {p : Progress} {problem : Problem} {rest : List Event}
    (hproblem : problem = .unterminatedChord ∨ problem = .directiveInChord)
    (hrest : ∀ e ∈ rest, e.IsNeutral) : AccountedFrom n p []
      ((if p.name?.isSome then [.problem n problem] else []) ++ rest) := by
  have hopening : rest.countP (Event.answersOpening n) = 0 :=
    List.countP_eq_zero.2 fun e he => by simp [(hrest e he).answers n]
  have hclosing : rest.countP (Event.answersClosing n) = 0 :=
    List.countP_eq_zero.2 fun e he => by simp [(hrest e he).answers n]
  have hnone : ∀ q, q ≠ .unterminatedDirective → q ≠ .bufferOverflow .directive →
      rest.count (.problem n q) = 0 := fun q hq hq' =>
    List.count_eq_zero.2 fun he => (hrest _ he).elim hq hq'
  obtain ⟨ls, name?⟩ := p
  cases name? with
  | none =>
    show AccountedFrom n _ [] rest
    exact ⟨hopening.symm, hclosing.symm, (hnone _ (by simp) (by simp)).symm,
      by simp [hnone, outside], by simp [hnone, startedNames]⟩
  | some name =>
    show AccountedFrom n _ [] ([.problem n problem] ++ rest)
    rcases hproblem with rfl | rfl <;>
      exact ⟨by simp [hopening, Progress.isOpen, Event.answersOpening],
        by simp [hclosing, Event.answersClosing], by simp [hnone],
        by simp [hnone, outside], by simp [hnone, startedNames]⟩

/-- In a state of `P` no tablature is open, and neither chords nor problems lead out of `P`. -/
structure Sink.Outside (sink : Sink ε σ) (P : σ → Prop) : Prop where
  inTab : ∀ s, P s → sink.inTab s = false
  chord : ∀ n name s, P s → P (sink.chord n name s).2
  problem : ∀ n p s, P s → P (sink.problem n p s)

theorem Sink.Outside.ite {sink : Sink ε σ} {P : σ → Prop} {s : σ} (hout : sink.Outside P)
    (hs : P s) (cond : Prop) [Decidable cond] (problem : Problem) :
    P (if cond then sink.problem n problem s else s) := by
  split_ifs
  · exact hout.problem n problem s hs
  · exact hs

theorem Sink.tablatures_outside : tablatures.Outside fun inTab => inTab = false :=
  ⟨fun _ h => h, fun _ _ _ h => h, fun _ _ _ h => h⟩

namespace Reader

variable {sink : Sink ε σ} {P : σ → Prop} {p : Progress} {ms : List ChordMark} {r : Reader}
  {c : Char} {cs : List Char} {s : σ} {found : List Event} {E : ε → Prop}

/-- A problem that is told of if something does not fit. -/
theorem Leads.recorded {Q : Reader → Prop} {cond : Prop} [Decidable cond] {problem : Problem}
    (h : Leads sink.recording cs r (s, found)
      (if cond then sink.recording.problem n problem (s, found) else (s, found)) Q) :
    Leads sink.recording cs r (s, found) (if cond then sink.problem n problem s else s,
      found ++ if cond then [.problem n problem] else []) Q := by
  split_ifs at h ⊢
  · exact h
  · rwa [List.append_nil]

/-- One character of lyrics and chords. -/
theorem notes_leads (hout : sink.Outside P) (hr : r.Partway n p ms) (hs : P s)
    (hc : c ≠ '{' ∧ c ≠ '\n' ∧ c ≠ '\r') (hhash : ¬ (c = '#' ∧ r.column = 0))
    (found : List Event) : ∃ new q ms' s', p.Notes n c new q ∧ P s' ∧
      Leads sink.recording [c] r (s, found) (s', found ++ new) (Partway n q ms') := by
  have htab : sink.recording.inTab (s, found) = false := hout.inTab s hs
  by_cases hbrace : c = '}'
  · subst hbrace
    exact ⟨_, p, ms, _, .strayBrace p, hout.problem n _ s hs, strayBrace_leads hr⟩
  have hlyric : isLyric c = true := by simpa [isLyric, hc] using hbrace
  obtain ⟨ls, name?⟩ := p
  by_cases hopen : c = '['
  · subst hopen
    cases name? with
    | none =>
      refine ⟨_, _, ms, s, .opens ls, hs, ?_⟩
      rw [List.append_nil]
      exact open_leads hr htab
    | some name => exact ⟨_, _, ms, _, .opensAnew ls name, hout.problem n _ s hs, nested_leads hr⟩
  by_cases hclose : c = ']'
  · subst hclose
    cases name? with
    | none =>
      exact ⟨_, _, ms, _, .closesNothing ls, hout.problem n _ s hs, strayClose_leads hr htab⟩
    | some name => exact ⟨_, _, _, _, .closes ls name, hout.chord n _ s hs, close_leads _ _ hr⟩
  cases name? with
  | none =>
    exact ⟨_, _, ms, _, .lyric ls hlyric ⟨hopen, hclose⟩, hout.ite hs _ _,
      (lyric_leads _ _ hr hlyric (.inr ⟨hopen, hclose⟩) hhash).recorded⟩
  | some name =>
    exact ⟨_, _, ms, _, .nameChar ls name hlyric ⟨hopen, hclose⟩, hout.ite hs _ _,
      (nameChar_leads _ _ hr hlyric ⟨hopen, hclose⟩ hhash).recorded⟩

/-- The characters of a line before its directive. What is found after them settles the account. -/
theorem part_leads (hout : sink.Outside P) (hr : r.Partway n p ms) (hs : P s)
    (hcs : ∀ c ∈ cs, c ≠ '{' ∧ c ≠ '\n' ∧ c ≠ '\r')
    (hhash : r.column = 0 → cs.head? ≠ some '#') (found : List Event) :
    ∃ new q ms' s', (∀ last, AccountedFrom n q [] last → AccountedFrom n p cs (new ++ last)) ∧
      Leads sink.recording cs r (s, found) (s', found ++ new) (Partway n q ms') := by
  induction cs generalizing r p ms s found with
  | nil =>
    refine ⟨[], p, ms, s, fun last h => h, ?_⟩
    rw [List.append_nil]
    exact .nil hr
  | cons c cs ih =>
    obtain ⟨new, q, ms₁, s₁, hnotes, hs₁, r₁, hfeeds₁, hcolumn₁, hr₁⟩ :=
      notes_leads hout hr hs (hcs c List.mem_cons_self)
        (fun h => hhash h.2 (congrArg some h.1)) found
    obtain ⟨new', q', ms', s', haccounted, hleads⟩ := ih hr₁ hs₁
      (fun d hd => hcs d (List.mem_cons_of_mem c hd)) (fun hzero => by
        rw [hcolumn₁] at hzero
        cases hzero) (found ++ new)
    refine ⟨new ++ new', q', ms', s', fun last hlast => ?_, ?_⟩
    · rw [List.append_assoc]
      exact .cons hnotes (haccounted last hlast)
    · rw [← List.append_assoc]
      exact .cons (P := fun r => r = r₁) ⟨r₁, hfeeds₁, hcolumn₁, rfl⟩ fun _ hr _ => hr ▸ hleads

/-! ## From the directive on -/

/-- In a directive of the line, or past it. -/
inductive PastLyrics (r : Reader) : Prop
  | inside (mode : r.mode = .directive) (hasDirective : r.hasDirective = true)
      (column : r.column ≠ 0)
  | behind (skips : r.Skips r.line)

/-- The reader is past the lyrics of the line, and what it has found since accounts for none of
them. -/
def FindsAside (r : Reader) (found : List Event) : Prop :=
  r.PastLyrics ∧ ∀ e ∈ found, e.IsNeutral

theorem neutral_append {new : List Event} (h : ∀ e ∈ found, e.IsNeutral)
    (h' : ∀ e ∈ new, e.IsNeutral) : ∀ e ∈ found ++ new, e.IsNeutral := fun e he =>
  (List.mem_append.1 he).elim (h e) (h' e)

theorem closeDirective_aside (hE : sink.Faults E) (h : ∀ e ∈ found, e.IsNeutral) :
    Finds (closeDirective sink.recording) r found E FindsAside := by
  refine .read fun _ => .bind (P := fun _ found' => found' = found) (update_finds rfl) ?_
  rintro r' _ rfl
  refine .bind (P := fun _ found' => ∀ e ∈ found', e.IsNeutral)
    (send_finds (hE.directive _ _) (neutral_append h (by simp [Event.IsNeutral]))) ?_
  exact fun r' found' h => update_finds ⟨.behind rfl, h⟩

theorem place_aside (hE : sink.Faults E) (hmode : r.mode = .directive)
    (hflag : r.hasDirective = true) (hcolumn : r.column ≠ 0) (h : ∀ e ∈ found, e.IsNeutral)
    (inTab : Bool) (c : Char) :
    Finds (place sink.recording r.mode inTab c) r found E FindsAside := by
  rw [hmode]
  by_cases hclose : c = '}'
  · subst hclose
    exact closeDirective_aside hE h
  by_cases hopen : c = '{'
  · subst hopen
    show Finds openDirective r found E _
    exact update_finds ⟨.inside rfl rfl hcolumn, h⟩
  · rw [place_collectsDirective ⟨hopen, hclose⟩]
    refine collect_finds fun new hnew => ⟨.inside hmode hflag hcolumn, neutral_append h ?_⟩
    intro e he
    rw [hnew e he]
    exact .inr rfl

theorem feed_aside (hE : sink.Faults E) (hbreak : c ≠ '\n') (h : r.FindsAside found) :
    Finds (feed sink.recording c) r found E FindsAside := by
  by_cases hreturn : c = '\r'
  · subst hreturn
    exact .of_ok (feed_return sink.recording ⟨r, ·⟩) h
  obtain ⟨hpast, hneutral⟩ := h
  cases hpast with
  | inside hmode hflag hcolumn =>
    exact .of_place hreturn hbreak (by simp [hmode]) (by simp [hcolumn]) fun inTab =>
      place_aside (r := { r with column := r.column + 1 }) hE hmode hflag (Nat.succ_ne_zero _)
        hneutral inTab c
  | behind hskips =>
    exact .of_ok (feed_skip hreturn hbreak hskips.mode) ⟨.behind hskips.further, hneutral⟩

theorem feeds_aside (hE : sink.Faults E) (hcs : '\n' ∉ cs) (h : r.FindsAside found) :
    Finds (feeds sink.recording cs) r found E FindsAside := by
  induction cs generalizing r found with
  | nil => exact .pure h
  | cons c cs ih =>
    rw [List.mem_cons, not_or] at hcs
    exact .bind (feed_aside hE (Ne.symm hcs.1) h) fun _ _ h => ih hcs.2 h

theorem newline_aside (hE : sink.Faults E) (h : r.FindsAside found) :
    Finds (feed sink.recording '\n') r found E fun _ found' => ∀ e ∈ found', e.IsNeutral := by
  obtain ⟨hpast, hneutral⟩ := h
  cases hpast with
  | inside hmode hflag hcolumn =>
    refine .congr (feed_newline (by simp [hmode])) ?_
    refine (endLine_finds hE { r with column := r.column + 1 } found).mono ?_
    rintro _ _ ⟨-, rfl⟩
    refine neutral_append hneutral ?_
    simp [ending, leftOpen, hmode, hflag, Event.IsNeutral]
  | behind hskips => exact .of_ok (feed_newline_skip hskips) hneutral

/-- The rest of a line after its directive has been opened. -/
theorem feeds_line_aside (hE : sink.Faults E) (hcs : '\n' ∉ cs) (h : r.FindsAside found) :
    Finds (feeds sink.recording (cs ++ ['\n'])) r found E fun _ found' =>
      ∀ e ∈ found', e.IsNeutral := by
  rw [feeds_concat]
  exact (feeds_aside hE hcs h).bind fun _ _ h => newline_aside hE h

/-! ## Whole lines -/

/-- What is found after the last character before the directive, or before the end of the line,
settles the account. -/
theorem rest_accounted (hE : sink.Faults E) (hr : r.Partway n p ms) (hcs : '\n' ∉ cs)
    (hbrace : ∀ c ∈ cs.head?, c = '{') :
    Finds (feeds sink.recording (cs ++ ['\n'])) r [] E fun _ last =>
      AccountedFrom n p [] last := by
  cases cs with
  | nil =>
    have hopen :
        ({ r with column := r.column + 1 } : Reader).leftOpen.toList.map (.problem r.line) =
          if p.name?.isSome then [Event.problem n .unterminatedChord] else [] := by
      rw [(hr.seen _).leftOpen_eq, hr.line]
      split <;> rfl
    show Finds (feed sink.recording '\n' >>= fun _ => pure ()) r [] E _
    refine .bind (.congr (feed_newline hr.skip_ne)
      (endLine_finds hE { r with column := r.column + 1 } [])) ?_
    rintro _ _ ⟨-, rfl⟩
    refine .pure ?_
    rw [List.nil_append, ending, hopen, hr.hasDirective]
    exact accountedFrom_nil (.inl rfl) (by simp [Event.IsNeutral])
  | cons c cs =>
    obtain rfl : c = '{' := hbrace c rfl
    replace hcs : '\n' ∉ cs := fun h => hcs (List.mem_cons_of_mem _ h)
    intro t
    obtain ⟨r', hfeeds, hcolumn, hmode, hflag⟩ := brace_leads sink.recording t hr
    have hpast : r'.PastLyrics := .inside hmode hflag (by rw [hcolumn]; exact Nat.succ_ne_zero _)
    have haside := feeds_line_aside hE hcs (r := r') ⟨hpast, List.forall_mem_nil _⟩
      (if p.name?.isSome then sink.recording.problem n .directiveInChord t else t)
    have hsplit : feeds sink.recording ('{' :: cs ++ ['\n']) (r, t) =
        feeds sink.recording (cs ++ ['\n']) (r', _) := feeds_append hfeeds
    unfold Ends at haside ⊢
    rw [hsplit]
    refine Ends.mono haside ?_
    rintro _ q ⟨new, hnew, hneutral⟩
    refine ⟨(if p.name?.isSome then [.problem n .directiveInChord] else []) ++ new, ?_,
      accountedFrom_nil (.inr rfl) hneutral⟩
    rw [hnew, ← List.append_assoc]
    split
    · rfl
    · rw [List.append_nil]

/-- Outside of tablatures what is found on a line accounts for its brackets and its closing braces,
for lyrics that have no room and for names that have none, up to its directive. -/
theorem line_accounted (hs : sink.Accepts) (hout : sink.Outside P) (hP : P s) (n : Nat)
    {line : List Char} (hline : '\n' ∉ line)
    (hhash : (line.filter (· ≠ '\r')).head? ≠ some '#') :
    ∃ t, feeds sink.recording (line ++ ['\n']) (atLine n, s, []) = .ok () (atLine (n + 1), t) ∧
      Accounted n ((line.filter (· ≠ '\r')).takeWhile (· ≠ '{')) t.2 := by
  obtain ⟨t, hok, -⟩ := line_finds hs n line hline s
  refine ⟨t, hok, ?_⟩
  have hreturn : (line ++ ['\n']).filter (· ≠ '\r') = line.filter (· ≠ '\r') ++ ['\n'] := by
    rw [List.filter_append]
    rfl
  rw [← feeds_filter_return, hreturn] at hok
  have hclean : ∀ c ∈ line.filter (· ≠ '\r'), c ≠ '\n' ∧ c ≠ '\r' := by
    intro c hc
    obtain ⟨hmem, hne⟩ := List.mem_filter.1 hc
    exact ⟨fun he => hline (he ▸ hmem), by simpa using hne⟩
  generalize line.filter (· ≠ '\r') = cs at hok hclean hhash ⊢
  have hsplit : cs.takeWhile (· ≠ '{') ++ cs.dropWhile (· ≠ '{') = cs :=
    List.takeWhile_append_dropWhile
  have hpart : ∀ c ∈ cs.takeWhile (· ≠ '{'), c ≠ '{' ∧ c ≠ '\n' ∧ c ≠ '\r' := fun c hc =>
    ⟨by simpa using List.mem_takeWhile_imp hc, hclean c (hsplit ▸ List.mem_append_left _ hc)⟩
  have hrest : '\n' ∉ cs.dropWhile (· ≠ '{') := fun hc =>
    (hclean _ (hsplit ▸ List.mem_append_right _ hc)).1 rfl
  have hbrace : ∀ c ∈ (cs.dropWhile (· ≠ '{')).head?, c = '{' := by
    intro c hc
    have hfirst := List.head?_dropWhile_not (· ≠ '{') cs
    rw [Option.mem_def.1 hc] at hfirst
    simpa using hfirst
  obtain ⟨new, q, ms, s', haccounted, r, hfeeds, -, hr⟩ := part_leads hout (partway_atLine n) hP
    hpart (fun _ hhead => hhash (by rw [← hsplit, List.head?_append, hhead]; rfl)) []
  have hlast := rest_accounted hs hr hrest hbrace (s', [] ++ new)
  unfold Ends at hlast
  rw [← hsplit, List.append_assoc, feeds_append hfeeds] at hok
  rw [hok] at hlast
  obtain ⟨last, hrecord, hsettled⟩ := hlast
  rw [hrecord]
  exact (haccounted last hsettled).accounted

theorem line_accounted_nestedChord :
    Sink.tablatures.Accepts ∧ Sink.tablatures.Outside (fun inTab => inTab = false) ∧
      '\n' ∉ "\r]a\x7d[b[C\r d]\x7be\x7d[f".toList ∧
      ("\r]a\x7d[b[C\r d]\x7be\x7d[f".toList.filter (· ≠ '\r')).head? ≠ some '#' ∧
      ∃ t, feeds Sink.tablatures.recording ("\r]a\x7d[b[C\r d]\x7be\x7d[f".toList ++ ['\n'])
          (atLine 7, false, []) = .ok () (atLine 8, t) ∧
        Accounted 7 "]a\x7d[b[C d]".toList t.2 := by
  have hbreak : '\n' ∉ "\r]a\x7d[b[C\r d]\x7be\x7d[f".toList := by decide
  have hhash : ("\r]a\x7d[b[C\r d]\x7be\x7d[f".toList.filter (· ≠ '\r')).head? ≠ some '#' := by
    decide
  have hpart : ("\r]a\x7d[b[C\r d]\x7be\x7d[f".toList.filter (· ≠ '\r')).takeWhile (· ≠ '{') =
      "]a\x7d[b[C d]".toList := by decide
  obtain ⟨t, hok, haccounted⟩ := line_accounted Sink.tablatures_accepts Sink.tablatures_outside rfl
    7 hbreak hhash
  exact ⟨Sink.tablatures_accepts, Sink.tablatures_outside, hbreak, hhash, t, hok,
    hpart ▸ haccounted⟩

/-- Carriage returns count for nothing: behind one, a comment is still a comment, and neither they
nor stray braces take any room. -/
theorem line_unaccounted_hiddenComment :
    "\r#[".toList.head? ≠ some '#' ∧ "\r#[".toList.count '[' = 1 ∧
      findings Sink.tablatures ("\r#[" ++ "\n") false = [] ∧
      ∀ c ∈ ['}', '\r'], 255 < (outside false (List.replicate 255 'a' ++ [c])).length ∧
        .problem 1 (.bufferOverflow .lyrics) ∉
          findings Sink.tablatures (String.ofList (List.replicate 255 'a' ++ [c]) ++ "\n")
            false := by
  have hplain : feeds Sink.tablatures.recording (List.replicate 255 'a') (start, false, []) =
      .ok () (start.collected .lyrics (List.replicate 255 'a'), false, []) :=
    feeds_plain _ (by decide +kernel) .lyrics (by rw [List.length_replicate]; decide)
  have hfound : ∀ {c p}, feeds Sink.tablatures.recording [c, '\n']
        (start.collected .lyrics (List.replicate 255 'a'), false, []) = .ok () (atLine 2, p) →
      findings Sink.tablatures (String.ofList (List.replicate 255 'a' ++ [c]) ++ "\n") false =
        p.2 := by
    intro c p h
    refine findings_of_ok ?_ (finish_of_atLine _ 2 p)
    rw [toList_newline, String.toList_ofList, List.append_assoc, feeds_append hplain]
    exact h
  refine ⟨by decide, by decide, by decide, fun c hc => ?_⟩
  rw [List.mem_cons, List.mem_singleton] at hc
  rcases hc with rfl | rfl
  · refine ⟨by decide +kernel, ?_⟩
    rw [hfound (c := '}') rfl]
    decide
  · refine ⟨by decide +kernel, ?_⟩
    rw [hfound (c := '\r') rfl]
    decide

end Reader

end Songbook.Markup
