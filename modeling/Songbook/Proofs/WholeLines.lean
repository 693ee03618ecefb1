import Mathlib.Data.List.Induction
import Songbook.Proofs.Findings

/-!
# Whole lines

Wherever the reader is in a text, it stands as the kind of the line so far has it (`feeds_amid`). So
the kind of a line as a whole says what is found on it (`line_finds`), and what is found when the
text ends there (`findings_finalNewline`).
-/

namespace Songbook.Markup

variable {ε σ : Type}

/-- What the text has of its last line, without carriage returns. -/
def currentLine (cs : List Char) : List Char := (afterLast '\n' cs).filter (· ≠ '\r')

theorem currentLine_newline (cs : List Char) : currentLine (cs ++ ['\n']) = [] := by
  rw [currentLine, afterLast_append]
  rfl

theorem currentLine_return (cs : List Char) : currentLine (cs ++ ['\r']) = currentLine cs := by
  rw [currentLine, currentLine, afterLast_append, if_neg (by decide), List.filter_append]
  simp

theorem currentLine_append {c : Char} (hreturn : c ≠ '\r') (hbreak : c ≠ '\n') (cs : List Char) :
    currentLine (cs ++ [c]) = currentLine cs ++ [c] := by
  rw [currentLine, currentLine, afterLast_append, if_neg hbreak, List.filter_append]
  simp [hreturn]

theorem currentLine_of_notMem {cs : List Char} (h : '\n' ∉ cs) :
    currentLine cs = cs.filter (· ≠ '\r') := by
  rw [currentLine, afterLast, LineKind.takeWhile_of_notMem (by simpa using h), List.reverse_reverse]

namespace Reader

variable {sink : Sink ε σ} {E : ε → Prop} {r : Reader} {found : List Event} {n : Nat}
  {cs : List Char}

theorem feeds_concat (sink : Sink ε σ) (cs : List Char) (c : Char) :
    feeds sink (cs ++ [c]) = feeds sink cs >>= fun _ => feed sink c := by
  show forM (cs ++ [c]) (feed sink) = _
  rw [List.forM_append]
  simp
  rfl

/-- How the reader stands in the middle of a text that it has read from line `n` on, and what it has
found there: first `before` the line, and then on it. -/
def Amid (n : Nat) (cs : List Char) (r : Reader) (found : List Event) : Prop :=
  ∃ before here, found = before ++ here ∧ ('\n' ∉ cs → before = []) ∧
    Stands (n + cs.count '\n') (.of (currentLine cs)) r here ∧ r.column = (currentLine cs).length

theorem amid_atLine (n : Nat) : Amid n [] (atLine n) [] :=
  ⟨[], [], rfl, fun _ => rfl, stands_atLine n, rfl⟩

/-- Before the line, what was found stays as it was. -/
theorem Finds.after {x : Step ε (σ × List Event) Unit} {Q : Reader → List Event → Prop}
    (h : Finds x r found E Q) (before : List Event) : Finds x r (before ++ found) E fun r' found' =>
      ∃ new, found' = before ++ found ++ new ∧ Q r' (found ++ new) := fun t => by
  refine (h t).mono ?_
  rintro _ p ⟨new, hnew, hQ⟩
  exact ⟨new, hnew, new, rfl, hQ⟩

theorem feed_return (sink : Sink ε σ) (p : Reader × σ) : feed sink '\r' p = .ok () p := rfl

/-- One character further, everything new is found on the line of that character. -/
theorem feed_amid (hE : sink.Faults E) (h : Amid n cs r found) (c : Char) :
    Finds (feed sink.recording c) r found E fun r' found' => Amid n (cs ++ [c]) r' found' ∧
      ∃ new, found' = found ++ new ∧ ∀ e ∈ new, e.number = n + cs.count '\n' := by
  obtain ⟨before, here, rfl, hbefore, hstands, hcolumn⟩ := h
  have hnumber : ∀ new, (∀ e ∈ here ++ new, e.number = n + cs.count '\n') →
      ∀ e ∈ new, e.number = n + cs.count '\n' := fun new h e he =>
    h e (List.mem_append_right _ he)
  by_cases hreturn : c = '\r'
  · -- a carriage return is no part of the line
    subst hreturn
    refine .of_ok (feed_return sink.recording ⟨r, ·⟩) ⟨⟨before, here, rfl, ?_, ?_, ?_⟩, [], ?_⟩
    · simpa using hbefore
    · rw [currentLine_return, List.count_append]
      exact hstands
    · rwa [currentLine_return]
    · simp
  by_cases hbreak : c = '\n'
  · -- all that was found on the line is now before the line
    subst hbreak
    refine ((newline_finds hE hstands).after before).mono ?_
    rintro _ _ ⟨new, rfl, rfl, hyields⟩
    refine ⟨⟨before ++ here ++ new, [], by simp, by simp, ?_, ?_⟩, new, rfl,
      hnumber new hyields.number⟩
    · rw [currentLine_newline, List.count_append]
      exact stands_atLine _
    · rw [currentLine_newline]
      rfl
  · refine ((feed_finds hE hreturn hbreak hstands).after before).mono ?_
    rintro r' _ ⟨new, rfl, hstands', hcolumn'⟩
    refine ⟨⟨before, here ++ new, by simp, ?_, ?_, ?_⟩, new, rfl, hnumber new hstands'.number⟩
    · simpa [Ne.symm hbreak] using hbefore
    · have hfirst : decide (r.column = 0) = (currentLine cs).isEmpty := by
        rw [hcolumn]
        cases currentLine cs <;> simp
      have hcount : (cs ++ [c]).count '\n' = cs.count '\n' := by
        simp [hbreak]
      rw [currentLine_append hreturn hbreak, hcount, LineKind.of_append, ← hfirst]
      exact hstands'
    · rw [currentLine_append hreturn hbreak, List.length_append, hcolumn', hcolumn]
      rfl

theorem feeds_amid (hE : sink.Faults E) (n : Nat) (cs : List Char) :
    Finds (feeds sink.recording cs) (atLine n) [] E (Amid n cs) := by
  induction cs using List.reverseRecOn with
  | nil => exact .pure (amid_atLine n)
  | append_singleton cs c ih =>
    rw [feeds_concat]
    refine ih.bind fun r found h => ?_
    exact (feed_amid hE h c).mono fun _ _ h => h.1

/-- A line from its first character to its newline. -/
theorem feeds_line (hE : sink.Faults E) (n : Nat) (hcs : '\n' ∉ cs) :
    Finds (feeds sink.recording (cs ++ ['\n'])) (atLine n) [] E fun r found =>
      r = atLine (n + 1) ∧ (LineKind.of (cs.filter (· ≠ '\r'))).Yields n found := by
  rw [feeds_concat]
  refine (feeds_amid hE n cs).bind ?_
  rintro r _ ⟨before, here, rfl, hbefore, hstands, -⟩
  rw [hbefore hcs, List.nil_append]
  rw [currentLine_of_notMem hcs, List.count_eq_zero_of_not_mem hcs] at hstands
  exact newline_finds hE hstands

/-- After its directive, a line is passed over up to its newline. -/
theorem feeds_skip (hskips : r.Skips n) (hcs : '\n' ∉ cs) (s : σ) :
    feeds sink (cs ++ ['\n']) (r, s) = .ok () (atLine (n + 1), s) := by
  induction cs generalizing r with
  | nil => exact feeds_cons (feed_newline_skip hskips s)
  | cons c cs ih =>
    have hc : c ≠ '\n' := fun h => hcs (by simp [h])
    replace hcs : '\n' ∉ cs := fun h => hcs (List.mem_cons_of_mem c h)
    by_cases hreturn : c = '\r'
    · subst hreturn
      exact (feeds_cons (feed_return sink _)).trans (ih hskips hcs)
    · exact (feeds_cons (feed_skip hreturn hc hskips.mode s)).trans (ih hskips.further hcs)

/-- A whole line is read to its end, and its kind says what is found on it, whatever the sink makes
of it. Once its directive is closed, nothing on it counts any more. -/
theorem line_finds (hs : sink.Accepts) (n : Nat) (line : List Char) (hline : '\n' ∉ line) (s : σ) :
    ∃ t, feeds sink.recording (line ++ ['\n']) (atLine n, s, []) = .ok () (atLine (n + 1), t) ∧
      (LineKind.of (line.filter (· ≠ '\r'))).Yields n t.2 ∧
      ∀ text, LineKind.of (line.filter (· ≠ '\r')) = .directive text → ∀ rest, '\n' ∉ rest →
        feeds sink.recording (line ++ rest ++ ['\n']) (atLine n, s, []) =
          .ok () (atLine (n + 1), t) := by
  obtain ⟨_, ⟨_, t⟩, hok, new, hnew, rfl, hyields⟩ := (feeds_line hs n hline (s, [])).exists_ok
  rw [List.nil_append] at hnew hyields
  refine ⟨t, hok, hnew ▸ hyields, fun text htext rest hrest => ?_⟩
  -- where the line ends the reader passes over what comes, be it a newline or more characters
  obtain ⟨_, ⟨r, t'⟩, hok', _, -, _, _, -, -, hstands, -⟩ :=
    (feeds_amid hs n line (s, [])).exists_ok
  rw [currentLine_of_notMem hline, List.count_eq_zero_of_not_mem hline, htext] at hstands
  cases hstands with
  | directive skips hinner =>
    rw [feeds_append hok', ← List.nil_append ['\n'], feeds_skip skips List.not_mem_nil] at hok
    rw [List.append_assoc, feeds_append hok', feeds_skip skips hrest]
    exact hok

theorem line_finds_nested_braces :
    '\n' ∉ "a\x7d [b\x7bc\x7b [d]\r\x7d".toList ∧
      ∃ t, feeds Sink.tablatures.recording ("a\x7d [b\x7bc\x7b [d]\r\x7d".toList ++ ['\n'])
          (atLine 7, true, []) = .ok () (atLine 8, t) ∧
        (LineKind.directive " [d]".toList).Yields 7 t.2 ∧
        feeds Sink.tablatures.recording
            ("a\x7d [b\x7bc\x7b [d]\r\x7d".toList ++ " e\x7d \x7bf\x7d".toList ++ ['\n'])
          (atLine 7, true, []) = .ok () (atLine 8, t) := by
  have hbreak : '\n' ∉ "a\x7d [b\x7bc\x7b [d]\r\x7d".toList := by decide
  have hkind : LineKind.of ("a\x7d [b\x7bc\x7b [d]\r\x7d".toList.filter (· ≠ '\r')) =
      .directive " [d]".toList := by decide
  obtain ⟨t, hok, hyields, hrest⟩ := line_finds Sink.tablatures_accepts 7 _ hbreak true
  rw [hkind] at hyields
  exact ⟨hbreak, t, hok, hyields, hrest _ hkind _ (by decide)⟩

/-! ## The last line -/

/-- What is found in a text. -/
def findings (sink : Sink ε σ) (text : String) (s : σ) : List Event :=
  (endState (readText sink.recording text) (s, [])).2

/-- What holds in the end of a state and its record holds of the state and what is found. -/
theorem readText_finds {E : ε → Prop} {Q : σ → List Event → Prop} {text : String} {s : σ}
    (h : Ends (readText sink.recording text) (s, []) E fun _ p => Q p.1 p.2) :
    Ends (readText sink text) s E fun _ t => Q t (findings sink text s) := by
  unfold findings endState
  unfold Ends at h ⊢
  rw [readText_carried sink.carries_fst text (s, [])]
  cases hread : readText sink.recording text (s, []) <;> rw [hread] at h <;> exact h

/-- What is found in a text that may go on. -/
def findingsSoFar (sink : Sink ε σ) (text : String) (s : σ) : List Event :=
  (endState (feedAll sink.recording text) (start, s, [])).2.2

theorem exists_amid (hs : sink.Accepts) (cs : List Char) (s : σ) :
    ∃ r t, feeds sink.recording cs (start, s, []) = .ok () (r, t) ∧ Amid 1 cs r t.2 := by
  obtain ⟨_, ⟨r, t⟩, hok, new, hnew, hamid⟩ := (feeds_amid hs 1 cs (s, [])).exists_ok
  rw [List.nil_append] at hnew
  exact ⟨r, t, hok, hnew ▸ hamid⟩

theorem findings_of_ok {text : String} {s : σ} {p q : Reader × (σ × List Event)}
    (h : feeds sink.recording text.toList (start, s, []) = .ok () p)
    (hfinish : finish sink.recording p = .ok () q) : findings sink text s = q.2.2 := by
  have hread : read sink.recording text (start, s, []) = .ok () q := (bind_of_ok h).trans hfinish
  unfold findings endState readText
  rw [hread]

theorem finish_of_atLine (sink : Sink ε σ) (n : Nat) (s : σ) :
    finish sink (atLine n, s) = .ok () (atLine n, s) := rfl

theorem finish_of_column (h : r.column ≠ 0) (s : σ) :
    finish sink (r, s) = endLine sink (r, s) := by
  show (if r.column ≠ 0 then _ else _ : Step ε σ Unit) (r, s) = _
  rw [if_pos h]

theorem toList_newline (text : String) : (text ++ "\n").toList = text.toList ++ ['\n'] :=
  String.toList_append

theorem exists_endLine (hs : sink.Accepts) (r : Reader) (t : σ × List Event) :
    ∃ t', endLine sink.recording (r, t) = .ok () (atLine (r.line + 1), t') ∧
      t'.2 = t.2 ++ r.ending := by
  obtain ⟨_, ⟨_, t'⟩, hok, new, hnew, rfl, hending⟩ := (endLine_finds hs r [] t).exists_ok
  exact ⟨t', hok, hnew.trans (congrArg (t.2 ++ ·) hending)⟩

theorem findings_unterminated (hs : sink.Accepts) {text : String} {s : σ} {t : σ × List Event}
    (h : feeds sink.recording text.toList (start, s, []) = .ok () (r, t)) (hcolumn : r.column ≠ 0) :
    findings sink text s = t.2 ++ r.ending := by
  obtain ⟨t', hok, hrecord⟩ := exists_endLine hs r t
  rw [← finish_of_column hcolumn] at hok
  exact (findings_of_ok h hok).trans hrecord

theorem findings_newline_skip {text : String} {s : σ} {t : σ × List Event}
    (h : feeds sink.recording text.toList (start, s, []) = .ok () (r, t)) (hskips : r.Skips n) :
    findings sink (text ++ "\n") s = t.2 := by
  refine findings_of_ok ?_ (finish_of_atLine sink.recording (n + 1) t)
  rw [toList_newline, feeds_append h]
  exact feeds_cons (feed_newline_skip hskips t)

theorem findings_newline (hs : sink.Accepts) {text : String} {s : σ} {t : σ × List Event}
    (h : feeds sink.recording text.toList (start, s, []) = .ok () (r, t)) (hmode : r.mode ≠ .skip) :
    findings sink (text ++ "\n") s = t.2 ++ r.ending := by
  obtain ⟨t', hok, hrecord⟩ := exists_endLine hs { r with column := r.column + 1 } t
  have hfeed : feeds sink.recording (text ++ "\n").toList (start, s, []) =
      .ok () (atLine (r.line + 1), t') := by
    rw [toList_newline, feeds_append h]
    exact feeds_cons ((feed_newline hmode t).trans hok)
  exact (findings_of_ok hfeed (finish_of_atLine sink.recording _ t')).trans hrecord

end Reader

/-- The reader passes over the end of such a line. -/
def LineKind.isPassedOver : LineKind → Bool
  | .comment => true
  | .directive _ => true
  | .openDirective _ => false
  | .lyrics => false

namespace Reader

/-- A text whose last line has no newline is read as if it had one, unless the end of that line is
passed over: then it is found to be an empty line besides. -/
theorem findings_finalNewline (hs : sink.Accepts) (text : String) (s : σ)
    (hlast : currentLine text.toList ≠ []) :
    findings sink text s = findings sink (text ++ "\n") s ++
        (if (LineKind.of (currentLine text.toList)).isPassedOver then
          [.line (1 + text.toList.count '\n') ⟨"", []⟩] else []) ∧
      (findings sink text s = findings sink (text ++ "\n") s ↔
        (LineKind.of (currentLine text.toList)).isPassedOver = false) := by
  suffices hfound : findings sink text s = findings sink (text ++ "\n") s ++ _ from
    ⟨hfound, by rw [hfound]; simp⟩
  obtain ⟨r, t, hok, _, _, -, -, hstands, hcolumn⟩ := exists_amid hs text.toList s
  have hread : r.column ≠ 0 := by
    rw [hcolumn]
    exact fun h => hlast (List.length_eq_zero_iff.1 h)
  rw [findings_unterminated hs hok hread]
  generalize LineKind.of (currentLine text.toList) = kind at hstands ⊢
  cases hstands with
  | comment skips => rw [findings_newline_skip hok skips, skips.ending]; rfl
  | directive skips hinner => rw [findings_newline_skip hok skips, skips.ending]; rfl
  | openDirective h =>
    rw [findings_newline hs hok (by simp [h.mode])]
    exact (List.append_nil _).symm
  | lyrics h first =>
    rw [findings_newline hs hok (by rcases h.mode with hm | hm <;> simp [hm])]
    exact (List.append_nil _).symm

theorem findings_finalNewline_directive :
    currentLine "la\n[C]la \x7bc: x\x7d y".toList ≠ [] ∧
      findings Sink.tablatures "la\n[C]la \x7bc: x\x7d y" false =
        findings Sink.tablatures "la\n[C]la \x7bc: x\x7d y\n" false ++ [.line 2 ⟨"", []⟩] := by
  have hlast : currentLine "la\n[C]la \x7bc: x\x7d y".toList ≠ [] := by decide
  have hkind :
      (LineKind.of (currentLine "la\n[C]la \x7bc: x\x7d y".toList)).isPassedOver = true := by
    decide
  have hfound := findings_finalNewline Sink.tablatures_accepts _ false hlast
  rw [hkind] at hfound
  exact ⟨hlast, hfound.1⟩

/-- A comment without a newline is an empty line. -/
theorem findings_comment :
    Sink.tablatures.Accepts ∧ currentLine "# c".toList ≠ [] ∧
      findings Sink.tablatures "# c" false = [.line 1 ⟨"", []⟩] ∧
      findings Sink.tablatures ("# c" ++ "\n") false = [] :=
  ⟨Sink.tablatures_accepts, by decide, by decide, by decide⟩

end Reader

end Songbook.Markup
