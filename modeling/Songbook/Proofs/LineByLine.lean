import Songbook.Proofs.WholeLines

/-!
# Line by line

After a newline the reader knows of what it has read no more than the number of lines. So what is
found in a text is what is found in its lines, each read on its own (`findings_byLine`), with the
number of the line it stands on (`reads_lineByLine`).
-/

namespace Songbook.Markup

variable {ε σ τ : Type}

/-- The lines of a text, each with its newline; the last may have none. -/
def physicalLines : List Char → List (List Char)
  | [] => []
  | c :: cs =>
    if c = '\n' then [c] :: physicalLines cs
    else match physicalLines cs with
      | [] => [[c]]
      | line :: lines => (c :: line) :: lines

example : physicalLines "a\n\nb".toList = ["a\n".toList, "\n".toList, "b".toList] := by decide

theorem physicalLines_last {line : List Char} (h : '\n' ∉ line) (hline : line ≠ []) :
    physicalLines line = [line] := by
  induction line with
  | nil => exact absurd rfl hline
  | cons c line ih =>
    have hc : c ≠ '\n' := fun h' => h (by simp [h'])
    rw [physicalLines, if_neg hc]
    cases line with
    | nil => rfl
    | cons d line => rw [ih (fun h' => h (List.mem_cons_of_mem c h')) (by simp)]

theorem physicalLines_append {line : List Char} (h : '\n' ∉ line) (rest : List Char) :
    physicalLines (line ++ '\n' :: rest) = (line ++ ['\n']) :: physicalLines rest := by
  induction line with
  | nil => exact if_pos rfl
  | cons c line ih =>
    have hc : c ≠ '\n' := fun h' => h (by simp [h'])
    rw [List.cons_append, physicalLines, if_neg hc, ih fun h' => h (List.mem_cons_of_mem c h')]
    rfl

/-- Induction on the lines of a text, the first one first. -/
theorem lines_induction {P : List Char → Prop} (last : ∀ line, '\n' ∉ line → P line)
    (more : ∀ line rest, '\n' ∉ line → P rest → P (line ++ '\n' :: rest)) (cs : List Char) :
    P cs := by
  by_cases h : '\n' ∈ cs
  · obtain ⟨line, rest, heq, hline⟩ := List.eq_append_cons_of_mem h
    have hrest : rest.length < cs.length := by
      rw [heq]
      simp
      omega
    rw [heq]
    exact more line rest hline (lines_induction last more rest)
  · exact last cs h
termination_by cs.length

theorem Sink.Faults.below {sink : Sink ε σ} {E : ε → Prop} (h : sink.Faults E) (k : Nat) :
    (sink.below k).Faults E := ⟨fun n => h.directive (n + k), fun n => h.line (n + k)⟩

namespace Reader

variable {sink : Sink ε σ}

/-- What is found in lines, each read by a reader of its own, from the `k`-th line of the text on.
The sink's state is carried along. -/
def findingsByLine (sink : Sink ε σ) : Nat → List (List Char) → σ → List Event
  | _, [], _ => []
  | k, line :: lines, s =>
    (findings (sink.below k) (String.ofList line) s).map (Event.below k) ++
      findingsByLine sink (k + 1) lines (endState (readText (sink.below k) (String.ofList line)) s)

theorem read_append {cs : List Char} {p q : Reader × σ} (h : feeds sink cs p = .ok () q)
    (ds : List Char) :
    read sink (String.ofList (cs ++ ds)) p = read sink (String.ofList ds) q := by
  show Bind.bind (feeds sink _) _ p = Bind.bind (feeds sink _) _ q
  rw [bind_eq, bind_eq, String.toList_ofList, String.toList_ofList, feeds_append h]

/-- What is read after the first `k` lines is read by itself further down. -/
theorem readText_append {b : Sink ε τ} {g : τ → σ} {k : Nat} (h : b.Carries sink k g)
    {cs : List Char} {s : σ} {t : τ}
    (hcs : feeds sink cs (start, s) = .ok () (start.below k, g t)) (ds : List Char) :
    readText sink (String.ofList (cs ++ ds)) s = onState g (readText b (String.ofList ds) t) := by
  have hread : read sink (String.ofList ds) (start.below k, g t) =
      onState (carry k g) (read b (String.ofList ds) (start, t)) := read_carried h _ (start, t)
  rw [readText_eq, readText_eq, read_append hcs, hread, onState_onState, onState_onState]
  rfl

/-- The first line is read as if it were the whole text, and the rest as if the first line were not
there, but for the numbers of its lines. -/
theorem findings_line (hs : sink.Accepts) {line : List Char} (hline : '\n' ∉ line)
    (rest : List Char) (s : σ) :
    findings sink (String.ofList (line ++ '\n' :: rest)) s =
      findings sink (String.ofList (line ++ ['\n'])) s ++
        (findings (sink.below 1) (String.ofList rest)
          (endState (readText sink (String.ofList (line ++ ['\n']))) s)).map (Event.below 1) := by
  obtain ⟨_, ⟨_, t⟩, hok, _, -, rfl, -⟩ := (feeds_line hs 1 hline (s, [])).exists_ok
  have hread : ∀ rest, readText sink.recording (String.ofList (line ++ '\n' :: rest)) (s, []) =
      onState (fun p => (p.1, t.2 ++ p.2.map (Event.below 1)))
        (readText (sink.below 1).recording (String.ofList rest) (t.1, [])) := by
    intro rest
    rw [List.append_cons]
    refine readText_append (sink.carries_recording 1 t.2) ?_ rest
    rw [List.map_nil, List.append_nil]
    exact hok
  have hfirst : readText sink.recording (String.ofList (line ++ ['\n'])) (s, []) = .ok () t := by
    rw [hread []]
    show EStateM.Result.ok () (t.1, t.2 ++ []) = _
    rw [List.append_nil]
  have hstate : endState (readText sink (String.ofList (line ++ ['\n']))) s = t.1 := by
    rw [endState_readText, endState_of_ok hfirst]
  rw [hstate, findings, findings, endState_of_ok hfirst, endState_of_onState (hread rest)]
  rfl

theorem map_below_map_below (k : Nat) (es : List Event) :
    (es.map (Event.below 1)).map (Event.below k) = es.map (Event.below (k + 1)) := by
  rw [List.map_map]
  exact List.map_congr_left fun e _ => e.below_below k 1

theorem findings_byLine (hs : sink.Accepts) (cs : List Char) (k : Nat) (s : σ) :
    (findings (sink.below k) (String.ofList cs) s).map (Event.below k) =
      findingsByLine sink k (physicalLines cs) s := by
  -- the lines after the first one meet another state, and a sink that is one line further down
  induction cs using lines_induction generalizing k s with
  | last line hline =>
    by_cases hempty : line = []
    · subst hempty
      rfl
    · rw [physicalLines_last hline hempty, findingsByLine, findingsByLine, List.append_nil]
  | more line rest hline ih =>
    rw [physicalLines_append hline, findingsByLine, ← ih, findings_line (hs.below k) hline,
      List.map_append, map_below_map_below, Sink.below_below]

theorem Stands.line {n : Nat} {kind : LineKind} {r : Reader} {found : List Event}
    (h : Stands n kind r found) : r.line = n := by
  cases h with
  | comment skips => rw [skips]; rfl
  | directive skips hinner => rw [skips]; rfl
  | openDirective h => exact h.line
  | lyrics h first => exact h.line

theorem number_ending (r : Reader) : ∀ e ∈ r.ending, e.number = r.line := by
  intro e he
  rcases List.mem_append.1 he with he | he
  · obtain ⟨p, -, rfl⟩ := List.mem_map.1 he
    rfl
  · split at he
    · cases he
    · rw [List.mem_singleton.1 he]
      rfl

theorem findingsSoFar_of_ok {text : String} {s : σ} {p : Reader × (σ × List Event)}
    (h : feeds sink.recording text.toList (start, s, []) = .ok () p) :
    findingsSoFar sink text s = p.2.2 := by
  rw [findingsSoFar, endState_of_ok (show feedAll sink.recording text _ = _ from h)]

/-- What a further character adds to what is found before it. -/
theorem findingsSoFar_push (hs : sink.Accepts) (text : String) (c : Char) (s : σ) :
    ∃ new, findingsSoFar sink (text.push c) s = findingsSoFar sink text s ++ new ∧
      ∀ e ∈ new, e.number = 1 + text.toList.count '\n' := by
  obtain ⟨r, t, hok, hamid⟩ := exists_amid hs text.toList s
  obtain ⟨_, p, hfeed, new, hnew, -, new', hnew', hnumber⟩ :=
    ((feed_amid hs hamid c) t).exists_ok
  have hpush : feeds sink.recording (text.push c).toList (start, s, []) = .ok () p := by
    rw [String.toList_push, feeds_append hok]
    exact feeds_cons hfeed
  obtain rfl := List.append_cancel_left hnew'
  rw [findingsSoFar_of_ok hok, findingsSoFar_of_ok hpush]
  exact ⟨new, hnew, hnumber⟩

/-- What the end of the text adds to what is found before it. -/
theorem findings_of_soFar (hs : sink.Accepts) (text : String) (s : σ) :
    ∃ new, findings sink text s = findingsSoFar sink text s ++ new ∧
      ∀ e ∈ new, e.number = 1 + text.toList.count '\n' := by
  obtain ⟨r, t, hok, _, _, -, -, hstands, -⟩ := exists_amid hs text.toList s
  rw [findingsSoFar_of_ok hok]
  by_cases hcolumn : r.column = 0
  · have hfinish : finish sink.recording (r, t) = .ok () (r, t) := by
      show (if r.column ≠ 0 then _ else _ : Step ε (σ × List Event) Unit) (r, t) = _
      rw [if_neg (not_not_intro hcolumn)]
      rfl
    exact ⟨[], by rw [findings_of_ok hok hfinish, List.append_nil], by simp⟩
  · exact ⟨r.ending, findings_unterminated hs hok hcolumn, hstands.line ▸ number_ending r⟩

/-- A newline leaves nothing behind but the number of the line that follows. -/
theorem feedAll_newline (hs : sink.Accepts) (text : String) (s : σ) :
    ∃ t, feedAll sink (text ++ "\n") (start, s) =
      .ok () ({ start with line := text.toList.count '\n' + 2 }, t) := by
  obtain ⟨r, t, hok, _, _, -, -, hstands, -⟩ := exists_amid hs text.toList s
  obtain ⟨_, ⟨_, t'⟩, hnewline, _, -, rfl, -⟩ := (newline_finds hs hstands t).exists_ok
  have hfeed : feeds sink.recording (text ++ "\n").toList (start, s, []) =
      .ok () (atLine (1 + text.toList.count '\n' + 1), t') := by
    rw [toList_newline, feeds_append hok]
    exact feeds_cons hnewline
  have hplain := feeds_carried sink.carries_fst (text ++ "\n").toList (start, s, [])
  rw [hfeed] at hplain
  refine ⟨t'.1, hplain.trans ?_⟩
  rw [show 1 + text.toList.count '\n' + 1 = text.toList.count '\n' + 2 by omega]
  rfl

/-- A text is read line by line. After a newline the reader is a new one but for its line number;
what is found is what each line has by itself, the sink's state carried along; and whatever a
character or the end of the text adds has the number of the line there. -/
theorem reads_lineByLine (hs : sink.Accepts) (text : String) (s : σ) :
    (∃ t, feedAll sink (text ++ "\n") (start, s) =
        .ok () ({ start with line := text.toList.count '\n' + 2 }, t)) ∧
      findings sink text s = findingsByLine sink 0 (physicalLines text.toList) s ∧
      (∀ c, ∃ new, findingsSoFar sink (text.push c) s = findingsSoFar sink text s ++ new ∧
        ∀ e ∈ new, e.number = 1 + text.toList.count '\n') ∧
      ∃ new, findings sink text s = findingsSoFar sink text s ++ new ∧
        ∀ e ∈ new, e.number = 1 + text.toList.count '\n' := by
  refine ⟨feedAll_newline hs text s, ?_, fun c => findingsSoFar_push hs text c s,
    findings_of_soFar hs text s⟩
  have hlines := findings_byLine hs text.toList 0 s
  rwa [Event.map_below_zero, String.ofList_toList] at hlines

theorem reads_lineByLine_tablature :
    Sink.tablatures.Accepts ∧
      findings Sink.tablatures "# c\n[C\n\x7bsot\x7d x\n[x]\n\x7bla" false =
        findingsByLine Sink.tablatures 0
          (physicalLines "# c\n[C\n\x7bsot\x7d x\n[x]\n\x7bla".toList) false ∧
      findings Sink.tablatures "# c\n[C\n\x7bsot\x7d x\n[x]\n\x7bla" false =
        [.problem 2 .unterminatedChord, .line 2 ⟨"", []⟩, .directive 3 "sot", .line 4 ⟨"[x]", []⟩,
          .problem 5 .unterminatedDirective] :=
  have hread := reads_lineByLine Sink.tablatures_accepts "# c\n[C\n\x7bsot\x7d x\n[x]\n\x7bla" false
  ⟨Sink.tablatures_accepts, hread.2.1, by decide +kernel⟩

end Reader

end Songbook.Markup
