import Songbook.Proofs.LineByLine

/-!
# Lines of lyrics and chords

A text without braces is made of comments and of lines of lyrics with chords. `lineOf` says what
such a line comes to: the characters outside of its brackets, and the names in those that are
closed. Outside of tablatures the reader gives a sink these lines one after the other
(`readText_sets`).
-/

namespace Songbook.Markup

variable {ε σ β : Type}

/-- The characters outside of brackets, in one at the beginning if `inside`. Brackets that close
nothing are dropped. -/
def outside (inside : Bool) : List Char → List Char
  | [] => []
  | c :: cs =>
    if c = '[' then outside true cs
    else if c = ']' then outside false cs
    else if inside then outside true cs
    else c :: outside false cs

/-- The names in closed brackets, each with the number of characters outside before it. At the
beginning there have been `n`, and the bracket that is open has that name so far. A bracket opened
inside of another begins the name anew. -/
def closedNames (n : Nat) (name? : Option (List Char)) : List Char → List (Nat × List Char)
  | [] => []
  | c :: cs =>
    if c = '[' then closedNames n (some []) cs
    else if c = ']' then name?.toList.map (n, ·) ++ closedNames n none cs
    else match name? with
      | some name => closedNames n (some (name ++ [c])) cs
      | none => closedNames (n + 1) none cs

/-- What is kept of a name: no spaces, and no more than there is room for. -/
def keptName (cs : List Char) : List Char := (cs.filter (· ≠ ' ')).take Token.chordName.capacity

/-- What the closed brackets put over a line, by the names that are shown for theirs. -/
def marksOf (shown : String → String) (n : Nat) (name? : Option (List Char)) (cs : List Char) :
    List ChordMark :=
  (closedNames n name? cs).map fun (offset, name) =>
    ⟨min offset Token.lyrics.capacity, shown (String.ofList (keptName name))⟩

/-- What a line of lyrics and chords comes to. -/
def lineOf (shown : String → String) (cs : List Char) : Line :=
  ⟨String.ofList ((outside false cs).take Token.lyrics.capacity), marksOf shown 0 none cs⟩

example : lineOf id "a]b[A m]c [D[E]d[F".toList = ⟨"abc d", [⟨2, "Am"⟩, ⟨4, "E"⟩]⟩ := by decide

/-- The lines of a text without carriage returns, but for comments. -/
def lyricsLines (cs : List Char) : List (List Char) :=
  ((physicalLines cs).filter (·.head? ≠ some '#')).map (·.filter (· ≠ '\n'))

theorem lyricsLines_append {line : List Char} (hline : '\n' ∉ line) (rest : List Char) :
    lyricsLines (line ++ '\n' :: rest) =
      (if line.head? = some '#' then [] else [line]) ++ lyricsLines rest := by
  have hwhole : (line ++ ['\n']).filter (· ≠ '\n') = line := by
    rw [List.filter_append, List.filter_eq_self.2]
    · simp
    · intro c hc
      exact decide_eq_true fun he => hline (he ▸ hc)
  have hhead : (line ++ ['\n']).head? = some '#' ↔ line.head? = some '#' := by
    cases line <;> simp
  unfold lyricsLines
  rw [physicalLines_append hline, List.filter_cons]
  by_cases hcomment : line.head? = some '#'
  · rw [if_pos hcomment, if_neg (by simpa using hhead.2 hcomment), List.nil_append]
  · rw [if_neg hcomment, if_pos (by simpa using fun h => hcomment (hhead.1 h)), List.map_cons,
      hwhole]
    rfl

theorem lyricsLines_last {line : List Char} (hline : '\n' ∉ line) (hne : line ≠ []) :
    lyricsLines line = if line.head? = some '#' then [] else [line] := by
  have hwhole : line.filter (· ≠ '\n') = line :=
    List.filter_eq_self.2 fun c hc => decide_eq_true fun he => hline (he ▸ hc)
  unfold lyricsLines
  rw [physicalLines_last hline hne, List.filter_cons]
  split <;> simp_all

/-- The rows of the lines of a text without carriage returns, in order. -/
def rowsOf (shown : String → String) (rows : Line → List β) (cs : List Char) : List β :=
  (lyricsLines cs).flatMap fun line => rows (lineOf shown line)

/-- In a state of `P bs` the sink has set `bs`, and no tablature is open. It shows names as `shown`
says, and sets `rows` of a line; an empty line has none. -/
structure Sink.Sets (sink : Sink ε σ) (shown : String → String) (rows : Line → List β)
    (P : List β → σ → Prop) : Prop where
  inTab : ∀ bs s, P bs s → sink.inTab s = false
  chord : ∀ bs n name s, P bs s →
    (sink.chord n name s).1 = shown name ∧ P bs (sink.chord n name s).2
  problem : ∀ bs n p s, P bs s → P bs (sink.problem n p s)
  line : ∀ bs n content s, P bs s →
    Ends (sink.line n content) s (fun _ => False) fun _ t => P (bs ++ rows content) t
  empty : rows ⟨"", []⟩ = []

/-- Stands for itself or belongs to a chord. -/
def isLyric (c : Char) : Bool := !(['{', '}', '\n', '\r'].contains c)

theorem isLyric_ne {c : Char} (hc : isLyric c = true) : c ≠ '{' ∧ c ≠ '}' ∧ c ≠ '\n' ∧ c ≠ '\r' := by
  simpa [isLyric] using hc

namespace Reader

variable {sink : Sink ε σ} {shown : String → String} {rows : Line → List β} {P : List β → σ → Prop}
  {n : Nat} {r : Reader} {ls : List Char} {ms : List ChordMark} {name? : Option (List Char)}
  {bs : List β} {s : σ}

/-- In the middle of line `n`: with these characters outside so far, these marks, and this name in
the bracket that is open. -/
structure Midway (n : Nat) (ls : List Char) (ms : List ChordMark) (name? : Option (List Char))
    (r : Reader) : Prop where
  line : r.line = n
  hasDirective : r.hasDirective = false
  lyrics : r.lyrics.reversed = (ls.take Token.lyrics.capacity).reverse
  marks : r.marks = ms.reverse
  mode : r.mode = if name?.isSome then .chord else .text
  chordName : ∀ name ∈ name?, r.chordName.reversed = (keptName name).reverse

theorem midway_atLine (n : Nat) : (atLine n).Midway n [] [] none :=
  ⟨rfl, rfl, rfl, rfl, rfl, by simp⟩

theorem Midway.skip_ne (h : r.Midway n ls ms name?) : r.mode ≠ .skip := by
  rw [h.mode]
  split <;> decide

/-- The line as it stands. -/
theorem Midway.content_eq (h : r.Midway n ls ms name?) :
    r.content = ⟨String.ofList (ls.take Token.lyrics.capacity), ms⟩ := by
  unfold content Buffer.text
  rw [h.lyrics, h.marks, List.reverse_reverse, List.reverse_reverse]

section

variable (h : sink.Sets shown rows P)
include h

/-- Collecting a character leaves the state as it was, but for a problem. -/
theorem collect_sets (kind : Token) (c : Char) (hs : P bs s) :
    ∃ s', collect sink kind c (r, s) =
      .ok () (r.setBuffer ((r.buffer kind).push kind c).1 kind, s') ∧ P bs s' := by
  refine ⟨_, rfl, ?_⟩
  split
  · exact h.problem _ _ _ _ hs
  · exact hs

/-- A character outside of brackets. -/
theorem place_outside {c : Char} (hc : isLyric c = true) (hr : r.Midway n ls ms none)
    (hs : P bs s) : ∃ ls' name?' r' s', place sink .text false c (r, s) = .ok () (r', s') ∧
      r'.Midway n ls' ms name?' ∧ r'.column = r.column ∧ P bs s' ∧ ∀ cs,
        ls ++ outside false (c :: cs) = ls' ++ outside name?'.isSome cs ∧
        marksOf shown ls.length none (c :: cs) = marksOf shown ls'.length name?' cs := by
  obtain ⟨hbrace, hbrace', -, -⟩ := isLyric_ne hc
  by_cases hopen : c = '['
  · subst hopen
    refine ⟨ls, some [], _, s, rfl, ⟨hr.line, hr.hasDirective, hr.lyrics, hr.marks, rfl, ?_⟩, rfl,
      hs, fun cs => ⟨rfl, rfl⟩⟩
    rintro name ⟨rfl⟩
    rfl
  by_cases hclose : c = ']'
  · subst hclose
    exact ⟨ls, none, r, _, rfl, hr, rfl, h.problem _ _ _ _ hs, fun cs => ⟨rfl, rfl⟩⟩
  · have hplace : place sink .text false c = collect sink .lyrics c :=
      place_collectsLyrics (.inr ⟨hopen, hclose⟩) ⟨hbrace, hbrace'⟩
    obtain ⟨s', hcollect, hs'⟩ := collect_sets (r := r) h .lyrics c hs
    refine ⟨ls ++ [c], none, r.setBuffer (r.lyrics.push .lyrics c).1 .lyrics, s',
      by rw [hplace]; exact hcollect, ⟨hr.line, hr.hasDirective,
        Buffer.push_reversed hr.lyrics c, hr.marks, hr.mode, by simp⟩, rfl, hs',
      fun cs => ⟨?_, ?_⟩⟩
    · rw [outside, if_neg hopen, if_neg hclose, List.append_assoc]
      rfl
    · rw [List.length_append, marksOf, closedNames, if_neg hopen, if_neg hclose]
      rfl

/-- A character in an open bracket. -/
theorem place_inside {c : Char} {name : List Char} (hc : isLyric c = true)
    (hr : r.Midway n ls ms (some name)) (hs : P bs s) : ∃ ms' name?' r' s',
      place sink .chord false c (r, s) = .ok () (r', s') ∧ r'.Midway n ls ms' name?' ∧
      r'.column = r.column ∧ P bs s' ∧ ∀ cs,
        outside true (c :: cs) = outside name?'.isSome cs ∧
        ms ++ marksOf shown ls.length (some name) (c :: cs) =
          ms' ++ marksOf shown ls.length name?' cs := by
  obtain ⟨hbrace, hbrace', -, -⟩ := isLyric_ne hc
  by_cases hopen : c = '['
  · subst hopen
    refine ⟨ms, some [], _, _, rfl, ⟨hr.line, hr.hasDirective, hr.lyrics, hr.marks, rfl, ?_⟩, rfl,
      h.problem _ _ _ _ hs, fun cs => ⟨rfl, rfl⟩⟩
    rintro name ⟨rfl⟩
    rfl
  by_cases hclose : c = ']'
  · subst hclose
    have hname : r.chordName.text = String.ofList (keptName name) := by
      rw [Buffer.text, hr.chordName name rfl, List.reverse_reverse]
    have hoffset : r.lyrics.size = min ls.length Token.lyrics.capacity := by
      rw [Buffer.size, hr.lyrics, List.length_reverse, List.length_take, min_comm]
    obtain ⟨hshown, hs'⟩ := h.chord bs r.line r.chordName.text s hs
    refine ⟨ms ++ [⟨min ls.length Token.lyrics.capacity, shown (String.ofList (keptName name))⟩],
      none, _, _, rfl, ⟨hr.line, hr.hasDirective, hr.lyrics, ?_, rfl, by simp⟩, rfl, hs',
      fun cs => ⟨rfl, ?_⟩⟩
    · rw [hshown, hname, hoffset, hr.marks, List.reverse_append]
      rfl
    · rw [List.append_assoc]
      rfl
  have hmarks : ∀ cs, marksOf shown ls.length (some name) (c :: cs) =
      marksOf shown ls.length (some (name ++ [c])) cs := by
    intro cs
    rw [marksOf, closedNames, if_neg hopen, if_neg hclose]
    rfl
  have houtside : ∀ cs, outside true (c :: cs) = outside true cs := by
    intro cs
    rw [outside, if_neg hopen, if_neg hclose, if_pos rfl]
  by_cases hspace : c = ' '
  · subst hspace
    refine ⟨ms, some (name ++ [' ']), r, s, rfl, { hr with chordName := ?_ }, rfl, hs,
      fun cs => ⟨houtside cs, by rw [hmarks]⟩⟩
    rintro name' ⟨rfl⟩
    rw [hr.chordName name rfl, keptName, keptName, List.filter_append]
    simp
  · have hplace : place sink .chord false c = collect sink .chordName c :=
      place_collectsName ⟨hopen, hclose⟩ ⟨hbrace, hbrace'⟩ hspace false
    obtain ⟨s', hcollect, hs'⟩ := collect_sets (r := r) h .chordName c hs
    refine ⟨ms, some (name ++ [c]), r.setBuffer (r.chordName.push .chordName c).1 .chordName, s',
      by rw [hplace]; exact hcollect, ⟨hr.line, hr.hasDirective, hr.lyrics, hr.marks, hr.mode, ?_⟩,
      rfl, hs', fun cs => ⟨houtside cs, by rw [hmarks]⟩⟩
    rintro name' ⟨rfl⟩
    have hkept : keptName (name ++ [c]) =
        (name.filter (· ≠ ' ') ++ [c]).take Token.chordName.capacity := by
      rw [keptName, List.filter_append]
      simp [hspace]
    rw [hkept]
    exact Buffer.push_reversed (hr.chordName name rfl) c

/-- One more character of a line takes the reader on, and the rest of the line adds the same to it
as before. -/
theorem feed_midway {c : Char} (hc : isLyric c = true) (hcomment : ¬ (c = '#' ∧ r.column = 0))
    (hr : r.Midway n ls ms name?) (hs : P bs s) : ∃ ls' ms' name?' r' s',
      feed sink c (r, s) = .ok () (r', s') ∧ r'.Midway n ls' ms' name?' ∧ r'.column ≠ 0 ∧ P bs s' ∧
      ∀ cs, ls ++ outside name?.isSome (c :: cs) = ls' ++ outside name?'.isSome cs ∧
        ms ++ marksOf shown ls.length name? (c :: cs) =
          ms' ++ marksOf shown ls'.length name?' cs := by
  obtain ⟨-, -, hbreak, hreturn⟩ := isLyric_ne hc
  have hfeed : feed sink c (r, s) = _ := feed_place hreturn hbreak hr.skip_ne hcomment s
  have hnext : Midway n ls ms name? { r with column := r.column + 1 } :=
    ⟨hr.line, hr.hasDirective, hr.lyrics, hr.marks, hr.mode, hr.chordName⟩
  have hplaced : place sink r.mode (sink.inTab s) c =
      place sink (if name?.isSome then .chord else .text) false c := by rw [h.inTab bs s hs, hr.mode]
  rw [hplaced] at hfeed
  cases name? with
  | none =>
    obtain ⟨ls', name?', r', s', hplace, hr', hcolumn, hs', hrest⟩ := place_outside h hc hnext hs
    refine ⟨ls', ms, name?', r', s', hfeed.trans hplace, hr', ?_, hs', fun cs => ?_⟩
    · rw [hcolumn]
      exact Nat.succ_ne_zero _
    · exact ⟨(hrest cs).1, by rw [(hrest cs).2]⟩
  | some name =>
    obtain ⟨ms', name?', r', s', hplace, hr', hcolumn, hs', hrest⟩ := place_inside h hc hnext hs
    refine ⟨ls, ms', name?', r', s', hfeed.trans hplace, hr', ?_, hs', fun cs => ?_⟩
    · rw [hcolumn]
      exact Nat.succ_ne_zero _
    · exact ⟨congrArg (ls ++ ·) (hrest cs).1, (hrest cs).2⟩

theorem feeds_midway {cs : List Char} (hcs : cs.all isLyric = true)
    (hcomment : r.column = 0 → cs.head? ≠ some '#') (hr : r.Midway n ls ms name?) (hs : P bs s) :
    ∃ name?' r' s', feeds sink cs (r, s) = .ok () (r', s') ∧
      r'.Midway n (ls ++ outside name?.isSome cs) (ms ++ marksOf shown ls.length name? cs) name?' ∧
      (r.column ≠ 0 ∨ cs ≠ [] → r'.column ≠ 0) ∧ P bs s' := by
  induction cs generalizing r ls ms name? s with
  | nil =>
    refine ⟨name?, r, s, rfl, ?_, by simp, hs⟩
    simpa [outside, marksOf, closedNames] using hr
  | cons c cs ih =>
    rw [List.all_cons, Bool.and_eq_true] at hcs
    obtain ⟨ls', ms', name?', r', s', hfeed, hr', hcolumn, hs', hrest⟩ :=
      feed_midway h hcs.1 (fun hc => hcomment hc.2 (congrArg some hc.1)) hr hs
    obtain ⟨name?'', r'', s'', hfeeds, hr'', hcolumn', hs''⟩ :=
      ih hcs.2 (fun hzero => absurd hzero hcolumn) hr' hs'
    rw [(hrest cs).1, (hrest cs).2]
    exact ⟨name?'', r'', s'', (feeds_cons hfeed).trans hfeeds, hr'',
      fun _ => hcolumn' (.inl hcolumn), hs''⟩

/-- At its end the line is set. -/
theorem endLine_midway (hr : r.Midway n ls ms name?) (hs : P bs s) :
    Ends (endLine sink) (r, s) (fun _ => False) fun _ p => p.1 = atLine (n + 1) ∧
      P (bs ++ rows ⟨String.ofList (ls.take Token.lyrics.capacity), ms⟩) p.2 := by
  have htold : P bs (r.leftOpen.elim s fun p => sink.problem r.line p s) := by
    cases r.leftOpen with
    | none => exact hs
    | some p => exact h.problem _ _ _ _ hs
  have hline := h.line bs r.line r.content _ htold
  unfold Ends at hline ⊢
  rw [endLine_eq, hr.hasDirective]
  dsimp only
  rw [if_neg Bool.false_ne_true]
  rcases hresult : sink.line r.line r.content (r.leftOpen.elim s fun p => sink.problem r.line p s)
    with ⟨_, t⟩ | ⟨e, t⟩ <;> rw [hresult] at hline
  · rw [hr.content_eq] at hline
    exact ⟨by rw [hr.line], hline⟩
  · exact hline

/-- What a comment leaves of its line counts as an empty line where the text ends. -/
theorem endLine_comment (hr : r.Skips n) (hs : P bs s) :
    Ends (endLine sink) (r, s) (fun _ => False) fun _ p => P bs p.2 := by
  have hempty : r.content = ⟨"", []⟩ := by
    rw [hr]
    rfl
  have hnone : r.leftOpen = none := by
    unfold leftOpen
    rw [hr.mode]
  have hline := h.line bs r.line r.content s hs
  have hflag : r.hasDirective = false := by rw [hr]; rfl
  rw [hempty, h.empty, List.append_nil] at hline
  unfold Ends at hline ⊢
  rw [endLine_eq, hflag, hnone]
  dsimp only [Option.elim]
  rw [if_neg Bool.false_ne_true, hempty]
  rcases hresult : sink.line r.line ⟨"", []⟩ s with ⟨_, t⟩ | ⟨e, t⟩ <;> rw [hresult] at hline
  · exact hline
  · exact hline

omit h in
variable (sink) in
theorem feeds_comment {cs : List Char} (hcs : ∀ c ∈ cs, c ≠ '\r' ∧ c ≠ '\n') (n : Nat) (s : σ) :
    ∃ r : Reader, feeds sink ('#' :: cs) (atLine n, s) = .ok () (r, s) ∧ r.Skips n ∧
      r.column ≠ 0 :=
  ⟨_, (feeds_cons (feed_hash (fun hm => by cases hm) rfl s)).trans (feeds_skipping hcs rfl s), rfl, by simp⟩

/-- A line without its newline. -/
theorem feeds_line_sets {line : List Char} (hline : line.all isLyric = true) (hs : P bs s) :
    ∃ r s', feeds sink line (atLine n, s) = .ok () (r, s') ∧ P bs s' ∧
      (line ≠ [] → r.column ≠ 0) ∧
      if line.head? = some '#' then r.Skips n
      else ∃ name?, r.Midway n (outside false line) (marksOf shown 0 none line) name? := by
  by_cases hcomment : line.head? = some '#'
  · obtain ⟨cs, rfl⟩ := List.head?_eq_some_iff.1 hcomment
    rw [List.all_cons, Bool.and_eq_true, List.all_eq_true] at hline
    have hcs : ∀ c ∈ cs, c ≠ '\r' ∧ c ≠ '\n' := fun c hc => (isLyric_ne (hline.2 c hc)).2.2.symm
    obtain ⟨r, hfeeds, hskips, hcolumn⟩ := feeds_comment sink hcs n s
    exact ⟨r, s, hfeeds, hs, fun _ => hcolumn, by rwa [if_pos hcomment]⟩
  · obtain ⟨name?, r, s', hfeeds, hr, hcolumn, hs'⟩ :=
      feeds_midway h hline (fun _ => hcomment) (midway_atLine n) hs
    exact ⟨r, s', hfeeds, hs', fun hne => hcolumn (.inr hne), by rw [if_neg hcomment]; exact ⟨_, hr⟩⟩

/-- A line with its newline. -/
theorem feeds_wholeLine_sets {line : List Char} (hline : line.all isLyric = true) (hs : P bs s) :
    Ends (feeds sink (line ++ ['\n'])) (atLine n, s) (fun _ => False) fun _ p =>
      p.1 = atLine (n + 1) ∧
      P (bs ++ if line.head? = some '#' then [] else rows (lineOf shown line)) p.2 := by
  obtain ⟨r, s', hfeeds, hs', -, hr⟩ := feeds_line_sets (n := n) h hline hs
  have hend : Ends (feed sink '\n') (r, s') (fun _ => False) fun _ p => p.1 = atLine (n + 1) ∧
      P (bs ++ if line.head? = some '#' then [] else rows (lineOf shown line)) p.2 := by
    by_cases hcomment : line.head? = some '#'
    · rw [if_pos hcomment] at hr ⊢
      exact .of_ok (feed_newline_skip hr s') ⟨rfl, by rwa [List.append_nil]⟩
    · rw [if_neg hcomment] at hr ⊢
      obtain ⟨name?, hr⟩ := hr
      unfold Ends
      rw [feed_newline hr.skip_ne]
      exact endLine_midway h ⟨hr.line, hr.hasDirective, hr.lyrics, hr.marks, hr.mode, hr.chordName⟩
        hs'
  obtain ⟨_, p, hok, hp⟩ := hend.exists_ok
  exact .of_ok ((feeds_append hfeeds).trans (feeds_cons hok)) hp

/-! ## Texts -/

theorem feeds_sets {cs : List Char} (hcs : ∀ c ∈ cs, isLyric c = true ∨ c = '\n') (n : Nat)
    (hs : P bs s) : Ends (feeds sink cs >>= fun _ => finish sink) (atLine n, s) (fun _ => False)
      fun _ p => P (bs ++ rowsOf shown rows cs) p.2 := by
  have hlyric : ∀ {line : List Char}, (∀ c ∈ line, isLyric c = true ∨ c = '\n') → '\n' ∉ line →
      line.all isLyric = true := fun hline hbreak => List.all_eq_true.2 fun c hc =>
    (hline c hc).resolve_right fun he => hbreak (he ▸ hc)
  induction cs using lines_induction generalizing n bs s with
  | last line hbreak =>
    obtain ⟨r, s', hfeeds, hs', hcolumn, hr⟩ := feeds_line_sets (n := n) h (hlyric hcs hbreak) hs
    refine .bind_ok hfeeds ?_
    show Ends (if r.column ≠ 0 then endLine sink else pure ()) (r, s') _ _
    by_cases hempty : line = []
    · subst hempty
      cases hfeeds
      show P _ s
      simpa [rowsOf, lyricsLines, physicalLines] using hs'
    rw [if_pos (hcolumn hempty), rowsOf, lyricsLines_last hbreak hempty]
    by_cases hcomment : line.head? = some '#'
    · rw [if_pos hcomment] at hr ⊢
      rw [List.flatMap_nil, List.append_nil]
      exact endLine_comment h hr hs'
    · rw [if_neg hcomment] at hr ⊢
      obtain ⟨name?, hr⟩ := hr
      rw [List.flatMap_singleton]
      exact (endLine_midway h hr hs').mono fun _ _ hp => hp.2
  | more line rest hbreak ih =>
    obtain ⟨_, ⟨r, s'⟩, hok, rfl, hs'⟩ := (feeds_wholeLine_sets (n := n) h
      (hlyric (fun c hc => hcs c (List.mem_append_left _ hc)) hbreak) hs).exists_ok
    have hsplit : (feeds sink (line ++ '\n' :: rest) >>= fun _ => finish sink) (atLine n, s) =
        (feeds sink rest >>= fun _ => finish sink) (atLine (n + 1), s') := by
      rw [bind_eq, bind_eq, List.append_cons, feeds_append hok]
    have hrest := ih (fun c hc => hcs c (by simp [hc])) (n + 1) hs'
    have hrows : rowsOf shown rows (line ++ '\n' :: rest) =
        (if line.head? = some '#' then [] else rows (lineOf shown line)) ++
          rowsOf shown rows rest := by
      rw [rowsOf, lyricsLines_append hbreak, List.flatMap_append]
      split <;> simp [rowsOf]
    unfold Ends
    rw [hsplit, hrows, ← List.append_assoc]
    exact hrest

omit h in
/-- Carriage returns are passed over. -/
theorem feeds_filter_return (cs : List Char) :
    feeds sink (cs.filter (· ≠ '\r')) = feeds sink cs := by
  induction cs with
  | nil => rfl
  | cons c cs ih =>
    funext p
    by_cases hreturn : c = '\r'
    · subst hreturn
      rw [feeds_cons (feed_return sink p), List.filter_cons_of_neg (by simp), ih]
    · rw [List.filter_cons_of_pos (by simpa using hreturn)]
      show (feed sink c >>= fun _ => feeds sink _) p = (feed sink c >>= fun _ => feeds sink cs) p
      rw [ih]

/-- A text without braces sets the rows of its lines of lyrics and chords, in order. -/
theorem readText_sets {text : String} (htext : ∀ c ∈ text.toList, c ≠ '{' ∧ c ≠ '}')
    (hs : P bs s) : Ends (readText sink text) s (fun _ => False)
      fun _ => P (bs ++ rowsOf shown rows (text.toList.filter (· ≠ '\r'))) := by
  have hcs : ∀ c ∈ text.toList.filter (· ≠ '\r'), isLyric c = true ∨ c = '\n' := by
    intro c hc
    obtain ⟨hmem, hreturn⟩ := List.mem_filter.1 hc
    obtain ⟨hopen, hclose⟩ := htext c hmem
    by_cases hbreak : c = '\n'
    · exact .inr hbreak
    · exact .inl (by simpa [isLyric, hopen, hclose, hbreak] using hreturn)
  have hread := feeds_sets h hcs 1 hs
  rw [feeds_filter_return] at hread
  exact readText_of_read hread

end

end Reader

end Songbook.Markup
