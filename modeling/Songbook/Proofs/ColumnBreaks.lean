import Songbook.Proofs.DirectiveTexts
import Songbook.Proofs.LeadingIntegers
import Songbook.Proofs.Orders

/-!
# Breaking columns again and again

A page is divided into `n` columns wherever the cursor stands (`setColumns_divided`). From then on a
column break goes one column to the right, or from the last one to the first column of the next page
(`Divided.broken`); the columns of that page begin at its top. So `k` breaks turn `k / n` pages and
leave the cursor in column `k % n` (`columnBreaks_wrap`).
-/

namespace Songbook

variable {L : Type} [Length L]

/-- Where one of so many columns begins: the first one at the left margin, any other so many widths
of a column to the right of it. -/
def PageGeometry.columnLeft (g : PageGeometry L) (columns column : Nat) : L :=
  if column = 0 then g.left
  else g.left + Length.ofInt column * (g.textWidth / Length.ofInt columns)

theorem PageGeometry.columnLeft_eq (g : PageGeometry Rat) (columns column : Nat) :
    g.columnLeft columns column = g.left + column * ((g.width - g.left) / columns) := by
  unfold columnLeft
  split
  · next hfirst =>
    subst hfirst
    simp
  · rfl

/-! ## The cursor -/

namespace Cursor

/-- At `c` the page was divided into `n` columns, and since then so many pages have been turned and
so many columns of the open page left. -/
structure Divided (c : Cursor L) (g : PageGeometry L) (n turns i : Nat) (d : Cursor L) :
    Prop where
  columns : d.columns = n
  column : d.column = i
  columnWidth : d.columnWidth = g.textWidth / Length.ofInt (n : Nat)
  horizontal : d.horizontal = g.columnLeft n i
  columnTop : d.columnTop = if turns = 0 then c.vertical else g.top
  vertical : d.vertical = if turns = 0 then c.vertical else g.top
  pages : d.pages = c.pages + turns

variable {c d : Cursor L} {g : PageGeometry L} {n turns i : Nat}

theorem setColumns_divided (c : Cursor L) (g : PageGeometry L) (hn : 1 ≤ n) :
    c.Divided g n 0 0 (c.setColumns n g) := by
  have hcount : max 1 n = n := max_eq_right hn
  refine ⟨hcount, rfl, ?_, rfl, rfl, rfl, rfl⟩
  show g.textWidth / Length.ofInt (max 1 n : Nat) = _
  rw [hcount]

theorem Divided.nextColumn (h : c.Divided g n turns i d) :
    c.Divided g n turns (i + 1) (d.nextColumn g) := by
  refine ⟨h.columns, congrArg (· + 1) h.column, h.columnWidth, ?_, h.columnTop, h.columnTop,
    h.pages⟩
  show g.left + Length.ofInt (d.column + 1 : Nat) * d.columnWidth = _
  rw [h.column, h.columnWidth]
  rfl

/-- The columns of the next page begin at its top. -/
theorem Divided.turned (h : c.Divided g n turns i d) (hopen : d.slot ≠ 0) :
    c.Divided g n (turns + 1) 0 (d.turned g false) := by
  have hleft : (d.left g false).columnTop = g.top ∧
      (d.left g false).columnWidth = d.columnWidth := by
    unfold left
    rw [if_neg hopen]
    split <;> exact ⟨rfl, rfl⟩
  have hcount : ∀ e : Cursor L,
      e.countPage.columnTop = e.columnTop ∧ e.countPage.columnWidth = e.columnWidth := by
    intro e
    by_cases hslot : e.slot = 0 <;> simp [countPage, hslot]
  refine ⟨(d.turned_columns g false).trans h.columns, rfl, ?_, rfl, ?_, rfl, ?_⟩
  · exact ((hcount _).2.trans hleft.2).trans h.columnWidth
  · exact (hcount _).1.trans hleft.1
  · rw [d.turned_pages g false, h.pages, Nat.add_assoc]

/-- A break goes to the right, or on to the next page from the last column. -/
theorem Divided.broken (h : c.Divided g n turns i d) (hi : i < n)
    (hopen : d.slot ≠ 0) :
    d.onLastColumn = true ∧ i + 1 = n ∧ c.Divided g n (turns + 1) 0 (d.broken g) ∨
      d.onLastColumn = false ∧ i + 1 < n ∧ c.Divided g n turns (i + 1) (d.broken g) := by
  unfold Cursor.broken
  have hlast : d.onLastColumn = decide (n ≤ i + 1) := by
    rw [onLastColumn, h.columns, h.column]
  by_cases hfull : n ≤ i + 1
  · rw [hlast, decide_eq_true hfull, if_pos rfl]
    exact .inl ⟨rfl, by omega, h.turned hopen⟩
  · rw [hlast, decide_eq_false hfull, if_neg Bool.false_ne_true]
    exact .inr ⟨rfl, by omega, h.nextColumn⟩

end Cursor

/-! ## The directives -/

/-- The text of a directive that asks for `n` columns. -/
def AsksForColumns (text : String) (n : Nat) : Prop :=
  ∃ name args, Keyword.splitText? text = some (name, args) ∧
    Keyword.ofName? name = some .columns ∧ Directive.readCount .columns args 2 = .ok n

/-- The text of a directive that breaks the column. -/
def IsColumnBreak (text : String) : Prop :=
  ∃ name args, Keyword.splitText? text = some (name, args) ∧
    Keyword.ofName? name = some .columnBreak

theorem AsksForColumns.two_le {text : String} {n : Nat} (h : AsksForColumns text n) : 2 ≤ n := by
  obtain ⟨name, args, -, -, hcount⟩ := h
  unfold Directive.readCount at hcount
  dsimp only at hcount
  split at hcount
  · cases hcount
  · next hleast =>
    cases hcount
    omega

/-- Up to the largest number that can be given, `columns: n` asks for `n` columns. -/
theorem asksForColumns_toString {n : Nat} (hn : 2 ≤ n) (hlargest : n ≤ Decimal.largest) :
    AsksForColumns ("columns: " ++ toString n) n := by
  have hword := (Decimal.writes_toString n).isWord
  have hunbroken : "columns".toList.all (!Text.isDelimiter ·) = true := by decide
  have hsplits : Keyword.Splits ("columns: " ++ toString n) "columns" (some ':')
      (" " ++ toString n) := by
    refine ⟨?_, fun c hc => by simpa using List.all_eq_true.1 hunbroken c hc, ?_, nofun⟩
    · rw [String.toList_append, String.toList_append]
      rfl
    · rintro _ ⟨⟩
      decide
  have hnarrow : ∀ c ∈ some ':', c.utf8Size = 1 := by
    rintro _ ⟨⟩
    rfl
  refine ⟨_, _, (Keyword.splitText?_eq hsplits).trans (if_pos hnarrow), by decide, ?_⟩
  have hfirst : Directive.firstWord (" " ++ toString n) = toString n := by
    have hfields : Text.fields Text.isDelimiter (' ' :: (toString n).toList) =
        [(toString n).toList] :=
      (Text.fields_append (by decide) [] _).trans
        (Text.fields_of_forall (mt String.toList_eq_nil_iff.1 hword.1) hword.2)
    have hwords : Text.words (" " ++ toString n) = [toString n] := by
      rw [Text.words, String.toList_append]
      refine (congrArg (List.map String.ofList) hfields).trans ?_
      rw [List.map_singleton, String.ofList_toList]
    rw [Directive.firstWord, hwords]
    rfl
  unfold Directive.readCount
  rw [hfirst]
  dsimp only
  rw [Decimal.leadingInteger_toString]
  have hvalue : (min Decimal.largest n : Nat) = n := min_eq_right hlargest
  rw [hvalue, if_neg (by omega)]
  rfl

/-! ## Sessions -/

namespace Session

/-- Since `s` so many pages have been ended and the next ones begun, and nothing else has been
drawn. -/
def TurnsPages (s t : Session L) (count : Nat) : Prop :=
  ∃ turns : List (List (Drawing L)), turns.length = count ∧
    t.device.received.toList = s.device.received.toList ++ turns.flatten ∧
    ∀ i, ∀ ds ∈ turns[i]?, ∃ m, Moves true s m ∧
      m.document.cursor.pages = s.document.cursor.pages + i ∧ Typeset.PageTurn m false ds

/-- At `s` the page was divided into `n` columns, and since then columns have only been broken: so
many pages have been turned and so many columns of the open page left. -/
structure ColumnsBroken (s : Session L) (n turns i : Nat) (t : Session L) : Prop where
  moves : Moves true s t
  geometry : t.document.geometry = s.document.geometry
  column_lt : i < n
  cursor : s.document.cursor.Divided t.document.geometry n turns i t.document.cursor
  pages : s.TurnsPages t turns

variable {s t : Session L} {n turns i : Nat}

theorem TurnsPages.of_received (h : s.TurnsPages t turns) {u : Session L}
    (hu : u.device.received = t.device.received) : s.TurnsPages u turns := by
  rw [TurnsPages, hu]
  exact h

theorem TurnsPages.turn (h : s.TurnsPages t turns) (hmoves : Moves true s t)
    (hpages : t.document.cursor.pages = s.document.cursor.pages + turns) {ds : List (Drawing L)}
    (hds : Typeset.PageTurn t false ds) (c : Cursor L) (log : Array (LogEntry L)) :
    s.TurnsPages (t.moved c ds log) (turns + 1) := by
  obtain ⟨before, rfl, hreceived, hbefore⟩ := h
  refine ⟨before ++ [ds], by simp, ?_, fun i es hes => ?_⟩
  · rw [moved_received, hreceived, List.append_assoc, List.flatten_concat]
  · rcases lt_trichotomy i before.length with hlt | rfl | hgt
    · rw [List.getElem?_append_left hlt] at hes
      exact hbefore i es hes
    · rw [List.getElem?_concat_length] at hes
      cases hes
      exact ⟨t, hmoves, hpages, hds⟩
    · rw [List.getElem?_eq_none (by simp; omega)] at hes
      cases hes

theorem ColumnsBroken.record (h : s.ColumnsBroken n turns i t) (line : Nat)
    (log : Array (LogEntry L)) : s.ColumnsBroken n turns i { t with line, log } :=
  ⟨h.moves.tail (.record t.file line log), h.geometry, h.column_lt, h.cursor, h.pages⟩

/-- A page on which columns have just been set. -/
theorem columnsBroken_set (hn : 1 ≤ n) (line : Nat) (log : Array (LogEntry L)) :
    s.ColumnsBroken n 0 0
      ({ s with line, log }.moved (s.document.cursor.setColumns n s.document.geometry) [] log) where
  moves := .tail (.single (.record s.file line log)) (.setColumns (s := { s with line, log }) rfl n)
  geometry := rfl
  column_lt := hn
  cursor := s.document.cursor.setColumns_divided s.document.geometry hn
  pages := ⟨[], rfl, by simp [moved], by simp⟩

/-- A break goes to the right, or on to the next page from the last column. -/
theorem ColumnsBroken.step (h : s.ColumnsBroken n turns i t) (ht : t.OnPage) :
    Ends Typeset.breakColumn t (fun _ => False) fun _ u =>
      i + 1 = n ∧ s.ColumnsBroken n (turns + 1) 0 u ∨
        i + 1 < n ∧ s.ColumnsBroken n turns (i + 1) u := by
  unfold Ends
  rw [Typeset.breakColumn_eq]
  have hcursor := h.cursor.broken h.column_lt ht.isOpen
  unfold Cursor.broken at hcursor
  rcases hcursor with ⟨hlast, hi, hdivided⟩ | ⟨hlast, hi, hdivided⟩
  · rw [hlast, if_pos rfl] at hdivided ⊢
    refine (Typeset.turnPage_ends ht.unlimited ht.isOpen false).mono ?_
    rintro _ _ ⟨ds, log, hds, rfl⟩
    exact .inl ⟨hi, h.moves.tail (.turn hds), h.geometry, i.zero_le.trans_lt h.column_lt,
      hdivided, h.pages.turn h.moves h.cursor.pages hds _ _⟩
  · rw [hlast, if_neg Bool.false_ne_true] at hdivided ⊢
    exact .inr ⟨hi, h.moves.tail (.nextColumn (by simp [hlast])), h.geometry, hi, hdivided,
      h.pages.of_received (by simp [moved])⟩

end Session

namespace Typeset

open Session

variable {s t : Session L} {n turns i : Nat} {text : String}

theorem directive_columns (hs : s.OnPage) (htext : AsksForColumns text n) (line : Nat) :
    ∃ log, sink.directive line text s = .ok () ({ s with line, log }.moved
      (s.document.cursor.setColumns n s.document.geometry) [] log) := by
  obtain ⟨name, args, hsplit, hname, hcount⟩ := htext
  have hread : Directive.read .columns args = .ok (.columns n : Directive L) := by
    show (Directive.readCount .columns args 2).map Directive.columns = _
    rw [hcount]
    rfl
  have hrefusal : refusal? .columns (atLine line s).startup
      (atLine line s).document.modes.extensions = none := by
    show refusal? .columns s.startup s.document.modes.extensions = none
    rw [hs.inSong]
    cases s.document.modes.extensions <;> rfl
  obtain ⟨log, hdispatch⟩ := dispatch_applies hsplit hname hread hrefusal
  exact ⟨log, hdispatch.trans (modifyCursor_eq (·.setColumns n s.document.geometry) _)⟩

/-- A directive that breaks the column goes to the right, or on to the next page. -/
theorem directive_columnBreak (h : s.ColumnsBroken n turns i t) (ht : t.OnPage)
    (htext : IsColumnBreak text) (line : Nat) :
    Ends (sink.directive line text) t (fun _ => False) fun _ u =>
      i + 1 = n ∧ s.ColumnsBroken n (turns + 1) 0 u ∨
        i + 1 < n ∧ s.ColumnsBroken n turns (i + 1) u := by
  obtain ⟨name, args, hsplit, hname⟩ := htext
  have hrefusal : refusal? .columnBreak (atLine line t).startup
      (atLine line t).document.modes.extensions = none := by
    show refusal? .columnBreak t.startup t.document.modes.extensions = none
    rw [ht.inSong]
    cases t.document.modes.extensions <;> rfl
  obtain ⟨log, hdispatch⟩ := dispatch_applies hsplit hname (d := .columnBreak) rfl hrefusal
  have hbreak : sink.directive line text t = breakColumn { t with line, log } := hdispatch
  have hstep := (h.record line log).step ⟨ht.unlimited, ht.isOpen, ht.inSong⟩
  unfold Ends at hstep ⊢
  rwa [hbreak]

/-- Every break counts one: at `n` columns it is carried over to the pages. -/
theorem columnBreaks_end {settings : Settings L} (hs : s.InSong settings)
    {breaks : List (Nat × String)} (hbreaks : ∀ b ∈ breaks, IsColumnBreak b.2)
    (h : s.ColumnsBroken n turns i t) :
    Ends (breaks.forM fun b => sink.directive b.1 b.2) t (fun _ => False) fun _ u =>
      ∃ turns' i', i' + n * turns' = i + n * turns + breaks.length ∧
        s.ColumnsBroken n turns' i' u := by
  -- the columns passed, `i + n * turns`, grow by one with every break
  induction breaks generalizing t turns i with
  | nil => exact .of_ok rfl ⟨turns, i, rfl, h⟩
  | cons b breaks ih =>
    obtain ⟨hb, hbreaks⟩ := List.forall_mem_cons.1 hbreaks
    refine (directive_columnBreak h (hs.moves h.moves).onPage hb b.1).bind ?_
    rintro _ u (⟨hi, hu⟩ | ⟨-, hu⟩)
    · refine (ih hbreaks hu).mono ?_
      rintro _ v ⟨turns', i', hcount, hv⟩
      refine ⟨turns', i', ?_, hv⟩
      rw [hcount, List.length_cons, Nat.mul_succ]
      omega
    · refine (ih hbreaks hu).mono ?_
      rintro _ v ⟨turns', i', hcount, hv⟩
      refine ⟨turns', i', ?_, hv⟩
      rw [hcount, List.length_cons]
      omega

/-- Wherever the cursor stands on an open page, after `n` columns have been set `k` breaks turn
`k / n` pages and draw nothing else. The cursor is then in column `k % n`, at the height at which
the columns were set if it is still on that page, and at the top of any later one. Over exact
lengths that column stands so many `n`-th parts of the text width to the right of the margin. -/
theorem columnBreaks_wrap :
    (∀ {L : Type} [Length L] {settings : Settings L} {s : Session L}, s.InSong settings →
      ∀ {n : Nat} {text : String}, AsksForColumns text n →
      ∀ (line : Nat) {breaks : List (Nat × String)}, (∀ b ∈ breaks, IsColumnBreak b.2) →
        ∃ t, (do sink.directive line text; breaks.forM fun b => sink.directive b.1 b.2) s =
            .ok () t ∧
          t.document.cursor.column = breaks.length % n ∧
          t.document.cursor.pages = s.document.cursor.pages + breaks.length / n ∧
          s.TurnsPages t (breaks.length / n) ∧
          t.document.cursor.horizontal =
            s.document.geometry.columnLeft n (breaks.length % n) ∧
          t.document.cursor.vertical =
            if n ≤ breaks.length then s.document.geometry.top else s.document.cursor.vertical) ∧
      (∀ (g : PageGeometry Rat) (columns column : Nat),
        g.columnLeft columns column = g.left + column * ((g.width - g.left) / columns)) ∧
      ∀ n, 2 ≤ n → n ≤ Decimal.largest → AsksForColumns ("columns: " ++ toString n) n := by
  refine ⟨?_, PageGeometry.columnLeft_eq, fun n hn hlargest => asksForColumns_toString hn hlargest⟩
  intro L _ settings s hs n text htext line breaks hbreaks
  have hn := htext.two_le
  obtain ⟨log, hset⟩ := directive_columns hs.onPage htext line
  obtain ⟨_, t, hrun, turns, i, hcount, ht⟩ :=
    (columnBreaks_end hs hbreaks (columnsBroken_set (by omega : 1 ≤ n) line log)).exists_ok
  have hdigits : breaks.length / n = turns ∧ breaks.length % n = i :=
    (Nat.div_mod_unique (by omega)).2 ⟨by omega, ht.column_lt⟩
  obtain ⟨rfl, rfl⟩ := hdigits
  have hcursor := ht.cursor
  rw [ht.geometry] at hcursor
  refine ⟨t, (bind_of_ok hset).trans hrun, hcursor.column, hcursor.pages, ht.pages,
    hcursor.horizontal, ?_⟩
  rw [hcursor.vertical]
  by_cases hturned : n ≤ breaks.length
  · rw [if_pos hturned, if_neg (Nat.div_pos hturned (by omega)).ne']
  · rw [if_neg hturned, if_pos (Nat.div_eq_of_lt (not_le.1 hturned))]

/-- Two pages on a sheet. -/
def twoUp : Settings Rat := { Settings.default with pagination := .two }

/-- Below the first line of a song two columns are set and broken five times. -/
theorem columnBreaks_wrap_fiveTimes :
    let s := (firstSong twoUp [] noOverrides).followed (.lyrics ⟨"la", []⟩)
    let breaks := List.replicate 5 (3, "column_break")
    s.InSong twoUp ∧ AsksForColumns "columns: 2" 2 ∧ (∀ b ∈ breaks, IsColumnBreak b.2) ∧
      ∃ t, (do sink.directive 2 "columns: 2"; breaks.forM fun b => sink.directive b.1 b.2) s =
          .ok () t ∧
        t.document.cursor.column = 1 ∧
        t.document.cursor.pages = s.document.cursor.pages + 2 ∧ s.TurnsPages t 2 ∧
        t.document.cursor.horizontal = 72 + 540 / 2 ∧ t.document.cursor.vertical = 756 := by
  intro s breaks
  have hs : s.InSong twoUp := followed_inSong
    (Begins.inSong (eq_ok_of_succeeds (by decide +kernel))) _
  have htext : AsksForColumns "columns: 2" 2 :=
    ⟨"columns", " 2", by decide, by decide, rfl⟩
  have hbreaks : ∀ b ∈ breaks, IsColumnBreak b.2 := by
    intro b hb
    rw [List.eq_of_mem_replicate hb]
    exact ⟨"column_break", "", by decide, by decide⟩
  obtain ⟨t, hrun, hcolumn, hpages, hturns, hhorizontal, hvertical⟩ :=
    columnBreaks_wrap.1 hs htext 2 hbreaks
  have hlength : breaks.length = 5 := List.length_replicate
  rw [hlength] at hcolumn hpages hturns hhorizontal hvertical
  refine ⟨hs, htext, hbreaks, t, hrun, hcolumn, hpages, hturns, ?_, ?_⟩
  · rw [hhorizontal]
    decide +kernel
  · rw [hvertical]
    decide +kernel

end Typeset

end Songbook
