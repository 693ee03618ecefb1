import Mathlib.Algebra.Order.Floor.Semiring
import Mathlib.Data.Rat.Floor
import Songbook.Proofs.NextSong
import Songbook.Proofs.PlainLines
import Songbook.Proofs.RowPairs

/-!
# Room owed to the next song

Blank lines at the end of a song have asked for room, and it is the next song that leaves it above
its first row. After two songs without directives every other song is printed in the same way if
and only if they leave the same room owed (`drawnLater_eq_iff`).
-/

namespace Songbook.Typeset

open Session

variable {L : Type} [Length L]

/-- The room still owed when a song has ended. -/
def owed (s : Session L) (song : String × String) : L :=
  (endState (do readSong song.1 song.2; endSong) s).document.cursor.blankSpace

/-- What is drawn after the end of a song when another one follows and the document is finished.
The numbers of sheets are left out. -/
def drawnLater (s : Session L) (song next : String × String) : List (Drawing L) :=
  ((endState (do readSong song.1 song.2; readSong next.1 next.2; finish)
    s).device.received.toList.drop
      (endState (do readSong song.1 song.2; endSong) s).device.received.size).map Drawing.bare

section

variable {settings : Settings L} {s : Session L} (h : s.Unprinted settings false)
  (hone : settings.pagination = .one)
include h hone

/-- The first song ends, if it has no directives, and the run goes on from there. -/
theorem sungOut_ends {song : String × String} (hplain : '{' ∉ song.2.toList) :
    ∃ u, s.inFirstSong.SungOut u ∧
      owed s song = u.document.cursor.blankSpace ∧
      ∀ next, drawnLater s song next = ((endState (afterwards next.1 next.2)
        u).device.received.toList.drop u.device.received.size).map Drawing.bare := by
  obtain ⟨_, t, hread, hpage, hsung⟩ := (firstSong_ends h hone song.1 hplain).exists_ok
  obtain ⟨_, u, hend, v, foot, hmoves, -, rfl⟩ := ((endSong_ends false hpage).weaken
    (fun _ he => absurd he.1 Bool.false_ne_true)).exists_ok
  have hout : s.inFirstSong.Sung v := hmoves.keep (fun _ _ => Move.sung) hsung
  have hended : endState (do readSong song.1 song.2; endSong) s =
      v.moved (v.document.cursor.left v.document.geometry false) foot v.log :=
    endState_of_ok ((bind_of_ok hread).trans hend)
  have hstarted : t.started = true := congrArg (·.started) hsung.same
  have hsongs : t.songs = s.songs + 1 := congrArg (·.songs) hsung.same
  refine ⟨_, hout.out (hmoves.onPage hpage).isOpen foot, ?_, fun next => ?_⟩
  · rw [owed, hended]
  · have hrun : (do readSong song.1 song.2; readSong next.1 next.2; finish : Typeset L Unit) s =
        afterwards next.1 next.2
          (v.moved (v.document.cursor.left v.document.geometry false) foot v.log) := by
      rw [bind_of_ok hread, readSong_next hstarted (by omega), bind_of_ok hend]
    have hlater : endState (do readSong song.1 song.2; readSong next.1 next.2; finish) s =
        endState (afterwards next.1 next.2)
          (v.moved (v.document.cursor.left v.document.geometry false) foot v.log) := by
      unfold endState
      rw [hrun]
    unfold drawnLater
    rw [hended, hlater]

theorem drawnLater_congr (hnumber : settings.numberAll = false) {song song' : String × String}
    (hplain : '{' ∉ song.2.toList) (hplain' : '{' ∉ song'.2.toList)
    (howed : owed s song = owed s song') (next : String × String) :
    drawnLater s song next = drawnLater s song' next := by
  obtain ⟨u, hu, howes, hdrawn⟩ := sungOut_ends h hone hplain
  obtain ⟨u', hu', howes', hdrawn'⟩ := sungOut_ends h hone hplain'
  have hlimit : s.inFirstSong.device.limit = none := by
    show s.device.limit = none
    rw [h.device]
    rfl
  have hsettings : s.inFirstSong.settings.numberAll = false := by
    show s.settings.numberAll = false
    rw [h.settings]
    exact hnumber
  rw [howes, howes'] at howed
  obtain ⟨ds, ds', hds, hds', heq⟩ := (afterwards_alike hu hu' hlimit h.startup hsettings howed
    next.1 next.2).endState.received
  rw [hdrawn, hdrawn', hds, hds', ← Array.length_toList, ← Array.length_toList,
    List.drop_left, List.drop_left, heq]

end

/-! ## A song that shows what is owed -/

/-- Since `u` nothing has been drawn, and at most the room that is owed has changed. -/
structure Silent (u t : Session L) (blankSpace : L) : Prop where
  cursor : t.document.cursor = { u.document.cursor with blankSpace }
  geometry : t.document.geometry = u.document.geometry
  device : t.device = u.device
  settings : t.settings = u.settings
  inSong : t.startup = false
  inTab : t.document.modes.inTab = false

/-- Besides, text is one point high and spaced closely: a blank line then takes back a point. -/
structure Tuned (u t : Session L) (blankSpace : L) : Prop extends Silent u t blankSpace where
  close : t.document.modes.autoSpace.current = true
  size : (t.document.styles.current .text).size = 1

/-- The directives that tune a session. -/
def tuning : String := "\x7benable_extensions\x7d\n\x7bauto_space_on\x7d\n\x7btextsize: 1\x7d\n"

/-- A song of a single word below so many blank lines. -/
def probe (lines : Nat) : String := tuning ++ String.ofList (List.replicate lines '\n') ++ "x\n"

variable {u t : Session L} {b : L}

omit [Length L] in
theorem Silent.record (h : Silent u t b) (line : Nat) (log : Array (LogEntry L)) :
    Silent u { t with line, log } b := ⟨h.1, h.2, h.3, h.4, h.5, h.6⟩

theorem feeds_applies {Q : Session L → Prop} {n : Nat} (body name args : String) (k : Keyword)
    (d : Directive L) (hbody : body.toList.all Markup.Reader.isPlain = true)
    (hroom : body.toList.length ≤ 255) (hsplit : Keyword.splitText? body = some (name, args))
    (hname : Keyword.ofName? name = some k) (hread : Directive.read k args = .ok d)
    (hrefusal : refusal? k t.startup t.document.modes.extensions = none)
    (happly : ∀ line log, Ends (apply k d) { t with line, log } (fun _ => False) fun _ => Q) :
    ∃ t', Markup.Reader.feeds sink ('{' :: body.toList ++ ['}', '\n']) (.atLine n, t) =
      .ok () (.atLine (n + 1), t') ∧ Q t' := by
  obtain ⟨log, hdispatch⟩ := dispatch_applies (s := atLine n t) hsplit hname hread hrefusal
  obtain ⟨_, t', happlied, hQ⟩ := (happly n log).exists_ok
  refine ⟨t', Markup.Reader.feeds_directive hbody hroom ?_, hQ⟩
  rw [String.ofList_toList]
  exact (bind_of_ok rfl).trans (hdispatch.trans happlied)

theorem extensions_ends (h : Silent u t b) (k : Keyword) :
    Ends (apply k (.extensions true)) t (fun _ => False) fun _ t' =>
      Silent u t' b ∧ t'.document.modes.extensions = true := by
  show Ends (if 6 < t.settings.warningLevel then _ else _ : Typeset L Unit) t _ _
  split
  · exact ⟨⟨h.1, h.2, h.3, h.4, h.5, h.6⟩, rfl⟩
  · exact ⟨⟨h.1, h.2, h.3, h.4, h.5, h.6⟩, rfl⟩

omit [Length L] in
theorem scope_of_silent (h : Silent u t b) : t.scope = .current := by
  rw [Session.scope, h.inSong]
  rfl

theorem autoSpace_ends (h : Silent u t b) (k : Keyword) :
    Ends (apply k (.autoSpace true)) t (fun _ => False) fun _ t' =>
      Silent u t' b ∧ t'.document.modes.autoSpace.current = true := by
  refine .bind_ok rfl ?_
  show Ends (setAutoSpace true) t _ _
  unfold setAutoSpace
  refine .bind_ok rfl ?_
  rw [scope_of_silent h]
  exact .of_ok rfl ⟨⟨h.1, h.2, h.3, h.4, h.5, h.6⟩, rfl⟩

theorem size_ends (h : Silent u t b) (hclose : t.document.modes.autoSpace.current = true)
    (k : Keyword) : Ends (apply k (.size .text (.absolute 1))) t (fun _ => False) fun _ t' =>
      Tuned u t' b := by
  have hsize : ∀ (styles : StyleSheet) (extensions : Bool),
      ((styles.setSize .text 1 .current extensions).current .text).size = 1 := by
    rintro styles (_ | _) <;> rfl
  have happly : apply k (.size .text (.absolute 1)) t =
      modifyStyles (·.setSize .text 1 t.scope t.document.modes.extensions) t := rfl
  rw [scope_of_silent h] at happly
  exact .of_ok happly ⟨⟨h.1, h.2, h.3, h.4, h.5, h.6⟩, hclose, hsize _ _⟩

theorem tuning_tunes (hsong : u.startup = false) (hinTab : u.document.modes.inTab = false) :
    ∃ t, Markup.Reader.feeds sink tuning.toList (.atLine 1, u) = .ok () (.atLine 4, t) ∧
      Tuned u t u.document.cursor.blankSpace := by
  have hlines : tuning.toList = ('{' :: "enable_extensions".toList ++ ['}', '\n']) ++
      (('{' :: "auto_space_on".toList ++ ['}', '\n']) ++
        ('{' :: "textsize: 1".toList ++ ['}', '\n'])) := by decide
  have hsilent : Silent u u u.document.cursor.blankSpace := ⟨rfl, rfl, rfl, rfl, hsong, hinTab⟩
  obtain ⟨t₁, hextensions, h₁, hon⟩ := feeds_applies (t := u) (n := 1) "enable_extensions"
    "enable_extensions" "" .enableExtensions (.extensions true) (by decide) (by decide)
    (by decide) (by decide) rfl (by rw [hsong]; cases u.document.modes.extensions <;> rfl)
    fun line log => extensions_ends (hsilent.record line log) .enableExtensions
  obtain ⟨t₂, hautoSpace, h₂, hclose⟩ := feeds_applies (t := t₁) (n := 2) "auto_space_on"
    "auto_space_on" "" .autoSpaceOn (.autoSpace true) (by decide) (by decide) (by decide)
    (by decide) rfl (by rw [h₁.inSong, hon]; rfl)
    fun line log => autoSpace_ends (h₁.record line log) .autoSpaceOn
  obtain ⟨t₃, hsize, h₃⟩ := feeds_applies (t := t₂) (n := 3) "textsize: 1" "textsize" " 1"
    .textSize (.size .text (.absolute 1)) (by decide) (by decide) (by decide) (by decide) rfl
    (by rw [h₂.inSong]; cases t₂.document.modes.extensions <;> rfl)
    fun line log => size_ends (h₂.record line log) hclose .textSize
  refine ⟨t₃, ?_, h₃⟩
  rw [hlines, Markup.Reader.feeds_append hextensions, Markup.Reader.feeds_append hautoSpace, hsize]

theorem line_close (h : Tuned u t b) (n : Nat) {line : Line} (hchords : line.hasChords = false) :
    sink.line n line t = lyricsRow line .text (t.document.styles.current .text) (atLine n t) := by
  show (if t.startup then _ else if !(t.document.modes.inTab && t.settings.lyricsOnly) then
    setLine line else pure () : Typeset L Unit) (atLine n t) = _
  rw [h.inSong, h.inTab]
  show (if !((t.document.modes.autoSpace.current || t.document.modes.inTab) && !line.hasChords) then
    _ else lyricsRow line (if t.document.modes.inTab then .tab else .text)
      (t.document.styles.current (if t.document.modes.inTab then .tab else .text)) :
    Typeset L Unit) (atLine n t) = _
  rw [h.close, h.inTab, hchords]
  rfl

section

variable {u t : Session Rat} {b : Rat}

/-- A blank line takes back a point. -/
theorem feeds_blank (h : Tuned u t b) (n : Nat) : ∃ t',
    Markup.Reader.feeds sink ['\n'] (.atLine n, t) = .ok () (.atLine (n + 1), t') ∧
      Tuned u t' (b - 1) := by
  let font := t.document.styles.current .text
  let t' := (atLine n t).moved { t.document.cursor with
    blankSpace := t.document.cursor.blankSpace + (size font - 2) } [] t.log
  have hline : sink.line n ⟨String.ofList [], []⟩ t = .ok () t' := by
    have hblank : (⟨String.ofList [], []⟩ : Line).isBlank = true := by decide
    rw [line_close h n rfl, lyricsRow, if_pos hblank]
    exact modifyCursor_eq _ _
  have hcursor : t'.document.cursor = { u.document.cursor with blankSpace := b - 1 } := by
    have hsize : (size font : Rat) - 2 = -1 := by
      show ((font.size : Int) : Rat) - 2 = -1
      rw [h.size]
      norm_num
    show { t.document.cursor with
      blankSpace := t.document.cursor.blankSpace + (size font - 2) } = _
    rw [hsize, h.cursor, sub_eq_add_neg]
  have hdevice : t'.device = u.device := by
    show { t.device with received := t.device.received ++ ([] : List (Drawing Rat)) } = _
    rw [Array.appendList_nil]
    exact h.device
  exact ⟨t', Markup.Reader.feeds_lyrics rfl (by decide) hline,
    ⟨hcursor, h.geometry, hdevice, h.settings, h.inSong, h.inTab⟩, h.close, h.size⟩

theorem feeds_blanks (h : Tuned u t b) (n lines : Nat) : ∃ t',
    Markup.Reader.feeds sink (List.replicate lines '\n') (.atLine n, t) =
      .ok () (.atLine (n + lines), t') ∧ Tuned u t' (b - lines) := by
  induction lines generalizing n t b with
  | zero =>
    refine ⟨t, rfl, ?_⟩
    rw [Nat.cast_zero, sub_zero]
    exact h
  | succ lines ih =>
    obtain ⟨t₁, hblank, h₁⟩ := feeds_blank h n
    obtain ⟨t₂, hblanks, h₂⟩ := ih h₁ (n + 1)
    refine ⟨t₂, ?_, ?_⟩
    · rw [Nat.add_comm lines 1, ← Nat.add_assoc, ← hblanks, ← Markup.Reader.feeds_append hblank,
        Nat.add_comm 1 lines]
      rfl
    · rw [Nat.cast_succ, sub_add_eq_sub_sub_swap]
      exact h₂

theorem payBlankSpace_up (hroom : t.document.cursor.blankSpace ≤ 0)
    (hfits : t.document.geometry.bottom < t.document.cursor.vertical) :
    payBlankSpace t = .ok () (t.moved { t.document.cursor with
      vertical := t.document.cursor.vertical - t.document.cursor.blankSpace
      blankSpace := 0 } [] t.log) := by
  let up := { t.document.cursor with blankSpace := 0 }.down t.document.cursor.blankSpace
  have hup : ¬ up.vertical < t.document.geometry.bottom := by
    show ¬ t.document.cursor.vertical - t.document.cursor.blankSpace < _
    linarith
  rw [payBlankSpace_eq]
  by_cases hzero : t.document.cursor.blankSpace = 0
  · rw [if_pos (beq_iff_eq.2 hzero), hzero, sub_zero]
  · rw [if_neg fun h => hzero (beq_iff_eq.1 h), advance_eq]
    exact if_neg hup

/-- A row one point high goes up by what is owed less than nothing. -/
theorem lyricsRow_up {s : Session Rat} {line : Line} {font : Font} (h : s.device.limit = none)
    (hline : line.isBlank = false) (hsize : font.size = 1)
    (hroom : s.document.cursor.blankSpace ≤ 0)
    (hfits : s.document.geometry.bottom < s.document.cursor.vertical) (slot : FontSlot) :
    lyricsRow line slot font s = .ok () (drawnRow (s.moved { s.document.cursor with
      vertical := s.document.cursor.vertical - s.document.cursor.blankSpace
      blankSpace := 0 } [] s.log) (size font) (.text line.text slot font .left .plain)) := by
  let up := s.moved { s.document.cursor with
    vertical := s.document.cursor.vertical - s.document.cursor.blankSpace
    blankSpace := 0 } [] s.log
  have hone : (size font : Rat) - 1 = 0 := by
    show ((font.size : Int) : Rat) - 1 = 0
    rw [hsize]
    norm_num
  have hdown : up.document.cursor.down (size font - 1) = up.document.cursor := by
    rw [hone]
    show { up.document.cursor with vertical := up.document.cursor.vertical - 0 } = _
    rw [sub_zero]
  have hrow : lyricsRow line slot font s = lyricsRow line slot font up := by
    rw [lyricsRow_eq (s := up) hline rfl, lyricsRow, hline]
    exact bind_of_ok (payBlankSpace_up hroom hfits)
  have hroom : ¬ up.document.cursor.vertical - (size font - 1) < up.document.geometry.bottom := by
    rw [hone, sub_zero]
    show ¬ s.document.cursor.vertical - s.document.cursor.blankSpace < s.document.geometry.bottom
    linarith
  rw [hrow, lyricsRow_fits (s := up) h hline rfl slot hroom, hdown, Session.moved_self]

/-- A word goes up by what is owed less than nothing. -/
theorem feeds_word (h : Tuned u t b) (hlimit : u.device.limit = none) (hroom : b ≤ 0)
    (hfits : u.document.geometry.bottom < u.document.cursor.vertical) (n : Nat) : ∃ t',
    Markup.Reader.feeds sink ['x', '\n'] (.atLine n, t) = .ok () (.atLine (n + 1), t') ∧
      t'.device.limit = none ∧ t'.startup = false ∧ t'.settings = u.settings ∧
      ∃ place ds, t'.device.received.toList = u.device.received.toList ++
        .moveTo ⟨place, u.document.cursor.vertical - b⟩ :: ds := by
  let font := t.document.styles.current .text
  let c : Cursor Rat := { t.document.cursor with
    vertical := t.document.cursor.vertical - t.document.cursor.blankSpace
    blankSpace := 0 }
  let d : Document Rat := { t.document with cursor := c.openChorus (size font) }
  have hlimit : t.device.limit = none := by
    rw [h.device]
    exact hlimit
  have hword : (⟨String.ofList ['x'], []⟩ : Line).isBlank = false := by decide
  have hlyrics := lyricsRow_up (s := atLine n t) hlimit hword h.size (by
    show t.document.cursor.blankSpace ≤ 0
    rw [h.cursor]
    exact hroom) (by
    show t.document.geometry.bottom < t.document.cursor.vertical
    rw [h.geometry, h.cursor]
    exact hfits) .text
  have hline := (line_close h n rfl).trans hlyrics
  have hpen : (lineOrigin d).2 = u.document.cursor.vertical - b := by
    show (c.openChorus (size font)).vertical = _
    rw [Cursor.openChorus_vertical]
    show t.document.cursor.vertical - t.document.cursor.blankSpace = _
    rw [h.cursor]
  refine ⟨_, Markup.Reader.feeds_lyrics rfl (by decide) hline, hlimit, h.inSong, h.settings,
    (lineOrigin d).1, [.text "x" .text font .left .plain], ?_⟩
  rw [drawnRow_received, moved_received, List.append_nil, ← hpen, ← h.device]
  rfl

/-- The word stands so much higher than the cursor as there are more lines than owed. -/
theorem readText_probe (hlimit : u.device.limit = none) (hsong : u.startup = false)
    (hinTab : u.document.modes.inTab = false)
    (hfits : u.document.geometry.bottom < u.document.cursor.vertical) {lines : Nat}
    (hroom : u.document.cursor.blankSpace ≤ lines) : ∃ t,
    Markup.Reader.readText sink (probe lines) u = .ok () t ∧
      t.device.limit = none ∧ t.startup = false ∧ t.settings = u.settings ∧
      ∃ place ds, t.device.received.toList = u.device.received.toList ++
        .moveTo ⟨place, u.document.cursor.vertical - (u.document.cursor.blankSpace - lines)⟩ ::
          ds := by
  obtain ⟨t₁, htuning, h₁⟩ := tuning_tunes hsong hinTab
  obtain ⟨t₂, hblanks, h₂⟩ := feeds_blanks h₁ 4 lines
  obtain ⟨t₃, hword, h₃⟩ := feeds_word h₂ hlimit (sub_nonpos.2 hroom) hfits (4 + lines)
  have htext : (probe lines).toList =
      tuning.toList ++ (List.replicate lines '\n' ++ ['x', '\n']) := by
    simp [probe]
  refine ⟨t₃, Markup.Reader.readText_of_feeds (n := 4 + lines + 1) ?_, h₃⟩
  rw [htext]
  exact (Markup.Reader.feeds_append htuning).trans ((Markup.Reader.feeds_append hblanks).trans hword)

theorem bottom_lt_top {g : PageGeometry Rat} (h : g.IsPaper) : g.bottom < g.top := by
  rcases h with h | ⟨form, h⟩
  · simp only [PageGeometry.papers, List.mem_cons, List.not_mem_nil, or_false] at h
    rcases h with rfl | rfl | rfl
    · show (36 : Rat) < 756
      norm_num
    · show (40 : Rat) < 756
      norm_num
    · show (36 : Rat) < 792
      norm_num
  · unfold PageGeometry.ofForm at h
    split at h
    · cases h
    · rename_i hsound
      cases h
      by_contra hlow
      refine hsound ?_
      have hflat : decide (form.top ≤ form.bottom) = true := decide_eq_true (not_lt.1 hlow)
      simp only [PageGeometry.isDegenerate, hflat, Bool.or_true, Bool.true_or]

/-- What the probe shows of the song before it. -/
theorem afterwards_probe {b s : Session Rat} (h : b.SungOut s) (hlimit : b.device.limit = none)
    (hsong : b.startup = false) (hnumber : b.settings.numberAll = false)
    (hpaper : b.document.geometry.IsPaper) {lines : Nat}
    (hroom : s.document.cursor.blankSpace ≤ lines) : ∃ place ds,
    (endState (afterwards "" (probe lines)) s).device.received.toList = s.device.received.toList ++
      .beginSheet (s.document.cursor.sheets + 1) :: .moveTo ⟨place,
        b.document.geometry.top - (s.document.cursor.blankSpace - lines)⟩ :: ds := by
  have hgeometry : s.document.geometry = b.document.geometry :=
    congrArg (·.document.geometry) h.same
  have hstartup : s.startup = b.startup := congrArg (·.startup) h.same
  have hsettings : s.settings = b.settings := congrArg (·.settings) h.same
  obtain ⟨_, _, hnext, c, log, hc, rfl⟩ := (nextSong_ends h hlimit).exists_ok
  have hvertical : c.vertical = b.document.geometry.top :=
    (congrArg (·.vertical) hc).trans (congrArg (·.top) hgeometry)
  have hblank : c.blankSpace = s.document.cursor.blankSpace := congrArg (·.blankSpace) hc
  let begun := (s.moved c [.beginSheet (s.document.cursor.sheets + 1)] log).inNextSong
  let titled : Session Rat := { begun with
    songs := begun.songs + 1, log := begun.log.push (.typesetting ""), file := "", line := 0 }
  obtain ⟨t, hread, hunlimited, hinSong, hset, place, ds, hreceived⟩ := readText_probe (u := titled)
    (h.limit.trans hlimit) (hstartup.trans hsong) rfl (by
      show s.document.geometry.bottom < c.vertical
      rw [hvertical, hgeometry]
      exact bottom_lt_top hpaper) (by
      show c.blankSpace ≤ (lines : Rat)
      rw [hblank]
      exact hroom)
  have hfinish : endState (afterwards "" (probe lines)) s = endState finish t := by
    have hrun : afterwards "" (probe lines) s = finish t :=
      (bind_of_ok hnext).trans ((bind_of_ok rfl).trans ((bind_of_ok rfl).trans
        ((bind_of_ok rfl).trans (bind_of_ok hread))))
    unfold endState
    rw [hrun]
  -- what the end of the document draws comes after the word
  obtain ⟨es, hes⟩ := finish_respects.grows hunlimited hinSong (by
    rw [hset]
    show s.settings.numberAll = false
    rw [hsettings]
    exact hnumber)
  have htitled : titled.device.received.toList =
      s.device.received.toList ++ [.beginSheet (s.document.cursor.sheets + 1)] :=
    s.moved_received c _ log
  have hplace : titled.document.cursor.vertical - (titled.document.cursor.blankSpace - lines) =
      b.document.geometry.top - (s.document.cursor.blankSpace - lines) := by
    show c.vertical - (c.blankSpace - lines) = _
    rw [hvertical, hblank]
  refine ⟨place, ds ++ es, ?_⟩
  rw [hfinish, ← hes, hreceived, hplace, htitled, List.append_assoc, List.append_assoc]
  rfl

theorem drawnLater_probe {settings : Settings Rat} {s : Session Rat}
    (h : s.Unprinted settings false) (hone : settings.pagination = .one)
    (hnumber : settings.numberAll = false) {song : String × String}
    (hplain : '{' ∉ song.2.toList) {lines : Nat} (hroom : owed s song ≤ lines) :
    ∃ place ds, drawnLater s song ("", probe lines) = .beginSheet 0 ::
      .moveTo ⟨place, s.document.geometry.top - (owed s song - lines)⟩ :: ds := by
  obtain ⟨u, hu, howes, hdrawn⟩ := sungOut_ends h hone hplain
  rw [howes] at hroom ⊢
  obtain ⟨place, ds, hreceived⟩ := afterwards_probe hu (by
    show s.device.limit = none
    rw [h.device]
    rfl) h.startup (by
    show s.settings.numberAll = false
    rw [h.settings]
    exact hnumber) h.paper hroom
  refine ⟨place, ds.map Drawing.bare, ?_⟩
  rw [hdrawn, hreceived, ← Array.length_toList, List.drop_left]
  rfl

/-- The session is ready for the first song, with one page on each sheet and no option that numbers
every page. -/
def IsReady (settings : Settings L) (s : Session L) : Prop :=
  settings.pagination = .one ∧ settings.numberAll = false ∧
    ∃ configurations overrides, prepare configurations overrides (.start settings .unlimited) =
      .ok () s

theorem IsReady.unprinted {settings : Settings L} {s : Session L} (h : IsReady settings s) :
    s.Unprinted settings false := by
  obtain ⟨-, -, configurations, overrides, hprepare⟩ := h
  exact (prepare_ends settings configurations overrides).holds hprepare

/-- After two songs without directives that leave the same room owed every other song is printed
in the same way; over exact lengths it is so after no others. -/
theorem drawnLater_eq_iff :
    (∀ (settings : Settings L) (s : Session L), IsReady settings s →
      ∀ song song' : String × String, '{' ∉ song.2.toList → '{' ∉ song'.2.toList →
        owed s song = owed s song' → ∀ next, drawnLater s song next = drawnLater s song' next) ∧
    ∀ (settings : Settings Rat) (s : Session Rat), IsReady settings s →
      ∀ song song' : String × String, '{' ∉ song.2.toList → '{' ∉ song'.2.toList →
        ((∀ next, drawnLater s song next = drawnLater s song' next) ↔
          owed s song = owed s song') := by
  refine ⟨fun settings s h song song' hplain hplain' howed =>
    drawnLater_congr h.unprinted h.1 h.2.1 hplain hplain' howed, ?_⟩
  intro settings s h song song' hplain hplain'
  refine ⟨fun hsame => ?_, drawnLater_congr h.unprinted h.1 h.2.1 hplain hplain'⟩
  -- enough lines for the word to stand above the top after either song
  let lines := max ⌈owed s song⌉₊ ⌈owed s song'⌉₊
  have hroom : owed s song ≤ lines :=
    (Nat.le_ceil _).trans (Nat.cast_le.2 (Nat.le_max_left _ _))
  have hroom' : owed s song' ≤ lines :=
    (Nat.le_ceil _).trans (Nat.cast_le.2 (Nat.le_max_right _ _))
  obtain ⟨place, ds, hdrawn⟩ := drawnLater_probe h.unprinted h.1 h.2.1 hplain hroom
  obtain ⟨place', ds', hdrawn'⟩ := drawnLater_probe h.unprinted h.1 h.2.1 hplain' hroom'
  have hprobe := hsame ("", probe lines)
  rw [hdrawn, hdrawn'] at hprobe
  simp only [List.cons.injEq, Drawing.moveTo.injEq, Point.mk.injEq] at hprobe
  linarith [hprobe.2.1.2]

theorem isReady_start : IsReady .default (.start .default .unlimited : Session L) :=
  ⟨rfl, rfl, [], ⟨none, none, none, none, none, none⟩, rfl⟩

/-- Two songs that end in a blank line are the same to the next one. -/
theorem drawnLater_blank_lines :
    IsReady .default (.start .default .unlimited : Session Rat) ∧ ∀ next,
      drawnLater (.start .default .unlimited : Session Rat) ("a", "la\n\n") next =
        drawnLater (.start .default .unlimited) ("b", "oh\nlo\n\n") next :=
  ⟨isReady_start, ((drawnLater_eq_iff (L := Rat)).2 .default _ isReady_start _ _ (by decide)
    (by decide)).2 (by decide +kernel)⟩

/-- The height of a place that the pen is moved to. -/
def penHeight : Drawing Rat → Rat
  | .moveTo p => p.v
  | _ => 0

/-- A blank line at the end of a song moves the next song down. -/
theorem drawnLater_blank_line :
    IsReady .default (.start .default .unlimited : Session Rat) ∧
      drawnLater (.start .default .unlimited : Session Rat) ("a", "la\n\n") ("b", "lo\n") ≠
        drawnLater (.start .default .unlimited) ("a", "la\n") ("b", "lo\n") := by
  refine ⟨isReady_start, fun hsame => ?_⟩
  have hheight := congrArg (fun ds => ds[1]?.map penHeight) hsame
  revert hheight
  decide +kernel

end

end Songbook.Typeset
