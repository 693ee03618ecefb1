import Songbook.Proofs.Runs

/-!
# What a song leaves to the next

A song without directives changes nothing but the cursor and the names of the chords in use
(`Sung`). Its end closes the sheet where every sheet has one page, and the next song begins at the
top of the next sheet with the chords forgotten. So all that is left of it is the room that its
last blank lines have asked for: after two such songs that leave the same, the run goes on in the
same way (`afterwards_alike`).
-/

namespace Songbook

variable {L : Type} [Length L]

/-- The first page of a song on a sheet of its own, when that much room is owed. -/
def Cursor.ofSong (g : PageGeometry L) (blankSpace : L) : Cursor L :=
  { start g .one 1 with slot := 1, songPages := 1, blankSpace }

namespace Session

/-- On the first page of the first song. -/
def inFirstSong (s : Session L) : Session L :=
  { s.withFirstPage #[] with songs := s.songs + 1 }

/-- Since `b` songs have been sung without directives, one page on each sheet. -/
structure Sung (b s : Session L) : Prop where
  same : { s with
    document := { s.document with cursor := b.document.cursor, chords := b.document.chords }
    device := b.device
    file := b.file
    line := b.line
    log := b.log } = b
  limit : s.device.limit = b.device.limit
  pagination : s.document.cursor.pagination = .one
  chords : b.document.chords.Grown s.document.chords

/-- Since `b` a song has been sung without directives, and its last page has been left. -/
structure SungOut (b s : Session L) : Prop extends Sung b s where
  closed : s.document.cursor.slot = 0
  columnTop : s.document.cursor.columnTop = s.document.geometry.top

variable {b s t : Session L}

omit [Length L] in
theorem Sung.refl (h : b.document.cursor.pagination = .one) : b.Sung b :=
  ⟨rfl, rfl, h, .refl _⟩

omit [Length L] in
theorem left_pagination (c : Cursor L) (g : PageGeometry L) (sheetToo : Bool) :
    (c.left g sheetToo).pagination = c.pagination := by
  rcases c.left_cases g sheetToo with hleft | hleft | hleft <;> rw [hleft] <;> rfl

theorem Move.sung (hmove : Move false s t) (h : b.Sung s) : b.Sung t := by
  cases hmove with
  | turn _ =>
    refine ⟨h.same, h.limit, ?_, h.chords⟩
    show (Cursor.countPage _).pagination = .one
    rw [Cursor.countPage_pagination, left_pagination]
    exact h.pagination
  | useChord name => exact ⟨h.same, h.limit, h.pagination, h.chords.use name⟩
  | setColumns he _ => cases he
  | nextSong he _ => cases he
  | revise he _ _ _ => cases he
  | count he _ => cases he
  | _ => exact ⟨h.same, h.limit, h.pagination, h.chords⟩

omit [Length L] in
/-- A page that has been left has closed its sheet. -/
theorem Sung.out (h : b.Sung s) (hopen : s.document.cursor.slot ≠ 0) (ds : List (Drawing L)) :
    b.SungOut (s.moved (s.document.cursor.left s.document.geometry false) ds s.log) := by
  have hleft : s.document.cursor.left s.document.geometry false =
      s.document.cursor.leaveSheet.leavePage s.document.geometry := by
    have hfull : Pagination.perSheet .one ≤ s.document.cursor.slot := Nat.pos_of_ne_zero hopen
    unfold Cursor.left
    rw [if_neg hopen, h.pagination, if_pos (by simpa using hfull)]
  rw [hleft]
  exact ⟨⟨h.same, h.limit, h.pagination, h.chords⟩, rfl, rfl⟩

omit [Length L] in
/-- With the next song begun, only the cursor tells what has been sung. -/
theorem Sung.view_inNextSong (h : b.Sung s) (c : Cursor L) (ds : List (Drawing L))
    (log : Array (LogEntry L)) :
    (s.moved c ds log).inNextSong.view = { b.inNextSong.view with
      document := { b.inNextSong.view.document with cursor := c.view } } := by
  obtain ⟨hsame, hlimit, -, hchords⟩ := h
  have hauto := hchords.autoAdjust
  rcases s with ⟨_, ⟨_, _, _, _, _, _⟩, _, _, _, _, _, _, _⟩
  rcases b with ⟨_, ⟨_, _, _, _, _, _⟩, _, _, _, _, _, _, _⟩
  simp only [mk.injEq, Document.mk.injEq] at hsame
  obtain ⟨rfl, ⟨rfl, rfl, -, -, rfl, rfl⟩, -, rfl, -, -, rfl, rfl, -⟩ := hsame
  simp only [view, inNextSong, Session.moved, ChordBook.startSong] at hlimit hauto ⊢
  rw [hlimit, hauto]

end Session

namespace Typeset

open Session

variable {settings : Settings L} {b s t : Session L}

theorem nextSong_ends (h : b.SungOut s) (hlimit : b.device.limit = none) :
    Ends nextSong s (fun _ => False) fun _ t => ∃ c log,
      c.view = .ofSong s.document.geometry s.document.cursor.blankSpace ∧
      t = (s.moved c [.beginSheet (s.document.cursor.sheets + 1)] log).inNextSong := by
  refine .bind_ok rfl ?_
  refine Ends.bind (startPage_ends (s := afterSong s) (h.limit.trans hlimit)) ?_
  rintro _ _ ⟨log, rfl⟩
  have hslot : (afterSong s).document.cursor.slot = 0 := h.closed
  have hpagination : (afterSong s).document.cursor.pagination = .one := h.pagination
  refine .of_ok rfl ⟨((afterSong s).document.cursor.begun s.document.geometry).resetColumns
    s.document.geometry, log, ?_, ?_⟩
  · have hbegun : (((afterSong s).document.cursor.begun s.document.geometry).resetColumns
        s.document.geometry).view = { (afterSong s).document.cursor.view with
          vertical := s.document.geometry.top
          horizontal := s.document.geometry.left
          column := 0
          columns := 1
          columnWidth := s.document.geometry.textWidth
          lowest := s.document.geometry.top
          slot := 1
          songPages := 1 } := by
      simp [Cursor.begun, Cursor.countPage, Cursor.toPageTop, Cursor.resetColumns, Cursor.view,
        afterSong, h.closed]
    rw [hbegun]
    simp [Cursor.ofSong, Cursor.start, Cursor.view, afterSong, h.columnTop, h.pagination]
  · rw [if_pos hslot, hslot, hpagination]
    rfl

/-- After two songs that leave the same room the next one begins alike. -/
theorem nextSong_alike (h : b.SungOut s) (h' : b.SungOut t) (hlimit : b.device.limit = none)
    (hsong : b.startup = false) (hnumber : b.settings.numberAll = false)
    (howed : s.document.cursor.blankSpace = t.document.cursor.blankSpace) :
    EndAlike nextSong nextSong s t (Alike s.device.received.toList t.device.received.toList)
      fun _ => Alike s.device.received.toList t.device.received.toList := by
  have hsettings : s.settings = b.settings := congrArg (·.settings) h.same
  have hsettings' : t.settings = b.settings := congrArg (·.settings) h'.same
  have hgeometry : s.document.geometry = b.document.geometry :=
    congrArg (·.document.geometry) h.same
  have hgeometry' : t.document.geometry = b.document.geometry :=
    congrArg (·.document.geometry) h'.same
  have hstartup : s.startup = b.startup := congrArg (·.startup) h.same
  obtain ⟨_, _, hs, c, log, hc, rfl⟩ := (nextSong_ends h hlimit).exists_ok
  obtain ⟨_, _, ht, c', log', hc', rfl⟩ := (nextSong_ends h' hlimit).exists_ok
  refine .of_ok hs ht ⟨?_, ?_, h.limit.trans hlimit, hstartup.trans hsong, ?_, ?_⟩
  · rw [h.view_inNextSong, h'.view_inNextSong, hc, hc', hgeometry, hgeometry', howed]
  · show (s.document.chords.startSong s.settings.dropSongDefinitions).Kin
      (t.document.chords.startSong t.settings.dropSongDefinitions)
    rw [hsettings, hsettings']
    exact h.chords.kin h'.chords _
  · show s.settings.numberAll = false
    rw [hsettings]
    exact hnumber
  · exact ⟨_, _, s.moved_received c _ log, t.moved_received c' _ log', rfl⟩

/-! ## The rest of the run -/

theorem begin_respects : Respects (begin : Typeset L Unit) := by
  have hstart : Respects (modify fun s => { s with started := true } : Typeset L Unit) :=
    change_respects ⟨fun _ => rfl, fun _ => rfl, fun _ => rfl, fun _ => rfl, fun _ => rfl⟩
  exact .read (fun _ _ => rfl) fun _ => .ite (.pure _) <| .bind hstart fun _ =>
    .read (fun _ _ => rfl) fun _ => .bind (draw_respects _) fun _ =>
      .bind resetDocument_respects fun _ => startPage_respects

theorem closeDocument_respects : Respects (closeDocument : Typeset L Unit) := by
  refine .bind endSheet_respects fun _ s t pre pre' h => ?_
  exact draw_agree (.endDocument s.document.cursor.sheets) (.endDocument t.document.cursor.sheets)
    rfl s t pre pre' h

theorem finish_respects : Respects (finish : Typeset L Unit) := by
  refine .bind begin_respects fun _ => .bind endSong_respects fun _ =>
    .readInSong (fun _ _ => rfl) fun s _ hnumber => ?_
  show Respects (if s.settings.tableOfContents then _ else closeDocument : Typeset L Unit)
  rw [tableOfContents_of_numberAll hnumber]
  exact closeDocument_respects

/-- Prints another song after one that has ended, and finishes the document. -/
def afterwards (name text : String) : Typeset L Unit := do
  nextSong
  modify fun s => { s with songs := s.songs + 1 }
  note (.typesetting name)
  modify fun s => { s with file := name, line := 0 }
  Markup.Reader.readText sink text
  finish

theorem titled_respects (name text : String) : Respects (do
    modify fun s => { s with songs := s.songs + 1 }
    note (.typesetting name)
    modify fun s => { s with file := name, line := 0 }
    Markup.Reader.readText sink text
    finish : Typeset L Unit) :=
  .bind countSong_songlike.respects fun _ =>
    .bind (note_agree _ _) fun _ => .bind (openFile_songlike name).respects fun _ =>
      .bind (readText_songlike text).respects fun _ => finish_respects

theorem afterwards_alike (h : b.SungOut s) (h' : b.SungOut t) (hlimit : b.device.limit = none)
    (hsong : b.startup = false) (hnumber : b.settings.numberAll = false)
    (howed : s.document.cursor.blankSpace = t.document.cursor.blankSpace) (name text : String) :
    EndAlike (afterwards name text) (afterwards name text) s t
      (Alike s.device.received.toList t.device.received.toList)
      fun _ => Alike s.device.received.toList t.device.received.toList :=
  (nextSong_alike h h' hlimit hsong hnumber howed).bind fun _ s t hst =>
    titled_respects name text s t _ _ hst

/-- Another song is printed after the end of the one before. -/
theorem readSong_next (hstarted : s.started = true) (hsongs : 0 < s.songs) (name text : String) :
    (do readSong name text; finish : Typeset L Unit) s =
      (do endSong; afterwards name text : Typeset L Unit) s := by
  have hread : (readSong name text : Typeset L Unit) s = (do
      newSong
      modify fun s => { s with songs := s.songs + 1 }
      note (.typesetting name)
      modify fun s => { s with file := name, line := 0 }
      Markup.Reader.readText sink text : Typeset L Unit) s := by
    refine (bind_of_ok (begin_of_started hstarted)).trans ?_
    show (if 0 < s.songs then _ else _ : Typeset L Unit) s = _
    rw [if_pos hsongs]
  rw [bind_eq, hread, ← bind_eq, newSong_eq, afterwards]
  simp only [bind_assoc]

/-- The first song, if it has no directives. -/
theorem firstSong_ends (h : s.Unprinted settings false) (hone : settings.pagination = .one)
    (name : String) {text : String} (hplain : '{' ∉ text.toList) :
    Ends (readSong name text) s (fun _ => False) fun _ t =>
      t.OnPage ∧ s.inFirstSong.Sung t := by
  refine (begin_ends h).bind ?_
  rintro _ _ ⟨log, rfl⟩
  show Ends (if 0 < s.songs then _ else _ : Typeset L Unit) _ _ _
  rw [h.songs, if_neg (Nat.lt_irrefl 0)]
  refine .bind_ok rfl (.bind_ok rfl (.bind_ok rfl ?_))
  have hpage : (s.withFirstPage log).OnPage := IsBegun.onPage ⟨s, log, h, rfl⟩
  have htext : Wanders false (Markup.Reader.readText sink text : Typeset L Unit) :=
    readText_wanders text fun hd => absurd hd hplain
  refine Ends.mono (Ends.weaken (htext.ends ?_) fun _ he => ?_) fun _ t ht => ⟨ht.onPage ?_, ?_⟩
  · exact ⟨hpage.1, hpage.2, hpage.3⟩
  · exact absurd he.1 Bool.false_ne_true
  · exact ⟨hpage.1, hpage.2, hpage.3⟩
  · refine ht.keep (fun _ _ => Move.sung) ⟨rfl, rfl, ?_, .refl _⟩
    show (Cursor.countPage _).pagination = .one
    rw [Cursor.countPage_pagination]
    show s.document.cursor.pagination = .one
    rw [h.cursor]
    exact hone

end Typeset

end Songbook
