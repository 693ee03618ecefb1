import Songbook.Proofs.LyricsSteps
import Songbook.Proofs.WholeLines

/-!
# Lines with their chords written into them

`Line.markup` writes a line of lyrics with each of its chords in brackets before the character that
the chord is over. Read again the line is what it was (`markup_readsBack`), with the names that the
sink shows for those that are written. In a tablature brackets are lyrics, and any line is read as
it stands.
-/

namespace Songbook

/-- A chord name in its brackets. -/
def bracketed (name : String) : List Char := '[' :: name.toList ++ [']']

/-- The characters of a line from the offset `k` on, with these chords set before theirs. -/
def markupFrom (k : Nat) (cs : List Char) : List ChordMark → List Char
  | [] => cs
  | m :: ms =>
    cs.take (m.offset - k) ++ bracketed m.name ++ markupFrom m.offset (cs.drop (m.offset - k)) ms

/-- The line as it is written. -/
def Line.markup (l : Line) : String := String.ofList (markupFrom 0 l.text.toList l.chords)

theorem Line.markup_toList (l : Line) : l.markup.toList = markupFrom 0 l.text.toList l.chords :=
  String.toList_ofList

example : Line.markup ⟨"some lyrics", [⟨0, "A"⟩, ⟨5, "Bm"⟩, ⟨5, "C"⟩, ⟨11, "D"⟩]⟩ =
    "[A]some [Bm][C]lyrics[D]" := by decide

namespace Markup

variable {ε σ : Type}

/-- Stands for itself outside of tablatures. -/
def isBare (c : Char) : Bool := isLyric c && !(['[', ']'].contains c)

theorem isBare_iff {c : Char} : isBare c = true ↔ isLyric c = true ∧ c ≠ '[' ∧ c ≠ ']' := by
  simp [isBare]

/-- Can be written in brackets: it has room, and each of its characters is kept. -/
structure NameFits (name : String) : Prop where
  room : name.length ≤ Token.chordName.capacity
  chars : name.toList.all isBare = true
  spaces : ' ' ∉ name.toList

/-- Can be written as a line: the lyrics have room and are none of the markup, and the chords are
in their order over the line. -/
structure LineFits (l : Line) : Prop where
  room : l.text.length ≤ Token.lyrics.capacity
  chars : l.text.toList.all isBare = true
  sorted : l.chords.Pairwise (·.offset ≤ ·.offset)
  within : ∀ m ∈ l.chords, m.offset ≤ l.text.length
  names : ∀ m ∈ l.chords, NameFits m.name

instance (name : String) : Decidable (NameFits name) :=
  decidable_of_iff (name.length ≤ Token.chordName.capacity ∧ name.toList.all isBare = true ∧
      ' ' ∉ name.toList)
    ⟨fun ⟨room, chars, spaces⟩ => ⟨room, chars, spaces⟩, fun h => ⟨h.room, h.chars, h.spaces⟩⟩

instance (l : Line) : Decidable (LineFits l) :=
  decidable_of_iff (l.text.length ≤ Token.lyrics.capacity ∧ l.text.toList.all isBare = true ∧
      l.chords.Pairwise (·.offset ≤ ·.offset) ∧ (∀ m ∈ l.chords, m.offset ≤ l.text.length) ∧
      ∀ m ∈ l.chords, NameFits m.name)
    ⟨fun ⟨room, chars, sorted, within, names⟩ => ⟨room, chars, sorted, within, names⟩,
      fun h => ⟨h.room, h.chars, h.sorted, h.within, h.names⟩⟩

/-- What the sink shows for the chords of line `n`, called with their names one after the other, and
its state then. -/
def Sink.showAll (sink : Sink ε σ) (n : Nat) : List ChordMark → σ → List ChordMark × σ
  | [], s => ([], s)
  | m :: ms, s =>
    let (name, s) := sink.chord n m.name s
    let (shown, s) := sink.showAll n ms s
    (⟨m.offset, name⟩ :: shown, s)

theorem Sink.showAll_cons (sink : Sink ε σ) (n : Nat) (m : ChordMark) (ms : List ChordMark)
    (s : σ) : sink.showAll n (m :: ms) s =
      (⟨m.offset, (sink.chord n m.name s).1⟩ :: (sink.showAll n ms (sink.chord n m.name s).2).1,
        (sink.showAll n ms (sink.chord n m.name s).2).2) := rfl

theorem Sink.showAll_recording (sink : Sink ε σ) (n : Nat) (ms : List ChordMark) (s : σ)
    (found : List Event) : sink.recording.showAll n ms (s, found) =
      ((sink.showAll n ms s).1, (sink.showAll n ms s).2,
        found ++ ms.map fun m => .chord n m.name) := by
  induction ms generalizing s found with
  | nil => simp [showAll]
  | cons m ms ih =>
    have hrest := ih (sink.chord n m.name s).2 (found ++ [.chord n m.name])
    rw [List.append_assoc] at hrest
    exact congrArg (fun p => (⟨m.offset, (sink.chord n m.name s).1⟩ :: p.1, p.2)) hrest

theorem Sink.tablatures_showAll (n : Nat) (ms : List ChordMark) (inTab : Bool) :
    (tablatures.showAll n ms inTab).2 = inTab := by
  induction ms with
  | nil => rfl
  | cons m ms ih => exact ih

theorem Sink.recording_line (sink : Sink ε σ) (n : Nat) (content : Line) (t : σ × List Event) :
    sink.recording.line n content t =
      onState (·, t.2 ++ [.line n content]) (sink.line n content t.1) :=
  withEvent_eq _ _ t

namespace Reader

variable {sink : Sink ε σ} {n : Nat} {ls name cs : List Char} {ms : List ChordMark} {r : Reader}
  {s : σ}

variable (sink s) in
/-- Lyrics that have room are added to those that there are, and nothing is told. -/
theorem lyrics_leads (hr : r.Partway n ⟨ls, none⟩ ms) (hcs : ∀ c ∈ cs, isLyric c = true)
    (hbrackets : sink.inTab s = true ∨ ∀ c ∈ cs, c ≠ '[' ∧ c ≠ ']')
    (hroom : ls.length + cs.length ≤ Token.lyrics.capacity)
    (hhash : r.column = 0 → cs.head? ≠ some '#') :
    Leads sink cs r s s (Partway n ⟨ls ++ cs, none⟩ ms) := by
  induction cs generalizing ls r with
  | nil =>
    rw [List.append_nil]
    exact .nil hr
  | cons c cs ih =>
    rw [List.length_cons] at hroom
    have hfirst := lyric_leads sink s hr (hcs c List.mem_cons_self)
      (hbrackets.imp_right fun h => h c List.mem_cons_self)
      (fun h => hhash h.2 (congrArg some h.1))
    rw [if_neg (by omega)] at hfirst
    refine Leads.cons hfirst fun r₁ hr₁ hcolumn => ?_
    rw [List.append_cons]
    refine ih hr₁ (fun d hd => hcs d (List.mem_cons_of_mem c hd))
      (hbrackets.imp_right fun h d hd => h d (List.mem_cons_of_mem c hd)) ?_ fun hzero => ?_
    · rw [List.length_append, List.length_singleton]
      omega
    · omega

variable (sink s) in
theorem bare_leads (hr : r.Partway n ⟨ls, none⟩ ms) (hcs : ∀ c ∈ cs, isBare c = true)
    (hroom : ls.length + cs.length ≤ Token.lyrics.capacity)
    (hhash : r.column = 0 → cs.head? ≠ some '#') :
    Leads sink cs r s s (Partway n ⟨ls ++ cs, none⟩ ms) :=
  lyrics_leads sink s hr (fun c hc => (isBare_iff.1 (hcs c hc)).1)
    (.inr fun c hc => (isBare_iff.1 (hcs c hc)).2) hroom hhash

/-- So are the characters of a name to the name that is open. -/
theorem name_leads (hr : r.Partway n ⟨ls, some name⟩ ms)
    (hcs : ∀ c ∈ cs, isBare c = true)
    (hroom : name.length + cs.length ≤ Token.chordName.capacity) (hcolumn : r.column ≠ 0) :
    Leads sink cs r s s (Partway n ⟨ls, some (name ++ cs)⟩ ms) := by
  induction cs generalizing name r with
  | nil =>
    rw [List.append_nil]
    exact .nil hr
  | cons c cs ih =>
    rw [List.length_cons] at hroom
    have hkept := List.length_filter_le (fun c => decide (c ≠ ' ')) name
    obtain ⟨hlyric, hbracket⟩ := isBare_iff.1 (hcs c List.mem_cons_self)
    have hfirst := nameChar_leads sink s hr hlyric hbracket fun h => hcolumn h.2
    rw [if_neg (by omega)] at hfirst
    refine Leads.cons hfirst fun r₁ hr₁ hcolumn₁ => ?_
    rw [List.append_cons]
    refine ih hr₁ (fun d hd => hcs d (List.mem_cons_of_mem c hd)) ?_ (by omega)
    rw [List.length_append, List.length_singleton]
    omega

theorem keptName_of_fits {name : String} (hname : NameFits name) :
    keptName name.toList = name.toList := by
  have hspaces : ∀ c ∈ name.toList, decide (c ≠ ' ') = true := fun c hc =>
    decide_eq_true fun he => hname.spaces (he ▸ hc)
  unfold keptName
  rw [List.filter_eq_self.2 hspaces, List.take_of_length_le (String.length_toList ▸ hname.room)]

variable (sink s) in
/-- A name in brackets is set over the next character as the sink shows it. -/
theorem bracketed_leads {name : String} (hr : r.Partway n ⟨ls, none⟩ ms) (hname : NameFits name)
    (hroom : ls.length ≤ Token.lyrics.capacity) (htab : sink.inTab s = false) :
    Leads sink (bracketed name) r s (sink.chord n name s).2
      (Partway n ⟨ls, none⟩ (ms ++ [⟨ls.length, (sink.chord n name s).1⟩])) := by
  refine Leads.append (Leads.cons (open_leads hr htab) fun r₁ hr₁ hcolumn =>
    name_leads hr₁ (List.all_eq_true.1 hname.chars) ?_ (by omega)) fun r₂ hr₂ _ => ?_
  · rw [List.length_nil, Nat.zero_add, String.length_toList]
    exact hname.room
  · have hclose := close_leads sink s hr₂
    rw [List.nil_append, keptName_of_fits hname, String.ofList_toList, Nat.min_eq_right hroom]
      at hclose
    exact hclose

variable (sink s) in
/-- The rest of a line with the chords that are over it. -/
theorem markup_leads (marks : List ChordMark) (hr : r.Partway n ⟨ls, none⟩ ms)
    (hcs : ∀ c ∈ cs, isBare c = true)
    (hroom : ls.length + cs.length ≤ Token.lyrics.capacity)
    (hsorted : marks.Pairwise (·.offset ≤ ·.offset))
    (hwithin : ∀ m ∈ marks, ls.length ≤ m.offset ∧ m.offset ≤ ls.length + cs.length)
    (hnames : ∀ m ∈ marks, NameFits m.name)
    (htab : ∀ before, before <+: marks → sink.inTab (sink.showAll n before s).2 = false)
    (hhash : r.column = 0 → (markupFrom ls.length cs marks).head? ≠ some '#') :
    Leads sink (markupFrom ls.length cs marks) r s (sink.showAll n marks s).2
      (Partway n ⟨ls ++ cs, none⟩ (ms ++ (sink.showAll n marks s).1)) := by
  induction marks generalizing ls cs ms r s with
  | nil =>
    rw [Sink.showAll, List.append_nil]
    exact bare_leads sink s hr hcs hroom hhash
  | cons m marks ih =>
    obtain ⟨hfrom, hto⟩ := hwithin m List.mem_cons_self
    obtain ⟨hfirst, hsorted⟩ := List.pairwise_cons.1 hsorted
    -- the lyrics before the chord, and those from it on
    have hearlier : ∀ c ∈ cs.take (m.offset - ls.length), isBare c = true := fun c hc =>
      hcs c (List.mem_of_mem_take hc)
    have hlater : ∀ c ∈ cs.drop (m.offset - ls.length), isBare c = true := fun c hc =>
      hcs c (List.mem_of_mem_drop hc)
    have hbefore : (cs.take (m.offset - ls.length)).length = m.offset - ls.length := by
      rw [List.length_take]
      omega
    have hoffset : (ls ++ cs.take (m.offset - ls.length)).length = m.offset := by
      rw [List.length_append, hbefore]
      omega
    have hwhole : ls ++ cs = ls ++ cs.take (m.offset - ls.length) ++
        cs.drop (m.offset - ls.length) := by
      rw [List.append_assoc, List.take_append_drop]
    rw [markupFrom, List.append_assoc] at hhash ⊢
    have hlyrics := bare_leads sink s hr hearlier (by omega) fun hzero hhead => hhash hzero (by
      rw [List.head?_append, hhead]
      rfl)
    refine hlyrics.append fun r₁ hr₁ _ => ?_
    have hchord := bracketed_leads sink s hr₁ (hnames m List.mem_cons_self) (by omega)
      (htab [] List.nil_prefix)
    refine hchord.append fun r₂ hr₂ hcolumn => ?_
    rw [hoffset] at hr₂
    have hrest := ih _ hr₂ hlater ?_ hsorted ?_
      (fun m hm => hnames m (List.mem_cons_of_mem _ hm))
      (fun before hbefore => htab (m :: before) (List.cons_prefix_cons.2 ⟨rfl, hbefore⟩)) ?_
    · rw [hwhole, Sink.showAll_cons]
      rw [hoffset, List.append_assoc ms] at hrest
      exact hrest
    · rw [hoffset, List.length_drop]
      omega
    · intro m' hm'
      have := hwithin m' (List.mem_cons_of_mem _ hm')
      have := hfirst m' hm'
      rw [hoffset, List.length_drop]
      omega
    · intro hzero
      simp [hcolumn, bracketed] at hzero

variable (sink s) in
/-- A line that is written without faults goes to the sink as it is. -/
theorem read_of_leads {text : String} {s' : σ}
    (h : Leads sink text.toList (atLine n) s s' (Partway n ⟨ls, none⟩ ms))
    (hroom : ls.length ≤ Token.lyrics.capacity) :
    onState Prod.snd (read sink (text ++ "\n") (atLine n, s)) =
      sink.line n ⟨String.ofList ls, ms⟩ s' := by
  obtain ⟨r, hfeeds, -, hr⟩ := h
  have hread : read sink (text ++ "\n") (atLine n, s) =
      (feed sink '\n' >>= fun _ => finish sink) (r, s') := by
    show (feeds sink (text ++ "\n").toList >>= fun _ => finish sink) (atLine n, s) = _
    rw [toList_newline, feeds_concat, bind_eq, bind_of_ok hfeeds]
    rfl
  rw [hread, bind_eq, newline_partway hr, List.take_of_length_le hroom, if_neg (by simp)]
  cases sink.line n ⟨String.ofList ls, ms⟩ s' <;> rfl

/-- Markup is read back as the line that is written, whatever the sink makes of it: the sink is
called with the names of the chords in their order, and then given the lyrics with the names that it
shows over them. In a tablature a line is read as it stands, brackets and all. -/
theorem markup_readsBack (sink : Sink ε σ) (n : Nat) (s : σ) :
    (∀ l : Line, LineFits l → l.markup.toList.head? ≠ some '#' →
      (∀ before, before <+: l.chords → sink.inTab (sink.showAll n before s).2 = false) →
      onState Prod.snd (read sink.recording (l.markup ++ "\n") (atLine n, s, [])) =
        onState
          (·, l.chords.map (.chord n ·.name) ++ [.line n ⟨l.text, (sink.showAll n l.chords s).1⟩])
          (sink.line n ⟨l.text, (sink.showAll n l.chords s).1⟩ (sink.showAll n l.chords s).2)) ∧
    ∀ text : String, text.length ≤ Token.lyrics.capacity → text.toList.all isLyric = true →
      text.toList.head? ≠ some '#' → sink.inTab s = true →
      onState Prod.snd (read sink.recording (text ++ "\n") (atLine n, s, [])) =
        onState (·, [.line n ⟨text, []⟩]) (sink.line n ⟨text, []⟩ s) := by
  constructor
  · intro l hl hhash htab
    have hroom : l.text.toList.length ≤ Token.lyrics.capacity := String.length_toList ▸ hl.room
    have hleads := markup_leads sink.recording (s, []) l.chords (partway_atLine n)
      (List.all_eq_true.1 hl.chars) (by simpa using hroom) hl.sorted
      (fun m hm => ⟨Nat.zero_le _, by simpa [String.length_toList] using hl.within m hm⟩) hl.names
      (fun before hbefore => by
        rw [Sink.showAll_recording]
        exact htab before hbefore)
      (fun _ => by simpa [Line.markup] using hhash)
    rw [Sink.showAll_recording, List.nil_append, List.nil_append, List.nil_append,
      List.length_nil, ← l.markup_toList] at hleads
    rw [read_of_leads _ _ hleads hroom, String.ofList_toList]
    exact Sink.recording_line sink n _ _
  · intro text htext hlyric hhash htab
    have hroom : text.toList.length ≤ Token.lyrics.capacity := String.length_toList ▸ htext
    have hleads := lyrics_leads sink.recording (s, []) (partway_atLine n)
      (List.all_eq_true.1 hlyric) (.inl htab) (by simpa using hroom) (fun _ => hhash)
    rw [read_of_leads _ _ hleads hroom, List.nil_append, String.ofList_toList]
    exact Sink.recording_line sink n _ _

theorem markup_readsBack_sameOffset :
    let l : Line := ⟨"où # là", [⟨0, "A"⟩, ⟨3, "Bm/F#"⟩, ⟨3, ""⟩, ⟨7, "#"⟩]⟩
    l.markup = "[A]où [Bm/F#][]# là[#]" ∧ LineFits l ∧ l.markup.toList.head? ≠ some '#' ∧
      (∀ before, before <+: l.chords →
        Sink.tablatures.inTab (Sink.tablatures.showAll 3 before false).2 = false) ∧
      onState Prod.snd (read Sink.tablatures.recording (l.markup ++ "\n") (atLine 3, false, [])) =
        .ok () (false, [.chord 3 "A", .chord 3 "Bm/F#", .chord 3 "", .chord 3 "#", .line 3 l]) ∧
      onState Prod.snd
          (read Sink.tablatures.recording ("e|-[3]-#-]" ++ "\n") (atLine 3, true, [])) =
        .ok () (true, [.line 3 ⟨"e|-[3]-#-]", []⟩]) := by
  intro l
  have hfits : LineFits l := by decide
  have hhash : l.markup.toList.head? ≠ some '#' := by decide
  have htab : ∀ before, before <+: l.chords →
      Sink.tablatures.inTab (Sink.tablatures.showAll 3 before false).2 = false :=
    fun before _ => Sink.tablatures_showAll 3 before false
  obtain ⟨hmarkup, -⟩ := markup_readsBack Sink.tablatures 3 false
  obtain ⟨-, hverbatim⟩ := markup_readsBack Sink.tablatures 3 true
  exact ⟨by decide, hfits, hhash, htab, hmarkup l hfits hhash htab,
    hverbatim "e|-[3]-#-]" (by decide) (by decide) (by decide) rfl⟩

end Reader

end Markup

end Songbook
