import Songbook.Proofs.Tellings

/-!
# Whose subtitles the index has

What is given on the first pages of songs is a sequence of marks: that a song begins, titles with
their numbers, and subtitles. The index is collected from them one after the other, and a subtitle
goes to the last entry, whatever song that belongs to. So the entries are the titles in order
(`collected_keys`), and each has the subtitles of its own song up to the next title exactly if no
song after a title gives a subtitle first (`collected_eq_iff`, `index_attributed_iff`).
-/

namespace Songbook

/-- What counts for the index: that a song begins, and the titles, with the numbers of their pages,
and subtitles on its first page. -/
inductive Mark where
  | song
  | title (text : String) (page : Int)
  | subtitle (text : String)
deriving DecidableEq

namespace Mark

def isTitle : Mark → Bool
  | .title .. => true
  | _ => false

def isSong : Mark → Bool
  | .song => true
  | _ => false

/-- The title of an entry and its number. -/
def key? : Mark → Option (String × Int)
  | .title text page => some (text, page)
  | _ => none

/-- The subtitles that come before any other mark. -/
def leading : List Mark → List String
  | .subtitle text :: marks => text :: leading marks
  | _ => []

/-- Each title with the subtitles that follow it in its song, up to the next title. -/
def attributed : List Mark → List IndexEntry
  | [] => []
  | .title text page :: marks => ⟨text, leading marks, page⟩ :: attributed marks
  | _ :: marks => attributed marks

/-- The index after a mark. -/
def enter (index : List IndexEntry) : Mark → List IndexEntry
  | .song => index
  | .title text page => index ++ [⟨text, [], page⟩]
  | .subtitle text => Typeset.addSubtitle text index

/-- The index collected from marks. -/
def collected (marks : List Mark) : List IndexEntry := marks.foldl enter []

/-- The marks as they are without songs to part them. -/
def unparted (marks : List Mark) : List Mark := marks.filter fun mark => !mark.isSong

theorem addSubtitle_concat (text : String) (index : List IndexEntry) (e : IndexEntry) :
    Typeset.addSubtitle text (index ++ [e]) =
      index ++ [{ e with subtitles := e.subtitles ++ [text] }] := by
  induction index with
  | nil => rfl
  | cons d index ih =>
    show Typeset.addSubtitle text (d :: (index ++ [e])) = d :: (index ++ _)
    rw [← ih]
    cases index <;> rfl

theorem addSubtitles_concat (texts : List String) (index : List IndexEntry) (e : IndexEntry) :
    texts.foldl (fun index text => Typeset.addSubtitle text index) (index ++ [e]) =
      index ++ [{ e with subtitles := e.subtitles ++ texts }] := by
  induction texts generalizing e with
  | nil => simp
  | cons text texts ih =>
    rw [List.foldl_cons, addSubtitle_concat, ih]
    simp

theorem addSubtitles_nil (texts : List String) :
    texts.foldl (fun index text => Typeset.addSubtitle text index) [] = [] := by
  induction texts with
  | nil => rfl
  | cons text texts ih => exact ih

/-- The first subtitles go to the entry that is there already, the rest is attributed. -/
theorem foldl_enter (marks : List Mark) (index : List IndexEntry) :
    marks.foldl enter index =
      (leading (unparted marks)).foldl (fun index text => Typeset.addSubtitle text index) index ++
        attributed (unparted marks) := by
  induction marks generalizing index with
  | nil => simp [unparted, leading, attributed]
  | cons mark marks ih =>
    rw [List.foldl_cons, ih]
    cases mark with
    | song => rfl
    | subtitle text => rfl
    | title text page =>
      show (leading (unparted marks)).foldl _ (index ++ [_]) ++ attributed (unparted marks) =
        index ++ ⟨text, leading (unparted marks), page⟩ :: attributed (unparted marks)
      rw [addSubtitles_concat]
      simp

/-- Songs do not part the index. -/
theorem collected_eq (marks : List Mark) : collected marks = attributed (unparted marks) := by
  rw [collected, foldl_enter, addSubtitles_nil, List.nil_append]

theorem attributed_keys (marks : List Mark) :
    (attributed marks).map (fun e => (e.title, e.page)) = marks.filterMap key? := by
  induction marks with
  | nil => rfl
  | cons mark marks ih =>
    cases mark with
    | song => exact ih
    | subtitle text => exact ih
    | title text page => exact congrArg ((text, page) :: ·) ih

/-- There is one entry for each title, in order. -/
theorem collected_keys (marks : List Mark) :
    (collected marks).map (fun e => (e.title, e.page)) = marks.filterMap key? := by
  rw [collected_eq, attributed_keys, unparted, List.filterMap_filter]
  refine List.filterMap_congr fun mark _ => ?_
  cases mark <;> rfl

/-- A song gives a subtitle first, and of the marks before it `P` holds. -/
def SubtitleFirst (P : List Mark → Prop) (marks : List Mark) : Prop :=
  ∃ before text after, marks = before ++ .song :: .subtitle text :: after ∧ P before

theorem subtitleFirst_cons_iff {P : List Mark → Prop} {mark : Mark} {marks : List Mark} :
    SubtitleFirst P (mark :: marks) ↔
      (mark = .song ∧ (∃ text after, marks = .subtitle text :: after) ∧ P []) ∨
        SubtitleFirst (fun before => P (mark :: before)) marks := by
  constructor
  · rintro ⟨before, text, after, heq, hP⟩
    cases before with
    | nil =>
      cases heq
      exact .inl ⟨rfl, ⟨text, after, rfl⟩, hP⟩
    | cons m before =>
      cases heq
      exact .inr ⟨before, text, after, rfl, hP⟩
  · rintro (⟨rfl, ⟨text, after, rfl⟩, hP⟩ | ⟨before, text, after, rfl, hP⟩)
    · exact ⟨[], text, after, rfl, hP⟩
    · exact ⟨mark :: before, text, after, rfl, hP⟩

/-- No title is among the marks. -/
def Untitled (marks : List Mark) : Prop := ∀ mark ∈ marks, mark.isTitle = false

theorem untitled_cons_iff {mark : Mark} {marks : List Mark} :
    Untitled (mark :: marks) ↔ mark.isTitle = false ∧ Untitled marks := List.forall_mem_cons

theorem leading_eq_nil {marks : List Mark}
    (h : ¬ ∃ text after, marks = .subtitle text :: after) : leading marks = [] := by
  match marks with
  | [] | .song :: _ | .title .. :: _ => rfl
  | .subtitle text :: after => exact absurd ⟨text, after, rfl⟩ h

/-- The first subtitles go on over the beginning of songs exactly if one gives a subtitle first,
before any title. -/
theorem leading_unparted_eq_iff (marks : List Mark) :
    leading (unparted marks) = leading marks ↔ ¬ SubtitleFirst Untitled marks := by
  induction marks with
  | nil =>
    refine ⟨?_, fun _ => rfl⟩
    rintro - ⟨before, text, after, heq, -⟩
    simp at heq
  | cons mark marks ih =>
    rw [subtitleFirst_cons_iff]
    cases mark with
    | song =>
      show leading (unparted marks) = [] ↔ _
      have hsame : SubtitleFirst (fun before => Untitled (.song :: before)) marks ↔
          SubtitleFirst Untitled marks := by
        simp only [SubtitleFirst, untitled_cons_iff, isTitle, true_and]
      rw [hsame]
      by_cases hfirst : ∃ text after, marks = .subtitle text :: after
      · have hleading : leading (unparted marks) ≠ [] := by
          obtain ⟨text, after, rfl⟩ := hfirst
          exact List.cons_ne_nil _ _
        exact iff_of_false hleading (not_not_intro (.inl ⟨rfl, hfirst, nofun⟩))
      · rw [leading_eq_nil hfirst] at ih
        simpa [hfirst] using ih
    | subtitle text =>
      have hsame : SubtitleFirst (fun before => Untitled (.subtitle text :: before)) marks ↔
          SubtitleFirst Untitled marks := by
        simp only [SubtitleFirst, untitled_cons_iff, isTitle, true_and]
      show text :: leading (unparted marks) = text :: leading marks ↔ _
      simpa [hsame] using ih
    | title text page =>
      refine iff_of_true rfl ?_
      rintro (⟨h, -⟩ | ⟨before, _, _, -, huntitled⟩)
      · cases h
      · exact Bool.noConfusion (untitled_cons_iff.1 huntitled).1

/-- A song after a title gives a subtitle first. -/
def Strays (marks : List Mark) : Prop := SubtitleFirst (fun before => ¬ Untitled before) marks

/-- The index has its subtitles under the titles of their own songs exactly if none strays. -/
theorem collected_eq_iff (marks : List Mark) :
    collected marks = attributed marks ↔ ¬ Strays marks := by
  rw [collected_eq, Strays]
  induction marks with
  | nil =>
    refine ⟨?_, fun _ => rfl⟩
    rintro - ⟨before, text, after, heq, -⟩
    simp at heq
  | cons mark marks ih =>
    rw [subtitleFirst_cons_iff]
    cases mark with
    | song =>
      show attributed (unparted marks) = attributed marks ↔ _
      simpa [SubtitleFirst, untitled_cons_iff, isTitle, Untitled] using ih
    | subtitle text =>
      show attributed (unparted marks) = attributed marks ↔ _
      simpa [SubtitleFirst, untitled_cons_iff, isTitle] using ih
    | title text page =>
      show (⟨text, leading (unparted marks), page⟩ :: attributed (unparted marks) : List IndexEntry) =
        ⟨text, leading marks, page⟩ :: attributed marks ↔ _
      -- before a subtitle that comes first there is a title, be it this one or a later one
      have hany : SubtitleFirst (fun before => ¬ Untitled (.title text page :: before)) marks ↔
          SubtitleFirst Untitled marks ∨ SubtitleFirst (fun before => ¬ Untitled before) marks := by
        constructor
        · rintro ⟨before, subtitle, after, heq, -⟩
          by_cases huntitled : Untitled before
          · exact .inl ⟨before, subtitle, after, heq, huntitled⟩
          · exact .inr ⟨before, subtitle, after, heq, huntitled⟩
        · rintro (⟨before, subtitle, after, heq, -⟩ | ⟨before, subtitle, after, heq, -⟩) <;>
            exact ⟨before, subtitle, after, heq, fun h =>
              Bool.noConfusion (untitled_cons_iff.1 h).1⟩
      rw [hany, List.cons.injEq, IndexEntry.mk.injEq, ih, leading_unparted_eq_iff]
      simp

instance (marks : List Mark) : Decidable (Strays marks) :=
  decidable_of_iff (collected marks ≠ attributed marks)
    ((not_congr (collected_eq_iff marks)).trans Classical.not_not)

end Mark

variable {L : Type} [Length L]

/-- The title or subtitle that a directive gives. -/
def Directive.mark? (s : Session L) : Directive L → Option Mark
  | .title text => some (.title text (Typeset.currentLabel s))
  | .subtitle text => some (.subtitle text)
  | _ => none

/-- The title or subtitle that is told. -/
def Telling.mark? (x : Telling) (s : Session L) : Option Mark :=
  (x.directive? s).bind (Directive.mark? s)

namespace Session

/-- The marks of some tellings, in a song that began on the page of number `first`. -/
def marks (first : Nat) (s : Session L) : List Telling → List Mark
  | [] => []
  | x :: xs =>
    if x.beginsSong s then .song :: marks (s.told x).document.cursor.pages (s.told x) xs
    else
      (if s.document.cursor.pages = first then (x.mark? s).toList else []) ++
        marks first (s.told x) xs

end Session

namespace Typeset

open Session

variable {settings : Settings L} {s : Session L}

omit [Length L] in
/-- A page is the first one of its song when the song began on it. -/
theorem isIndexed_eq (hindex : s.settings.tableOfContents = true) {first : Nat}
    (hfirst : s.opened = first) : isIndexed s = decide (s.document.cursor.pages = first) := by
  unfold isIndexed
  rw [hindex, Bool.true_and, beq_eq_decide, decide_eq_decide]
  unfold Session.opened at hfirst
  omega

theorem mark?_of_beginsSong {x : Telling} (h : x.beginsSong s = true) : x.mark? s = none := by
  match x with
  | .song name => rfl
  | .found (.directive n text) =>
    obtain ⟨d, hd, hnew⟩ := (Option.any_eq_true _ _).1 h
    show (directive? s text).bind (Directive.mark? s) = none
    rw [hd]
    cases d with
    | newSong => rfl
    | _ => cases hnew

/-- What a telling enters in the index. -/
theorem told_index (h : s.InSong settings) (x : Telling) :
    (s.told x).document.index =
      if isIndexed s then (x.mark? s).elim s.document.index (Mark.enter s.document.index)
      else s.document.index := by
  rcases told_register_cases h x with ⟨hbegins, htold⟩ | ⟨-, hd, htold⟩ |
    ⟨d, -, hd, -, hnew, hpaper, htold⟩
  · rw [mark?_of_beginsSong hbegins, Option.elim_none, ite_self]
    exact congrArg Register.index htold
  · rw [Telling.mark?, hd, Option.bind_none, Option.elim_none, ite_self]
    exact congrArg Register.index htold
  · rw [Telling.mark?, hd, Option.bind_some]
    refine (congrArg Register.index htold).trans ?_
    cases d with
    | title text => rfl
    | subtitle text => rfl
    | newSong => cases hnew
    | paperType name => cases hpaper
    | formSpec spec => cases hpaper
    | _ => exact (ite_self _).symm

/-- The index is collected from the marks. -/
theorem toldAll_index (hindex : settings.tableOfContents = true) (h : s.InSong settings)
    {first : Nat} (hfirst : s.opened = first) (xs : List Telling) :
    (s.toldAll xs).document.index = (s.marks first xs).foldl Mark.enter s.document.index := by
  induction xs generalizing s first with
  | nil => rfl
  | cons x xs ih =>
    have htold := told_inSong h x
    have hopened := told_opened h x
    have hentered := told_index h x
    rw [isIndexed_eq (by rwa [h.settings_eq]) hfirst] at hentered
    show ((s.told x).toldAll xs).document.index = _
    unfold Session.marks
    by_cases hbegins : x.beginsSong s = true
    · rw [if_pos hbegins] at hopened ⊢
      rw [ih htold hopened, hentered, mark?_of_beginsSong hbegins]
      simp [Mark.enter]
    · rw [if_neg hbegins] at hopened ⊢
      rw [ih htold (hopened.trans hfirst), hentered, List.foldl_append]
      by_cases hpage : s.document.cursor.pages = first
      · simp only [hpage, decide_true, if_true]
        cases x.mark? s <;> rfl
      · simp [hpage]

/-- The marks of a whole run. -/
def runMarks (settings : Settings L) (configurations : List (String × String))
    (overrides : Overrides) (songs : List (String × String)) : List Mark :=
  .song :: (firstSong settings configurations overrides).marks 1
    (runTellings settings configurations overrides songs)

theorem opened_of_isBegun {b : Session L} (h : b.IsBegun settings) :
    b.opened = (1 : Nat) ∧ b.document.index = [] := by
  obtain ⟨s, log, hs, rfl⟩ := h
  refine ⟨?_, hs.index⟩
  let c := s.document.cursor.resetColumns s.document.geometry
  have hpages : (c.begun s.document.geometry).pages = s.document.cursor.pages + 1 :=
    Cursor.countPage_pages c
  have hsongPages : (c.begun s.document.geometry).songPages = s.document.cursor.songPages + 1 :=
    begun_songPages c s.document.geometry
  show ((c.begun s.document.geometry).pages : Int) + 1 - (c.begun s.document.geometry).songPages = _
  rw [hpages, hsongPages, hs.cursor]
  rfl

/-- With a table of contents the songs of a run leave one entry for each title given on the first
page of its song, in order. Each entry has the subtitles that its own song gives on that page after
the title and before the next one, exactly if no song after a title gives a subtitle before any
title of its own: such a subtitle goes to the entry of another song. -/
theorem index_attributed_iff (settings : Settings L) (configurations : List (String × String))
    (overrides : Overrides) (songs : List (String × String))
    (hindex : settings.tableOfContents = true) :
    SongsTo settings configurations overrides songs fun t =>
      t.document.index.map (fun e => (e.title, e.page)) =
          (runMarks settings configurations overrides songs).filterMap Mark.key? ∧
        (t.document.index = Mark.attributed (runMarks settings configurations overrides songs) ↔
          ¬ Mark.Strays (runMarks settings configurations overrides songs)) := by
  refine songsTo_of_told settings configurations overrides songs fun hbegins => ?_
  obtain ⟨hopened, hempty⟩ := opened_of_isBegun hbegins.isBegun
  have hcollected := toldAll_index hindex hbegins.inSong hopened
    (runTellings settings configurations overrides songs)
  rw [hempty] at hcollected
  have hmarks : ((firstSong settings configurations overrides).toldAll
      (runTellings settings configurations overrides songs)).document.index =
      Mark.collected (runMarks settings configurations overrides songs) := hcollected
  rw [hmarks]
  exact ⟨Mark.collected_keys _, Mark.collected_eq_iff _⟩

/-- A song with a subtitle under its title and another one on its second page, and a song with a
title of its own. -/
def titledSongs : List (String × String) :=
  [("a", "\x7bt: A\x7d\n\x7bst: B\x7d\n\x7bnp\x7d\n\x7bst: D\x7d\n"),
    ("b", "\x7bt: E\x7d\n\x7bst: F\x7d\n")]

theorem index_attributed_titledSongs :
    indexed.tableOfContents = true ∧
      ∃ t : Session Rat, (do prepare [] noOverrides; printSongs titledSongs; begin)
          (.start indexed .unlimited) = .ok () t ∧
        t.document.index = [⟨"A", ["B"], 1⟩, ⟨"E", ["F"], 3⟩] := by
  obtain ⟨t, hrun⟩ : ∃ t, (do prepare [] noOverrides; printSongs titledSongs; begin)
      (.start indexed .unlimited) = .ok () t := ⟨_, eq_ok_of_succeeds (by decide +kernel)⟩
  have hmarks : runMarks indexed [] noOverrides titledSongs =
      [.song, .title "A" 1, .subtitle "B", .song, .title "E" 3, .subtitle "F"] := by
    decide +kernel
  obtain ⟨-, hiff⟩ := (index_attributed_iff indexed [] noOverrides titledSongs rfl).of_ok hrun
  rw [hmarks] at hiff
  exact ⟨rfl, t, hrun, hiff.2 (by decide)⟩

/-- The second song has no title. -/
def untitledSongs : List (String × String) := [("a", "\x7bt: A\x7d\n"), ("b", "\x7bst: B\x7d\n")]

/-- The subtitle of the song without a title goes to the song before it. -/
theorem index_misattributed_untitledSongs : ∃ t : Session Rat,
    (do prepare [] noOverrides; printSongs untitledSongs; begin)
      (.start indexed .unlimited) = .ok () t ∧
    runMarks indexed [] noOverrides untitledSongs =
      [.song, .title "A" 1, .song, .subtitle "B"] ∧
    t.document.index = [⟨"A", ["B"], 1⟩] ∧
    Mark.attributed (runMarks indexed [] noOverrides untitledSongs) = [⟨"A", [], 1⟩] := by
  have hmarks : runMarks indexed [] noOverrides untitledSongs =
      [.song, .title "A" 1, .song, .subtitle "B"] := by
    decide +kernel
  refine ⟨_, eq_ok_of_succeeds (by decide +kernel), hmarks, ?_, ?_⟩
  · decide +kernel
  · rw [hmarks]
    rfl

end Typeset

end Songbook
