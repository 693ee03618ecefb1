import Mathlib.Data.List.Basic
import Songbook.Chord.Book

/-!
# Chord books compared

A chord that a song uses without knowing it is entered by its name alone. Books that differ only in
such names, none of them in use, answer every later question in the same way (`Kin`); and they are
what songs without definitions make of one book (`Grown.kin`).
-/

namespace Songbook

namespace ChordBook

/-- The entries of a name. -/
def entries (b : ChordBook) (name : String) : List ChordDefinition :=
  b.definitions.filter (·.name == name)

/-- At most known by name. -/
def HasStub (b : ChordBook) (name : String) : Prop :=
  b.entries name = [] ∨ b.entries name = [.stub name]

/-- The same chords are used, and they are known in the same way. -/
structure Kin (b b' : ChordBook) : Prop where
  used : b.used = b'.used
  autoAdjust : b.autoAdjust = b'.autoAdjust
  entries : ∀ name, b.entries name = b'.entries name ∨
    ChordDefinition.builtin? name = none ∧ name ∉ b.used ∧ b.HasStub name ∧ b'.HasStub name

variable {b b' : ChordBook}

theorem Kin.refl (b : ChordBook) : b.Kin b := ⟨rfl, rfl, fun _ => .inl rfl⟩

theorem get?_eq (b : ChordBook) (name : String) :
    b.get? name = ((b.entries name).head? <|> ChordDefinition.builtin? name) := by
  rw [get?, defined?, entries, List.head?_filter]

theorem entries_insert (b : ChordBook) (d : ChordDefinition) (name : String) :
    (b.insert d).entries name = if d.name = name then [d] else b.entries name := by
  unfold insert entries
  by_cases h : d.name = name
  · rw [if_pos h, List.filter_cons_of_pos (by simpa using h), List.filter_filter]
    have hnone : b.definitions.filter (fun e => e.name == name && e.name != d.name) = [] := by
      rw [List.filter_eq_nil_iff]
      intro e _
      simp [h]
    rw [hnone]
  · rw [if_neg h, List.filter_cons_of_neg (by simpa using h), List.filter_filter]
    refine List.filter_congr fun e _ => ?_
    by_cases he : e.name = name <;> simp [he, Ne.symm h]

theorem fitted_keeps (b : ChordBook) (d : ChordDefinition) :
    (b.fitted d).1.name = d.name ∧ (b.fitted d).1.origin = d.origin := by
  unfold fitted
  split <;> exact ⟨rfl, rfl⟩

theorem entries_define (b : ChordBook) (d : ChordDefinition) (name : String) :
    (b.define d).1.entries name = if d.name = name then [(b.fitted d).1] else b.entries name := by
  show (b.insert (b.fitted d).1).entries name = _
  rw [entries_insert, (fitted_keeps b d).1]

theorem Kin.insert (h : b.Kin b') (d : ChordDefinition) : (b.insert d).Kin (b'.insert d) := by
  refine ⟨h.used, h.autoAdjust, fun name => ?_⟩
  unfold HasStub
  rw [entries_insert, entries_insert]
  by_cases hname : d.name = name
  · rw [if_pos hname, if_pos hname]
    exact .inl rfl
  · rw [if_neg hname, if_neg hname]
    exact h.entries name

/-- Fitting a definition does not depend on what is known. -/
theorem Kin.fitted (h : b.Kin b') (d : ChordDefinition) : b.fitted d = b'.fitted d := by
  unfold ChordBook.fitted
  rw [h.autoAdjust]

theorem Kin.define (h : b.Kin b') (d : ChordDefinition) :
    (b.define d).1.Kin (b'.define d).1 := by
  simp only [ChordBook.define]
  rw [h.fitted]
  exact h.insert _

theorem get?_eq_none {name : String} :
    b.get? name = none ↔ b.entries name = [] ∧ ChordDefinition.builtin? name = none := by
  rw [get?_eq]
  cases b.entries name <;> simp

theorem used_use (b : ChordBook) (name : String) :
    (b.use name).used = if b.used.contains name then b.used else b.used ++ [name] := by
  unfold use
  dsimp only
  split <;> split <;> rfl

theorem autoAdjust_use (b : ChordBook) (name : String) :
    (b.use name).autoAdjust = b.autoAdjust := by
  unfold use
  dsimp only
  split <;> split <;> rfl

theorem entries_use (b : ChordBook) (name other : String) :
    (b.use name).entries other =
      if name = other ∧ b.get? name = none then [.stub name] else b.entries other := by
  have hstub : ∀ c : ChordBook, c.definitions = b.definitions →
      (if (c.get? name).isSome then c else c.insert (.stub name)).entries other =
        if name = other ∧ b.get? name = none then [.stub name] else b.entries other := by
    intro c hc
    have hget : c.get? name = b.get? name := by
      unfold get? defined?
      rw [hc]
    have hentries : c.entries other = b.entries other := by
      unfold entries
      rw [hc]
    rw [hget]
    cases hnone : b.get? name with
    | some d => simpa using hentries
    | none =>
      rw [Option.isSome_none, if_neg Bool.false_ne_true, entries_insert, hentries]
      show (if name = other then _ else _) = _
      by_cases hname : name = other <;> simp [hname]
  unfold use
  dsimp only
  split
  · exact hstub b rfl
  · exact hstub _ rfl

/-- Both use the same chord, and know it in the same way from then on. -/
theorem Kin.use (h : b.Kin b') (name : String) : (b.use name).Kin (b'.use name) := by
  refine ⟨?_, ?_, fun other => ?_⟩
  · rw [used_use, used_use, h.used]
  · rw [autoAdjust_use, autoAdjust_use, h.autoAdjust]
  · unfold HasStub
    rw [entries_use, entries_use]
    rcases h.entries other with hsame | ⟨hbuiltin, hunused, hstub, hstub'⟩
    · left
      by_cases hname : name = other
      · subst hname
        have hget : b.get? name = b'.get? name := by rw [get?_eq, get?_eq, hsame]
        rw [hget, hsame]
      · rw [if_neg fun hn => hname hn.1, if_neg fun hn => hname hn.1, hsame]
    · by_cases hname : name = other
      · -- once used, the name is a stub in both books, whether or not it was one before
        subst hname
        have hknown : ∀ c : ChordBook, c.HasStub name →
            (if name = name ∧ c.get? name = none then [.stub name] else c.entries name) =
              [.stub name] := by
          rintro c (hnil | hstub)
          · rw [if_pos ⟨rfl, get?_eq_none.2 ⟨hnil, hbuiltin⟩⟩]
          · rw [if_neg (by simp [get?_eq_none, hstub]), hstub]
        rw [hknown b hstub, hknown b' hstub']
        exact .inl rfl
      · right
        rw [if_neg fun hn => hname hn.1, if_neg fun hn => hname hn.1]
        refine ⟨hbuiltin, ?_, hstub, hstub'⟩
        rw [used_use]
        split
        · exact hunused
        · simpa [Ne.symm hname] using hunused

theorem entries_startSong (b : ChordBook) (drop : Bool) (name : String) :
    (b.startSong drop).entries name =
      if drop then (b.entries name).filter (·.origin != .song) else b.entries name := by
  unfold startSong entries
  cases drop with
  | true =>
    rw [if_pos rfl, if_pos rfl, List.filter_filter, List.filter_filter]
    simp only [Bool.and_comm]
  | false => rfl

theorem HasStub.startSong {name : String} (h : b.HasStub name) (drop : Bool) :
    (b.startSong drop).HasStub name := by
  unfold HasStub
  rw [entries_startSong]
  cases drop with
  | true =>
    left
    rcases h with h | h <;> rw [h] <;> rfl
  | false => exact h

/-- Both forget the chords used, and what a song has defined if that is not kept. -/
theorem Kin.startSong (h : b.Kin b') (drop : Bool) :
    (b.startSong drop).Kin (b'.startSong drop) := by
  refine ⟨rfl, h.autoAdjust, fun name => ?_⟩
  rcases h.entries name with hsame | ⟨hbuiltin, -, hstub, hstub'⟩
  · rw [entries_startSong, entries_startSong, hsame]
    exact .inl rfl
  · exact .inr ⟨hbuiltin, List.not_mem_nil, hstub.startSong drop, hstub'.startSong drop⟩

theorem Kin.usedDefinitions (h : b.Kin b') : b.usedDefinitions = b'.usedDefinitions := by
  unfold ChordBook.usedDefinitions
  rw [← h.used]
  refine List.filterMap_congr fun name hname => ?_
  rcases h.entries name with hsame | ⟨-, hunused, -⟩
  · rw [get?_eq, get?_eq, hsame]
  · exact absurd hname hunused

/-- At the beginning `b` and later, when the names of chords may have been entered that nothing
else is known of. -/
structure Grown (b later : ChordBook) : Prop where
  autoAdjust : later.autoAdjust = b.autoAdjust
  entries : ∀ name, later.entries name = b.entries name ∨
    ChordDefinition.builtin? name = none ∧ b.entries name = [] ∧ later.entries name = [.stub name]

theorem Grown.refl (b : ChordBook) : b.Grown b := ⟨rfl, fun _ => .inl rfl⟩

theorem Grown.use (h : b.Grown b') (name : String) : b.Grown (b'.use name) := by
  refine ⟨(autoAdjust_use b' name).trans h.autoAdjust, fun other => ?_⟩
  rw [entries_use]
  by_cases hnew : name = other ∧ b'.get? name = none
  · obtain ⟨rfl, hnone⟩ := hnew
    obtain ⟨hnil, hbuiltin⟩ := get?_eq_none.1 hnone
    rw [if_pos ⟨rfl, hnone⟩]
    refine .inr ⟨hbuiltin, ?_, rfl⟩
    rcases h.entries name with hsame | ⟨-, hempty, -⟩
    · rw [← hsame]
      exact hnil
    · exact hempty
  · rw [if_neg hnew]
    exact h.entries other

/-- Books that have grown from one book are of a kind for the next song. -/
theorem Grown.kin {b : ChordBook} {later later' : ChordBook} (h : b.Grown later)
    (h' : b.Grown later') (drop : Bool) : (later.startSong drop).Kin (later'.startSong drop) := by
  refine ⟨rfl, h.autoAdjust.trans h'.autoAdjust.symm, fun name => ?_⟩
  have hstub : ∀ {later : ChordBook}, b.Grown later → b.entries name = [] →
      later.HasStub name := fun hgrown hnil =>
    (hgrown.entries name).imp (fun hsame => hsame.trans hnil) fun hnew => hnew.2.2
  rcases h.entries name with hsame | ⟨hbuiltin, hnil, -⟩
  · rcases h'.entries name with hsame' | ⟨hbuiltin, hnil, -⟩
    · rw [entries_startSong, entries_startSong, hsame, hsame']
      exact .inl rfl
    · exact .inr ⟨hbuiltin, List.not_mem_nil, (hstub h hnil).startSong drop,
        (hstub h' hnil).startSong drop⟩
  · exact .inr ⟨hbuiltin, List.not_mem_nil, (hstub h hnil).startSong drop,
      (hstub h' hnil).startSong drop⟩

end ChordBook

end Songbook
