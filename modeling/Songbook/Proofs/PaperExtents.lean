import Songbook.Proofs.Tellings

/-!
# The extents of the paper

A form is refused if one of its extents compares badly with another one, and what is no number
compares badly with nothing. So the paper in force has room between its margins exactly if all of
its extents are numbers (`IsPaper.isSound_iff`, `extents_sound_iff`).
-/

namespace Songbook

namespace Binary64

open Float.Model

/-! ## Comparing binary64 numbers -/

theorem compare_swap (a b : UnpackedFloat) :
    b.compare a = (a.compare b).map Ordering.swap := by
  have hfinite : ∀ (e e' : Int) (m m' : Nat),
      (compare e' e).then (compare m' m) = ((compare e e').then (compare m m')).swap := by
    intro e e' m m'
    rw [Ordering.swap_then, Int.compare_swap, Nat.compare_swap]
  cases a with
  | notANumber => cases b <;> rfl
  | infinity s => cases s <;> rcases b with ⟨_ | _⟩ | _ | _ | _ <;> rfl
  | zero s => rcases b with ⟨_ | _⟩ | _ | _ | ⟨_ | _⟩ <;> rfl
  | finite s m e h =>
    rcases b with ⟨_ | _⟩ | _ | _ | ⟨_ | _, m', e', h'⟩
    all_goals cases s
    all_goals try rfl
    · exact congrArg (fun o => some (Ordering.swap o)) (hfinite e e' m m')
    · exact congrArg some (hfinite e e' m m')

/-- Only what is no number cannot be compared. -/
theorem compare_eq_none_iff (a b : UnpackedFloat) :
    a.compare b = none ↔ a.isNaN = true ∨ b.isNaN = true := by
  have hsome : ∀ o : Ordering, some o = none ↔ false = true ∨ false = true := fun o =>
    iff_of_false (Option.some_ne_none o) (by simp)
  rcases a with ⟨_ | _⟩ | _ | _ | ⟨_ | _, m, e, h⟩ <;>
    rcases b with ⟨_ | _⟩ | _ | _ | ⟨_ | _, m', e', h'⟩ <;>
    first
    | exact hsome _
    | exact iff_of_true rfl (.inl rfl)
    | exact iff_of_true rfl (.inr rfl)

theorem le_iff (a b : Float) :
    a ≤ b ↔ (a.toModel.unpack.compare b.toModel.unpack).any (·.isLE) = true := by
  show decide _ = true ↔ _
  rw [decide_eq_true_iff]
  rfl

theorem lt_iff (a b : Float) :
    a < b ↔ a.toModel.unpack.compare b.toModel.unpack = some .lt := by
  show decide _ = true ↔ _
  rw [decide_eq_true_iff]
  exact beq_iff_eq

variable {a b : Float}

/-- What can be compared is a number. -/
theorem isNaN_of_compare {o : Ordering} (h : a.toModel.unpack.compare b.toModel.unpack = some o) :
    a.isNaN = false ∧ b.isNaN = false := by
  have hnumbers : ¬ (a.isNaN = true ∨ b.isNaN = true) := by
    intro hnan
    rw [(compare_eq_none_iff _ _).2 hnan] at h
    cases h
  simpa using hnumbers

theorem isNaN_of_le (h : a ≤ b) : a.isNaN = false ∧ b.isNaN = false := by
  obtain ⟨o, ho, -⟩ := (Option.any_eq_true _ _).1 ((le_iff a b).1 h)
  exact isNaN_of_compare ho

theorem isNaN_of_lt (h : a < b) : a.isNaN = false ∧ b.isNaN = false :=
  isNaN_of_compare ((lt_iff a b).1 h)

theorem exists_compare (ha : a.isNaN = false) (hb : b.isNaN = false) :
    ∃ o, a.toModel.unpack.compare b.toModel.unpack = some o := by
  refine Option.ne_none_iff_exists'.1 fun hnone => ?_
  rcases (compare_eq_none_iff _ _).1 hnone with h | h
  · exact Bool.noConfusion (ha.symm.trans h)
  · exact Bool.noConfusion (hb.symm.trans h)

/-- Numbers are in a line. -/
theorem not_le (ha : a.isNaN = false) (hb : b.isNaN = false) : ¬ a ≤ b ↔ b < a := by
  obtain ⟨o, ho⟩ := exists_compare ha hb
  have hswap := compare_swap a.toModel.unpack b.toModel.unpack
  rw [le_iff, lt_iff, hswap, ho]
  cases o <;> decide

theorem not_lt (ha : a.isNaN = false) (hb : b.isNaN = false) : ¬ a < b ↔ b ≤ a := by
  obtain ⟨o, ho⟩ := exists_compare ha hb
  have hswap := compare_swap a.toModel.unpack b.toModel.unpack
  rw [lt_iff, le_iff, hswap, ho]
  cases o <;> decide

end Binary64

namespace PageGeometry

/-- There is room on the page, and its margins leave some of it. -/
structure IsSound {L : Type} [Length L] (g : PageGeometry L) : Prop where
  top : 72 < g.top
  width : 72 < g.width
  bottom : 0 ≤ g.bottom ∧ g.bottom < g.top
  left : 0 ≤ g.left ∧ g.left < g.width

variable {g : PageGeometry Float}

/-- All extents are numbers. -/
structure IsNumeric (g : PageGeometry Float) : Prop where
  top : g.top.isNaN = false
  width : g.width.isNaN = false
  bottom : g.bottom.isNaN = false
  left : g.left.isNaN = false

instance (g : PageGeometry Float) : Decidable g.IsSound :=
  decidable_of_iff (72 < g.top ∧ 72 < g.width ∧ (0 ≤ g.bottom ∧ g.bottom < g.top) ∧
    (0 ≤ g.left ∧ g.left < g.width))
    ⟨fun ⟨htop, hwidth, hbottom, hleft⟩ => ⟨htop, hwidth, hbottom, hleft⟩,
      fun ⟨htop, hwidth, hbottom, hleft⟩ => ⟨htop, hwidth, hbottom, hleft⟩⟩

theorem IsSound.isNumeric (h : g.IsSound) : g.IsNumeric where
  top := (Binary64.isNaN_of_lt h.top).2
  width := (Binary64.isNaN_of_lt h.width).2
  bottom := (Binary64.isNaN_of_le h.bottom.1).2
  left := (Binary64.isNaN_of_le h.left.1).2

/-- The papers known by name are sound. -/
theorem isSound_of_mem_papers (h : g ∈ papers) : g.IsSound := by
  rcases List.mem_cons.1 h with rfl | h
  · decide
  · rcases List.mem_cons.1 h with rfl | h
    · decide
    · obtain rfl := List.mem_singleton.1 h
      decide

/-- A form that is not refused is sound if its extents are numbers. -/
theorem isSound_of_ofForm {form : FormSpec Float} (h : ofForm form = .ok g) (hg : g.IsNumeric) :
    g.IsSound := by
  unfold ofForm at h
  split at h
  · cases h
  · rename_i hform
    cases h
    simp only [isDegenerate, Bool.or_eq_true, decide_eq_true_eq, not_or] at hform
    obtain ⟨⟨⟨⟨⟨htop, hwidth⟩, hbottom⟩, hbelow⟩, hleft⟩, hright⟩ := hform
    have h72 : (72 : Float).isNaN = false := by decide
    have h0 : (0 : Float).isNaN = false := by decide
    exact ⟨(Binary64.not_le hg.top h72).1 htop, (Binary64.not_le hg.width h72).1 hwidth,
      ⟨(Binary64.not_lt hg.bottom h0).1 hbottom, (Binary64.not_le hg.top hg.bottom).1 hbelow⟩,
      ⟨(Binary64.not_lt hg.left h0).1 hleft, (Binary64.not_le hg.width hg.left).1 hright⟩⟩

theorem IsPaper.isSound_iff (h : g.IsPaper) : g.IsSound ↔ g.IsNumeric := by
  refine ⟨IsSound.isNumeric, fun hnumeric => ?_⟩
  rcases h with hpaper | ⟨form, hform⟩
  · exact isSound_of_mem_papers hpaper
  · exact isSound_of_ofForm hform hnumeric

end PageGeometry

namespace Typeset

open Session

/-- Whatever is found, the paper is one that can be chosen. -/
theorem found_paper {L : Type} [Length L] (e : Markup.Event) (s : Session L) (page : Nat)
    (h : s.register.geometry.IsPaper) : (e.registered s page).geometry.IsPaper := by
  refine registered_holds (P := fun r => r.geometry.IsPaper) e s page (fun _ => h) fun _ d _ => ?_
  have hchosen : (s.papered d.paper?).geometry.IsPaper := by
    cases hd : d.paper? with
    | none => exact h
    | some g => exact isPaper_of_paper? hd
  cases d with
  | paperType name => exact hchosen
  | formSpec spec => exact hchosen
  | _ => exact h

/-- At every moment the paper in force is sound exactly if all of its extents are numbers: in the
configuration files, after the overrides, and in the songs. -/
theorem extents_sound_iff (settings : Settings Float) :
    (HoldsInConfigurations settings fun s =>
      s.document.geometry.IsSound ↔ s.document.geometry.IsNumeric) ∧
    (∀ (configurations : List (String × String)) (overrides : Overrides),
      Ends (prepare configurations overrides) (.start settings .unlimited) IsBreak fun _ s =>
        (s.document.geometry.IsSound ↔ s.document.geometry.IsNumeric)) ∧
    HoldsInSongs settings fun s =>
      s.document.geometry.IsSound ↔ s.document.geometry.IsNumeric := by
  refine ⟨?_, fun configurations overrides => ?_, holdsInSongs fun s hs => hs.paper.isSound_iff⟩
  · have hpaper : HoldsInConfigurations settings fun s => s.document.geometry.IsPaper :=
      holdsInConfigurations (J := fun r => r.geometry.IsPaper)
        (fun e s page _ => found_paper e s page) (fun _ _ h => h)
        (.inl (by simp [register, start, Document.start, PageGeometry.papers]))
    exact fun configurations name beginning =>
      (hpaper configurations name beginning).mono fun _ _ h => h.isSound_iff
  · exact (prepare_ends settings configurations overrides).mono fun _ _ h => h.paper.isSound_iff

/-- A form whose top is no number is not refused. -/
theorem unsound_nan_top : ∃ t : Session Float,
    readConfiguration "chordrc" "\x7bform_spec: x nan 500 50 30\x7d\n"
      (.start .default .unlimited) = .ok () t ∧
    t.document.geometry.name = "x" ∧ t.document.geometry.top.isNaN = true ∧
    ¬ t.document.geometry.IsSound := by
  refine ⟨_, eq_ok_of_succeeds (by decide +kernel), ?_, ?_, ?_⟩
  · decide +kernel
  · decide +kernel
  · decide +kernel

end Typeset

end Songbook
