import Mathlib.Order.Bounds.Basic
import Songbook.Chord.Fingering

/-!
# Fitting fingerings to a diagram

A diagram shows the frets from the base fret on. It shows a fingering at some base fret exactly if
the frets held span no more rows than it has, and then at every base fret from the one that puts the
highest fret into the last row up to the lowest fret (`shows_withBase_iff`). Moving the base fret
takes the least of these, so it fits whatever can be fitted, and once done it changes nothing more
(`Fitting`, `adjust_settles`).
-/

namespace Songbook

namespace Fingering

variable {f : Fingering} {diagram base : Nat}

/-- Every fret that is held is in a row of the diagram. -/
def Shows (f : Fingering) (diagram : Nat) : Prop :=
  ∀ row ∈ f.rows, 1 ≤ row ∧ row ≤ diagram

/-- The fingering drawn from another base fret on. -/
def withBase (f : Fingering) (base : Nat) : Fingering := { f with baseFret := base }

/-- What fitting a fingering to a diagram comes to: it is shown as it is, or it can be shown and is
moved to the least base fret that does so, or it is too wide and is marked. -/
inductive Fitting (f : Fingering) (diagram : Nat) : Fingering × Adjustment → Prop
  | kept (h : f.Shows diagram) : Fitting f diagram (f, .kept)
  | moved {span base : Nat} (hidden : ¬ f.Shows diagram) (hspan : f.span? = some span)
      (h : span ≤ diagram) (least : IsLeast {b | 1 ≤ b ∧ (f.withBase b).Shows diagram} base) :
      Fitting f diagram ({ f with baseFret := base, adjustedFrom := some f.baseFret }, .moved base)
  | tooWide {span : Nat} (hspan : f.span? = some span) (h : diagram < span) :
      Fitting f diagram ({ f with ungridable := true }, .tooWide span)

/-- The frets held are frets of the neck. -/
def OnNeck (f : Fingering) : Prop := ∀ fret ∈ f.held, 1 ≤ fret ∧ fret ≤ lastFret

/-! ## What a diagram shows -/

theorem fits_iff : f.fits diagram = true ↔ f.Shows diagram := by
  simp [fits, Shows]

theorem shows_iff :
    f.Shows diagram ↔ ∀ fret ∈ f.held, f.baseFret ≤ fret ∧ fret < f.baseFret + diagram := by
  unfold Shows rows
  rw [List.forall_mem_map]
  refine forall₂_congr fun fret _ => ?_
  unfold row
  omega

/-- Of the frets held, these are the lowest and the highest. -/
structure Reaches (f : Fingering) (low high : Nat) : Prop where
  lowest : f.held.min? = some low
  highest : f.held.max? = some high

namespace Reaches

variable {low high : Nat}

theorem bounds (h : f.Reaches low high) : ∀ fret ∈ f.held, low ≤ fret ∧ fret ≤ high :=
  fun fret hfret => ⟨(List.min?_eq_some_iff.1 h.lowest).2 fret hfret,
    (List.max?_eq_some_iff.1 h.highest).2 fret hfret⟩

theorem low_mem (h : f.Reaches low high) : low ∈ f.held := (List.min?_eq_some_iff.1 h.lowest).1

theorem high_mem (h : f.Reaches low high) : high ∈ f.held := (List.max?_eq_some_iff.1 h.highest).1

theorem le (h : f.Reaches low high) : low ≤ high := (h.bounds low h.low_mem).2

theorem span?_eq (h : f.Reaches low high) : f.span? = some (high - low + 1) := by
  simp [span?, h.lowest, h.highest]

theorem shows_withBase_iff (h : f.Reaches low high) :
    (f.withBase base).Shows diagram ↔ base ≤ low ∧ high < base + diagram := by
  rw [shows_iff]
  constructor
  · intro hall
    exact ⟨(hall low h.low_mem).1, (hall high h.high_mem).2⟩
  · intro hends fret hfret
    have hbetween := h.bounds fret hfret
    show base ≤ fret ∧ fret < base + diagram
    omega

theorem isLeast (h : f.Reaches low high) (hlow : 1 ≤ low) (hspan : high - low + 1 ≤ diagram) :
    IsLeast {b | 1 ≤ b ∧ (f.withBase b).Shows diagram} (max 1 (high + 1 - diagram)) := by
  have hle := h.le
  constructor
  · refine ⟨by omega, h.shows_withBase_iff.2 ?_⟩
    omega
  · rintro b ⟨hb, hshows⟩
    have hends := h.shows_withBase_iff.1 hshows
    omega

end Reaches

/-- Some fret is held, so there are a lowest and a highest one. -/
theorem exists_reaches (h : f.held ≠ []) : ∃ low high, f.Reaches low high := by
  obtain ⟨low, hlow⟩ := Option.isSome_iff_exists.1 (List.isSome_min?_iff.2 h)
  obtain ⟨high, hhigh⟩ := Option.isSome_iff_exists.1 (List.isSome_max?_iff.2 h)
  exact ⟨low, high, hlow, hhigh⟩

theorem held_ne_nil_of_hidden (h : ¬ f.Shows diagram) : f.held ≠ [] := by
  rintro hnil
  refine h (shows_iff.2 fun fret hfret => ?_)
  rw [hnil] at hfret
  cases hfret

theorem held_ne_nil_of_span {span : Nat} (h : f.span? = some span) : f.held ≠ [] := by
  rintro hnil
  rw [span?, hnil] at h
  cases h

/-- A diagram that shows the fingering has as many rows as it spans. -/
theorem span_le_of_shows {span : Nat} (hspan : f.span? = some span) (h : f.Shows diagram) :
    span ≤ diagram := by
  obtain ⟨low, high, hreaches⟩ := exists_reaches (held_ne_nil_of_span hspan)
  have hends : f.baseFret ≤ low ∧ high < f.baseFret + diagram := hreaches.shows_withBase_iff.1 h
  have hsame := Option.some.inj (hspan.symm.trans hreaches.span?_eq)
  have hle := hreaches.le
  omega

/-! ## Fitting -/

theorem adjust_of_shows (h : f.Shows diagram) : f.adjust diagram = (f, .kept) := by
  rw [adjust, if_pos (fits_iff.2 h)]

theorem adjust_of_wide {span : Nat} (hspan : f.span? = some span) (h : diagram < span) :
    f.adjust diagram = ({ f with ungridable := true }, .tooWide span) := by
  have hhidden : ¬ f.fits diagram = true := fun hfits =>
    absurd (span_le_of_shows hspan (fits_iff.1 hfits)) (by omega)
  rw [adjust, if_neg hhidden, hspan]
  exact if_pos h

theorem adjust_of_narrow {low high : Nat} (hneck : f.OnNeck) (hhidden : ¬ f.Shows diagram)
    (h : f.Reaches low high) (hspan : high - low + 1 ≤ diagram) :
    f.adjust diagram =
      ({ f with baseFret := max 1 (high + 1 - diagram), adjustedFrom := some f.baseFret },
        .moved (max 1 (high + 1 - diagram))) := by
  have hhigh : high ≤ lastFret := (hneck high h.high_mem).2
  have hbase : max 1 (min lastFret (high - diagram + 1)) = max 1 (high + 1 - diagram) := by
    omega
  rw [adjust, if_neg fun hfits => hhidden (fits_iff.1 hfits), h.span?_eq, h.highest]
  dsimp only [Option.getD_some]
  rw [if_neg (by omega), hbase]

theorem fitting_adjust (h : f.OnNeck) (diagram : Nat) : Fitting f diagram (f.adjust diagram) := by
  by_cases hshows : f.Shows diagram
  · rw [adjust_of_shows hshows]
    exact .kept hshows
  · obtain ⟨low, high, hreaches⟩ := exists_reaches (held_ne_nil_of_hidden hshows)
    by_cases hspan : high - low + 1 ≤ diagram
    · rw [adjust_of_narrow h hshows hreaches hspan]
      exact .moved hshows hreaches.span?_eq hspan
        (hreaches.isLeast (h low hreaches.low_mem).1 hspan)
    · rw [adjust_of_wide hreaches.span?_eq (by omega)]
      exact .tooWide hreaches.span?_eq (by omega)

/-- Fitting can come to one thing only. -/
theorem Fitting.unique {r r' : Fingering × Adjustment} (h : Fitting f diagram r)
    (h' : Fitting f diagram r') : r = r' := by
  cases h with
  | kept hshows =>
    cases h' with
    | kept => rfl
    | moved hidden => exact absurd hshows hidden
    | tooWide hspan hwide => exact absurd (span_le_of_shows hspan hshows) (by omega)
  | moved hidden hspan hnarrow least =>
    cases h' with
    | kept hshows => exact absurd hshows hidden
    | moved _ _ _ least' => rw [least.unique least']
    | tooWide hspan' hwide =>
      have hsame := Option.some.inj (hspan.symm.trans hspan')
      omega
  | tooWide hspan hwide =>
    cases h' with
    | kept hshows => exact absurd (span_le_of_shows hspan hshows) (by omega)
    | moved _ hspan' hnarrow =>
      have hsame := Option.some.inj (hspan.symm.trans hspan')
      omega
    | tooWide hspan' => rw [Option.some.inj (hspan.symm.trans hspan')]

/-- What has been fitted fits or is marked, and fitting it again changes nothing. -/
theorem Fitting.adjust_eq {g : Fingering} {adjustment : Adjustment}
    (h : Fitting f diagram (g, adjustment)) : (g.adjust diagram).1 = g := by
  cases h with
  | kept hshows => rw [adjust_of_shows hshows]
  | @moved _ base _ _ _ least =>
    have hshows : Shows { f with baseFret := base, adjustedFrom := some f.baseFret } diagram :=
      least.1.2
    rw [adjust_of_shows hshows]
  | @tooWide span hspan hwide =>
    have hmarked : span? { f with ungridable := true } = some span := hspan
    rw [adjust_of_wide hmarked hwide]

/-! ## Fingerings in bytes -/

/-- The number can be kept in a byte. -/
def IsByte (n : Int) : Prop := 0 ≤ n ∧ n ≤ 255

/-- What is kept of a fingering, and what is computed of it on the way to its span, is a byte. -/
structure InBytes (f : Fingering) : Prop where
  baseFret : IsByte f.baseFret
  adjustedFrom : ∀ base ∈ f.adjustedFrom, IsByte base
  held : ∀ fret ∈ f.held, IsByte fret
  reach : ∀ low ∈ f.held.min?, ∀ high ∈ f.held.max?, IsByte (high - low)
  span : ∀ span ∈ f.span?, IsByte span

theorem isByte_of_le {n : Nat} (h : n ≤ lastFret) : IsByte n := by
  unfold lastFret at h
  exact ⟨by omega, by omega⟩

theorem OnNeck.inBytes (h : f.OnNeck) (hbase : f.baseFret ≤ lastFret)
    (hfrom : ∀ base ∈ f.adjustedFrom, base ≤ lastFret) : f.InBytes where
  baseFret := isByte_of_le hbase
  adjustedFrom := fun base hmem => isByte_of_le (hfrom base hmem)
  held := fun fret hfret => isByte_of_le (h fret hfret).2
  reach := fun low hlow high hhigh => by
    have hreaches : f.Reaches low high := ⟨hlow, hhigh⟩
    have hle := hreaches.le
    have hlast := isByte_of_le (h high hreaches.high_mem).2
    unfold IsByte at hlast ⊢
    omega
  span := fun span hspan => by
    obtain ⟨low, high, hreaches⟩ := exists_reaches (held_ne_nil_of_span hspan)
    rw [← Option.some.inj (hreaches.span?_eq.symm.trans hspan)]
    have hle := hreaches.le
    have hlow := (h low hreaches.low_mem).1
    have hlast := (h high hreaches.high_mem).2
    exact isByte_of_le (by omega)

/-- The base fret is moved no further than to the lowest fret held. -/
theorem Fitting.inBytes {g : Fingering} {adjustment : Adjustment} (hneck : f.OnNeck)
    (hf : f.InBytes) (h : Fitting f diagram (g, adjustment)) : g.InBytes := by
  cases h with
  | kept => exact hf
  | @moved _ base hidden _ _ least =>
    obtain ⟨low, high, hreaches⟩ := exists_reaches (held_ne_nil_of_hidden hidden)
    have hbase : base ≤ low := (hreaches.shows_withBase_iff.1 least.1.2).1
    have hlow : low ≤ lastFret := (hneck low hreaches.low_mem).2
    refine ⟨isByte_of_le (hbase.trans hlow), fun from' hfrom => ?_, hf.held, hf.reach, hf.span⟩
    rw [← Option.some.inj hfrom]
    exact hf.baseFret
  | tooWide => exact ⟨hf.baseFret, hf.adjustedFrom, hf.held, hf.reach, hf.span⟩

theorem held_ofRows {base : Nat} {rows : Vector Int strings} {fret : Nat}
    (h : fret ∈ (ofRows base rows).held) :
    ∃ row ∈ rows.toList, 0 < row ∧ fret = min lastFret (max 1 base + row.toNat - 1) := by
  obtain ⟨place, hplace, hheld⟩ := List.mem_filterMap.1 h
  obtain ⟨row, hrow, rfl⟩ := List.mem_map.1 (Vector.toList_map ▸ hplace)
  refine ⟨row, hrow, ?_⟩
  unfold fretAt at hheld
  split at hheld
  · cases hheld
  · split at hheld
    · cases hheld
    · exact ⟨by omega, (Option.some.inj hheld).symm⟩

theorem onNeck_ofRows (base : Nat) (rows : Vector Int strings) : (ofRows base rows).OnNeck := by
  intro fret hfret
  obtain ⟨row, -, hrow, rfl⟩ := held_ofRows hfret
  unfold lastFret
  omega

/-- A fingering of any rows from any base fret is shown by a diagram of so many rows as it is, or is
moved to the least base fret from which it can be shown, or is too wide and is marked, and nothing
else. The frets stay where they are, every number is a byte, and a second time nothing changes. -/
theorem adjust_settles (base : UInt8) (rows : Vector Int8 strings) (diagram : UInt8) :
    let f := ofRows base.toNat (rows.map Int8.toInt)
    let d := diagram.toNat
    (∀ r, Fitting f d r ↔ f.adjust d = r) ∧
      (f.adjust d).1.frets = f.frets ∧
      ((f.adjust d).1.adjust d).1 = (f.adjust d).1 ∧
      (∀ row ∈ rows, 0 < row → IsByte (row.toInt - 1)) ∧
      f.InBytes ∧ (f.adjust d).1.InBytes := by
  intro f d
  have hneck : f.OnNeck := onNeck_ofRows _ _
  have hfitting := fitting_adjust hneck d
  have hbase : f.baseFret ≤ lastFret := by
    show max 1 base.toNat ≤ 255
    have hbyte := base.toNat_lt
    omega
  have hbytes : f.InBytes := hneck.inBytes hbase nofun
  refine ⟨fun r => ⟨fun hr => hfitting.unique hr, fun hr => hr ▸ hfitting⟩, frets_adjust f d,
    hfitting.adjust_eq, fun row _ hrow => ?_, hbytes, hfitting.inBytes hneck hbytes⟩
  have hpos : 0 < row.toInt := Int8.lt_iff_toInt_lt.1 hrow
  have hlast := row.toInt_lt
  unfold IsByte
  omega

end Fingering

end Songbook
