import Mathlib
import Songbook.Proofs.Paging

/-!
# Where pages lie on their sheet

Each page of a sheet shifts the origin from where the page before it had it, under the scale and
the turn of the sheet. Over exact lengths the shifts come to a placement that depends on the page's
place on the sheet alone (`sheetOpening_placed`, `pageOpening_placed`), so in every run of pages
begun and ended a place means the same on every sheet (`run_inPlace`). In these placements pages do
not overlap (`disjoint_pages`) and stay on the paper (`four_within`, `two_within`).
-/

namespace Songbook

open Real

/-- Where a change of coordinates puts a point: it is turned, then scaled, then shifted. -/
noncomputable def Transform.apply (t : Transform Rat) (p : ℝ × ℝ) : ℝ × ℝ :=
  let angle : ℝ := t.rotation * π / 180
  (t.shift.1 + t.scale * (p.1 * cos angle - p.2 * sin angle),
    t.shift.2 + t.scale * (p.1 * sin angle + p.2 * cos angle))

theorem Transform.apply_translate (h v : Rat) (p : ℝ × ℝ) :
    (Transform.translate h v).apply p = (p.1 + h, p.2 + v) := by
  simp [apply, translate, add_comm]

namespace Drawing

/-- What becomes of a placement: a change applies to points before those already made. -/
noncomputable def placeAfter (f : ℝ × ℝ → ℝ × ℝ) : Drawing Rat → ℝ × ℝ → ℝ × ℝ
  | .beginSheet _ | .resetTransform => id
  | .transform change => f ∘ change.apply
  | _ => f

/-- Where the changes made since the sheet began put the points of a page. -/
noncomputable def placement (ds : List (Drawing Rat)) : ℝ × ℝ → ℝ × ℝ := ds.foldl placeAfter id

variable {ds es : List (Drawing Rat)}

theorem placement_append : placement (ds ++ es) = es.foldl placeAfter (placement ds) :=
  List.foldl_append

theorem foldl_placeAfter_contents (hds : ∀ d ∈ ds, d.isContent) (f : ℝ × ℝ → ℝ × ℝ) :
    ds.foldl placeAfter f = f := by
  induction ds with
  | nil => rfl
  | cons d ds ih =>
    have hd : placeAfter f d = f := by
      have := hds d (by simp)
      cases d <;> first | rfl | cases this
    rw [List.foldl_cons, hd, ih fun e he => hds e (List.mem_cons_of_mem _ he)]

theorem placement_append_contents (hes : ∀ d ∈ es, d.isContent) :
    placement (ds ++ es) = placement ds := by
  rw [placement_append, foldl_placeAfter_contents hes]

end Drawing

namespace PageGeometry

variable (g : PageGeometry Rat)

/-- The logical page. -/
def area : Set (ℝ × ℝ) := Set.Icc (g.left : ℝ) g.width ×ˢ Set.Icc (0 : ℝ) g.top

/-- The origin of a page among four, before the sheet is scaled. -/
def origin : Nat → ℝ × ℝ
  | 1 => (g.left, (g.top + g.bottom) * 1.05)
  | 2 => (g.width, (g.top + g.bottom) * 1.05)
  | 3 => (g.left, g.bottom * 1.05)
  | _ => (g.width, g.bottom * 1.05)

/-- Where the page of that place lies on a sheet. -/
noncomputable def placed (p : Pagination) (slot : Nat) (point : ℝ × ℝ) : ℝ × ℝ :=
  match p with
  | .one => point
  | .two => (g.width - g.scale .two * point.2,
      g.scale .two * (point.1 + if slot = 1 then 0 else g.width))
  | .four => ((point.1 + (g.origin slot).1) / 2.1, (point.2 + (g.origin slot).2) / 2.1)

variable {g}

/-- The margins leave some of the paper. -/
structure IsRoomy (g : PageGeometry Rat) : Prop where
  bottom : 0 ≤ g.bottom ∧ g.bottom < g.top
  left : 0 ≤ g.left ∧ g.left < g.width

namespace IsRoomy

/-- The extents of the paper, as real numbers. -/
theorem real (h : g.IsRoomy) :
    ((0 : ℝ) ≤ g.bottom ∧ (g.bottom : ℝ) < g.top) ∧ (0 : ℝ) ≤ g.left ∧ (g.left : ℝ) < g.width := by
  have hroom := And.intro h.bottom h.left
  exact_mod_cast hroom

theorem height_pos (h : g.IsRoomy) : 0 < g.height :=
  add_pos_of_pos_of_nonneg (h.bottom.1.trans_lt h.bottom.2) h.bottom.1

theorem scale_pos (h : g.IsRoomy) : (0 : ℝ) < g.scale .two := by
  have hscale : 0 < g.scale .two := div_pos (sub_pos.2 h.left.2) h.height_pos
  exact_mod_cast hscale

/-- Turned, the whole height of a page takes the width of the text. -/
theorem scale_mul_height (h : g.IsRoomy) :
    (g.scale .two : ℝ) * (g.top + g.bottom) = g.width - g.left := by
  have hscale : g.scale .two * (g.top + g.bottom) = g.width - g.left :=
    div_mul_cancel₀ _ h.height_pos.ne'
  exact_mod_cast hscale

end IsRoomy

/-- The first page of a sheet lies where the opening of the sheet and its own shift put it. -/
theorem sheetOpening_placed (h : g.IsRoomy) (p : Pagination) (number : Nat)
    (f : ℝ × ℝ → ℝ × ℝ) :
    (Drawing.sheetOpening g p number ++ Drawing.pageOpening g p 1).foldl Drawing.placeAfter f =
      g.placed p 1 := by
  cases p with
  | one => rfl
  | two =>
    have hscale := h.scale_pos.ne'
    have hright : (90 : ℝ) * π / 180 = π / 2 := by ring
    funext point
    show (Transform.scaleRotate (g.scale .two) 90).apply ((Transform.translate 0
      (-(g.height + g.left / g.scale .two))).apply point) = g.placed .two 1 point
    rw [Transform.apply_translate]
    simp [Transform.apply, Transform.scaleRotate, hright, placed, height]
    field_simp
    linear_combination h.scale_mul_height
  | four =>
    funext point
    show (Transform.scaleRotate (1 / 2.1) 0).apply ((Transform.translate g.left
      (g.height * 1.05)).apply point) = g.placed .four 1 point
    rw [Transform.apply_translate]
    simp [Transform.apply, Transform.scaleRotate, placed, origin, height, div_eq_inv_mul]

/-- Each further page lies where its shift puts it from the page before. -/
theorem pageOpening_placed (p : Pagination) {slot : Nat} (hslot : slot ≠ 0) :
    (Drawing.pageOpening g p (slot + 1)).foldl Drawing.placeAfter (g.placed p slot) =
      g.placed p (slot + 1) := by
  have hshift : ∀ (h v : Rat) (point : ℝ × ℝ), [Drawing.transform (.translate h v)].foldl
      Drawing.placeAfter (g.placed p slot) point = g.placed p slot (point.1 + h, point.2 + v) :=
    fun h v point => congrArg (g.placed p slot) (Transform.apply_translate h v point)
  cases p with
  | one => rfl
  | two =>
    rcases slot with _ | _ | slot
    · exact (hslot rfl).elim
    · funext point
      refine (hshift g.width 0 point).trans ?_
      simp [placed]
    · rfl
  | four =>
    rcases slot with _ | _ | _ | _ | slot
    · exact (hslot rfl).elim
    · funext point
      refine (hshift g.textWidth 0 point).trans ?_
      simp [placed, origin, textWidth, add_assoc]
    · funext point
      refine (hshift (-g.textWidth) (-g.top * 1.05) point).trans ?_
      have hdown : point.2 + -((g.top : ℝ) * 1.05) + (g.top + g.bottom) * 1.05 =
          point.2 + g.bottom * 1.05 := by ring
      simp [placed, origin, textWidth, add_assoc, hdown]
    · funext point
      refine (hshift g.textWidth 0 point).trans ?_
      simp [placed, origin, textWidth, add_assoc]
    · rfl

/-! ## Pages of one sheet -/

theorem disjoint_interior {f : ℝ × ℝ → ℝ} (hopen : IsOpenMap f) (hf : Continuous f) {c : ℝ}
    {A B : Set (ℝ × ℝ)} (hA : ∀ a ∈ A, f a ≤ c) (hB : ∀ b ∈ B, c ≤ f b) :
    Disjoint (interior A) (interior B) := by
  have hbelow : interior A ⊆ Set.preimage f (Set.Iio c) := by
    rw [← interior_Iic, hopen.preimage_interior_eq_interior_preimage hf]
    exact interior_mono hA
  have habove : interior B ⊆ Set.preimage f (Set.Ioi c) := by
    rw [← interior_Ici, hopen.preimage_interior_eq_interior_preimage hf]
    exact interior_mono hB
  refine Set.disjoint_left.2 fun p hp hp' => ?_
  have hlt : f p < c := hbelow hp
  have hgt : c < f p := habove hp'
  exact lt_asymm hlt hgt

/-- The scale of four pages and the distance of their rows, as quotients. -/
theorem decimals : (2.1 : ℝ) = 21 / 10 ∧ (1.05 : ℝ) = 21 / 20 := by norm_num

/-- Among four, the first and the third page lie left of the others. -/
theorem four_left {slot : Nat} (hslot : slot = 1 ∨ slot = 3) :
    ∀ a ∈ g.placed .four slot '' g.area, a.1 ≤ ((g.left : ℝ) + g.width) / 2.1 := by
  rintro _ ⟨⟨x, y⟩, ⟨⟨-, hx⟩, -⟩, rfl⟩
  rcases hslot with rfl | rfl <;>
  · simp only [placed, origin, decimals]
    linarith

theorem four_right {slot : Nat} (hslot : slot = 2 ∨ slot = 4) :
    ∀ a ∈ g.placed .four slot '' g.area, ((g.left : ℝ) + g.width) / 2.1 ≤ a.1 := by
  rintro _ ⟨⟨x, y⟩, ⟨⟨hx, -⟩, -⟩, rfl⟩
  rcases hslot with rfl | rfl <;>
  · simp only [placed, origin, decimals]
    linarith

/-- Among four, the first two pages lie above the others. -/
theorem four_above {slot : Nat} (hslot : slot = 1 ∨ slot = 2) :
    ∀ a ∈ g.placed .four slot '' g.area, ((g.top : ℝ) + g.bottom) / 2 ≤ a.2 := by
  rintro _ ⟨⟨x, y⟩, ⟨-, hy, -⟩, rfl⟩
  rcases hslot with rfl | rfl <;>
  · simp only [placed, origin, decimals]
    linarith

theorem four_below (h : g.IsRoomy) {slot : Nat} (hslot : slot = 3 ∨ slot = 4) :
    ∀ a ∈ g.placed .four slot '' g.area, a.2 ≤ ((g.top : ℝ) + g.bottom) / 2 := by
  obtain ⟨⟨hbottom, htop⟩, -⟩ := h.real
  rintro _ ⟨⟨x, y⟩, ⟨-, -, hy⟩, rfl⟩
  rcases hslot with rfl | rfl <;>
  · simp only [placed, origin, decimals]
    linarith

/-- Of two pages the first one ends below the second. -/
theorem two_below (h : g.IsRoomy) :
    ∀ a ∈ g.placed .two 1 '' g.area, a.2 ≤ g.scale .two * (g.width : ℝ) := by
  rintro _ ⟨⟨x, y⟩, ⟨⟨-, hx⟩, -⟩, rfl⟩
  simpa [placed] using mul_le_mul_of_nonneg_left hx h.scale_pos.le

theorem two_above (h : g.IsRoomy) :
    ∀ a ∈ g.placed .two 2 '' g.area, g.scale .two * (g.width : ℝ) ≤ a.2 := by
  rintro _ ⟨⟨x, y⟩, ⟨⟨hx, -⟩, -⟩, rfl⟩
  have hleft : (0 : ℝ) ≤ x := h.real.2.1.trans hx
  simpa [placed] using mul_le_mul_of_nonneg_left
    (le_add_of_nonneg_left hleft : (g.width : ℝ) ≤ x + g.width) h.scale_pos.le

theorem disjoint_of_lt (h : g.IsRoomy) (p : Pagination) {j k : Nat} (hj : 1 ≤ j) (hjk : j < k)
    (hk : k ≤ p.perSheet) :
    Disjoint (interior (g.placed p j '' g.area)) (interior (g.placed p k '' g.area)) := by
  cases p with
  | one =>
    simp only [Pagination.perSheet] at hk
    omega
  | two =>
    simp only [Pagination.perSheet] at hk
    obtain rfl : j = 1 := by omega
    obtain rfl : k = 2 := by omega
    exact disjoint_interior isOpenMap_snd continuous_snd (two_below h) (two_above h)
  | four =>
    simp only [Pagination.perSheet] at hk
    -- Pages of one row lie beside each other, pages of two rows above each other.
    have hrows : (j = 1 ∧ k = 2) ∨ (j = 3 ∧ k = 4) ∨ ((j = 1 ∨ j = 2) ∧ (k = 3 ∨ k = 4)) := by
      omega
    rcases hrows with ⟨rfl, rfl⟩ | ⟨rfl, rfl⟩ | ⟨hupper, hlower⟩
    · exact disjoint_interior isOpenMap_fst continuous_fst (four_left (.inl rfl))
        (four_right (.inl rfl))
    · exact disjoint_interior isOpenMap_fst continuous_fst (four_left (.inr rfl))
        (four_right (.inr rfl))
    · exact (disjoint_interior isOpenMap_snd continuous_snd (four_below h hlower)
        (four_above hupper)).symm

/-- Different pages of one sheet do not overlap. -/
theorem disjoint_pages (h : g.IsRoomy) (p : Pagination) {j k : Nat} (hj : 1 ≤ j ∧ j ≤ p.perSheet)
    (hk : 1 ≤ k ∧ k ≤ p.perSheet) (hjk : j ≠ k) :
    Disjoint (interior (g.placed p j '' g.area)) (interior (g.placed p k '' g.area)) := by
  rcases Nat.lt_or_gt_of_ne hjk with hlt | hgt
  · exact disjoint_of_lt h p hj.1 hlt hk.2
  · exact (disjoint_of_lt h p hk.1 hgt hj.2).symm

/-- Four pages lie on the paper. -/
theorem four_within (h : g.IsRoomy) (slot : Nat) :
    g.placed .four slot '' g.area ⊆
      Set.Icc (0 : ℝ) g.width ×ˢ Set.Icc (0 : ℝ) (g.top + g.bottom) := by
  obtain ⟨⟨hbottom, htop⟩, hleft, hwidth⟩ := h.real
  rintro _ ⟨⟨x, y⟩, ⟨⟨hx, hx'⟩, hy, hy'⟩, rfl⟩
  simp only at hx hx' hy hy'
  obtain ⟨horigin, horigin'⟩ : ((g.left : ℝ) ≤ (g.origin slot).1 ∧ (g.origin slot).1 ≤ g.width) ∧
      (g.bottom : ℝ) * 1.05 ≤ (g.origin slot).2 ∧
      (g.origin slot).2 ≤ ((g.top : ℝ) + g.bottom) * 1.05 := by
    unfold origin
    simp only [decimals]
    split <;> refine ⟨⟨?_, ?_⟩, ?_, ?_⟩ <;> dsimp only <;> linarith
  simp only [decimals] at horigin'
  simp only [placed, decimals, Set.mem_prod, Set.mem_Icc]
  refine ⟨⟨?_, ?_⟩, ?_, ?_⟩ <;> linarith

/-- Two pages lie on the paper across the sheet. -/
theorem two_within (h : g.IsRoomy) (slot : Nat) :
    g.placed .two slot '' g.area ⊆ Set.Icc (0 : ℝ) g.width ×ˢ Set.univ := by
  obtain ⟨⟨hbottom, -⟩, hleft, -⟩ := h.real
  rintro _ ⟨⟨x, y⟩, ⟨-, hy, hy'⟩, rfl⟩
  have hlow : 0 ≤ (g.scale .two : ℝ) * y := mul_nonneg h.scale_pos.le hy
  have hhigh : (g.scale .two : ℝ) * y ≤ g.width - g.left := by
    rw [← h.scale_mul_height]
    exact mul_le_mul_of_nonneg_left (hy'.trans (le_add_of_nonneg_right hbottom)) h.scale_pos.le
  refine ⟨⟨?_, ?_⟩, trivial⟩ <;> simp only [placed] <;> linarith

end PageGeometry

/-! ## Pages begun and ended -/

/-- What is done with pages: one is begun, ended, perhaps with its sheet before that is full, or
drawn on; and a sheet is ended. -/
inductive PageStep
  | start
  | stop (sheetToo : Bool)
  | stopSheet
  | print (d : Drawing Rat) (hd : d.isContent)

/-- What a step does to a session. -/
def PageStep.run : PageStep → Typeset Rat Unit
  | .start => Typeset.startPage
  | .stop sheetToo => Typeset.endPage sheetToo
  | .stopSheet => Typeset.endSheet
  | .print d _ => Typeset.draw d

/-- Whether a page is open that has not been ended, if one was or was not before the step. -/
def PageStep.leaves (isOpen : Bool) : PageStep → Bool
  | .start => true
  | .stop _ | .stopSheet => false
  | .print _ _ => isOpen

/-- Every page is begun after the one before it has been ended. -/
def PageStep.InTurn : Bool → List PageStep → Prop
  | _, [] => True
  | isOpen, step :: steps =>
    (step = .start → isOpen = false) ∧ PageStep.InTurn (step.leaves isOpen) steps

/-- An open page lies where its place on the sheet says. -/
structure Session.InPlace (g : PageGeometry Rat) (p : Pagination) (s : Session Rat) : Prop where
  unlimited : s.device.limit = none
  geometry : s.document.geometry = g
  pagination : s.document.cursor.pagination = p
  placement : s.document.cursor.slot ≠ 0 →
    Drawing.placement s.device.received.toList = g.placed p s.document.cursor.slot

namespace Typeset

variable {g : PageGeometry Rat} {p : Pagination} {s : Session Rat}

theorem startPage_inPlace (hg : g.IsRoomy) (hs : s.InPlace g p) :
    Ends startPage s (fun _ => False) fun _ t => t.InPlace g p := by
  obtain ⟨hunlimited, rfl, rfl, hplacement⟩ := hs
  refine (startPage_ends hunlimited).mono ?_
  rintro _ _ ⟨log, rfl⟩
  have hpagination : (s.document.cursor.begun s.document.geometry).pagination =
      s.document.cursor.pagination := s.document.cursor.countPage_pagination
  have hslot : (s.document.cursor.begun s.document.geometry).slot =
      s.document.cursor.slot + 1 := s.document.cursor.countPage_slot
  refine ⟨hunlimited, rfl, hpagination, fun _ => ?_⟩
  rw [Session.moved_received, Session.moved_cursor, hslot, Drawing.placement_append]
  by_cases hclosed : s.document.cursor.slot = 0
  · rw [if_pos hclosed, hclosed]
    exact PageGeometry.sheetOpening_placed hg _ _ _
  · rw [if_neg hclosed, hplacement hclosed]
    exact PageGeometry.pageOpening_placed _ hclosed

theorem endPage_inPlace (hs : s.InPlace g p) (sheetToo : Bool) :
    Ends (endPage sheetToo) s (fun _ => False) fun _ t => t.InPlace g p := by
  by_cases hclosed : s.document.cursor.slot = 0
  · exact .of_ok (endPage_of_closed hclosed sheetToo) hs
  obtain ⟨hunlimited, rfl, rfl, hplacement⟩ := hs
  refine (endPage_ends hunlimited hclosed sheetToo).mono ?_
  rintro _ _ ⟨ds, ⟨foot, hfoot, hds⟩, rfl⟩
  rw [Cursor.left, if_neg hclosed]
  split at hds
  · rename_i hfull
    rw [if_pos hfull]
    exact ⟨hunlimited, rfl, rfl, fun hopen => (hopen rfl).elim⟩
  · rename_i hroom
    rw [if_neg hroom]
    refine ⟨hunlimited, rfl, rfl, fun _ => ?_⟩
    rw [Session.moved_received, hds, Drawing.placement_append_contents hfoot]
    exact hplacement hclosed

theorem endSheet_inPlace (hs : s.InPlace g p) :
    Ends endSheet s (fun _ => False) fun _ t => t.InPlace g p := by
  by_cases hclosed : s.document.cursor.slot = 0
  · exact .of_ok (endSheet_of_closed hclosed) hs
  obtain ⟨hunlimited, rfl, rfl, -⟩ := hs
  refine (endSheet_ends hunlimited hclosed).mono ?_
  rintro _ _ ⟨footer, -, rfl⟩
  exact ⟨hunlimited, rfl, rfl, fun hopen => (hopen rfl).elim⟩

theorem draw_inPlace (hs : s.InPlace g p) {d : Drawing Rat} (hd : d.isContent) :
    Ends (draw d) s (fun _ => False) fun _ t => t.InPlace g p := by
  refine .of_ok (draw_eq hs.unlimited d) ⟨hs.unlimited, hs.geometry, hs.pagination, fun hopen => ?_⟩
  have hcontent : ∀ e ∈ [d], e.isContent := by simpa using hd
  exact (congrArg Drawing.placement (Session.moved_received ..)).trans
    ((Drawing.placement_append_contents hcontent).trans (hs.placement hopen))

theorem run_inPlace (hg : g.IsRoomy) (step : PageStep) (hs : s.InPlace g p) :
    Ends step.run s (fun _ => False) fun _ t => t.InPlace g p :=
  match step with
  | .start => startPage_inPlace hg hs
  | .stop sheetToo => endPage_inPlace hs sheetToo
  | .stopSheet => endSheet_inPlace hs
  | .print _ hd => draw_inPlace hs hd

/-- The open page is one that the sheet has room for, or there is room for the next one. -/
def HasPlace (isOpen : Bool) (s : Session Rat) : Prop :=
  s.document.cursor.slot + (if isOpen then 0 else 1) ≤ s.document.cursor.pagination.perSheet

theorem hasPlace_of_closed (hclosed : s.document.cursor.slot = 0) : HasPlace false s := by
  unfold HasPlace
  rw [hclosed]
  exact Pagination.perSheet_pos _

theorem run_hasPlace (hunlimited : s.device.limit = none) {isOpen : Bool} (hs : HasPlace isOpen s)
    (step : PageStep) (hturn : step = .start → isOpen = false) :
    Ends step.run s (fun _ => False) fun _ t => HasPlace (step.leaves isOpen) t := by
  cases step with
  | start =>
    obtain rfl := hturn rfl
    refine (startPage_ends hunlimited).mono ?_
    rintro _ _ ⟨log, rfl⟩
    show s.document.cursor.countPage.slot + 0 ≤ s.document.cursor.countPage.pagination.perSheet
    rw [Cursor.countPage_slot, Cursor.countPage_pagination]
    exact hs
  | stop sheetToo =>
    by_cases hclosed : s.document.cursor.slot = 0
    · exact .of_ok (endPage_of_closed hclosed sheetToo) (hasPlace_of_closed hclosed)
    · refine (endPage_ends hunlimited hclosed sheetToo).mono ?_
      rintro _ _ ⟨ds, -, rfl⟩
      exact s.document.cursor.left_slot_lt s.document.geometry sheetToo
  | stopSheet =>
    by_cases hclosed : s.document.cursor.slot = 0
    · exact .of_ok (endSheet_of_closed hclosed) (hasPlace_of_closed hclosed)
    · refine (endSheet_ends hunlimited hclosed).mono ?_
      rintro _ _ ⟨footer, -, rfl⟩
      exact hasPlace_of_closed (s := s.moved _ _ _) rfl
  | print d hd => exact .of_ok (draw_eq hunlimited d) hs

/-- Where pages are begun in turn, none is open that its sheet has no room for. -/
theorem forM_hasPlace {steps : List PageStep} {isOpen : Bool} (hg : g.IsRoomy) (hin : s.InPlace g p)
    (hs : HasPlace isOpen s) (hturn : PageStep.InTurn isOpen steps) :
    Ends (steps.forM PageStep.run) s (fun _ => False) fun _ t => ∃ isOpen, HasPlace isOpen t := by
  induction steps generalizing s isOpen with
  | nil => exact .of_ok rfl ⟨isOpen, hs⟩
  | cons step steps ih =>
    obtain ⟨_, t, ht, hplaced⟩ := (run_inPlace hg step hin).exists_ok
    have hplace := (run_hasPlace hin.unlimited hs step hturn.1).holds ht
    exact .bind_ok ht (ih hplaced hplace hturn.2)

/-- From a closed sheet, pages are begun and ended in any order: each open page lies where its
place on its sheet says, whatever the sheet; and where each is begun after the one before it has been
ended, that place is one of those that the sheet has. The pages in the places of one sheet do not
overlap; four stay on the paper, and two stay on it across the sheet. -/
theorem pages_inPlace (g : PageGeometry Rat) (hbottom : 0 ≤ g.bottom ∧ g.bottom < g.top)
    (hleft : 0 ≤ g.left ∧ g.left < g.width) :
    (∀ (s : Session Rat) (steps : List PageStep), s.device.limit = none →
      s.document.geometry = g → s.document.cursor.slot = 0 →
      ∃ t, steps.forM PageStep.run s = .ok () t ∧ (t.document.cursor.slot ≠ 0 →
        Drawing.placement t.device.received.toList =
          g.placed s.document.cursor.pagination t.document.cursor.slot) ∧
        (PageStep.InTurn false steps →
          t.document.cursor.slot ≤ s.document.cursor.pagination.perSheet)) ∧
    (∀ (p : Pagination) (j k : Nat), 1 ≤ j ∧ j ≤ p.perSheet → 1 ≤ k ∧ k ≤ p.perSheet → j ≠ k →
      Disjoint (interior (g.placed p j '' g.area)) (interior (g.placed p k '' g.area))) ∧
    (∀ slot, g.placed .four slot '' g.area ⊆
      Set.Icc (0 : ℝ) g.width ×ˢ Set.Icc (0 : ℝ) (g.top + g.bottom)) ∧
    ∀ slot, g.placed .two slot '' g.area ⊆ Set.Icc (0 : ℝ) g.width ×ˢ Set.univ := by
  have hg : g.IsRoomy := ⟨hbottom, hleft⟩
  refine ⟨fun s steps hunlimited hgeometry hclosed => ?_,
    fun p j k => PageGeometry.disjoint_pages hg p, PageGeometry.four_within hg,
    PageGeometry.two_within hg⟩
  have hkeeps : Keeps (fun _ : Unit => Session.InPlace g s.document.cursor.pagination)
      (fun _ => False) (steps.forM PageStep.run) :=
    .forM steps fun step _ _ _ hs => run_inPlace hg step hs
  have hstart : s.InPlace g s.document.cursor.pagination :=
    ⟨hunlimited, hgeometry, rfl, fun hopen => (hopen hclosed).elim⟩
  obtain ⟨_, t, ht, hplaced⟩ := (hkeeps () s hstart).exists_ok
  refine ⟨t, ht, hplaced.placement, fun hturn => ?_⟩
  obtain ⟨isOpen, hplace⟩ :=
    (forM_hasPlace hg hstart (hasPlace_of_closed hclosed) hturn).holds ht
  exact hplaced.pagination ▸ (Nat.le_add_right _ _).trans hplace

/-- The second page of the second sheet, after a sheet that was ended early. -/
theorem pages_inPlace_letter : ∃ t : Session Rat,
    [PageStep.start, .stop true, .start, .stop false, .start].forM PageStep.run
      (.start { Settings.default with pagination := .two } .unlimited) = .ok () t ∧
    Drawing.placement t.device.received.toList = PageGeometry.placed .letter .two 2 ∧
    Disjoint (interior (PageGeometry.placed .letter .two 1 '' PageGeometry.letter.area))
      (interior (PageGeometry.placed .letter .two 2 '' PageGeometry.letter.area)) := by
  obtain ⟨hplaced, hdisjoint, -⟩ := pages_inPlace .letter (by decide) (by decide)
  obtain ⟨t, ht, hplacement, -⟩ := hplaced
    (.start { Settings.default with pagination := .two } .unlimited)
    [.start, .stop true, .start, .stop false, .start] rfl rfl rfl
  have hslot : t.document.cursor.slot = 2 := by
    rw [← endState_of_ok ht]
    decide +kernel
  rw [hslot] at hplacement
  exact ⟨t, ht, hplacement (by decide), hdisjoint .two 1 2 (by decide) (by decide) (by decide)⟩

end Typeset

end Songbook
