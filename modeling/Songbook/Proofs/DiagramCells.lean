import Mathlib.Data.Set.Prod
import Mathlib.Order.CompletePartialOrder
import Mathlib.Order.Interval.Set.Disjoint
import Songbook.Proofs.Outcomes
import Songbook.Proofs.Register

/-!
# Cells of diagrams

Diagrams hang from left to right in rows, each in a cell of its own. `Rows` says where the next one
may hang: beside the one before, at the left of the row below, or at the top left of a later page.
So no two cells overlap (`Rows.pairwise`), and on a page with room for one cell they all stay in the
text area (`Rows.inside`). What is laid out after a song hangs in such rows (`layOutDiagrams_hang`),
wherever the cursor stands (`diagrams_apart`).
-/

namespace Songbook

/-- A diagram and the point that it hangs from. The pages are told apart by how much has been drawn
before that stands on none of them. -/
structure Hanging where
  page : Nat
  point : Point Rat
  diagram : Drawing Rat

/-- The cell of a diagram, to the right of its point and below. -/
def Hanging.cell (a : Hanging) (width height : Rat) : Set (Rat × Rat) :=
  Set.Ico a.point.h (a.point.h + width) ×ˢ Set.Ioc (a.point.v - height) a.point.v

/-- The diagrams among drawings that go to a point and then draw a diagram there. -/
def hangings (page : Nat) (point? : Option (Point Rat)) : List (Drawing Rat) → List Hanging
  | [] => []
  | .moveTo point :: ds => hangings page (some point) ds
  | .diagram chord label font size :: ds =>
    (point?.map fun point => ⟨page, point, .diagram chord label font size⟩).toList ++
      hangings page none ds
  | d :: ds => hangings (if d.isContent then page else page + 1) none ds

/-- How much stands on no page. -/
def pageMarks (ds : List (Drawing Rat)) : Nat := ds.countP (!·.isContent)

section

variable {ds es : List (Drawing Rat)}

/-- Drawings without diagrams change the page and the point for those that follow. -/
theorem hangings_append (hes : ∀ d ∈ es, d.diagram? = none) (page : Nat)
    (point? : Option (Point Rat)) : ∃ point?', ∀ ds,
      hangings page point? (es ++ ds) = hangings (page + pageMarks es) point?' ds := by
  induction es generalizing page point? with
  | nil => exact ⟨point?, fun ds => rfl⟩
  | cons d es ih =>
    obtain ⟨hd, hrest⟩ := List.forall_mem_cons.1 hes
    have hmarks : page + pageMarks (d :: es) =
        (if d.isContent then page else page + 1) + pageMarks es := by
      unfold pageMarks
      rw [List.countP_cons]
      cases d.isContent with
      | true => rfl
      | false =>
        show page + (_ + 1) = page + 1 + _
        omega
    cases d with
    | diagram => cases hd
    | moveTo point =>
      rw [hmarks]
      exact ih hrest page (some point)
    | _ =>
      rw [hmarks]
      exact ih hrest _ none

theorem hangings_of_no_diagrams (hes : ∀ d ∈ es, d.diagram? = none) (page : Nat)
    (point? : Option (Point Rat)) : hangings page point? es = [] := by
  obtain ⟨point?', h⟩ := hangings_append hes page point?
  have hnil := h []
  rwa [List.append_nil] at hnil

/-- Drawings without diagrams add none at the end. -/
theorem hangings_append_none (hes : ∀ d ∈ es, d.diagram? = none) (page : Nat)
    (point? : Option (Point Rat)) : hangings page point? (ds ++ es) = hangings page point? ds := by
  induction ds generalizing page point? with
  | nil => exact hangings_of_no_diagrams hes page point?
  | cons d ds ih =>
    cases d with
    | diagram => exact congrArg (_ ++ ·) (ih page none)
    | moveTo point => exact ih page (some point)
    | _ => exact ih _ none

end

/-! ## Rows -/

/-- From the point `(h, v)` of a page on, diagrams hang in rows of cells of that size. -/
inductive Rows (g : PageGeometry Rat) (width height : Rat) :
    Nat → Rat → Rat → List Hanging → Prop
  | nil {page : Nat} {h v : Rat} : Rows g width height page h v []
  /-- Beside the one before. -/
  | beside {page : Nat} {h v : Rat} {d : Drawing Rat} {as : List Hanging}
      (hfits : h + width ≤ g.width) (has : Rows g width height page (h + width) v as) :
      Rows g width height page h v (⟨page, ⟨h, v⟩, d⟩ :: as)
  /-- At the left of the row below. -/
  | lower {page : Nat} {h v : Rat} {d : Drawing Rat} {as : List Hanging}
      (hfull : g.width < h + width) (hroom : g.bottom ≤ v - height - height)
      (has : Rows g width height page (g.left + width) (v - height) as) :
      Rows g width height page h v (⟨page, ⟨g.left, v - height⟩, d⟩ :: as)
  /-- At the top left of a later page. -/
  | later {page page' : Nat} {h v : Rat} {d : Drawing Rat} {as : List Hanging}
      (hfull : g.width < h + width) (hlow : v - height - height < g.bottom) (hpage : page < page')
      (has : Rows g width height page' (g.left + width) g.top as) :
      Rows g width height page h v (⟨page', ⟨g.left, g.top⟩, d⟩ :: as)

/-- To the right in the row of `(h, v)`, in a row below it or on a later page. -/
def Hanging.After (a : Hanging) (height : Rat) (page : Nat) (h v : Rat) : Prop :=
  page < a.page ∨ a.page = page ∧ (a.point.v = v ∧ h ≤ a.point.h ∨ a.point.v ≤ v - height)

namespace Rows

variable {g : PageGeometry Rat} {width height : Rat} {page : Nat} {h v : Rat} {as : List Hanging}

/-- The rows go on to the right and down, from page to page. -/
theorem after (has : Rows g width height page h v as) (hwidth : 0 ≤ width) (hheight : 0 ≤ height) :
    ∀ a ∈ as, a.After height page h v := by
  induction has with
  | nil => simp
  | beside _ _ ih =>
    refine List.forall_mem_cons.2 ⟨.inr ⟨rfl, .inl ⟨rfl, le_rfl⟩⟩, fun a ha => ?_⟩
    exact (ih a ha).imp_right (.imp_right (.imp_left (.imp_right fun hright => by linarith)))
  | lower _ _ _ ih =>
    refine List.forall_mem_cons.2 ⟨.inr ⟨rfl, .inr le_rfl⟩, fun a ha => ?_⟩
    refine (ih a ha).imp_right (.imp_right fun hlower => .inr ?_)
    rcases hlower with ⟨hv, -⟩ | hv <;> linarith
  | later _ _ hpage _ ih =>
    refine List.forall_mem_cons.2 ⟨.inl hpage, fun a ha => .inl ?_⟩
    rcases ih a ha with hlater | ⟨hpage', -⟩ <;> omega

/-- What comes after the cell at a point does not overlap with it. -/
theorem disjoint_of_after {a b : Hanging}
    (hab : b.After height a.page (a.point.h + width) a.point.v) (hpages : a.page = b.page) :
    Disjoint (a.cell width height) (b.cell width height) := by
  rcases hab with hlater | ⟨-, ⟨hv, hright⟩ | hlower⟩
  · omega
  · exact Set.disjoint_prod.2 (.inl (Set.Ico_disjoint_Ico.2 (by
      exact (min_le_left _ _).trans (hright.trans (le_max_right _ _)))))
  · exact Set.disjoint_prod.2 (.inr (Set.Ioc_disjoint_Ioc.2 (by
      exact (min_le_right _ _).trans (hlower.trans (le_max_left _ _)))))

/-- On each page the cells are disjoint. -/
theorem pairwise (has : Rows g width height page h v as) (hwidth : 0 ≤ width)
    (hheight : 0 ≤ height) : as.Pairwise fun a b =>
      a.page = b.page → Disjoint (a.cell width height) (b.cell width height) := by
  induction has with
  | nil => exact .nil
  | beside _ has ih =>
    exact .cons (fun b hb => disjoint_of_after (has.after hwidth hheight b hb)) ih
  | lower _ _ has ih =>
    exact .cons (fun b hb => disjoint_of_after (has.after hwidth hheight b hb)) ih
  | later _ _ _ has ih =>
    exact .cons (fun b hb => disjoint_of_after (has.after hwidth hheight b hb)) ih

/-- Where one cell fits into the text area, every cell lies in it. -/
theorem inside (has : Rows g width height page h v as) (hwidth : width ≤ g.width - g.left)
    (hheight : 0 ≤ height) (hpage : height ≤ g.top - g.bottom) (hh : g.left ≤ h) (hpos : 0 ≤ width)
    (htop : v ≤ g.top) (hroom : g.bottom ≤ v - height) :
    ∀ a ∈ as, a.cell width height ⊆
      Set.Icc g.left g.width ×ˢ Set.Icc g.bottom g.top := by
  have hcell : ∀ {a : Hanging}, g.left ≤ a.point.h → a.point.h + width ≤ g.width →
      g.bottom ≤ a.point.v - height → a.point.v ≤ g.top →
      a.cell width height ⊆ Set.Icc g.left g.width ×ˢ Set.Icc g.bottom g.top := by
    intro a hleft hright hbottom htop
    refine Set.prod_mono ?_ ?_
    · exact (Set.Ico_subset_Ico hleft hright).trans Set.Ico_subset_Icc_self
    · exact (Set.Ioc_subset_Ioc hbottom htop).trans Set.Ioc_subset_Icc_self
  induction has with
  | nil => simp
  | beside hfits _ ih =>
    exact List.forall_mem_cons.2 ⟨hcell hh hfits hroom htop, ih (by linarith) htop hroom⟩
  | lower _ hroom' _ ih =>
    exact List.forall_mem_cons.2 ⟨hcell le_rfl (by linarith) hroom' (by show _ - _ ≤ _; linarith),
      ih (by linarith) (by linarith) hroom'⟩
  | later _ _ _ _ ih =>
    exact List.forall_mem_cons.2 ⟨hcell le_rfl (by linarith) (by show _ ≤ _ - _; linarith) le_rfl,
      ih (by linarith) le_rfl (by linarith)⟩

end Rows

/-! ## Sessions -/

namespace Session

/-- More has been drawn, but no diagram. -/
def DrawsOther (s t : Session Rat) : Prop :=
  ∃ es, t.device.received.toList = s.device.received.toList ++ es ∧ ∀ d ∈ es, d.diagram? = none

/-- After the page has been turned unless there was so much room left on it. -/
def roomed (s : Session Rat) (height : Rat) : Session Rat :=
  if s.document.cursor.vertical - height < s.document.geometry.bottom then s.turned false else s

/-- Where the next diagram hangs: in the row below if this one has no room for its cell. -/
def nextCell (s : Session Rat) (width height h : Rat) : Session Rat × Rat :=
  if s.document.geometry.width < h + width then
    ((s.moved (s.document.cursor.down height) [] s.log).roomed height, s.document.geometry.left)
  else (s, h)

/-- The height of a diagram's cell. -/
def cellRoom (s : Session Rat) : Rat :=
  Typeset.cellHeight s.settings.gridSize (s.document.styles.current .chord)

/-- Where diagrams begin: what is owed has been paid, and there is room for a row of them. -/
def diagramsBegun (s : Session Rat) : Session Rat := s.paid.roomed s.cellRoom

/-- Below all columns of the page. -/
def belowColumns (s : Session Rat) : Session Rat := s.moved s.document.cursor.belowColumns [] s.log

end Session

namespace Typeset

open Session

variable {s t : Session Rat}

theorem not_diagram_of_keepsRegister {x : Typeset Rat Unit} (hx : KeepsRegister x)
    (hs : s.device.limit = none) (hok : x s = .ok () t) {es : List (Drawing Rat)}
    (hdrawn : t.device.received.toList = s.device.received.toList ++ es) :
    ∀ d ∈ es, d.diagram? = none := by
  have hregister : t.register = s.register := ((hx s.register s ⟨hs, rfl⟩).holds hok).2
  have hdiagrams : t.diagrams = s.diagrams := congrArg Register.diagrams hregister
  rw [diagrams, hdrawn, List.filterMap_append, diagrams] at hdiagrams
  exact List.filterMap_eq_nil_iff.1 (List.self_eq_append_right.1 hdiagrams.symm)

/-- A page turn leaves a mark between the pages and draws no diagram. -/
theorem turned_drawsOther (hs : s.OnPage) (sheetToo : Bool) : ∃ es,
    (s.turned sheetToo).device.received.toList = s.device.received.toList ++ es ∧
      (∀ d ∈ es, d.diagram? = none) ∧ 0 < pageMarks es := by
  have hdrawn : (s.turned sheetToo).device.received.toList = s.device.received.toList ++
      (s.pageEnd sheetToo ++ (s.pageEnded sheetToo).pageStart) :=
    congrArg Place.drawn (turned_place s sheetToo)
  refine ⟨_, hdrawn, not_diagram_of_keepsRegister (turnPage_keepsRegister sheetToo) hs.unlimited
    (turnPage_eq hs.unlimited hs.isOpen sheetToo) hdrawn, ?_⟩
  obtain ⟨foot, head, last, hturning, -, -, hlast⟩ := turning s sheetToo
  rw [hturning]
  exact List.countP_pos_iff.2 ⟨last, by simp, by simp [hlast]⟩

theorem ensureRoom_roomed (hs : s.OnPage) (height : Rat) :
    ensureRoom height s = .ok () (s.roomed height) := by
  show (if s.document.cursor.vertical - height < s.document.geometry.bottom then turnPage false
    else pure () : Typeset Rat Unit) s = _
  unfold Session.roomed
  split
  · exact turnPage_eq hs.unlimited hs.isOpen false
  · rfl

theorem roomed_onPage (hs : s.OnPage) (height : Rat) : (s.roomed height).OnPage := by
  unfold Session.roomed
  split
  · exact hs.turned false
  · exact hs

theorem layOutDiagram_eq (hs : s.OnPage) (font : Font) (gridSize h : Rat)
    (chord : ChordDefinition) :
    let cell := s.nextCell (cellWidth gridSize) (cellHeight gridSize font) h
    layOutDiagram font gridSize h chord s = .ok (cell.2 + cellWidth gridSize)
      (cell.1.drawn [.moveTo ⟨cell.2, cell.1.document.cursor.vertical⟩,
        .diagram chord chord.label? font gridSize]) := by
  let rest (h : Rat) : Typeset Rat Rat := do
    moveTo h (← document).cursor.vertical
    draw (.diagram chord chord.label? font gridSize)
    return h + cellWidth gridSize
  have hrest : ∀ (t : Session Rat) (h : Rat), t.OnPage → rest h t =
      .ok (h + cellWidth gridSize) (t.drawn [.moveTo ⟨h, t.document.cursor.vertical⟩,
        .diagram chord chord.label? font gridSize]) := by
    intro t h ht
    refine (bind_of_ok (draw_eq ht.unlimited _)).trans
      ((bind_of_ok (draw_eq (s := t.drawn _) ht.unlimited _)).trans ?_)
    rw [drawn_drawn]
    rfl
  have hdown : (s.moved (s.document.cursor.down (cellHeight gridSize font)) [] s.log).OnPage :=
    ⟨hs.unlimited, hs.isOpen, hs.inSong⟩
  intro cell
  show (if s.document.geometry.width < h + cellWidth gridSize then
      modifyCursor (·.down (cellHeight gridSize font)) >>= fun _ =>
        ensureRoom (cellHeight gridSize font) >>= fun _ => rest s.document.geometry.left
    else rest h) s = _
  dsimp only [cell]
  unfold Session.nextCell
  split
  · exact (bind_of_ok (modifyCursor_eq _ s)).trans
      ((bind_of_ok (ensureRoom_roomed hdown _)).trans (hrest _ _ (roomed_onPage hdown _)))
  · exact hrest s h hs

/-- The cell of the next diagram is the next one in the rows, and reaching it draws no diagram. -/
theorem nextCell_rows (hs : s.OnPage) (width height h : Rat) :
    let cell := s.nextCell width height h
    cell.1.OnPage ∧ cell.1.document.geometry = s.document.geometry ∧ ∃ es,
      cell.1.device.received.toList = s.device.received.toList ++ es ∧
      (∀ d ∈ es, d.diagram? = none) ∧ ∀ (page : Nat) (d : Drawing Rat) (as : List Hanging),
        Rows s.document.geometry width height (page + pageMarks es) (cell.2 + width)
          cell.1.document.cursor.vertical as →
        Rows s.document.geometry width height page h s.document.cursor.vertical
          (⟨page + pageMarks es, ⟨cell.2, cell.1.document.cursor.vertical⟩, d⟩ :: as) := by
  let t := s.moved (s.document.cursor.down height) [] s.log
  have ht : t.OnPage := ⟨hs.unlimited, hs.isOpen, hs.inSong⟩
  have hdrawn : t.device.received.toList = s.device.received.toList := by
    rw [moved_received, List.append_nil]
  have hvertical : t.document.cursor.vertical = s.document.cursor.vertical - height := rfl
  dsimp only
  unfold Session.nextCell
  by_cases hfull : s.document.geometry.width < h + width
  · rw [if_pos hfull]
    dsimp only
    unfold Session.roomed
    by_cases hlow : t.document.cursor.vertical - height < t.document.geometry.bottom
    · rw [if_pos hlow]
      obtain ⟨es, hes, hnone, hmarks⟩ := turned_drawsOther ht false
      refine ⟨ht.turned false, rfl, es, hes.trans (by rw [hdrawn]), hnone, fun page d as has => ?_⟩
      exact .later hfull hlow (by omega) has
    · rw [if_neg hlow]
      refine ⟨ht, rfl, [], by rw [hdrawn, List.append_nil], by simp, fun page d as has => ?_⟩
      exact .lower hfull (not_lt.1 hlow) has
  · rw [if_neg hfull]
    refine ⟨hs, rfl, [], (List.append_nil _).symm, by simp, fun page d as has => ?_⟩
    exact .beside (not_lt.1 hfull) has

/-- The diagrams hang in rows, in the order of their chords. -/
def HangInRows (g : PageGeometry Rat) (font : Font) (gridSize h v : Rat)
    (chords : List ChordDefinition) (ds : List (Drawing Rat)) : Prop :=
  ∀ (page : Nat) (point? : Option (Point Rat)),
    Rows g (cellWidth gridSize) (cellHeight gridSize font) page h v (hangings page point? ds) ∧
      (hangings page point? ds).map (·.diagram) =
        chords.map fun chord => .diagram chord chord.label? font gridSize

theorem foldlM_hangInRows (hs : s.OnPage) (font : Font) (gridSize h : Rat)
    (chords : List ChordDefinition) :
    Ends (chords.foldlM (layOutDiagram font gridSize) h) s (fun _ => False) fun _ t =>
      t.OnPage ∧ ∃ ds, t.device.received.toList = s.device.received.toList ++ ds ∧
        HangInRows s.document.geometry font gridSize h s.document.cursor.vertical chords ds := by
  -- the rows of the rest begin where the first diagram hangs, in the session that has drawn it
  induction chords generalizing s h with
  | nil => exact ⟨hs, [], (List.append_nil _).symm, fun page point? => ⟨.nil, rfl⟩⟩
  | cons chord chords ih =>
    obtain ⟨ht, hg, es, hes, hnone, hrows⟩ :=
      nextCell_rows hs (cellWidth gridSize) (cellHeight gridSize font) h
    rw [List.foldlM_cons]
    refine .bind_ok (layOutDiagram_eq hs font gridSize h chord) ?_
    let cell := s.nextCell (cellWidth gridSize) (cellHeight gridSize font) h
    let hung : List (Drawing Rat) := [.moveTo ⟨cell.2, cell.1.document.cursor.vertical⟩,
      .diagram chord chord.label? font gridSize]
    have hnext : (cell.1.drawn hung).OnPage := ⟨ht.unlimited, ht.isOpen, ht.inSong⟩
    refine (ih hnext (cell.2 + cellWidth gridSize)).mono ?_
    rintro _ u ⟨hu, ds, hds, hhang⟩
    refine ⟨hu, es ++ (hung ++ ds), ?_, fun page point? => ?_⟩
    · rw [hds, Session.drawn, moved_received, hes, List.append_assoc, List.append_assoc]
    · obtain ⟨point?', happend⟩ := hangings_append hnone page point?
      obtain ⟨has, hdiagrams⟩ := hhang (page + pageMarks es) none
      rw [happend]
      rw [show (cell.1.drawn hung).document.geometry = s.document.geometry from hg] at has
      exact ⟨hrows page _ _ has, congrArg (_ :: ·) hdiagrams⟩

theorem roomed_deeds (s : Session Rat) (height : Rat) : Deeds s.place (s.roomed height).place := by
  unfold Session.roomed
  split
  · exact .single (turned_deed s false)
  · exact .refl

theorem diagramsBegun_onPage (hs : s.Ready) : s.diagramsBegun.OnPage :=
  roomed_onPage (paid_ready hs).onPage _

theorem diagramsBegun_deeds (s : Session Rat) : Deeds s.place s.diagramsBegun.place :=
  (paid_deeds s).trans (roomed_deeds _ _)

theorem diagramsBegun_drawsOther (hs : s.Ready) : s.DrawsOther s.diagramsBegun := by
  have hbegin : (payBlankSpace >>= fun _ => ensureRoom s.cellRoom) s = .ok () s.diagramsBegun :=
    (bind_of_ok (payBlankSpace_paid hs.onPage.unlimited hs.onPage.isOpen)).trans
      (ensureRoom_roomed (paid_ready hs).onPage _)
  obtain ⟨es, hdrawn, -⟩ := (diagramsBegun_deeds s).rowless
  exact ⟨es, hdrawn, not_diagram_of_keepsRegister
    (.bind payBlankSpace_keepsRegister fun _ => ensureRoom_keepsRegister _) hs.onPage.unlimited
    hbegin hdrawn⟩

theorem layOutDiagrams_hang (hs : s.Ready) {chords : List ChordDefinition} (hne : chords ≠ []) :
    Ends (layOutDiagrams chords) s (fun _ => False) fun _ t => t.OnPage ∧ ∃ ds,
      t.device.received.toList = s.diagramsBegun.device.received.toList ++ ds ∧
      HangInRows s.document.geometry (s.document.styles.current .chord) s.settings.gridSize
        s.document.geometry.left s.diagramsBegun.document.cursor.vertical chords ds := by
  have hempty : ¬ chords.isEmpty = true := by simpa using hne
  have hgeometry : s.paid.document.geometry = s.document.geometry := (paid_deeds s).geometry
  have hbegun : s.diagramsBegun.document.geometry = s.document.geometry :=
    (diagramsBegun_deeds s).geometry
  show Ends (if chords.isEmpty then _ else _ : Typeset Rat Unit) s _ _
  rw [if_neg hempty]
  refine .bind_ok rfl (.bind_ok rfl (.bind_ok
    (payBlankSpace_paid hs.onPage.unlimited hs.onPage.isOpen) (.bind_ok rfl (.bind_ok
      (ensureRoom_roomed (paid_ready hs).onPage _) ?_))))
  refine (foldlM_hangInRows (diagramsBegun_onPage hs) _ _ _ chords).bind ?_
  rintro _ t ⟨ht, ds, hds, hhang⟩
  refine .of_ok (modifyCursor_eq _ t) ⟨⟨ht.unlimited, ht.isOpen, ht.inSong⟩, ds, ?_, ?_⟩
  · rw [moved_received, List.append_nil, hds]
  · rw [hbegun] at hhang
    exact hgeometry ▸ hhang

/-- Each chord has its diagram among the drawings, in the order of the chords, and they hang in
cells. The cells of one page are disjoint, and they are in the text area if it has room for one. -/
structure CellsApart (g : PageGeometry Rat) (font : Font) (gridSize : Rat)
    (chords : List ChordDefinition) (ds : List (Drawing Rat)) : Prop where
  drawn : ds.filterMap Drawing.diagram? = chords
  hung : (hangings 0 none ds).map (·.diagram) =
    chords.map fun chord => .diagram chord chord.label? font gridSize
  disjoint : (hangings 0 none ds).Pairwise fun a b => a.page = b.page →
    Disjoint (a.cell (gridSize * 1.7) (gridSize * 1.5 + font.size + 4))
      (b.cell (gridSize * 1.7) (gridSize * 1.5 + font.size + 4))
  inside : gridSize * 1.7 ≤ g.width - g.left → gridSize * 1.5 + font.size + 4 ≤ g.top - g.bottom →
    ∀ a ∈ hangings 0 none ds, a.cell (gridSize * 1.7) (gridSize * 1.5 + font.size + 4) ⊆
      Set.Icc g.left g.width ×ˢ Set.Icc g.bottom g.top

/-- The first row stands on its page, if that has room for one row at all. -/
theorem diagramsBegun_inside (htidy : s.place.Tidy)
    (hroom : s.cellRoom ≤ s.document.geometry.top - s.document.geometry.bottom) :
    s.diagramsBegun.document.cursor.vertical ≤ s.document.geometry.top ∧
      s.document.geometry.bottom ≤ s.diagramsBegun.document.cursor.vertical - s.cellRoom := by
  have hgeometry : s.paid.document.geometry = s.document.geometry := (paid_deeds s).geometry
  have hbegun : s.diagramsBegun.document.geometry = s.document.geometry :=
    (diagramsBegun_deeds s).geometry
  refine ⟨((diagramsBegun_deeds s).tidy htidy).vertical_le.trans_eq (congrArg (·.top) hbegun), ?_⟩
  unfold Session.diagramsBegun Session.roomed
  split
  · show _ ≤ s.paid.document.geometry.top - _
    rw [hgeometry]
    linarith
  · next hfits =>
    rw [hgeometry] at hfits
    exact not_lt.1 hfits

/-- Whatever chords are laid out wherever the cursor stands, their cells keep apart. -/
theorem layOutDiagrams_apart (hs : s.Ready) (htidy : s.place.Tidy)
    (chords : List ChordDefinition) :
    Ends (layOutDiagrams chords) s (fun _ => False) fun _ t => ∃ ds,
      t.device.received.toList = s.device.received.toList ++ ds ∧
      CellsApart s.document.geometry (s.document.styles.current .chord) s.settings.gridSize
        chords ds := by
  have hgrid : 0 ≤ s.settings.gridSize := hs.legible.gridSize_nonneg
  have hwidth : 0 ≤ s.settings.gridSize * 1.7 := mul_nonneg hgrid (by norm_num)
  have hheight : 0 ≤ s.cellRoom := cellHeight_nonneg hgrid (hs.legible.two_le .chord)
  rcases eq_or_ne chords [] with rfl | hne
  · exact .of_ok rfl ⟨[], (List.append_nil _).symm, rfl, rfl, .nil, fun _ _ => by simp [hangings]⟩
  -- before the first diagram pages may have been turned, but no diagram has been drawn
  obtain ⟨_, t, hok, -, ds, hds, hhang⟩ := (layOutDiagrams_hang hs hne).exists_ok
  obtain ⟨es, hes, hnone⟩ := diagramsBegun_drawsOther hs
  obtain ⟨point?, happend⟩ := hangings_append hnone 0 none
  obtain ⟨hrows, hdiagrams⟩ := hhang (0 + pageMarks es) point?
  rw [← happend] at hrows hdiagrams
  have hdrawn : t.device.received.toList = s.device.received.toList ++ (es ++ ds) := by
    rw [hds, hes, List.append_assoc]
  have hall : (es ++ ds).filterMap Drawing.diagram? = chords := by
    have hregisters := (layOutDiagrams_drawsDiagrams chords s hs.onPage.unlimited).holds hok
    have hadded : t.diagrams = s.diagrams ++ chords := congrArg Register.diagrams hregisters.2
    rw [Session.diagrams, hdrawn, List.filterMap_append, Session.diagrams] at hadded
    exact List.append_cancel_left hadded
  refine .of_ok hok ⟨es ++ ds, hdrawn, hall, hdiagrams, hrows.pairwise hwidth hheight,
    fun hfits hroom => ?_⟩
  obtain ⟨htop, hbottom⟩ := diagramsBegun_inside htidy hroom
  exact hrows.inside hfits hheight hroom le_rfl hwidth htop hbottom

/-- Diagrams never overlap. From the first page on and whatever has been read, wherever the cursor
stands or if it goes below the columns first, as it does at the end of a song, laying out any list
of chords draws each of them once in order, and the cells of a page are disjoint. If one cell fits
the text area, no cell leaves it. -/
theorem diagrams_apart {settings : Settings Rat} {configurations : List (String × String)}
    {overrides : Overrides} (hbegins : Begins settings configurations overrides)
    (os : List Order)
    (hlegible : ∀ m ∈ (firstSong settings configurations overrides).moments os, m.Legible) :
    ∀ m ∈ (firstSong settings configurations overrides).moments os,
      ∀ s, s = m ∨ s = m.belowColumns → ∀ chords,
        Ends (layOutDiagrams chords) s (fun _ => False) fun _ t => ∃ ds,
          t.device.received.toList = s.device.received.toList ++ ds ∧
          CellsApart s.document.geometry (s.document.styles.current .chord) s.settings.gridSize
            chords ds := by
  intro m hm s hs chords
  obtain ⟨hsong, htidy⟩ := moments_tidy hbegins.isBegun hlegible m hm
  have hready : m.Ready := ⟨hsong.onPage, hlegible m hm⟩
  rcases hs with rfl | rfl
  · exact layOutDiagrams_apart hready htidy chords
  · have hbelow : (modifyCursor Cursor.belowColumns : Typeset Rat Unit) m = .ok () m.belowColumns :=
      modifyCursor_eq _ m
    obtain ⟨hready', hdeeds⟩ := (belowColumns_works.ends hready).holds hbelow
    exact layOutDiagrams_apart hready' (hdeeds.tidy htidy) chords

/-- Twelve diagrams on letter paper: ten in the first row and two in the second. -/
theorem diagrams_apart_twelve :
    let first : Session Rat := firstSong .default [] noOverrides
    let chords := first.document.chords.known.take 12
    Begins (.default : Settings Rat) [] noOverrides ∧ (∀ m ∈ first.moments [], m.Legible) ∧
      Ends (layOutDiagrams chords) first (fun _ => False) fun _ t => ∃ ds,
        t.device.received.toList = first.device.received.toList ++ ds ∧
        CellsApart first.document.geometry (first.document.styles.current .chord)
          first.settings.gridSize chords ds := by
  intro first chords
  have hbegins : Begins (.default : Settings Rat) [] noOverrides :=
    eq_ok_of_succeeds (by decide +kernel)
  have hlegible : ∀ m ∈ first.moments [], m.Legible := by decide +kernel
  have hfirst : first ∈ first.moments [] := after_mem_moments first [] []
  exact ⟨hbegins, hlegible,
    diagrams_apart hbegins [] hlegible first hfirst first (.inl rfl) chords⟩

end Typeset

end Songbook
