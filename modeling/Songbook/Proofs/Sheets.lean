import Songbook.Drawing

/-!
# Documents as sheets of pages

What a device should be handed: the document's beginning, sheet after sheet, and the document's
end. A sheet is numbered from one, and its beginning is followed by the change of coordinates that
fits several pages on it; each of them begins with a shift of its own, and the sheet ends by taking
all changes back before its number is printed.
-/

namespace Songbook

variable {L : Type} [Length L]

theorem Pagination.perSheet_pos (p : Pagination) : 0 < p.perSheet := by
  cases p <;> decide

namespace Drawing

omit [Length L] in
/-- What stands on a page: points gone to, texts, rows of chords, strokes and diagrams. -/
def isContent : Drawing L → Bool
  | .moveTo _ | .text .. | .chords .. | .stroke .. | .diagram .. => true
  | _ => false

/-- How the sheet of that number begins. -/
def sheetOpening (g : PageGeometry L) (p : Pagination) (number : Nat) : List (Drawing L) :=
  .beginSheet number ::
    if p = .one then []
    else [.transform (.scaleRotate (g.scale p) (PageGeometry.rotation p))]

/-- How the page of that place on a sheet begins. A page that is alone on its sheet is not
shifted. -/
def pageOpening (g : PageGeometry L) (p : Pagination) (slot : Nat) : List (Drawing L) :=
  match g.shift? p slot with
  | some (h, v) => [.transform (.translate h v)]
  | none => []

omit [Length L] in
/-- How a sheet ends: the changes of coordinates are taken back, then comes the footer. -/
def sheetClosing (p : Pagination) (footer : List (Drawing L)) (number : Nat) : List (Drawing L) :=
  (if p = .one then [] else [.resetTransform]) ++ footer ++ [.endSheet number]

/-- A sheet that is still open: `OpenSheet g p n k ds` says that `ds` begins the sheet of number
`n` and `k` pages on it, no more than it has room for. -/
inductive OpenSheet (g : PageGeometry L) (p : Pagination) (n : Nat) : Nat → List (Drawing L) → Prop
  | first : OpenSheet g p n 1 (sheetOpening g p n ++ pageOpening g p 1)
  | content {k : Nat} {ds : List (Drawing L)} {d : Drawing L} (h : OpenSheet g p n k ds)
      (hd : d.isContent) : OpenSheet g p n k (ds ++ [d])
  | page {k : Nat} {ds : List (Drawing L)} (h : OpenSheet g p n k ds) (hk : k < p.perSheet) :
      OpenSheet g p n (k + 1) (ds ++ pageOpening g p (k + 1))

/-- Closed sheets, numbered from one to `n`. -/
inductive ClosedSheets (g : PageGeometry L) (p : Pagination) : Nat → List (Drawing L) → Prop
  | none : ClosedSheets g p 0 []
  | sheet {n k : Nat} {ds sheet footer : List (Drawing L)} (h : ClosedSheets g p n ds)
      (ho : OpenSheet g p (n + 1) k sheet) (hf : ∀ d ∈ footer, d.isContent) :
      ClosedSheets g p (n + 1) (ds ++ sheet ++ sheetClosing p footer (n + 1))

/-- A whole document: its beginning, closed sheets, and its end with the number of sheets. -/
def IsDocument (g : PageGeometry L) (p : Pagination) (ds : List (Drawing L)) : Prop :=
  ∃ n sheets, ClosedSheets g p n sheets ∧ ds = .beginDocument g :: sheets ++ [.endDocument n]

variable {g : PageGeometry L} {p : Pagination} {n k : Nat} {ds : List (Drawing L)}

theorem OpenSheet.contents {es : List (Drawing L)} (h : OpenSheet g p n k ds)
    (hes : ∀ d ∈ es, d.isContent) : OpenSheet g p n k (ds ++ es) := by
  induction es generalizing ds with
  | nil => simpa using h
  | cons d es ih =>
    have hd := h.content (hes d (by simp))
    simpa using ih hd fun e he => hes e (List.mem_cons_of_mem _ he)

theorem OpenSheet.le_perSheet (h : OpenSheet g p n k ds) : 1 ≤ k ∧ k ≤ p.perSheet := by
  induction h with
  | first => cases p <;> simp [Pagination.perSheet]
  | content _ _ ih => exact ih
  | page _ hk _ => omega

end Drawing

end Songbook
