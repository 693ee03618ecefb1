import Songbook.Directive.Basic

/-!
# Paper

The printable area of a page, and how many pages go on a sheet. Forms that are given by their
extents are checked: `ofForm` says what a page's extents must satisfy.
-/

namespace Songbook

/-- The printable area of one page, from the bottom left corner of the paper. -/
structure PageGeometry (L : Type) where
  name : String
  top : L
  bottom : L
  left : L
  width : L
deriving Repr

/-- The number of pages on a sheet. -/
inductive Pagination where
  | one
  | two
  | four
deriving DecidableEq, Repr

def Pagination.perSheet : Pagination → Nat
  | .one => 1
  | .two => 2
  | .four => 4

namespace PageGeometry

variable {L : Type} [Length L]

/-- The paper used unless something else is asked for. -/
def letter : PageGeometry L := ⟨"letter", 756, 40, 72, 612⟩

/-- The papers known by name; `mletter` is letter paper with margins of half an inch. -/
def papers : List (PageGeometry L) :=
  [⟨"a4", 756, 36, 72, 595⟩, letter, ⟨"mletter", 792, 36, 36, 612⟩]

/-- The paper of a name, in any letter case. -/
def paper? (name : String) : Option (PageGeometry L) :=
  papers.find? (·.name == Text.lower name)

/-- No page can have these extents. -/
def isDegenerate (form : FormSpec L) : Bool :=
  form.top ≤ 72 || form.width ≤ 72 || form.bottom < 0 || form.top ≤ form.bottom ||
    form.left < 0 || form.width ≤ form.left

/-- How a refused form is shown. -/
def formText (form : FormSpec L) : String :=
  form.name ++ ": top " ++ Length.text form.top ++ ", width " ++ Length.text form.width ++
    ", left " ++ Length.text form.left ++ ", bottom " ++ Length.text form.bottom

/-- The page of a form. -/
def ofForm (form : FormSpec L) : Except Problem (PageGeometry L) :=
  if isDegenerate form then .error (.invalidForm (formText form))
  else .ok ⟨Text.lower form.name, form.top, form.bottom, form.left, form.width⟩

/-- The room for a line, right of the left margin. -/
def textWidth (g : PageGeometry L) : L := g.width - g.left

/-- The height of the page with both of its margins. -/
def height (g : PageGeometry L) : L := g.top + g.bottom

/-- The scale of the pages on a sheet. -/
def scale (g : PageGeometry L) : Pagination → L
  | .one => 1
  | .two => g.textWidth / g.height
  | .four => 1 / 2.1

/-- The turn of the pages on a sheet, in degrees. -/
def rotation : Pagination → L
  | .two => 90
  | _ => 0

/-- How far the origin moves from one page of a sheet to the next. The pages fill a sheet from its
top left: two side by side on a turned sheet, four in two rows. -/
def shift? (g : PageGeometry L) : Pagination → Nat → Option (L × L)
  | .two, 1 => some (0, -(g.height + g.left / g.scale .two))
  | .two, 2 => some (g.width, 0)
  | .four, 1 => some (g.left, g.height * 1.05)
  | .four, 3 => some (-g.textWidth, -g.top * 1.05)
  | .four, 2 | .four, 4 => some (g.textWidth, 0)
  | _, _ => none

end PageGeometry

end Songbook
