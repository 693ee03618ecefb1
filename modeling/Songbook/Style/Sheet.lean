import Songbook.Style.Font

/-!
# The fonts in force

Each slot has the font that songs begin with and the font in force. The slots for tablatures and
comments are linked: as long as nothing sets them, they take their fonts from the text and the
chords. A linked slot stays linked over a reset, and one that has been set stays set.
-/

namespace Songbook

structure Slot where
  initial : Font
  current : Font
  linked : Bool
deriving DecidableEq, Repr

/-- The largest font size. -/
def largestSize : Int := 2147483647

/-- What is kept of a sum or a difference of sizes: 32 bits with a sign, so that what is beyond the
largest size comes round to the negative ones. -/
def wrapSize (n : Int) : Int := n.bmod 4294967296

theorem wrapSize_eq_self {n : Int} (hlow : -2147483648 ≤ n) (hhigh : n ≤ largestSize) :
    wrapSize n = n := by
  unfold largestSize at hhigh
  exact Int.bmod_eq_of_le (by omega) (by omega)

theorem wrapSize_bounds (n : Int) : -2147483648 ≤ wrapSize n ∧ wrapSize n ≤ largestSize := by
  unfold wrapSize largestSize
  have hlow : -((4294967296 : Nat) / 2 : Int) ≤ n.bmod 4294967296 := Int.le_bmod (by decide)
  have hhigh : n.bmod 4294967296 < ((4294967296 : Nat) + 1) / 2 := Int.bmod_lt (by decide)
  omega

/-- The slots of a document. -/
structure StyleSheet where
  text : Slot
  chord : Slot
  tab : Slot
  comment : Slot
  commentItalic : Slot
deriving DecidableEq, Repr

namespace StyleSheet

def slot (s : StyleSheet) : FontSlot → Slot
  | .text => s.text
  | .chord => s.chord
  | .tab => s.tab
  | .comment => s.comment
  | .commentItalic => s.commentItalic

def setSlot (s : StyleSheet) (value : Slot) : FontSlot → StyleSheet
  | .text => { s with text := value }
  | .chord => { s with chord := value }
  | .tab => { s with tab := value }
  | .comment => { s with comment := value }
  | .commentItalic => { s with commentItalic := value }

/-- Changes one slot. -/
def modifySlot (s : StyleSheet) (which : FontSlot) (f : Slot → Slot) : StyleSheet :=
  s.setSlot (f (s.slot which)) which

/-- The font in force. -/
def current (s : StyleSheet) (which : FontSlot) : Font := (s.slot which).current

/-- The font that songs begin with. -/
def initial (s : StyleSheet) (which : FontSlot) : Font := (s.slot which).initial

/-- A slot with the same font for now and for the beginning of songs. -/
def fresh (font : Font) (linked : Bool) : Slot := ⟨font, font, linked⟩

/-- The fonts before anything is asked for. -/
def default : StyleSheet where
  text := fresh ⟨"Times-Roman", defaultTextSize⟩ false
  chord := fresh ⟨"Helvetica-Oblique", 9⟩ false
  tab := fresh ⟨"Courier", defaultTextSize - 2⟩ true
  comment := fresh ⟨"Times-Roman", defaultTextSize⟩ true
  commentItalic := fresh ⟨"Helvetica-Oblique", defaultTextSize⟩ true

/-- The font that a linked slot takes from the others: comments are set like the text, italic
comments in the family of the chords, and tablatures two points smaller than the text. -/
def derived (s : StyleSheet) : FontSlot → Font
  | .text => s.text.current
  | .chord => s.chord.current
  | .tab => ⟨s.tab.initial.family, wrapSize (s.text.current.size - 2)⟩
  | .comment => s.text.current
  | .commentItalic => ⟨s.chord.current.family, s.text.current.size⟩

/-- Gives a linked slot its derived font. -/
def relinkSlot (s : StyleSheet) (which : FontSlot) : StyleSheet :=
  s.modifySlot which fun v => if v.linked then { v with current := s.derived which } else v

/-- Gives all linked slots their derived fonts. -/
def relink (s : StyleSheet) : StyleSheet :=
  ((s.relinkSlot .tab).relinkSlot .comment).relinkSlot .commentItalic

/-- Sets the font that songs begin with. A dependent slot takes it at once and is linked no
longer. -/
def setInitial (s : StyleSheet) (which : FontSlot) (f : Font → Font) : StyleSheet :=
  s.modifySlot which fun v =>
    let font := f v.initial
    if which.isDependent then ⟨font, font, false⟩ else { v with initial := font }

/-- Sets the font in force. Without the extensions the linked slots follow text and chords. -/
def setCurrent (s : StyleSheet) (which : FontSlot) (f : Font → Font) (extensions : Bool) :
    StyleSheet :=
  let s := s.modifySlot which fun v => { v with current := f v.current, linked := false }
  if extensions || which.isDependent then s else s.relink

def change (s : StyleSheet) (which : FontSlot) (f : Font → Font) (extensions : Bool) :
    Scope → StyleSheet
  | .initial => s.setInitial which f
  | .current => s.setCurrent which f extensions

def setFamily (s : StyleSheet) (which : FontSlot) (family : String) (scope : Scope)
    (extensions : Bool) : StyleSheet :=
  s.change which (fun font => { font with family }) extensions scope

def setSize (s : StyleSheet) (which : FontSlot) (size : Int) (scope : Scope) (extensions : Bool) :
    StyleSheet :=
  s.change which (fun font => { font with size }) extensions scope

/-- The font that a change in the scope begins with. -/
def inScope (s : StyleSheet) (which : FontSlot) : Scope → Font
  | .initial => s.initial which
  | .current => s.current which

/-- Changes a size by a number of points, if that leaves a size: the styles and the new size. -/
def adjustSize? (s : StyleSheet) (which : FontSlot) (delta : Int) (scope : Scope)
    (extensions : Bool) : Option (StyleSheet × Int) :=
  let size := (s.inScope which scope).size + delta
  if 0 < size ∧ size ≤ largestSize then some (s.setSize which size scope extensions, size)
  else none

/-- Goes back to the fonts that songs begin with. -/
def reset (s : StyleSheet) : StyleSheet :=
  let back := fun (v : Slot) => { v with current := v.initial }
  relink ⟨back s.text, back s.chord, back s.tab, back s.comment, back s.commentItalic⟩

@[simp] theorem slot_setSlot (s : StyleSheet) (v : Slot) (which : FontSlot) :
    (s.setSlot v which).slot which = v := by
  cases which <;> rfl

theorem slot_setSlot_of_ne (s : StyleSheet) (v : Slot) {a b : FontSlot} (h : a ≠ b) :
    (s.setSlot v b).slot a = s.slot a := by
  cases a <;> cases b <;> simp_all [slot, setSlot]

end StyleSheet

end Songbook
