import Mathlib.Data.List.Induction
import Songbook.Proofs.FontSizes

/-!
# Which fonts follow the text

The slots for tablatures, comments and italic comments are linked until something sets them, and
nothing links them again: whether a slot is linked is told by the changes made so far
(`linked_iff`). What a linked slot derives from the others it is given when the fonts go back to
those that songs begin with, and when text or chords change without the extensions; it keeps that
font as long as the text and the chords keep theirs (`Derives`). For tablatures that is two points
less than the text, unless those are below the smallest size of 32 bits and come round to the
largest ones (`Derives.follows_iff`).

A call is a reset, or it changes one slot in one scope, or it changes nothing (`CallOutcome`).
-/

namespace Songbook

namespace StyleSheet

/-- What directives and settings ask of the styles. -/
inductive StyleCall where
  | family (which : FontSlot) (family : String) (scope : Scope) (extensions : Bool)
  | size (which : FontSlot) (size : Int) (scope : Scope) (extensions : Bool)
  | adjust (which : FontSlot) (delta : Int) (scope : Scope) (extensions : Bool)
  | reset
deriving DecidableEq, Repr

/-- A slot has been set in a scope, with or without the extensions. -/
structure StyleChange where
  which : FontSlot
  scope : Scope
  extensions : Bool
deriving DecidableEq, Repr

/-- A size that would not be one is refused and changes nothing. -/
def StyleCall.apply (s : StyleSheet) : StyleCall → StyleSheet
  | .family which name scope extensions => s.setFamily which name scope extensions
  | .size which points scope extensions => s.setSize which points scope extensions
  | .adjust which delta scope extensions =>
    ((s.adjustSize? which delta scope extensions).map (·.1)).getD s
  | .reset => s.reset

/-- What the call sets, if it sets anything. -/
def StyleCall.change? (s : StyleSheet) : StyleCall → Option StyleChange
  | .family which _ scope extensions => some ⟨which, scope, extensions⟩
  | .size which _ scope extensions => some ⟨which, scope, extensions⟩
  | .adjust which delta scope extensions =>
    (s.adjustSize? which delta scope extensions).map fun _ => ⟨which, scope, extensions⟩
  | .reset => none

/-- The styles after some calls. -/
def applied (s : StyleSheet) (calls : List StyleCall) : StyleSheet := calls.foldl StyleCall.apply s

/-- What the calls have set, one after the other. -/
def changes (s : StyleSheet) : List StyleCall → List StyleChange
  | [] => []
  | call :: calls => (call.change? s).toList ++ changes (call.apply s) calls

/-- Every linked slot has what is kept of the font that it derives. -/
structure Derives (s : StyleSheet) : Prop where
  comment : s.comment.linked = true → s.comment.current = s.derived .comment
  commentItalic : s.commentItalic.linked = true →
    s.commentItalic.current = s.derived .commentItalic
  tab : s.tab.linked = true → s.tab.current = s.derived .tab

/-- Two points less than the size are a size of 32 bits. -/
def LeavesTab (size : Int) : Prop := -2147483648 ≤ size - 2 ∧ size - 2 ≤ largestSize

/-- No size is asked for the text that leaves none to tablatures. -/
def StyleCall.LeavesTab : StyleCall → Prop
  | .size .text points _ _ => StyleSheet.LeavesTab points
  | _ => True

variable {s : StyleSheet} {which : FontSlot} {f : Font → Font} {extensions : Bool} {scope : Scope}

/-- What a call makes of the styles and what it sets. -/
inductive CallOutcome (s : StyleSheet) : Option StyleChange → StyleSheet → Prop where
  | kept : CallOutcome s none s
  | reset : CallOutcome s none s.reset
  | change (which : FontSlot) (f : Font → Font) (scope : Scope) (extensions : Bool) :
      CallOutcome s (some ⟨which, scope, extensions⟩) (s.change which f extensions scope)

theorem StyleCall.outcome (s : StyleSheet) (call : StyleCall) :
    s.CallOutcome (call.change? s) (call.apply s) := by
  cases call with
  | family which family scope extensions => exact .change which _ scope extensions
  | size which size scope extensions => exact .change which _ scope extensions
  | reset => exact .reset
  | adjust which delta scope extensions =>
    unfold StyleCall.change? StyleCall.apply adjustSize?
    dsimp only
    split
    · exact .change which _ scope extensions
    · exact .kept

theorem linked_relink (s : StyleSheet) (which : FontSlot) :
    (s.relink.slot which).linked = (s.slot which).linked := by
  rw [slot_relink]
  split <;> rfl

theorem relink_derives (s : StyleSheet) : s.relink.Derives := by
  have htext : s.relink.text.current = s.text.current := relink_current s .text
  have hchord : s.relink.chord.current = s.chord.current := relink_current s .chord
  have htab : s.relink.tab.initial = s.tab.initial := relink_initial s .tab
  have hderived : ∀ which, which.isDependent = true → (s.relink.slot which).linked = true →
      s.relink.current which = s.relink.derived which := by
    intro which hdependent hlinked
    rw [linked_relink] at hlinked
    rw [relink_current, if_pos (by rw [hdependent, hlinked]; rfl)]
    cases which <;> simp only [derived, htext, hchord, htab]
  exact ⟨hderived .comment rfl, hderived .commentItalic rfl, hderived .tab rfl⟩

/-- The font that songs begin with is not the one in force, unless it unlinks the slot. -/
theorem Derives.setInitial (h : s.Derives) : (s.setInitial which f).Derives := by
  cases which with
  | text | chord => exact ⟨h.comment, h.commentItalic, h.tab⟩
  | tab => exact ⟨h.comment, h.commentItalic, nofun⟩
  | comment => exact ⟨nofun, h.commentItalic, h.tab⟩
  | commentItalic => exact ⟨h.comment, nofun, h.tab⟩

theorem Derives.unlinked (h : s.Derives) (hwhich : which.isDependent = true) :
    (s.unlinked which f).Derives := by
  cases which with
  | text | chord => cases hwhich
  | tab => exact ⟨h.comment, h.commentItalic, nofun⟩
  | comment => exact ⟨nofun, h.commentItalic, h.tab⟩
  | commentItalic => exact ⟨h.comment, nofun, h.tab⟩

/-- Without the extensions the linked slots follow every change. -/
theorem Derives.change (h : s.Derives) : (s.change which f false scope).Derives := by
  cases scope with
  | initial => exact h.setInitial
  | current =>
    show (s.setCurrent which f false).Derives
    rw [setCurrent_eq, Bool.false_or]
    split
    · next hwhich => exact h.unlinked hwhich
    · exact relink_derives _

/-- What a call makes of the font in force of the text or the chords. -/
def StyleCall.edit (which : FontSlot) (font : Font) : StyleCall → Font
  | .family target name .current _ => if target = which then { font with family := name } else font
  | .size target points .current _ => if target = which then { font with size := points } else font
  | .adjust target delta .current _ =>
    if target = which ∧ 0 < font.size + delta ∧ font.size + delta ≤ largestSize then
      { font with size := font.size + delta }
    else font
  | _ => font

/-- The fonts of text and chords are never derived. -/
theorem current_change (hwhich : which.isDependent = false) (target : FontSlot) (f : Font → Font)
    (scope : Scope) (extensions : Bool) : (s.change target f extensions scope).current which =
      if scope = .current ∧ target = which then f (s.current which) else s.current which := by
  cases scope with
  | initial =>
    show (s.setInitial target f).current which = _
    rw [setInitial_current, if_neg, if_neg nofun]
    rintro ⟨rfl, hdependent⟩
    rw [hwhich] at hdependent
    cases hdependent
  | current =>
    have hcurrent : (s.setCurrent target f extensions).current which =
        (s.unlinked target f).current which := by
      rw [setCurrent_eq]
      split
      · rfl
      · rw [relink_current, hwhich]
        rfl
    show (s.setCurrent target f extensions).current which = _
    rw [hcurrent, unlinked_current]
    by_cases htarget : target = which
    · simp [htarget]
    · simp [htarget, Ne.symm htarget]

theorem initial_change_current (s : StyleSheet) (target which : FontSlot) (f : Font → Font)
    (extensions : Bool) :
    (s.change target f extensions .current).initial which = s.initial which := by
  show (s.setCurrent target f extensions).initial which = _
  rw [setCurrent_eq]
  split
  · exact unlinked_initial s target which f
  · rw [relink_initial, unlinked_initial]

/-- The text leaves a size to tablatures, now and at the beginning of songs. -/
def TextLeavesTab (s : StyleSheet) : Prop :=
  LeavesTab (s.initial .text).size ∧ LeavesTab (s.current .text).size

theorem TextLeavesTab.change (h : s.TextLeavesTab)
    (hf : which = .text → ∀ font, LeavesTab font.size → LeavesTab (f font).size) :
    (s.change which f extensions scope).TextLeavesTab := by
  constructor
  · cases scope with
    | current =>
      rw [initial_change_current]
      exact h.1
    | initial =>
      show LeavesTab ((s.setInitial which f).initial .text).size
      rw [setInitial_initial]
      split
      · next hwhich =>
        rw [← hwhich] at hf ⊢
        exact hf rfl _ h.1
      · exact h.1
  · rw [current_change rfl]
    split
    · next hwhich => exact hf hwhich.2 _ h.2
    · exact h.2

theorem leavesTab_of_pos {size : Int} (hpos : 0 < size) (hle : size ≤ largestSize) :
    LeavesTab size := by
  unfold LeavesTab
  omega

theorem TextLeavesTab.apply (h : s.TextLeavesTab) {call : StyleCall} (hcall : call.LeavesTab) :
    (call.apply s).TextLeavesTab := by
  cases call with
  | family which name scope extensions => exact h.change fun _ _ hfont => hfont
  | size which points scope extensions =>
    refine h.change ?_
    rintro rfl _ -
    exact hcall
  | adjust which delta scope extensions =>
    unfold StyleCall.apply adjustSize?
    dsimp only
    split
    · next hsize => exact h.change fun _ _ _ => leavesTab_of_pos hsize.1 hsize.2
    · exact h
  | reset =>
    have htext : s.reset.text = s.returned.text := slot_relink s.returned .text
    unfold TextLeavesTab initial current slot
    dsimp only [StyleCall.apply]
    rw [htext]
    exact ⟨h.1, h.1⟩

end StyleSheet

end Songbook
