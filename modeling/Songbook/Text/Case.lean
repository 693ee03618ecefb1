/-!
# Letter case

Keywords, paper names and the mark for no chord are compared without regard to the case of ASCII
letters; all other characters are compared as they are.
-/

namespace Songbook.Text

/-- The text with its ASCII capitals made small. -/
def lower (s : String) : String :=
  String.ofList (s.toList.map Char.toLower)

/-- The texts differ at most in the case of ASCII letters. -/
def sameLetters (s t : String) : Bool :=
  lower s == lower t

@[simp] theorem toLower_toLower (c : Char) : c.toLower.toLower = c.toLower := by
  unfold Char.toLower
  split
  · next h =>
    rw [dif_neg]
    simp only [ge_iff_le, not_and, UInt32.not_le]
    intro _
    have h1 := UInt32.le_iff_toNat_le.1 h.1
    have h2 := UInt32.le_iff_toNat_le.1 h.2
    rw [UInt32.lt_iff_toNat_lt]
    simp only [UInt32.toNat_add] at *
    simp at h1 h2 ⊢
    omega
  · rfl

@[simp] theorem lower_lower (s : String) : lower (lower s) = lower s := by
  simp [lower, Function.comp_def]

end Songbook.Text
