import Mathlib.Algebra.Ring.Int.Defs
import Mathlib.Algebra.Ring.Nat
import Mathlib.Data.List.Induction
import Mathlib.Data.List.TakeWhile
import Songbook.Directive.Basic
import Songbook.Proofs.Words

/-!
# Leading integers

Directives take the number that a text begins with: blanks, a sign or none, and every digit that
follows (`LeadingNumeral`). A text begins so in one way only, and is read as the number written
there, held at the ends of the range (`leadingInteger_eq_iff`).

The number is held at every digit. To hold it once in the end comes to the same
(`limitedValue_eq`), so words of 32 bits are enough to compute it in (`toInt_leadingWord`).
-/

namespace Songbook

namespace Decimal

variable {s : String} {blanks sign digits rest : List Char}

/-- The text consists of these parts: a number with its digits, as many as there are, and what
stands before and after it. -/
structure LeadingNumeral (s : String) (blanks sign digits rest : List Char) : Prop where
  parts : s.toList = blanks ++ (sign ++ (digits ++ rest))
  before : ∀ c ∈ blanks, Text.isBlank c = true
  signed : sign = [] ∨ sign = ['+'] ∨ sign = ['-']
  unsigned : sign = [] → ∀ c ∈ (digits ++ rest).head?, Text.isBlank c = false ∧ c ≠ '+' ∧ c ≠ '-'
  digit : ∀ c ∈ digits, c.isDigit = true
  after : ∀ c ∈ rest.head?, c.isDigit = false

/-- The number that the digits write in decimal places; zero if there are none. -/
def signedValue (sign digits : List Char) : Int :=
  if sign = ['-'] then -(Nat.ofDigitChars 10 digits 0 : Int) else Nat.ofDigitChars 10 digits 0

/-- The nearest number that a directive can give. -/
def limited (n : Int) : Int := max (-largest) (min largest n)

/-! ## The parts of a text -/

theorem takeWhile_of_head? {p : Char → Bool} {cs : List Char} (h : ∀ c ∈ cs.head?, p c = false) :
    cs.takeWhile p = [] := by
  cases cs with
  | nil => rfl
  | cons c cs => exact List.takeWhile_cons_of_neg (by simp [h c rfl])

theorem dropWhile_of_head? {p : Char → Bool} {cs : List Char} (h : ∀ c ∈ cs.head?, p c = false) :
    cs.dropWhile p = cs := by
  cases cs with
  | nil => rfl
  | cons c cs => exact List.dropWhile_cons_of_neg (by simp [h c rfl])

theorem head?_dropWhile {p : Char → Bool} (cs : List Char) :
    ∀ c ∈ (cs.dropWhile p).head?, p c = false := by
  intro c hc
  have hfirst := List.head?_dropWhile_not p cs
  rw [Option.mem_def.1 hc] at hfirst
  simpa using hfirst

theorem splitSign_of_head? {cs : List Char} (h : ∀ c ∈ cs.head?, c ≠ '+' ∧ c ≠ '-') :
    splitSign cs = (false, cs) := by
  obtain ⟨ds, rfl, -⟩ | ⟨ds, rfl, -⟩ | hsplit := splitSign_cases cs
  · exact absurd rfl (h '-' rfl).2
  · exact absurd rfl (h '+' rfl).1
  · exact hsplit

theorem exists_leadingNumeral (s : String) :
    ∃ blanks sign digits rest, LeadingNumeral s blanks sign digits rest := by
  have hblanks : ∀ c ∈ s.toList.takeWhile Text.isBlank, Text.isBlank c = true :=
    fun c hc => List.mem_takeWhile_imp hc
  have hdigits : ∀ cs : List Char, ∀ c ∈ cs.takeWhile Char.isDigit, c.isDigit = true :=
    fun cs c hc => List.mem_takeWhile_imp hc
  have htext : s.toList = s.toList.takeWhile Text.isBlank ++ s.toList.dropWhile Text.isBlank :=
    List.takeWhile_append_dropWhile.symm
  have hfirst := head?_dropWhile (p := Text.isBlank) s.toList
  generalize s.toList.dropWhile Text.isBlank = cs at htext hfirst
  obtain ⟨ds, rfl, -⟩ | ⟨ds, rfl, -⟩ | hsplit := splitSign_cases cs
  · refine ⟨_, ['-'], ds.takeWhile Char.isDigit, ds.dropWhile Char.isDigit, ?_, hblanks,
      .inr (.inr rfl), nofun, hdigits ds, head?_dropWhile ds⟩
    rw [List.takeWhile_append_dropWhile]
    exact htext
  · refine ⟨_, ['+'], ds.takeWhile Char.isDigit, ds.dropWhile Char.isDigit, ?_, hblanks,
      .inr (.inl rfl), nofun, hdigits ds, head?_dropWhile ds⟩
    rw [List.takeWhile_append_dropWhile]
    exact htext
  · refine ⟨_, [], cs.takeWhile Char.isDigit, cs.dropWhile Char.isDigit, ?_, hblanks, .inl rfl,
      fun _ c hc => ?_, hdigits cs, head?_dropWhile cs⟩
    · rw [List.takeWhile_append_dropWhile]
      exact htext
    · rw [List.takeWhile_append_dropWhile] at hc
      refine ⟨hfirst c hc, ?_, ?_⟩
      all_goals
        rintro rfl
        obtain ⟨ds, rfl⟩ : ∃ ds, cs = _ :: ds := List.head?_eq_some_iff.1 hc
        cases hsplit

/-- The sign and the digits are found where they stand. -/
theorem LeadingNumeral.splitSign_eq (h : LeadingNumeral s blanks sign digits rest) :
    splitSign (s.toList.dropWhile Text.isBlank) = (decide (sign = ['-']), digits ++ rest) := by
  rw [h.parts, List.dropWhile_append_of_pos h.before]
  obtain rfl | rfl | rfl := h.signed
  · have hfirst := h.unsigned rfl
    rw [List.nil_append, dropWhile_of_head? fun c hc => (hfirst c hc).1,
      splitSign_of_head? fun c hc => (hfirst c hc).2]
    rfl
  · rfl
  · rfl

theorem LeadingNumeral.takeWhile_eq (h : LeadingNumeral s blanks sign digits rest) :
    (digits ++ rest).takeWhile Char.isDigit = digits := by
  rw [List.takeWhile_append_of_pos h.digit, takeWhile_of_head? h.after, List.append_nil]

/-! ## The number -/

/-- The digits write the number, held at the largest. -/
theorem limitedValue_eq (cs : List Char) :
    limitedValue cs = min largest (digitsValue cs) := by
  have hfold : ∀ (cs : List Char) (n : Nat),
      cs.foldl (fun n c => min largest (10 * n + digitValue c)) (min largest n) =
        min largest (cs.foldl (fun n c => 10 * n + digitValue c) n) := by
    intro cs
    induction cs with
    | nil => exact fun n => rfl
    | cons c cs ih =>
      intro n
      have hstep : min largest (10 * min largest n + digitValue c) =
          min largest (10 * n + digitValue c) := by omega
      rw [List.foldl_cons, List.foldl_cons, hstep, ih]
  exact hfold cs 0

theorem LeadingNumeral.leadingInteger_eq (h : LeadingNumeral s blanks sign digits rest) :
    leadingInteger s = limited (signedValue sign digits) := by
  unfold leadingInteger
  rw [h.splitSign_eq]
  dsimp only
  rw [h.takeWhile_eq, limitedValue_eq]
  have hvalue : Nat.ofDigitChars 10 digits 0 = digitsValue digits := rfl
  unfold signedValue limited
  rw [hvalue]
  by_cases hminus : sign = ['-']
  · rw [if_pos (decide_eq_true hminus), if_pos hminus]
    omega
  · rw [if_neg (by simpa using hminus), if_neg hminus]
    omega

/-- The number read is the one that the text begins with, held at the ends of the range. -/
theorem leadingInteger_eq_iff {n : Int} : leadingInteger s = n ↔
    ∃ blanks sign digits rest, LeadingNumeral s blanks sign digits rest ∧
      n = limited (signedValue sign digits) := by
  constructor
  · rintro rfl
    obtain ⟨blanks, sign, digits, rest, h⟩ := exists_leadingNumeral s
    exact ⟨blanks, sign, digits, rest, h, h.leadingInteger_eq⟩
  · rintro ⟨blanks, sign, digits, rest, h, rfl⟩
    exact h.leadingInteger_eq

theorem leadingInteger_toString (n : Nat) : leadingInteger (toString n) = min largest n := by
  have hall : ∀ c ∈ Nat.toDigits 10 n, c.isDigit = true := fun c hc =>
    Nat.isDigit_of_mem_toDigits (by decide) (by decide) hc
  have hnumeral : LeadingNumeral (toString n) [] [] (Nat.toDigits 10 n) [] := by
    refine ⟨by simp, by simp, .inl rfl, fun _ c hc => ?_, hall, by simp⟩
    rw [List.append_nil] at hc
    have hc := hall c (List.mem_of_mem_head? hc)
    refine ⟨?_, ?_, ?_⟩
    · exact (Bool.or_eq_false_iff.1 (Text.isDelimiter_of_isDigit hc)).2
    · rintro rfl
      cases hc
    · rintro rfl
      cases hc
  rw [hnumeral.leadingInteger_eq, signedValue, if_neg (List.cons_ne_nil _ _).symm,
    Nat.ofDigitChars_toDigits (by decide) (by decide)]
  unfold limited
  omega

/-- Only a minus sign makes a number negative. -/
theorem leadingInteger_nonneg {c : Char} {cs : List Char} (hs : s.toList = c :: cs)
    (hblank : Text.isBlank c = false) (hsign : c ≠ '-') : 0 ≤ leadingInteger s := by
  have hnegative : (splitSign (c :: cs)).1 = false := by
    unfold splitSign
    split
    · rename_i heq
      exact absurd (List.cons.inj heq).1 hsign
    · rfl
    · rfl
  unfold leadingInteger
  rw [hs, List.dropWhile_cons_of_neg (by simp [hblank])]
  dsimp only
  rw [hnegative]
  exact Int.natCast_nonneg _

/-! ## Words of 32 bits -/

/-- The word that is nearest to a number. -/
def nearestWord (n : Int) : Int32 :=
  Int32.ofInt (max Int32.minValue.toInt (min Int32.maxValue.toInt n))

/-- The number with one more digit. Both the product and the sum are held at the ends of the
range. -/
def nextWord (n : Int32) (c : Char) : Int32 :=
  nearestWord ((nearestWord (n.toInt * 10)).toInt + digitValue c)

/-- The integer that the text begins with, computed in words. -/
def leadingWord (s : String) : Int32 :=
  let (negative, cs) := splitSign (s.toList.dropWhile Text.isBlank)
  let value := (cs.takeWhile Char.isDigit).foldl nextWord 0
  if negative then -value else value

theorem toInt_nearestWord (n : Int) :
    (nearestWord n).toInt = max (-2 ^ 31) (min (2 ^ 31 - 1) n) := by
  have hmin : Int32.minValue.toInt = -2 ^ 31 := rfl
  have hmax : Int32.maxValue.toInt = 2 ^ 31 - 1 := rfl
  unfold nearestWord
  rw [hmin, hmax]
  exact Int32.toInt_ofInt_of_le (by omega) (by omega)

theorem toInt_nextWord {w : Int32} {n : Nat} (h : w.toInt = min largest n) (c : Char) :
    (nextWord w c).toInt = min largest (10 * n + digitValue c) := by
  have hlargest : (largest : Int) = 2 ^ 31 - 1 := rfl
  unfold nextWord
  rw [toInt_nearestWord, toInt_nearestWord, h]
  omega

theorem toInt_foldl_nextWord (cs : List Char) :
    (cs.foldl nextWord 0).toInt = min largest (digitsValue cs) := by
  induction cs using List.reverseRecOn with
  | nil => rfl
  | append_singleton cs c ih =>
    rw [List.foldl_append, digitsValue, List.foldl_append]
    exact toInt_nextWord ih c

/-- A word that is not negative can be taken with the other sign. -/
theorem toInt_neg_of_nonneg {w : Int32} (h : 0 ≤ w.toInt) : (-w).toInt = -w.toInt := by
  have hlast := w.toInt_lt
  rw [Int32.toInt_neg]
  exact Int.bmod_eq_of_le (by omega) (by omega)

theorem toInt_leadingWord (s : String) : (leadingWord s).toInt = leadingInteger s := by
  unfold leadingWord leadingInteger
  rcases splitSign (s.toList.dropWhile Text.isBlank) with ⟨negative, cs⟩
  dsimp only
  have hvalue := toInt_foldl_nextWord (cs.takeWhile Char.isDigit)
  rw [limitedValue_eq]
  cases negative with
  | false => exact hvalue
  | true =>
    rw [if_pos rfl, if_pos rfl, toInt_neg_of_nonneg (by omega), hvalue]

end Decimal

namespace Directive

variable {k : Keyword} {args : String} {points : Int}

/-- A size without a sign is the number that a word begins with. -/
theorem exists_word_of_readSize (h : readSize k args = .ok (.absolute points)) :
    ∃ word, Decimal.leadingInteger word = points ∧ 0 < points := by
  unfold readSize readWord at h
  cases hwords : Text.words args with
  | nil =>
    rw [hwords] at h
    cases h
  | cons word words =>
    rw [hwords] at h
    change (if Decimal.leadingInteger word = 0 then _ else _) = _ at h
    obtain ⟨w, hw, hofList⟩ := List.mem_map.1 (hwords ▸ List.mem_cons_self)
    obtain ⟨hne, hdelimiters⟩ := Text.mem_fields hw
    obtain ⟨c, cs, rfl⟩ := List.exists_cons_of_ne_nil hne
    have hword : word.toList = c :: cs := by rw [← hofList, String.toList_ofList]
    have hblank : Text.isBlank c = false :=
      (Bool.or_eq_false_iff.1 (hdelimiters c List.mem_cons_self)).2
    split at h
    · cases h
    · rename_i hzero
      rw [hword] at h
      have hsign : c ≠ '-' := by
        rintro rfl
        cases h
      have hvalue := Decimal.leadingInteger_nonneg hword hblank hsign
      obtain rfl : Decimal.leadingInteger word = points := by
        split at h <;> cases h
        rfl
      exact ⟨word, rfl, by omega⟩

theorem readSize_pos (h : readSize k args = .ok (.absolute points)) : 0 < points :=
  (exists_word_of_readSize h).choose_spec.2

theorem readSize_le (h : readSize k args = .ok (.absolute points)) :
    points ≤ Decimal.largest := by
  obtain ⟨word, rfl, -⟩ := exists_word_of_readSize h
  obtain ⟨_, sign, digits, _, hnumeral⟩ := Decimal.exists_leadingNumeral word
  rw [hnumeral.leadingInteger_eq, Decimal.limited]
  omega

end Directive

namespace Decimal

/-- Of every text the number is read that it begins with after blanks, its sign and all its digits,
held at the ends of the range. Words of 32 bits are enough: after every digit the word is the number
so far, held at the largest, and the sign does not take it out of the range. So a size that is told
without a sign is at least one and at most the largest number. -/
theorem leadingInteger_limited (s : String) :
    (∀ n, leadingInteger s = n ↔ ∃ blanks sign digits rest,
      LeadingNumeral s blanks sign digits rest ∧
        n = max (-(2 ^ 31 - 1)) (min (2 ^ 31 - 1) (signedValue sign digits))) ∧
      (∀ digits : List Char, (digits.foldl nextWord 0).toInt =
        min (2 ^ 31 - 1) (Nat.ofDigitChars 10 digits 0)) ∧
      (leadingWord s).toInt = leadingInteger s ∧
      ∀ k args points, Directive.readSize k args = .ok (.absolute points) →
        1 ≤ points ∧ points ≤ 2 ^ 31 - 1 :=
  ⟨fun _ => leadingInteger_eq_iff, toInt_foldl_nextWord, toInt_leadingWord s,
    fun _ _ _ h => ⟨Directive.readSize_pos h, Directive.readSize_le h⟩⟩

theorem leadingInteger_limited_manyDigits :
    leadingInteger "\u3000-99999999999 9" = -(2 ^ 31 - 1) ∧
      (leadingWord "\u3000-99999999999 9").toInt = -(2 ^ 31 - 1) ∧
      Directive.readSize .textSize ": 99999999999pt" = .ok (.absolute 2147483647) ∧
      (1 : Int) ≤ 2147483647 ∧ (2147483647 : Int) ≤ 2 ^ 31 - 1 := by
  have hread : Directive.readSize .textSize ": 99999999999pt" = .ok (.absolute 2147483647) := by
    decide +kernel
  have hnumeral : LeadingNumeral "\u3000-99999999999 9" ['\u3000'] ['-']
      (List.replicate 11 '9') [' ', '9'] :=
    ⟨rfl, List.forall_mem_singleton.2 (by decide), .inr (.inr rfl), nofun,
      fun c hc => List.eq_of_mem_replicate hc ▸ rfl, fun c hc => Option.some.inj hc ▸ rfl⟩
  obtain ⟨hvalue, -, hword, hsize⟩ := leadingInteger_limited "\u3000-99999999999 9"
  have hleast := (hvalue _).2 ⟨_, _, _, _, hnumeral, rfl⟩
  exact ⟨hleast, hword.trans hleast, hread, hsize _ _ _ hread⟩

end Decimal

end Songbook
