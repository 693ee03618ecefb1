import Songbook.Decimal.Integer
import Songbook.Text.Case

/-!
# Words and numerals

A text that is cut at a separator is cut into what its two sides are cut into (`fields_append`), so
words joined by blanks come apart again (`words_intercalate`), in whatever letter case they are
(`IsWord.of_sameLetters`).

A word is read as an integer exactly if it writes one in the usual way, a sign or none before digits
(`Writes`, `integerIn?_eq_some_iff`), and the digits printed for a number write that number
(`writes_toString`).
-/

namespace Songbook

namespace Text

variable {sep : Char → Bool}

/-! ## Words -/

/-- A word of a directive: not empty, and without separators. -/
def IsWord (w : String) : Prop := w ≠ "" ∧ ∀ c ∈ w.toList, isDelimiter c = false

theorem isWord_iff {w : String} :
    (!w.isEmpty && w.toList.all (!isDelimiter ·)) = true ↔ IsWord w := by
  simp [IsWord]

instance (w : String) : Decidable (IsWord w) := decidable_of_decidable_of_iff isWord_iff

theorem pieces_ne_nil (cs : List Char) : pieces sep cs ≠ [] := by
  cases cs with
  | nil => simp [pieces]
  | cons c cs =>
    rw [pieces]
    split
    · simp
    · cases pieces sep cs <;> simp [extendHead]

theorem extendHead_append {c : Char} {ps : List (List Char)} (h : ps ≠ [])
    (qs : List (List Char)) : extendHead c (ps ++ qs) = extendHead c ps ++ qs := by
  cases ps with
  | nil => exact absurd rfl h
  | cons p ps => rfl

/-- A separator belongs to neither side. -/
theorem pieces_append {c : Char} (hc : sep c = true) (before after : List Char) :
    pieces sep (before ++ c :: after) = pieces sep before ++ pieces sep after := by
  induction before with
  | nil => simp [pieces, hc]
  | cons d before ih =>
    rw [List.cons_append, pieces, pieces, ih]
    split
    · rfl
    · exact extendHead_append (pieces_ne_nil before) _

theorem pieces_of_forall {w : List Char} (h : ∀ c ∈ w, sep c = false) : pieces sep w = [w] := by
  induction w with
  | nil => rfl
  | cons c w ih =>
    obtain ⟨hc, hw⟩ := List.forall_mem_cons.1 h
    simp [pieces, hc, ih hw, extendHead]

theorem fields_append {c : Char} (hc : sep c = true) (before after : List Char) :
    fields sep (before ++ c :: after) = fields sep before ++ fields sep after := by
  rw [fields, pieces_append hc, List.filter_append]
  rfl

theorem fields_of_forall {w : List Char} (hne : w ≠ []) (h : ∀ c ∈ w, sep c = false) :
    fields sep w = [w] := by
  simp [fields, pieces_of_forall h, hne]

theorem fields_intercalate {c : Char} (hc : sep c = true) {ws : List (List Char)}
    (h : ∀ w ∈ ws, w ≠ [] ∧ ∀ d ∈ w, sep d = false) : fields sep ([c].intercalate ws) = ws := by
  induction ws with
  | nil => rfl
  | cons w ws ih =>
    obtain ⟨⟨hne, hw⟩, hws⟩ := List.forall_mem_cons.1 h
    cases ws with
    | nil => rw [List.intercalate_singleton, fields_of_forall hne hw]
    | cons v ws =>
      rw [List.intercalate_cons_cons, List.append_assoc, List.singleton_append, fields_append hc,
        fields_of_forall hne hw, ih hws]
      rfl

/-- Words joined by blanks are the words of the text. -/
theorem words_intercalate {ws : List String} (h : ∀ w ∈ ws, IsWord w) :
    words (" ".intercalate ws) = ws := by
  have hfields : fields isDelimiter ([' '].intercalate (ws.map String.toList)) =
      ws.map String.toList := by
    refine fields_intercalate (by decide) fun w hw => ?_
    obtain ⟨word, hword, rfl⟩ := List.mem_map.1 hw
    exact ⟨fun hnil => (h word hword).1 (String.toList_eq_nil_iff.1 hnil), (h word hword).2⟩
  rw [words, String.toList_intercalate]
  refine (congrArg (List.map String.ofList) hfields).trans ?_
  rw [List.map_map]
  simp [Function.comp_def]

theorem isWord_of_mem_words {s w : String} (h : w ∈ words s) : IsWord w := by
  obtain ⟨cs, hcs, rfl⟩ := List.mem_map.1 h
  obtain ⟨hne, hsep⟩ := mem_fields hcs
  refine ⟨fun hempty => hne ?_, by simpa using hsep⟩
  rw [← String.toList_ofList (l := cs), hempty]
  rfl

/-! ## Letter case -/

/-- Only the capitals have another small form. -/
theorem toLower_cases (c : Char) :
    (∃ n ∈ List.range' 65 26, c = Char.ofNat n) ∨ c.toLower = c := by
  unfold Char.toLower
  split
  · next h =>
    have hlow : 65 ≤ c.toNat := UInt32.le_iff_toNat_le.1 h.1
    have hhigh : c.toNat ≤ 90 := UInt32.le_iff_toNat_le.1 h.2
    exact .inl ⟨c.toNat, List.mem_range'_1.2 ⟨hlow, by omega⟩, (Char.ofNat_toNat c).symm⟩
  · exact .inr rfl

theorem toLower_of_isDigit {c : Char} (h : c.isDigit = true) : c.toLower = c := by
  have hcapitals : ∀ n ∈ List.range' 65 26, (Char.ofNat n).isDigit = false := by decide
  rcases toLower_cases c with ⟨n, hn, rfl⟩ | hlower
  · rw [hcapitals n hn] at h
    cases h
  · exact hlower

theorem isDelimiter_of_isDigit {c : Char} (h : c.isDigit = true) : isDelimiter c = false := by
  have hdigits : ∀ n ∈ List.range' 48 10, isDelimiter (Char.ofNat n) = false := by decide +kernel
  obtain ⟨hlow, hhigh⟩ := Char.isDigit_iff_toNat.1 h
  have hc := hdigits c.toNat (List.mem_range'_1.2 ⟨hlow, Nat.lt_succ_of_le hhigh⟩)
  rwa [Char.ofNat_toNat] at hc

theorem isDelimiter_toLower (c : Char) : isDelimiter c.toLower = isDelimiter c := by
  have hcapitals : ∀ n ∈ List.range' 65 26,
      isDelimiter (Char.ofNat n).toLower = isDelimiter (Char.ofNat n) := by decide +kernel
  rcases toLower_cases c with ⟨n, hn, rfl⟩ | hlower
  · exact hcapitals n hn
  · rw [hlower]

/-- A word is one in any letter case. -/
theorem IsWord.of_sameLetters {v w : String} (h : sameLetters v w = true) (hw : IsWord w) :
    IsWord v := by
  have hlower : v.toList.map Char.toLower = w.toList.map Char.toLower := by
    have heq : lower v = lower w := beq_iff_eq.1 h
    simpa [lower] using congrArg String.toList heq
  constructor
  · rintro rfl
    have hnil := List.map_eq_nil_iff.1 hlower.symm
    exact hw.1 (String.toList_eq_nil_iff.1 hnil)
  · intro c hc
    obtain ⟨d, hd, hdc⟩ := List.mem_map.1 (hlower ▸ List.mem_map_of_mem hc)
    rw [← isDelimiter_toLower, ← hdc, isDelimiter_toLower]
    exact hw.2 d hd

end Text

namespace Decimal

/-! ## Numerals -/

/-- The word writes the number: a sign or none, and digits in decimal places. -/
def Writes (s : String) (n : Int) : Prop :=
  ∃ sign digits, s.toList = sign ++ digits ∧ digits ≠ [] ∧ (∀ c ∈ digits, c.isDigit) ∧
    ((sign = [] ∨ sign = ['+']) ∧ n = Nat.ofDigitChars 10 digits 0 ∨
      sign = ['-'] ∧ n = -(Nat.ofDigitChars 10 digits 0 : Int))

theorem Writes.ne_empty {s : String} {n : Int} (h : Writes s n) : s ≠ "" := by
  obtain ⟨sign, digits, hs, hne, -⟩ := h
  rintro rfl
  exact hne (List.append_eq_nil_iff.1 hs.symm).2

theorem Writes.forall_mem {s : String} {n : Int} {p : Char → Prop} (h : Writes s n) (hplus : p '+')
    (hminus : p '-') (hdigit : ∀ c : Char, c.isDigit = true → p c) : ∀ c ∈ s.toList, p c := by
  obtain ⟨sign, digits, hs, -, hdigits, hsign⟩ := h
  intro c hc
  rw [hs] at hc
  rcases List.mem_append.1 hc with hc | hc
  · rcases hsign with ⟨rfl | rfl, -⟩ | ⟨rfl, -⟩
    · cases hc
    · obtain rfl := List.mem_singleton.1 hc
      exact hplus
    · obtain rfl := List.mem_singleton.1 hc
      exact hminus
  · exact hdigit c (hdigits c hc)

theorem Writes.isWord {s : String} {n : Int} (h : Writes s n) : Text.IsWord s :=
  ⟨h.ne_empty, h.forall_mem (by decide) (by decide) fun _ => Text.isDelimiter_of_isDigit⟩

theorem splitSign_of_digits {digits : List Char} (h : ∀ c ∈ digits, c.isDigit = true) :
    splitSign digits = (false, digits) := by
  unfold splitSign
  split
  · next cs => exact absurd (h '-' List.mem_cons_self) (by decide)
  · next cs => exact absurd (h '+' List.mem_cons_self) (by decide)
  · rfl

theorem splitSign_cases (cs : List Char) :
    (∃ ds, cs = '-' :: ds ∧ splitSign cs = (true, ds)) ∨
      (∃ ds, cs = '+' :: ds ∧ splitSign cs = (false, ds)) ∨ splitSign cs = (false, cs) := by
  unfold splitSign
  split
  · exact .inl ⟨_, rfl, rfl⟩
  · exact .inr (.inl ⟨_, rfl, rfl⟩)
  · exact .inr (.inr rfl)

/-- The number that is written stands behind the sign that is taken off. -/
theorem writes_iff {s : String} {n : Int} : Writes s n ↔
    (splitSign s.toList).2 ≠ [] ∧ (∀ c ∈ (splitSign s.toList).2, c.isDigit = true) ∧
      n = if (splitSign s.toList).1 then -(digitsValue (splitSign s.toList).2 : Int)
        else digitsValue (splitSign s.toList).2 := by
  constructor
  · rintro ⟨sign, digits, hs, hne, hdigits, ⟨rfl | rfl, rfl⟩ | ⟨rfl, rfl⟩⟩
    · rw [hs, List.nil_append, splitSign_of_digits hdigits]
      exact ⟨hne, hdigits, rfl⟩
    · rw [hs]
      exact ⟨hne, hdigits, rfl⟩
    · rw [hs]
      exact ⟨hne, hdigits, rfl⟩
  · rintro ⟨hne, hdigits, rfl⟩
    obtain ⟨digits, hs, hsplit⟩ | ⟨digits, hs, hsplit⟩ | hsplit := splitSign_cases s.toList <;>
      rw [hsplit] at hne hdigits ⊢
    · exact ⟨['-'], digits, hs, hne, hdigits, .inr ⟨rfl, rfl⟩⟩
    · exact ⟨['+'], digits, hs, hne, hdigits, .inl ⟨.inr rfl, rfl⟩⟩
    · exact ⟨[], s.toList, rfl, hne, hdigits, .inl ⟨.inl rfl, rfl⟩⟩

variable {low high n : Int} {s : String}

/-- A word that writes a number of the range is read as that number. Where no negative numbers are
in range a minus sign is not read, not even before zero. -/
theorem integerIn?_eq_some_iff : integerIn? low high s = some n ↔
    Writes s n ∧ (low ≤ n ∧ n ≤ high) ∧ (0 ≤ low → (splitSign s.toList).1 = false) := by
  rw [writes_iff]
  unfold integerIn?
  rcases splitSign s.toList with ⟨negative, cs⟩
  dsimp only
  generalize (if negative then -(digitsValue cs : Int) else digitsValue cs) = value
  have hnumeral : ¬ (cs.isEmpty || !cs.all Char.isDigit || negative && decide (0 ≤ low)) = true ↔
      cs ≠ [] ∧ (∀ c ∈ cs, c.isDigit = true) ∧ (0 ≤ low → negative = false) := by
    cases negative <;> simp [and_assoc]
  constructor
  · intro h
    split at h
    · cases h
    · next hread =>
      obtain ⟨hne, hdigits, hsign⟩ := hnumeral.1 hread
      split at h
      · next hrange =>
        obtain rfl := Option.some.inj h
        exact ⟨⟨hne, hdigits, rfl⟩, hrange, hsign⟩
      · cases h
  · rintro ⟨⟨hne, hdigits, rfl⟩, hrange, hsign⟩
    rw [if_neg (hnumeral.2 ⟨hne, hdigits, hsign⟩), if_pos hrange]

/-- The digits printed for a number write it. -/
theorem writes_toString (n : Nat) : Writes (toString n) n := by
  refine ⟨[], Nat.toDigits 10 n, ?_, Nat.toDigits_ne_nil, fun c hc => ?_, .inl ⟨.inl rfl, ?_⟩⟩
  · show n.repr.toList = _
    rw [Nat.repr_eq_ofList_toDigits, String.toList_ofList]
    rfl
  · exact Nat.isDigit_of_mem_toDigits (by decide) (by decide) hc
  · rw [Nat.ofDigitChars_toDigits (by decide) (by decide)]

end Decimal

end Songbook
