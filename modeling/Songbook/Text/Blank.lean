/-!
# Blank characters and words

The blank characters are those with the Unicode property White_Space. Directive text is cut into
words at blanks and colons: `fields_nil` and `mem_fields` say that a word is never empty and holds
no separator.
-/

namespace Songbook.Text

/-- The Unicode property White_Space. -/
def isBlank (c : Char) : Bool :=
  let n := c.toNat
  (0x9 ≤ n && n ≤ 0xD) || n == 0x20 || n == 0x85 || n == 0xA0 || n == 0x1680 ||
    (0x2000 ≤ n && n ≤ 0x200A) || n == 0x2028 || n == 0x2029 || n == 0x202F || n == 0x205F ||
    n == 0x3000

/-- Words of a directive end at a colon or a blank. -/
def isDelimiter (c : Char) : Bool :=
  c == ':' || isBlank c

/-- The text without the blanks at its ends. -/
def trim (s : String) : String :=
  String.ofList ((s.toList.dropWhile isBlank).reverse.dropWhile isBlank).reverse

/-- Puts a character in front of the first piece. -/
def extendHead (c : Char) : List (List Char) → List (List Char)
  | [] => [[c]]
  | w :: ws => (c :: w) :: ws

/-- The text cut at every separator, empty pieces kept. -/
def pieces (sep : Char → Bool) : List Char → List (List Char)
  | [] => [[]]
  | c :: cs => if sep c then [] :: pieces sep cs else extendHead c (pieces sep cs)

/-- The text cut at every separator, empty pieces dropped. -/
def fields (sep : Char → Bool) (cs : List Char) : List (List Char) :=
  (pieces sep cs).filter (!·.isEmpty)

/-- The words of a directive's arguments. -/
def words (s : String) : List String :=
  (fields isDelimiter s.toList).map String.ofList

/-- Splits at the last occurrence of `sep`, which neither part keeps. -/
def splitLast? (sep : Char) : List Char → Option (List Char × List Char)
  | [] => none
  | c :: cs =>
    match splitLast? sep cs with
    | some (before, after) => some (c :: before, after)
    | none => if c = sep then some ([], cs) else none

@[simp] theorem fields_nil (sep : Char → Bool) : fields sep [] = [] := rfl

theorem mem_extendHead {c : Char} {w : List Char} {ws : List (List Char)}
    (h : w ∈ extendHead c ws) : w = [c] ∨ (∃ v ∈ ws, w = c :: v) ∨ w ∈ ws := by
  cases ws with
  | nil => exact .inl (by simpa [extendHead] using h)
  | cons v vs =>
    rcases List.mem_cons.1 h with rfl | h
    · exact .inr (.inl ⟨v, by simp, rfl⟩)
    · exact .inr (.inr (List.mem_cons_of_mem _ h))

theorem mem_pieces {sep : Char → Bool} : ∀ {cs : List Char} {w : List Char},
    w ∈ pieces sep cs → ∀ c ∈ w, sep c = false
  | [], w, h, c, hc => by simp_all [pieces]
  | d :: cs, w, h, c, hc => by
    unfold pieces at h
    split at h
    · rcases List.mem_cons.1 h with rfl | h
      · simp at hc
      · exact mem_pieces h c hc
    · next hd =>
      have hd : sep d = false := by simpa using hd
      rcases mem_extendHead h with rfl | ⟨v, hv, rfl⟩ | h
      · simp_all
      · rcases List.mem_cons.1 hc with rfl | hc
        · exact hd
        · exact mem_pieces hv c hc
      · exact mem_pieces h c hc

/-- A field is not empty and holds no separator. -/
theorem mem_fields {sep : Char → Bool} {cs w : List Char} (h : w ∈ fields sep cs) :
    w ≠ [] ∧ ∀ c ∈ w, sep c = false := by
  obtain ⟨hw, hne⟩ := List.mem_filter.1 h
  exact ⟨by rintro rfl; simp at hne, mem_pieces hw⟩

section SplitLast

variable {sep : Char} {cs before after : List Char}

theorem splitLast?_eq_none_iff : splitLast? sep cs = none ↔ sep ∉ cs := by
  induction cs with
  | nil => simp [splitLast?]
  | cons c cs ih =>
    cases hcs : splitLast? sep cs with
    | none =>
      have hmem : sep ∉ cs := ih.1 hcs
      by_cases hc : c = sep
      · simp [splitLast?, hcs, hc]
      · simp [splitLast?, hcs, hmem, hc, Ne.symm hc]
    | some parts =>
      have hmem : sep ∈ cs := Decidable.not_not.1 fun h => by simp [ih.2 h] at hcs
      simp [splitLast?, hcs, hmem]

theorem splitLast?_append (h : sep ∉ after) :
    splitLast? sep (before ++ sep :: after) = some (before, after) := by
  induction before with
  | nil => simp [splitLast?, splitLast?_eq_none_iff.2 h]
  | cons c before ih => simp [splitLast?, ih]

theorem eq_append_of_splitLast? (h : splitLast? sep cs = some (before, after)) :
    cs = before ++ sep :: after := by
  induction cs generalizing before with
  | nil => cases h
  | cons c cs ih =>
    simp only [splitLast?] at h
    split at h
    · next front behind hcs =>
      cases h
      rw [ih hcs]
      rfl
    · split at h
      · next hc =>
        cases h
        rw [hc]
        rfl
      · cases h

end SplitLast

end Songbook.Text
