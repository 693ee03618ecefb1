import Songbook.Chord.Name

/-!
# The parts of a chord name

A name is read into parts that make up its text (`text_of_read?`), and every text is read that
begins with a note, be it in a parenthesis or not (`isSome_read?_iff`).

The other way round, parts are read back from their text if each of them ends where the next one
begins. For the lead, the bass and the tail that is so in all names and stays so however a name is
moved (`Framed`). The root is another matter: one that is written without a sign takes the sign that
the quality begins with (`RootClear`, `read?_eq_some_iff`).
-/

namespace Songbook

theorem Letter.toChar_ne_paren (l : Letter) : l.toChar ≠ '(' := by
  cases l <;> decide

namespace Note

/-- The sign that a text begins with, and the text behind it. -/
def takeSign : List Char → Accidental × List Char
  | '#' :: cs => (.sharp, cs)
  | 'b' :: cs => (.flat, cs)
  | cs => (.natural, cs)

theorem takeSign_natural_iff {cs : List Char} :
    (takeSign cs).1 = .natural ↔ ∀ c ∈ cs.head?, c ≠ '#' ∧ c ≠ 'b' := by
  unfold takeSign
  split
  · simp
  · simp
  · next hsharp hflat =>
    refine iff_of_true rfl fun c hc => ?_
    obtain ⟨rest, rfl⟩ := List.head?_eq_some_iff.1 hc
    exact ⟨fun h => hsharp rest (by rw [h]), fun h => hflat rest (by rw [h])⟩

theorem takeSign_of_natural {cs : List Char} (h : (takeSign cs).1 = .natural) :
    takeSign cs = (.natural, cs) := by
  unfold takeSign at h ⊢
  split at h
  · cases h
  · cases h
  · rfl

theorem read?_cons (c : Char) (cs : List Char) : read? (c :: cs) =
    (Letter.ofChar? c).map fun letter => (⟨letter, (takeSign cs).1⟩, (takeSign cs).2) := by
  refine congrArg (Option.map · (Letter.ofChar? c)) (funext fun letter => ?_)
  split
  · rfl
  · rfl
  · next hsharp hflat => rw [takeSign.eq_3 cs hsharp hflat]

/-- A note is read off its own text, unless that goes on with a sign that could be the note's. -/
theorem read?_append {n : Note} {rest : List Char}
    (h : n.accidental = .natural → (takeSign rest).1 = .natural) :
    read? (n.toChars ++ rest) = some (n, rest) := by
  obtain ⟨letter, accidental⟩ := n
  cases accidental with
  | natural =>
    have hrest := takeSign_of_natural (h rfl)
    simp [toChars, read?_cons, hrest]
  | sharp => simp [toChars, read?_cons, takeSign]
  | flat => simp [toChars, read?_cons, takeSign]

theorem takeSign_of_read? {cs rest : List Char} {n : Note} (h : read? cs = some (n, rest))
    (hn : n.accidental = .natural) : (takeSign rest).1 = .natural := by
  cases cs with
  | nil => cases h
  | cons c cs =>
    obtain ⟨letter, -, hnote⟩ := Option.map_eq_some_iff.1 ((read?_cons c cs).symm.trans h)
    cases hnote
    rw [takeSign_of_natural hn]
    exact hn

theorem slash_notMem_toChars (n : Note) : '/' ∉ n.toChars := by
  obtain ⟨letter, accidental⟩ := n
  cases letter <;> cases accidental <;> decide

end Note

namespace ChordName

theorem splitLead_eq_iff {cs lead body : List Char} : splitLead cs = (lead, body) ↔
    cs = lead ++ body ∧ (lead = [] ∧ cs.head? ≠ some '(' ∨ lead = ['(']) := by
  constructor
  · intro h
    unfold splitLead at h
    split at h
    · cases h
      exact ⟨rfl, .inr rfl⟩
    · next hparen =>
      cases h
      refine ⟨rfl, .inl ⟨rfl, fun hhead => ?_⟩⟩
      obtain ⟨rest, rfl⟩ := List.head?_eq_some_iff.1 hhead
      exact hparen rest rfl
  · rintro ⟨rfl, ⟨rfl, hhead⟩ | rfl⟩
    · unfold splitLead
      split
      · next hparen => simp [hparen] at hhead
      · rfl
    · rfl

/-- The bass is the note after the last slash, with nothing or a parenthesis behind it. -/
theorem readBass?_eq_some_iff {cs quality tail : List Char} {bass : Note} :
    readBass? cs = some (quality, bass, tail) ↔
      cs = quality ++ '/' :: (bass.toChars ++ tail) ∧ (tail = [] ∨ tail = [')']) := by
  constructor
  · intro h
    obtain ⟨⟨front, behind⟩, hsplit, h⟩ := Option.bind_eq_some_iff.1 h
    obtain ⟨⟨note, rest⟩, hread, h⟩ := Option.bind_eq_some_iff.1 h
    dsimp only at h
    split at h
    · next htail =>
      cases h
      exact ⟨by rw [Text.eq_append_of_splitLast? hsplit, Note.toChars_of_read? hread], htail⟩
    · cases h
  · rintro ⟨rfl, htail⟩
    have hslash : '/' ∉ bass.toChars ++ tail := by
      have hnote := bass.slash_notMem_toChars
      rcases htail with rfl | rfl <;> simp [hnote]
    have hsign : (Note.takeSign tail).1 = .natural := by
      rcases htail with rfl | rfl <;> rfl
    simp [readBass?, Text.splitLast?_append hslash, Note.read?_append fun _ => hsign, htail]

/-- How a bass note stands in a name. -/
def bassChars : Option Note → List Char
  | some bass => '/' :: bass.toChars
  | none => []

/-- What follows the root. -/
def rest (n : ChordName) : List Char := n.quality.toList ++ (bassChars n.bass ++ n.tail.toList)

theorem toList_text (n : ChordName) :
    n.text.toList = n.lead.toList ++ (n.root.toChars ++ n.rest) := by
  obtain ⟨lead, root, quality, bass, tail⟩ := n
  cases bass <;> simp [text, rest, bassChars, Note.text]

/-- The name with this before its root and that behind it. -/
def ofParts (lead : List Char) (root : Note) (rest : List Char) : ChordName :=
  match readBass? rest with
  | some (quality, bass, tail) =>
    ⟨String.ofList lead, root, String.ofList quality, some bass, String.ofList tail⟩
  | none => ⟨String.ofList lead, root, String.ofList rest, none, ""⟩

section OfParts

variable (lead : List Char) (root : Note) (cs : List Char)

theorem lead_ofParts : (ofParts lead root cs).lead = String.ofList lead := by
  unfold ofParts
  split <;> rfl

theorem root_ofParts : (ofParts lead root cs).root = root := by
  unfold ofParts
  split <;> rfl

theorem rest_ofParts : (ofParts lead root cs).rest = cs := by
  unfold ofParts
  split
  · next hbass =>
    obtain ⟨rfl, -⟩ := readBass?_eq_some_iff.1 hbass
    simp [rest, bassChars]
  · simp [rest, bassChars]

end OfParts

theorem read?_eq (name : String) : read? name =
    (Note.read? (splitLead name.toList).2).map fun (root, cs) =>
      ofParts (splitLead name.toList).1 root cs := rfl

/-- Reading a name loses nothing of it. -/
theorem text_of_read? {name : String} {n : ChordName} (h : read? name = some n) :
    n.text = name := by
  obtain ⟨⟨root, cs⟩, hroot, rfl⟩ := Option.map_eq_some_iff.1 ((read?_eq name).symm.trans h)
  refine String.toList_inj.1 ?_
  dsimp only
  rw [toList_text, lead_ofParts, root_ofParts, rest_ofParts, String.toList_ofList,
    Note.toChars_of_read? hroot, splitLead_append]

theorem isSome_read?_iff (name : String) : (read? name).isSome ↔ ∃ lead letter cs,
    name.toList = lead ++ letter :: cs ∧ (lead = [] ∨ lead = ['(']) ∧
      (Letter.ofChar? letter).isSome := by
  have hread : (read? name).isSome ↔ ∃ letter cs,
      (splitLead name.toList).2 = letter :: cs ∧ (Letter.ofChar? letter).isSome := by
    rw [read?_eq, Option.isSome_map]
    cases (splitLead name.toList).2 with
    | nil => simp [Note.read?]
    | cons letter cs => simp [Note.read?_cons]
  rw [hread]
  constructor
  · rintro ⟨letter, cs, hbody, hletter⟩
    obtain ⟨hname, hlead⟩ := splitLead_eq_iff.1 (Prod.eta (splitLead name.toList)).symm
    exact ⟨_, letter, cs, hbody ▸ hname, hlead.imp (·.1) id, hletter⟩
  · rintro ⟨lead, letter, cs, hname, hlead, hletter⟩
    refine ⟨letter, cs, ?_, hletter⟩
    have hparen : letter ≠ '(' := by
      rintro rfl
      cases hletter
    rw [splitLead_eq_iff.2 ⟨hname, hlead.imp (fun h => ⟨h, by simp [hname, h, hparen]⟩) id⟩]

/-- Lead, bass and tail are such as a reader would cut off. -/
structure Framed (n : ChordName) : Prop where
  lead : n.lead = "" ∨ n.lead = "("
  tail : n.tail = "" ∨ n.bass.isSome ∧ n.tail = ")"
  quality : n.bass = none → readBass? n.quality.toList = none

/-- The root has a sign, or none that it could take from the quality. -/
def RootClear (n : ChordName) : Prop :=
  n.root.accidental = .natural → (Note.takeSign n.quality.toList).1 = .natural

section Framed

variable {n : ChordName} {name : String}

theorem Framed.takeSign_rest_iff (h : n.Framed) :
    (Note.takeSign n.rest).1 = .natural ↔ (Note.takeSign n.quality.toList).1 = .natural := by
  have hend : ∀ c ∈ (bassChars n.bass ++ n.tail.toList).head?, c ≠ '#' ∧ c ≠ 'b' := by
    cases hbass : n.bass with
    | none =>
      have htail : n.tail = "" := by simpa [hbass] using h.tail
      simp [htail, bassChars]
    | some bass => simp [bassChars]
  rw [Note.takeSign_natural_iff, Note.takeSign_natural_iff, rest]
  cases n.quality.toList with
  | nil => simpa using hend
  | cons c cs => simp

theorem Framed.ofParts_eq (h : n.Framed) : ofParts n.lead.toList n.root n.rest = n := by
  obtain ⟨lead, root, quality, bass, tail⟩ := n
  obtain ⟨-, htail, hquality⟩ := h
  cases bass with
  | none =>
    obtain rfl : tail = "" := by simpa using htail
    have hnone : readBass? quality.toList = none := hquality rfl
    simp [ofParts, rest, bassChars, hnone]
  | some bass =>
    have hread : readBass? (quality.toList ++ '/' :: (bass.toChars ++ tail.toList)) =
        some (quality.toList, bass, tail.toList) := by
      refine readBass?_eq_some_iff.2 ⟨rfl, ?_⟩
      rcases htail with rfl | ⟨-, rfl⟩
      · exact .inl rfl
      · exact .inr rfl
    simp [ofParts, rest, bassChars, hread]

theorem framed_ofParts {lead : List Char} (hlead : lead = [] ∨ lead = ['(']) (root : Note)
    (cs : List Char) : (ofParts lead root cs).Framed := by
  have hleads : String.ofList lead = "" ∨ String.ofList lead = "(" := by
    rcases hlead with rfl | rfl <;> simp
  unfold ofParts
  split
  · next quality bass tail hbass =>
    obtain ⟨-, htail⟩ := readBass?_eq_some_iff.1 hbass
    refine ⟨hleads, ?_, fun h => by cases h⟩
    rcases htail with rfl | rfl <;> simp
  · next hbass => exact ⟨hleads, .inl rfl, fun _ => by simpa using hbass⟩

theorem framed_of_read? (h : read? name = some n) : n.Framed := by
  obtain ⟨⟨root, cs⟩, -, rfl⟩ := Option.map_eq_some_iff.1 ((read?_eq name).symm.trans h)
  have hlead := (splitLead_eq_iff.1 (Prod.eta (splitLead name.toList)).symm).2
  exact framed_ofParts (hlead.imp (·.1) id) root cs

theorem rootClear_of_read? (h : read? name = some n) : n.RootClear := by
  have hframed := framed_of_read? h
  obtain ⟨⟨root, cs⟩, hroot, rfl⟩ := Option.map_eq_some_iff.1 ((read?_eq name).symm.trans h)
  intro hn
  refine hframed.takeSign_rest_iff.1 ?_
  dsimp only at hn ⊢
  rw [root_ofParts] at hn
  rw [rest_ofParts]
  exact Note.takeSign_of_read? hroot hn

/-- Parts that stand clear of each other are read back from their text. -/
theorem read?_text (h : n.Framed) (hroot : n.RootClear) : read? n.text = some n := by
  have hsplit : splitLead n.text.toList = (n.lead.toList, n.root.toChars ++ n.rest) := by
    refine splitLead_eq_iff.2 ⟨toList_text n, h.lead.imp (fun hlead => ⟨by rw [hlead]; rfl, ?_⟩)
      fun hlead => by rw [hlead]; rfl⟩
    rw [toList_text, hlead]
    simp [Note.toChars, Letter.toChar_ne_paren]
  rw [read?_eq, hsplit, Note.read?_append fun hn => h.takeSign_rest_iff.2 (hroot hn)]
  exact congrArg some h.ofParts_eq

/-- The parts that a name is read into are the only ones that make up its text and stand clear of
each other. -/
theorem read?_eq_some_iff :
    read? name = some n ↔ n.text = name ∧ n.Framed ∧ n.RootClear := by
  constructor
  · exact fun h => ⟨text_of_read? h, framed_of_read? h, rootClear_of_read? h⟩
  · rintro ⟨rfl, hframed, hroot⟩
    exact read?_text hframed hroot

/-- A name that could be read is not the mark for no chord. -/
theorem isNoChord_text (h : n.Framed) : isNoChord n.text = false := by
  have hmark : (Text.lower "N.C.").toList = ['n', '.', 'c', '.'] := by decide
  have hhead : ∃ c cs, n.text.toList = c :: cs ∧ c.toLower ≠ 'n' := by
    rw [toList_text, Note.toChars]
    rcases h.lead with hlead | hlead
    · exact ⟨n.root.letter.toChar, _, by rw [hlead]; rfl, by cases n.root.letter <;> decide⟩
    · exact ⟨'(', _, by rw [hlead]; rfl, by decide⟩
  obtain ⟨c, cs, htext, hc⟩ := hhead
  unfold isNoChord Text.sameLetters
  refine beq_eq_false_iff_ne.2 fun heq => ?_
  have hlist := congrArg String.toList heq
  rw [hmark, Text.lower, String.toList_ofList, htext, List.map_cons] at hlist
  exact hc (List.cons.inj hlist).1

end Framed

/-- The text of a name that is read is the name, so it is read as the same parts again; and a name is
not read exactly if it does not begin, after an opening parenthesis or without one, with a letter
from A to G. -/
theorem read?_lossless (name : String) :
    (∀ n, read? name = some n → n.text = name ∧ read? n.text = some n) ∧
      (read? name = none ↔ ¬ ∃ lead letter cs, name.toList = lead ++ letter :: cs ∧
        (lead = [] ∨ lead = ['(']) ∧ 'A' ≤ letter ∧ letter ≤ 'G') := by
  refine ⟨fun n h => ⟨text_of_read? h, by rw [text_of_read? h, h]⟩, ?_⟩
  rw [← Option.not_isSome_iff_eq_none, isSome_read?_iff]
  simp only [Letter.isSome_ofChar?_iff]

/-- The slash in the quality and the one before the bass are told apart. -/
theorem read?_lossless_twoSlashes :
    read? "(Bb6/9/F#)" = some ⟨"(", ⟨.B, .flat⟩, "6/9", some ⟨.F, .sharp⟩, ")"⟩ ∧
      (⟨"(", ⟨.B, .flat⟩, "6/9", some ⟨.F, .sharp⟩, ")"⟩ : ChordName).text = "(Bb6/9/F#)" := by
  have hread : read? "(Bb6/9/F#)" =
      some ⟨"(", ⟨.B, .flat⟩, "6/9", some ⟨.F, .sharp⟩, ")"⟩ := by decide +kernel
  exact ⟨hread, ((read?_lossless "(Bb6/9/F#)").1 _ hread).1⟩

end ChordName

end Songbook
