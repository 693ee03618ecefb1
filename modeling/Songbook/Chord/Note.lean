/-!
# Notes

A note is a letter with an accidental. Notes of equal pitch count as the same semitone of the
octave, from C upwards; a semitone is written with sharps or with flats, and `semitone_ofSemitone`
says that both writings have its pitch.
-/

namespace Songbook

inductive Letter where
  | C | D | E | F | G | A | B
deriving DecidableEq, Repr

namespace Letter

def ofChar? : Char → Option Letter
  | 'C' => some .C
  | 'D' => some .D
  | 'E' => some .E
  | 'F' => some .F
  | 'G' => some .G
  | 'A' => some .A
  | 'B' => some .B
  | _ => none

def toChar : Letter → Char
  | .C => 'C'
  | .D => 'D'
  | .E => 'E'
  | .F => 'F'
  | .G => 'G'
  | .A => 'A'
  | .B => 'B'

/-- Semitones above C. -/
def height : Letter → Int
  | .C => 0
  | .D => 2
  | .E => 4
  | .F => 5
  | .G => 7
  | .A => 9
  | .B => 11

@[simp] theorem ofChar?_toChar (l : Letter) : ofChar? l.toChar = some l := by
  cases l <;> rfl

theorem toChar_of_ofChar? {c : Char} {l : Letter} (h : ofChar? c = some l) : l.toChar = c := by
  unfold ofChar? at h
  split at h <;> simp_all [toChar] <;> subst h <;> rfl

/-- The letters are those from A to G. -/
theorem isSome_ofChar?_iff {c : Char} : (ofChar? c).isSome ↔ 'A' ≤ c ∧ c ≤ 'G' := by
  constructor
  · intro h
    unfold ofChar? at h
    split at h
    all_goals first | decide | cases h
  · rintro ⟨hA, hG⟩
    have hcode : c.toNat = 65 ∨ c.toNat = 66 ∨ c.toNat = 67 ∨ c.toNat = 68 ∨ c.toNat = 69 ∨
        c.toNat = 70 ∨ c.toNat = 71 := by
      have h65 : 65 ≤ c.toNat := UInt32.le_iff_toNat_le.1 hA
      have h71 : c.toNat ≤ 71 := UInt32.le_iff_toNat_le.1 hG
      omega
    rw [← Char.ofNat_toNat c]
    rcases hcode with h | h | h | h | h | h | h <;> rw [h] <;> rfl

end Letter

inductive Accidental where
  | natural | sharp | flat
deriving DecidableEq, Repr

/-- How a semitone between two letters is written. -/
inductive Spelling where
  | sharps | flats
deriving DecidableEq, Repr

/-- Sharps on the way up, flats on the way down. -/
def Spelling.ofShift (semitones : Int) : Spelling :=
  if semitones < 0 then .flats else .sharps

structure Note where
  letter : Letter
  accidental : Accidental
deriving DecidableEq, Repr

namespace Note

/-- Reads a note off the front of a text. -/
def read? : List Char → Option (Note × List Char)
  | [] => none
  | c :: cs => (Letter.ofChar? c).map fun letter =>
    match cs with
    | '#' :: rest => (⟨letter, .sharp⟩, rest)
    | 'b' :: rest => (⟨letter, .flat⟩, rest)
    | _ => (⟨letter, .natural⟩, cs)

def toChars (n : Note) : List Char :=
  n.letter.toChar :: match n.accidental with
    | .natural => []
    | .sharp => ['#']
    | .flat => ['b']

def text (n : Note) : String := String.ofList n.toChars

/-- The pitch within the octave, C being zero. -/
def semitone (n : Note) : Int :=
  let shift := match n.accidental with
    | .natural => 0
    | .sharp => 1
    | .flat => -1
  (n.letter.height + shift) % 12

/-- The note of each pitch of the octave, with a sharp between two letters. -/
def withSharps : Nat → Note
  | 0 => ⟨.C, .natural⟩
  | 1 => ⟨.C, .sharp⟩
  | 2 => ⟨.D, .natural⟩
  | 3 => ⟨.D, .sharp⟩
  | 4 => ⟨.E, .natural⟩
  | 5 => ⟨.F, .natural⟩
  | 6 => ⟨.F, .sharp⟩
  | 7 => ⟨.G, .natural⟩
  | 8 => ⟨.G, .sharp⟩
  | 9 => ⟨.A, .natural⟩
  | 10 => ⟨.A, .sharp⟩
  | _ => ⟨.B, .natural⟩

/-- The note of each pitch of the octave, with a flat between two letters. -/
def withFlats : Nat → Note
  | 0 => ⟨.C, .natural⟩
  | 1 => ⟨.D, .flat⟩
  | 2 => ⟨.D, .natural⟩
  | 3 => ⟨.E, .flat⟩
  | 4 => ⟨.E, .natural⟩
  | 5 => ⟨.F, .natural⟩
  | 6 => ⟨.G, .flat⟩
  | 7 => ⟨.G, .natural⟩
  | 8 => ⟨.A, .flat⟩
  | 9 => ⟨.A, .natural⟩
  | 10 => ⟨.B, .flat⟩
  | _ => ⟨.B, .natural⟩

/-- The note of a pitch, whatever its octave. -/
def ofSemitone (semitone : Int) : Spelling → Note
  | .sharps => withSharps (semitone % 12).toNat
  | .flats => withFlats (semitone % 12).toNat

def transpose (n : Note) (semitones : Int) (spelling : Spelling) : Note :=
  ofSemitone (n.semitone + semitones) spelling

theorem semitone_withSharps : ∀ n < 12, (withSharps n).semitone = n := by decide

theorem semitone_withFlats : ∀ n < 12, (withFlats n).semitone = n := by decide

/-- Both writings of a semitone have its pitch. -/
theorem semitone_ofSemitone (k : Int) (s : Spelling) : (ofSemitone k s).semitone = k % 12 := by
  have hlt : (k % 12).toNat < 12 := by omega
  have hk : ((k % 12).toNat : Int) = k % 12 := by omega
  cases s
  · exact (semitone_withSharps _ hlt).trans hk
  · exact (semitone_withFlats _ hlt).trans hk

/-- Reading a note loses nothing of the text. -/
theorem toChars_of_read? {cs rest : List Char} {n : Note} (h : read? cs = some (n, rest)) :
    n.toChars ++ rest = cs := by
  unfold read? at h
  split at h
  · simp at h
  · obtain ⟨l, hl, h⟩ := Option.map_eq_some_iff.1 h
    have hc := Letter.toChar_of_ofChar? hl
    split at h <;> cases h <;> simp [toChars, hc]

end Note

end Songbook
