import Songbook.Proofs.NameParts

/-!
# Moving chord names

Notes that are moved go round the octave: moving by `a` and then by `b` is moving by `a + b`, but for
the spelling, which follows the last shift (`Note.transpose_transpose`).

A name that is moved is printed and read again. Its text keeps the parts of the name apart but in one
place: a root that is written without a sign takes the sign that the quality begins with
(`reread`), as in `E#b5`, which comes back from `F#b5` as `Fb5`. So two moves make up one
exactly if they lose as many signs on their way (`transposeText_composes_iff`).
-/

namespace Songbook

/-- The semitones that a sign moves a letter by. -/
def Accidental.shift : Accidental → Int
  | .natural => 0
  | .sharp => 1
  | .flat => -1

namespace Note

theorem semitone_eq (n : Note) : n.semitone = (n.letter.height + n.accidental.shift) % 12 := by
  obtain ⟨letter, accidental⟩ := n
  cases accidental <;> rfl

theorem semitone_transpose (n : Note) (a : Int) (s : Spelling) :
    (n.transpose a s).semitone = (n.semitone + a) % 12 :=
  semitone_ofSemitone _ s

/-- Moves of a note add up; it is spelled as the last of them wants it. -/
theorem transpose_transpose (n : Note) (a b : Int) (s t : Spelling) :
    (n.transpose a s).transpose b t = n.transpose (a + b) t := by
  have hmod : ((n.semitone + a) % 12 + b) % 12 = (n.semitone + (a + b)) % 12 := by omega
  unfold transpose
  rw [semitone_ofSemitone]
  unfold ofSemitone
  rw [hmod]

theorem accidental_withSharps : ∀ k < 12, (withSharps k).accidental ≠ .flat := by decide

theorem accidental_withFlats : ∀ k < 12, (withFlats k).accidental ≠ .sharp := by decide

theorem accidental_transpose (n : Note) (a : Int) :
    (0 ≤ a → (n.transpose a (.ofShift a)).accidental ≠ .flat) ∧
      (a < 0 → (n.transpose a (.ofShift a)).accidental ≠ .sharp) := by
  have hlt : ((n.semitone + a) % 12).toNat < 12 := by omega
  refine ⟨fun ha => ?_, fun ha => ?_⟩
  · rw [Spelling.ofShift, if_neg (by omega)]
    exact accidental_withSharps _ hlt
  · rw [Spelling.ofShift, if_pos ha]
    exact accidental_withFlats _ hlt

theorem length_takeSign {cs : List Char} (h : (takeSign cs).1 ≠ .natural) :
    (takeSign cs).2.length + 1 = cs.length := by
  unfold takeSign at h ⊢
  split at h
  · rfl
  · rfl
  · exact absurd rfl h

theorem toChars_takeSign (letter : Letter) (cs : List Char) :
    toChars ⟨letter, (takeSign cs).1⟩ ++ (takeSign cs).2 = toChars ⟨letter, .natural⟩ ++ cs := by
  unfold takeSign
  split <;> rfl

end Note

namespace ChordName

variable {n : ChordName} {name : String} {a b : Int}

/-- Root and bass. -/
def notes (n : ChordName) : List Note := n.root :: n.bass.toList

/-- The names stand for the same chord, in whatever spelling and frame. -/
structure SameChord (m n : ChordName) : Prop where
  root : m.root.semitone = n.root.semitone
  bass : m.bass.map Note.semitone = n.bass.map Note.semitone
  quality : m.quality = n.quality

theorem bass_transpose (n : ChordName) (a : Int) : (n.transpose a).bass.map Note.semitone =
    n.bass.map fun bass => (bass.semitone + a) % 12 := by
  show (n.bass.map _).map _ = _
  rw [Option.map_map]
  exact congrArg (Option.map · n.bass) (funext fun bass => Note.semitone_transpose bass a _)

theorem sameChord_transpose (n : ChordName) (a b : Int) :
    ((n.transpose a).transpose b).SameChord (n.transpose (a + b)) := by
  have hadd : ∀ note : Note, ((note.semitone + a) % 12 + b) % 12 = (note.semitone + (a + b)) % 12 :=
    fun note => by omega
  refine ⟨?_, ?_, rfl⟩
  · show (Note.transpose (Note.transpose _ _ _) _ _).semitone = (Note.transpose _ _ _).semitone
    rw [Note.semitone_transpose, Note.semitone_transpose, Note.semitone_transpose, hadd]
  · rw [bass_transpose, bass_transpose]
    show (n.bass.map _).map _ = _
    rw [Option.map_map]
    refine congrArg (Option.map · n.bass) (funext fun bass => ?_)
    rw [Function.comp, Note.semitone_transpose, hadd]

/-- Where both shifts ask for the same spelling, the notes are even written alike. -/
theorem transpose_transpose (n : ChordName) (h : b < 0 ↔ a + b < 0) :
    (n.transpose a).transpose b = n.transpose (a + b) := by
  have hspelling : Spelling.ofShift b = Spelling.ofShift (a + b) := by
    unfold Spelling.ofShift
    simp only [h]
  unfold transpose
  simp only [hspelling, Note.transpose_transpose, Option.map_map, Function.comp_def]

theorem Framed.transpose (h : n.Framed) (a : Int) : (n.transpose a).Framed := by
  refine ⟨h.lead, h.tail.imp id fun htail => ⟨?_, htail.2⟩, fun hbass => h.quality ?_⟩
  · exact (Option.isSome_map ..).trans htail.1
  · exact Option.map_eq_none_iff.1 hbass

/-- Names are moved as the integers modulo twelve move the octave: root and bass by the shift, all
shifts by their sum, nothing else of the name changes, and only the spelling tells a sum from its
parts. -/
theorem transpose_modulo (n : ChordName) (a b : Int) :
    ((n.transpose a).transpose b).SameChord (n.transpose (a + b)) ∧
      ((n.transpose a).transpose b).lead = (n.transpose (a + b)).lead ∧
      ((n.transpose a).transpose b).tail = (n.transpose (a + b)).tail ∧
      ((b < 0 ↔ a + b < 0) → (n.transpose a).transpose b = n.transpose (a + b)) ∧
      (n.transpose a).root.semitone = (n.root.semitone + a) % 12 ∧
      (n.transpose a).bass.map Note.semitone =
        n.bass.map (fun bass => (bass.semitone + a) % 12) ∧
      ∀ note ∈ (n.transpose a).notes,
        (0 ≤ a → note.accidental ≠ .flat) ∧ (a < 0 → note.accidental ≠ .sharp) := by
  refine ⟨sameChord_transpose n a b, rfl, rfl, transpose_transpose n,
    Note.semitone_transpose _ a _, bass_transpose n a, fun note hnote => ?_⟩
  rcases List.mem_cons.1 hnote with rfl | hbass
  · exact Note.accidental_transpose n.root a
  · obtain ⟨bass, -, rfl⟩ := Option.map_eq_some_iff.1 (Option.mem_toList.1 hbass)
    exact Note.accidental_transpose bass a

theorem transpose_modulo_slashChord : ((4 : Int) < 0 ↔ (-3 : Int) + 4 < 0) ∧
    ((⟨"(", ⟨.B, .flat⟩, "m7", some ⟨.F, .natural⟩, ")"⟩ : ChordName).transpose (-3)).transpose 4 =
      (⟨"(", ⟨.B, .flat⟩, "m7", some ⟨.F, .natural⟩, ")"⟩ : ChordName).transpose (-3 + 4) :=
  ⟨by decide, (transpose_modulo _ (-3) 4).2.2.2.1 (by decide)⟩

theorem readBass?_takeSign {cs : List Char} (h : readBass? cs = none) :
    readBass? (Note.takeSign cs).2 = none := by
  have hcons : ∀ c cs, readBass? (c :: cs) = none → readBass? cs = none := by
    intro c cs h
    refine Option.eq_none_iff_forall_ne_some.2 fun parts hparts => ?_
    obtain ⟨hcs, htail⟩ := readBass?_eq_some_iff.1 hparts
    rw [readBass?_eq_some_iff.2 ⟨by rw [hcs, List.cons_append], htail⟩] at h
    cases h
  unfold Note.takeSign
  split
  · exact hcons _ _ h
  · exact hcons _ _ h
  · exact h

/-- What the text of these parts is read as: a root without a sign takes the one that the quality
begins with. -/
def reread (n : ChordName) : ChordName :=
  if n.root.accidental = .natural then
    { n with
      root := ⟨n.root.letter, (Note.takeSign n.quality.toList).1⟩
      quality := String.ofList (Note.takeSign n.quality.toList).2 }
  else n

theorem text_reread (n : ChordName) : n.reread.text = n.text := by
  unfold reread
  split
  · next hroot =>
    have hchars := Note.toChars_takeSign n.root.letter n.quality.toList
    have hn : n.root = ⟨n.root.letter, .natural⟩ := by rw [← hroot]
    refine String.toList_inj.1 ?_
    rw [toList_text, toList_text, hn]
    simp only [rest, String.toList_ofList]
    rw [← List.append_assoc (Note.toChars _), hchars, List.append_assoc]
  · rfl

theorem Framed.reread (h : n.Framed) : n.reread.Framed := by
  unfold ChordName.reread
  split
  · refine ⟨h.lead, h.tail, fun hbass => ?_⟩
    dsimp only
    rw [String.toList_ofList]
    exact readBass?_takeSign (h.quality hbass)
  · exact h

theorem rootClear_reread (n : ChordName) : n.reread.RootClear := by
  intro hn
  unfold reread at hn ⊢
  split at hn
  · dsimp only at hn
    rw [if_pos ‹_›, Note.takeSign_of_natural hn, String.toList_ofList]
    exact hn
  · exact absurd hn ‹_›

theorem Framed.read?_text_eq (h : n.Framed) : read? n.text = some n.reread := by
  rw [← text_reread]
  exact read?_text h.reread n.rootClear_reread

theorem reread_of_natural (h : (Note.takeSign n.quality.toList).1 = .natural) : n.reread = n := by
  obtain ⟨lead, ⟨letter, accidental⟩, quality, bass, tail⟩ := n
  have htake := Note.takeSign_of_natural h
  unfold reread
  split
  · next hroot =>
    obtain rfl : accidental = .natural := hroot
    simp only at htake
    simp only [htake, String.ofList_toList]
  · rfl

/-- What a name of these parts is read as after a move. -/
def moved (n : ChordName) (a : Int) : ChordName :=
  if a % 12 = 0 then n else (n.transpose a).reread

theorem exists_moved (h : read? name = some n) (a : Int) :
    ∃ there, transposeText name a = .ok there ∧ read? there = some (n.moved a) := by
  have hframed := framed_of_read? h
  have hnoChord : isNoChord name = false := text_of_read? h ▸ isNoChord_text hframed
  unfold transposeText moved
  by_cases ha : a % 12 = 0
  · exact ⟨name, by simp [ha], by simpa [ha] using h⟩
  · refine ⟨(n.transpose a).text, by simp [ha, h, hnoChord], ?_⟩
    rw [if_neg ha]
    exact (hframed.transpose a).read?_text_eq

/-- The move leaves the root without a sign before a quality that begins with one. -/
def LosesSign (n : ChordName) (a : Int) : Prop :=
  a % 12 ≠ 0 ∧ (n.transpose a).root.accidental = .natural ∧
    (Note.takeSign n.quality.toList).1 ≠ .natural

instance (n : ChordName) (a : Int) : Decidable (n.LosesSign a) :=
  inferInstanceAs (Decidable (_ ∧ _ ∧ _))

/-- How many signs of the quality are read as the root's after a move. -/
def signsLost (n : ChordName) (a : Int) : Nat := if n.LosesSign a then 1 else 0

theorem moved_of_not_losesSign (h : ¬ n.LosesSign a) :
    (n.moved a).root.semitone = (n.root.semitone + a) % 12 ∧ (n.moved a).quality = n.quality := by
  unfold moved
  split
  · next ha =>
    have hroot := n.root.semitone_eq
    exact ⟨by omega, rfl⟩
  · next ha =>
    have hreread : (n.transpose a).reread = n.transpose a := by
      by_cases hsign : (Note.takeSign n.quality.toList).1 = .natural
      · exact reread_of_natural hsign
      · exact if_neg fun hroot => h ⟨ha, hroot, hsign⟩
    rw [hreread]
    exact ⟨Note.semitone_transpose _ _ _, rfl⟩

theorem moved_of_losesSign (h : n.LosesSign a) :
    (n.moved a).root.semitone =
        (n.root.semitone + a + (Note.takeSign n.quality.toList).1.shift) % 12 ∧
      (n.moved a).quality = String.ofList (Note.takeSign n.quality.toList).2 := by
  obtain ⟨ha, hroot, -⟩ := h
  have hpitch := Note.semitone_transpose n.root a (.ofShift a)
  have hletter := (n.transpose a).root.semitone_eq
  rw [moved, if_neg ha, reread, if_pos hroot]
  refine ⟨?_, rfl⟩
  rw [hroot] at hletter
  rw [Note.semitone_eq]
  dsimp only
  change (n.transpose a).root.semitone = _ at hpitch
  change _ = (_ + 0) % 12 at hletter
  show (_ + (Note.takeSign n.quality.toList).1.shift) % 12 = _
  omega

theorem bass_moved (n : ChordName) (a : Int) : (n.moved a).bass.map Note.semitone =
    n.bass.map fun bass => (bass.semitone + a) % 12 := by
  unfold moved
  split
  · next ha =>
    refine congrArg (Option.map · n.bass) (funext fun bass => ?_)
    have hbass := bass.semitone_eq
    omega
  · rw [← bass_transpose]
    unfold reread
    split <;> rfl

theorem length_moved (n : ChordName) (a : Int) :
    (n.moved a).quality.length + n.signsLost a = n.quality.length := by
  unfold signsLost
  split
  · next h =>
    rw [(moved_of_losesSign h).2, String.length_ofList, Note.length_takeSign h.2.2,
      String.length_toList]
  · next h => rw [(moved_of_not_losesSign h).2, Nat.add_zero]

theorem bass_moved_moved (n : ChordName) (a b : Int) :
    ((n.moved a).moved b).bass.map Note.semitone = (n.moved (a + b)).bass.map Note.semitone := by
  have hfactor : ∀ (bass : Option Note), (bass.map fun note => (note.semitone + b) % 12) =
      (bass.map Note.semitone).map fun k => (k + b) % 12 := fun bass => by
    rw [Option.map_map]
    rfl
  rw [bass_moved, hfactor, bass_moved, bass_moved, Option.map_map]
  refine congrArg (Option.map · n.bass) (funext fun bass => ?_)
  rw [Function.comp]
  omega

/-- Two moves make up one exactly if they lose as many signs as it does. -/
theorem sameChord_moved_iff (n : ChordName) (a b : Int) :
    ((n.moved a).moved b).SameChord (n.moved (a + b)) ↔
      n.signsLost a + (n.moved a).signsLost b = n.signsLost (a + b) := by
  constructor
  · intro h
    have hfirst := n.length_moved a
    have hsecond := (n.moved a).length_moved b
    have honce := n.length_moved (a + b)
    rw [h.quality] at hsecond
    omega
  · intro h
    suffices hnotes : ((n.moved a).moved b).root.semitone = (n.moved (a + b)).root.semitone ∧
        ((n.moved a).moved b).quality = (n.moved (a + b)).quality from
      ⟨hnotes.1, n.bass_moved_moved a b, hnotes.2⟩
    unfold signsLost at h
    by_cases hfirst : n.LosesSign a
    · -- the sign is lost on the first move, so it is lost in one, and no other on the second
      have hsecond : ¬ (n.moved a).LosesSign b := fun hsecond => by
        rw [if_pos hfirst, if_pos hsecond] at h
        split at h <;> omega
      have honce : n.LosesSign (a + b) := Decidable.by_contra fun honce => by
        rw [if_pos hfirst, if_neg honce] at h
        omega
      obtain ⟨hroot₁, hquality₁⟩ := moved_of_losesSign hfirst
      obtain ⟨hroot₂, hquality₂⟩ := moved_of_not_losesSign hsecond
      obtain ⟨hroot, hquality⟩ := moved_of_losesSign honce
      exact ⟨by omega, by rw [hquality₂, hquality₁, hquality]⟩
    · obtain ⟨hroot₁, hquality₁⟩ := moved_of_not_losesSign hfirst
      rw [if_neg hfirst, Nat.zero_add] at h
      by_cases honce : n.LosesSign (a + b)
      · have hsecond : (n.moved a).LosesSign b := Decidable.by_contra fun hsecond => by
          rw [if_neg hsecond, if_pos honce] at h
          omega
        obtain ⟨hroot₂, hquality₂⟩ := moved_of_losesSign hsecond
        obtain ⟨hroot, hquality⟩ := moved_of_losesSign honce
        rw [hquality₁] at hroot₂ hquality₂
        exact ⟨by omega, by rw [hquality₂, hquality]⟩
      · have hsecond : ¬ (n.moved a).LosesSign b := fun hsecond => by
          rw [if_pos hsecond, if_neg honce] at h
          omega
        obtain ⟨hroot₂, hquality₂⟩ := moved_of_not_losesSign hsecond
        obtain ⟨hroot, hquality⟩ := moved_of_not_losesSign honce
        exact ⟨by omega, by rw [hquality₂, hquality₁, hquality]⟩

theorem signsLost_of_natural (h : (Note.takeSign n.quality.toList).1 = .natural) (a : Int) :
    n.signsLost a = 0 :=
  if_neg fun hloses => hloses.2.2 h

theorem signsLost_whole (ha : a % 12 = 0) : n.signsLost a = 0 :=
  if_neg fun hloses => hloses.1 ha

theorem accidental_ofSemitone_cOrD {k : Int} (hk : k % 12 = 0 ∨ k % 12 = 2) (s : Spelling) :
    (Note.ofSemitone k s).accidental = .natural := by
  unfold Note.ofSemitone
  rcases hk with hk | hk <;> rw [hk] <;> cases s <;> rfl

/-- Every root has a shift that brings it to C or D, so a sign before it can be lost. -/
theorem exists_losesSign (h : (Note.takeSign n.quality.toList).1 ≠ .natural) :
    ∃ a, n.LosesSign a := by
  by_cases hc : n.root.semitone % 12 = 0
  · exact ⟨2, by decide, accidental_ofSemitone_cOrD (.inr (by omega)) _, h⟩
  · exact ⟨-n.root.semitone, by omega, accidental_ofSemitone_cOrD (.inl (by omega)) _, h⟩

/-- Moving the name by `a` gives a name of these parts. -/
def MovesTo (name : String) (a : Int) (there : String) (parts : ChordName) : Prop :=
  transposeText name a = .ok there ∧ read? there = some parts

/-- Moving the name by `a` and then by `b` gives the chord that moving it by `a + b` gives. -/
def Composes (name : String) (a b : Int) : Prop :=
  ∃ there n₁ twice n₂ once m, MovesTo name a there n₁ ∧ MovesTo there b twice n₂ ∧
    MovesTo name (a + b) once m ∧ n₂.SameChord m

theorem MovesTo.unique {there there' : String} {m m' : ChordName} (h : MovesTo name a there m)
    (h' : MovesTo name a there' m') : there = there' ∧ m = m' := by
  obtain rfl : there = there' := Except.ok.inj (h.1.symm.trans h'.1)
  exact ⟨rfl, Option.some.inj (h.2.symm.trans h'.2)⟩

theorem composes_iff_of_movesTo {there twice once : String} {n₁ n₂ m : ChordName}
    (h₁ : MovesTo name a there n₁) (h₂ : MovesTo there b twice n₂)
    (h : MovesTo name (a + b) once m) : Composes name a b ↔ n₂.SameChord m := by
  refine ⟨?_, fun hsame => ⟨there, n₁, twice, n₂, once, m, h₁, h₂, h, hsame⟩⟩
  rintro ⟨there', n₁', twice', n₂', once', m', h₁', h₂', h', hsame⟩
  obtain ⟨rfl, rfl⟩ := h₁.unique h₁'
  obtain ⟨rfl, rfl⟩ := h₂.unique h₂'
  obtain ⟨rfl, rfl⟩ := h.unique h'
  exact hsame

theorem exists_movesTo (h : read? name = some n) (a b : Int) :
    ∃ there twice once, MovesTo name a there (n.moved a) ∧
      MovesTo there b twice ((n.moved a).moved b) ∧
      MovesTo name (a + b) once (n.moved (a + b)) := by
  obtain ⟨there, hthere⟩ := exists_moved h a
  obtain ⟨twice, htwice⟩ := exists_moved hthere.2 b
  obtain ⟨once, honce⟩ := exists_moved h (a + b)
  exact ⟨there, twice, once, hthere, htwice, honce⟩

theorem composes_iff (h : read? name = some n) (a b : Int) : Composes name a b ↔
    n.signsLost a + (n.moved a).signsLost b = n.signsLost (a + b) := by
  obtain ⟨there, twice, once, h₁, h₂, h₃⟩ := exists_movesTo h a b
  rw [composes_iff_of_movesTo h₁ h₂ h₃, sameChord_moved_iff]

/-- A name that can be read can be moved, once and again. Its chord is the one that the sum of the
shifts gives exactly if the two moves together lose as many signs as the one; for all shifts that
is so exactly if the quality does not begin with a sign. -/
theorem transposeText_composes_iff (h : read? name = some n) :
    (∀ a b, ∃ there n₁ twice n₂ once m, MovesTo name a there n₁ ∧ MovesTo there b twice n₂ ∧
      MovesTo name (a + b) once m ∧
        (n₂.SameChord m ↔ n.signsLost a + n₁.signsLost b = n.signsLost (a + b))) ∧
      ((∀ a b, Composes name a b) ↔ (Note.takeSign n.quality.toList).1 = .natural) := by
  refine ⟨fun a b => ?_, fun hall => ?_, fun hclear a b => ?_⟩
  · obtain ⟨there, twice, once, h₁, h₂, h₃⟩ := exists_movesTo h a b
    exact ⟨there, _, twice, _, once, _, h₁, h₂, h₃, sameChord_moved_iff n a b⟩
  · -- a shift that loses the sign cannot be undone
    refine Decidable.by_contra fun hsign => ?_
    obtain ⟨a, ha⟩ := exists_losesSign hsign
    have hback := (composes_iff h a (-a)).1 (hall a (-a))
    rw [signsLost_whole (by omega : (a + -a) % 12 = 0), signsLost, if_pos ha] at hback
    omega
  · have hkept : (n.moved a).quality = n.quality :=
      (moved_of_not_losesSign fun hloses => hloses.2.2 hclear).2
    rw [composes_iff h, signsLost_of_natural hclear, signsLost_of_natural hclear,
      signsLost_of_natural (by rw [hkept]; exact hclear)]

/-- Nothing is lost of a slash chord that goes up and down again. -/
theorem transposeText_composes_slashChord : ∃ n, read? "(F#m7b5/C#)" = some n ∧
    (Note.takeSign n.quality.toList).1 = .natural ∧ ∀ a b, Composes "(F#m7b5/C#)" a b := by
  have hread : read? "(F#m7b5/C#)" =
      some ⟨"(", ⟨.F, .sharp⟩, "m7b5", some ⟨.C, .sharp⟩, ")"⟩ := by decide +kernel
  have hclear : (Note.takeSign "m7b5".toList).1 = .natural := by decide
  exact ⟨_, hread, hclear, (transposeText_composes_iff hread).2.2 hclear⟩

/-- The chord on E sharp with a flat fifth goes up to F sharp; eleven semitones further it should be
itself again, but it is read as F flat with a fifth. -/
theorem transposeText_flatFifth : transposeText "E#b5" 1 = .ok "F#b5" ∧
    transposeText "F#b5" 11 = .ok "Fb5" ∧ transposeText "E#b5" (1 + 11) = .ok "E#b5" ∧
    ¬ Composes "E#b5" 1 11 := by
  have hup : MovesTo "E#b5" 1 "F#b5" ⟨"", ⟨.F, .sharp⟩, "b5", none, ""⟩ :=
    ⟨by rfl, by decide +kernel⟩
  have hback : MovesTo "F#b5" 11 "Fb5" ⟨"", ⟨.F, .flat⟩, "5", none, ""⟩ :=
    ⟨by rfl, by decide +kernel⟩
  have honce : MovesTo "E#b5" (1 + 11) "E#b5" ⟨"", ⟨.E, .sharp⟩, "b5", none, ""⟩ :=
    ⟨by rfl, by decide +kernel⟩
  refine ⟨hup.1, hback.1, honce.1, fun h => ?_⟩
  have hsame := (composes_iff_of_movesTo hup hback honce).1 h
  exact absurd hsame.root (by decide)

end ChordName

end Songbook
