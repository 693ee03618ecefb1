import Mathlib.Data.List.Forall2
import Songbook.Chord.Definition
import Songbook.Proofs.Words

/-!
# The forms of a definition

A definition names a base fret and six rows, with the words `base-fret` and `frets` before them or
in one of two orders. What it defines can be said without any form (`Defines`): the base fret is a
number from 1 to 255, each row is a mark for a muted string or a number from 0 to 127, and no row
lies beyond the end of the neck. The forms agree on it (`forms_agree`), except that the word `frets`
announces the rows wherever it stands (`forms_disagree_fretsAlone`).
-/

namespace Songbook

theorem bind_eq_ok_iff {ε α β : Type} {x : Except ε α} {f : α → Except ε β} {b : β} :
    x >>= f = .ok b ↔ ∃ a, x = .ok a ∧ f a = .ok b := by
  cases x with
  | error e => exact ⟨nofun, fun ⟨_, h, _⟩ => nomatch h⟩
  | ok a => exact ⟨fun h => ⟨a, rfl, h⟩, fun ⟨_, h, hf⟩ => Except.ok.inj h ▸ hf⟩

namespace ChordDefinition

open Text Decimal

variable {name : String} {w : String}

/-! ## Rows and base frets -/

/-- The word marks a muted string. -/
def IsMute (w : String) : Prop := w = "x" ∨ w = "X" ∨ w = "-"

/-- The word marks a muted string or writes a row. -/
def IsRow (w : String) (row : Int) : Prop :=
  IsMute w ∧ row = -1 ∨ Writes w row ∧ 0 ≤ row ∧ row ≤ 127

/-- The word writes a base fret. -/
def IsBase (w : String) (base : Nat) : Prop := Writes w base ∧ 1 ≤ base ∧ base ≤ lastFret

theorem IsMute.not_writes (h : IsMute w) (n : Int) : ¬ Writes w n := by
  rw [writes_iff]
  rcases h with rfl | rfl | rfl <;> simp [splitSign]

theorem readFret_eq_ok_iff {row : Int} : readFret name w = .ok row ↔ IsRow w row := by
  have hread : ∀ n, integerIn? (-128) 127 w = some n ↔ Writes w n ∧ -128 ≤ n ∧ n ≤ 127 :=
    fun n => integerIn?_eq_some_iff.trans (by simp)
  unfold readFret IsRow
  by_cases hmute : w = "x" ∨ w = "X" ∨ w = "-"
  · rw [if_pos hmute]
    constructor
    · intro h
      exact .inl ⟨hmute, (Except.ok.inj h).symm⟩
    · rintro (⟨-, rfl⟩ | ⟨hwrites, -⟩)
      · rfl
      · exact absurd hwrites (IsMute.not_writes hmute row)
  · rw [if_neg hmute]
    constructor
    · intro h
      split at h
      · next n hn =>
        split at h
        · next hrow =>
          obtain rfl := Except.ok.inj h
          obtain ⟨hwrites, -, hlast⟩ := (hread n).1 hn
          exact .inr ⟨hwrites, hrow, hlast⟩
        · cases h
      · cases h
    · rintro (⟨h, -⟩ | ⟨hwrites, hrow, hlast⟩)
      · exact absurd h hmute
      · rw [(hread row).2 ⟨hwrites, by omega, hlast⟩]
        exact if_pos hrow

theorem readBase_eq_ok_iff {base : Nat} : readBase name w = .ok base ↔ IsBase w base := by
  unfold readBase IsBase
  constructor
  · intro h
    split at h
    · next n hn =>
      split at h
      · next hpos =>
        obtain rfl := Except.ok.inj h
        obtain ⟨hwrites, ⟨-, hlast⟩, -⟩ := integerIn?_eq_some_iff.1 hn
        rw [Int.toNat_of_nonneg (by omega)]
        exact ⟨hwrites, by omega, by omega⟩
      · cases h
    · cases h
  · rintro ⟨hwrites, hpos, hlast⟩
    -- a number from one on is written without a minus sign
    have hsign : (splitSign w.toList).1 = false := by
      obtain ⟨-, -, hvalue⟩ := writes_iff.1 hwrites
      by_contra hminus
      rw [if_pos (by simpa using hminus)] at hvalue
      omega
    rw [integerIn?_eq_some_iff.2 ⟨hwrites, ⟨by omega, by omega⟩, fun _ => hsign⟩]
    exact (if_pos (by omega)).trans (congrArg Except.ok (Int.toNat_natCast base))

theorem readFrets_eq_ok_iff {ws : List String} {rows : Vector Int strings} :
    readFrets name ws = .ok rows ↔ List.Forall₂ IsRow (ws.take strings) rows.toList := by
  match ws with
  | a :: b :: c :: d :: e :: f :: rest =>
    simp only [readFrets, bind_eq_ok_iff, readFret_eq_ok_iff]
    constructor
    · rintro ⟨a', ha, b', hb, c', hc, d', hd, e', he, f', hf, hrows⟩
      obtain rfl := Except.ok.inj hrows
      exact .cons ha (.cons hb (.cons hc (.cons hd (.cons he (.cons hf .nil)))))
    · intro h
      generalize hrows : rows.toList = list at h
      cases h with | cons ha h => cases h with | cons hb h => cases h with | cons hc h =>
      cases h with | cons hd h => cases h with | cons he h => cases h with | cons hf h =>
      cases h
      have hsame : #v[_, _, _, _, _, _] = rows := Vector.toList_inj.1 hrows.symm
      exact ⟨_, ha, _, hb, _, hc, _, hd, _, he, _, hf, congrArg Except.ok hsame⟩
  | [] | [_] | [_, _] | [_, _, _] | [_, _, _, _] | [_, _, _, _, _] =>
    refine ⟨nofun, fun h => ?_⟩
    have hlength := h.length_eq
    simp [strings] at hlength

/-- Base fret and rows are such as words can write. -/
structure InRange (base : Nat) (rows : Vector Int strings) : Prop where
  base : 1 ≤ base ∧ base ≤ lastFret
  rows : ∀ row ∈ rows.toList, -1 ≤ row ∧ row ≤ 127

theorem IsBase.bounds {base : Nat} (h : IsBase w base) : 1 ≤ base ∧ base ≤ lastFret := h.2

theorem IsRow.bounds {row : Int} (h : IsRow w row) : -1 ≤ row ∧ row ≤ 127 := by
  rcases h with ⟨-, rfl⟩ | ⟨-, hrow, hlast⟩ <;> omega

theorem bounds_of_forall₂ {ws : List String} {rows : List Int} (h : List.Forall₂ IsRow ws rows) :
    ∀ row ∈ rows, -1 ≤ row ∧ row ≤ 127 := by
  induction h with
  | nil => exact List.forall_mem_nil _
  | cons hrow _ ih => exact List.forall_mem_cons.2 ⟨hrow.bounds, ih⟩

/-! ## Fingerings -/

/-- Where a string of this row is held if the neck reaches so far. -/
def placed (base : Nat) (row : Int) : Fret :=
  if row < 0 then .muted
  else if row = 0 then .openString
  else .held (base + row.toNat - 1)

/-- No row lies behind the last fret. -/
def NeckReaches (base : Nat) (rows : Vector Int strings) : Prop :=
  ∀ row ∈ rows.toList, 0 < row → base + row - 1 ≤ lastFret

theorem ofRows?_eq_some_iff {base : Nat} (hbase : 1 ≤ base) {rows : Vector Int strings}
    {f : Fingering} : Fingering.ofRows? base rows = some f ↔
      NeckReaches base rows ∧ f = ⟨base, rows.map (placed base), none, false⟩ := by
  have hmax : max 1 base = base := by omega
  have hneck : (rows.toList.all fun r => r ≤ 0 || max 1 base + r.toNat - 1 ≤ lastFret) = true ↔
      NeckReaches base rows := by
    rw [List.all_eq_true]
    refine forall₂_congr fun row _ => ?_
    simp only [Bool.or_eq_true, decide_eq_true_eq]
    omega
  have hframe : NeckReaches base rows → Fingering.ofRows base rows =
      ⟨base, rows.map (placed base), none, false⟩ := by
    intro hreach
    have hplaces : rows.map (Fingering.fretAt (max 1 base)) = rows.map (placed base) := by
      refine Vector.map_congr_left fun row hrow => ?_
      have hlast := hreach row (Vector.mem_toList_iff.2 hrow)
      unfold Fingering.fretAt placed
      split
      · rfl
      · split
        · rfl
        · rw [hmax, Nat.min_eq_right (by omega)]
    rw [Fingering.ofRows, hplaces, hmax]
  unfold Fingering.ofRows?
  constructor
  · intro h
    split at h
    · next hall =>
      have hreach := hneck.1 hall
      exact ⟨hreach, (Option.some.inj h).symm.trans (hframe hreach)⟩
    · cases h
  · rintro ⟨hreach, rfl⟩
    rw [if_pos (hneck.2 hreach), hframe hreach]

/-! ## Definitions -/

/-- The chord with these rows from this base fret on. -/
def ofRows (name : String) (origin : Origin) (base : Nat) (rows : Vector Int strings) :
    ChordDefinition :=
  ⟨name, origin, .hard, some ⟨base, rows.map (placed base), none, false⟩⟩

/-- The words define the chord: the one writes the base fret and the others the rows, all of them on
the neck. -/
def Defines (name b : String) (fs : List String) (origin : Origin) (d : ChordDefinition) : Prop :=
  ∃ base rows, IsBase b base ∧ List.Forall₂ IsRow fs rows.toList ∧ NeckReaches base rows ∧
    d = ofRows name origin base rows

/-- Base fret and rows as the words give them. -/
def arguments (name : String) (ws : List String) (order : FretOrder) :
    Except Problem (Nat × Vector Int strings) :=
  if ws.any fun w => isBaseWord w || isFretsWord w then readNamed name ws 1 none
  else readOrdered name ws order

section Arguments

variable {base : Nat} {rows : Vector Int strings} {b k : String} {ws fs : List String}
  {frets : Option (Vector Int strings)}

theorem not_isFretsWord (h : isBaseWord w = true) : isFretsWord w = false := by
  have hlower : lower w = lower "base-fret" := beq_iff_eq.1 h
  unfold isFretsWord sameLetters
  rw [hlower]
  decide

theorem readNamed_base (h : isBaseWord k = true) :
    readNamed name (k :: w :: ws) base frets =
      readBase name w >>= fun base => readNamed name ws base frets := by
  rw [readNamed, if_pos h]

theorem readNamed_frets (h : isFretsWord k = true) :
    readNamed name (k :: ws) base frets =
      readFrets name (ws.take strings) >>= fun rows =>
        readNamed name (ws.drop strings) base (some rows) := by
  have hbase : ¬ isBaseWord k = true := fun hk => by simp [not_isFretsWord hk] at h
  rw [readNamed.eq_def]
  dsimp only
  rw [if_neg hbase, if_pos h]

theorem readNamed_nil (rows : Vector Int strings) :
    readNamed name [] base (some rows) = .ok (base, rows) := by
  unfold readNamed
  rfl

/-- What is read lies in range. -/
theorem readNamed_inRange {base' : Nat} (hbase : 1 ≤ base ∧ base ≤ lastFret)
    (hfrets : ∀ rows ∈ frets, ∀ row ∈ rows.toList, -1 ≤ row ∧ row ≤ 127)
    (h : readNamed name ws base frets = .ok (base', rows)) : InRange base' rows := by
  fun_induction readNamed name ws base frets with
  | case1 base frets =>
    obtain ⟨rfl, rfl⟩ := Prod.mk.inj (Except.ok.inj h)
    exact ⟨hbase, hfrets _ rfl⟩
  | case2 => cases h
  | case3 => cases h
  | case4 base frets k hk value rest ih =>
    obtain ⟨base, hread, hrest⟩ := bind_eq_ok_iff.1 h
    exact ih base (readBase_eq_ok_iff.1 hread).bounds hfrets hrest
  | case5 base frets k rest hk hk' ih =>
    obtain ⟨rows', hread, hrest⟩ := bind_eq_ok_iff.1 h
    refine ih rows' hbase (fun _ hsome => ?_) hrest
    obtain rfl := Option.some.inj hsome
    exact bounds_of_forall₂ (readFrets_eq_ok_iff.1 hread)
  | case6 => cases h

/-- Before the rows are read no fewer than seven words are needed. -/
theorem seven_le_length {r : Nat × Vector Int strings}
    (h : readNamed name ws base none = .ok r) : 7 ≤ ws.length := by
  generalize hfrets : (none : Option (Vector Int strings)) = frets at h
  fun_induction readNamed name ws base frets with
  | case1 => cases hfrets
  | case2 => cases h
  | case3 => cases h
  | case4 base frets k hk value rest ih =>
    obtain ⟨base, -, hrest⟩ := bind_eq_ok_iff.1 h
    have hlength := ih base hfrets hrest
    simp only [List.length_cons]
    omega
  | case5 base frets k rest hk hk' ih =>
    obtain ⟨rows, hread, -⟩ := bind_eq_ok_iff.1 h
    have hlength := (readFrets_eq_ok_iff.1 hread).length_eq
    rw [Vector.length_toList, List.take_take, Nat.min_self, List.length_take] at hlength
    have hrest := Nat.min_le_right strings rest.length
    rw [hlength] at hrest
    exact Nat.succ_le_succ hrest
  | case6 => cases h

/-- Seven words give rows exactly if the first of them announces the six others. -/
theorem readNamed_seven {base' : Nat} (hws : ws.length = strings) :
    readNamed name (w :: ws) base none = .ok (base', rows) ↔
      isFretsWord w = true ∧ List.Forall₂ IsRow ws rows.toList ∧ base' = base := by
  have hle : ws.length ≤ strings := Nat.le_of_eq hws
  by_cases hfrets : isFretsWord w = true
  · rw [readNamed_frets hfrets, List.take_of_length_le hle, List.drop_of_length_le hle,
      bind_eq_ok_iff]
    simp only [readNamed_nil, readFrets_eq_ok_iff, List.take_of_length_le hle]
    constructor
    · rintro ⟨rows', hrows, h⟩
      obtain ⟨rfl, rfl⟩ := Prod.mk.inj (Except.ok.inj h)
      exact ⟨hfrets, hrows, rfl⟩
    · rintro ⟨-, hrows, rfl⟩
      exact ⟨rows, hrows, rfl⟩
  · refine ⟨fun h => ?_, fun h => absurd h.1 hfrets⟩
    by_cases hbase : isBaseWord w = true
    · -- the base fret takes one of the six words, and too few are left for the rows
      cases ws with
      | nil => cases hws
      | cons value rest =>
        rw [readNamed_base hbase] at h
        obtain ⟨_, -, hrest⟩ := bind_eq_ok_iff.1 h
        have hlength := seven_le_length hrest
        have hrestLength : rest.length + 1 = 6 := hws
        omega
    · rw [readNamed.eq_def] at h
      dsimp only at h
      rw [if_neg hbase, if_neg hfrets] at h
      cases h

theorem arguments_inRange {order : FretOrder} (h : arguments name ws order = .ok (base, rows)) :
    InRange base rows := by
  have hone : 1 ≤ 1 ∧ 1 ≤ lastFret := ⟨Nat.le_refl 1, by decide⟩
  unfold arguments at h
  split at h
  · refine readNamed_inRange hone (fun _ hsome => ?_) h
    cases hsome
  · cases order with
    | baseFirst =>
      obtain ⟨base', hbase, h⟩ := bind_eq_ok_iff.1 h
      obtain ⟨rows', hrows, h⟩ := bind_eq_ok_iff.1 h
      obtain ⟨rfl, rfl⟩ := Prod.mk.inj (Except.ok.inj h)
      exact ⟨(readBase_eq_ok_iff.1 hbase).bounds, bounds_of_forall₂ (readFrets_eq_ok_iff.1 hrows)⟩
    | baseLast =>
      obtain ⟨rows', hrows, h⟩ := bind_eq_ok_iff.1 h
      have hbounds := bounds_of_forall₂ (readFrets_eq_ok_iff.1 hrows)
      split at h
      · obtain ⟨base', hbase, h⟩ := bind_eq_ok_iff.1 h
        obtain ⟨rfl, rfl⟩ := Prod.mk.inj (Except.ok.inj h)
        exact ⟨(readBase_eq_ok_iff.1 hbase).bounds, hbounds⟩
      · obtain ⟨rfl, rfl⟩ := Prod.mk.inj (Except.ok.inj h)
        exact ⟨hone, hbounds⟩

/-- The chord with these rows, if the neck reaches so far. -/
def placeRows (name : String) (origin : Origin) (base : Nat) (rows : Vector Int strings) :
    Except Problem ChordDefinition :=
  (Fingering.ofRows? base rows).elim (.error (.invalidChordDefinition name (.outOfRange base)))
    fun fingering => .ok ⟨name, origin, .hard, some fingering⟩

theorem placeRows_eq_ok_iff {origin : Origin} {d : ChordDefinition} (hbase : 1 ≤ base) :
    placeRows name origin base rows = .ok d ↔
      NeckReaches base rows ∧ d = ofRows name origin base rows := by
  unfold placeRows
  cases hf : Fingering.ofRows? base rows with
  | some f =>
    obtain ⟨hreach, rfl⟩ := (ofRows?_eq_some_iff hbase).1 hf
    exact ⟨fun h => ⟨hreach, (Except.ok.inj h).symm⟩, fun h => congrArg Except.ok h.2.symm⟩
  | none =>
    refine ⟨nofun, fun h => ?_⟩
    rw [(ofRows?_eq_some_iff hbase).2 ⟨h.1, rfl⟩] at hf
    cases hf

theorem read_eq {args : String} (order : FretOrder) (origin : Origin)
    (hargs : words args = name :: ws) (hws : ws ≠ []) : read args order origin =
      arguments name ws order >>= fun r => placeRows name origin r.1 r.2 := by
  unfold read
  rw [hargs]
  dsimp only
  rw [if_neg (by simpa using hws), arguments]
  split <;>
  · refine congrArg _ (funext fun r => ?_)
    unfold placeRows
    cases Fingering.ofRows? r.1 r.2 <;> rfl

/-- A definition is read if its arguments are, and if the neck reaches so far. -/
theorem read_eq_ok_iff {args : String} {order : FretOrder} {origin : Origin} {d : ChordDefinition}
    (hargs : words args = name :: ws) (hws : ws ≠ []) : read args order origin = .ok d ↔
      ∃ base rows, arguments name ws order = .ok (base, rows) ∧ NeckReaches base rows ∧
        d = ofRows name origin base rows := by
  rw [read_eq order origin hargs hws, bind_eq_ok_iff]
  constructor
  · rintro ⟨⟨base, rows⟩, harguments, h⟩
    have hbase := (arguments_inRange harguments).base.1
    exact ⟨base, rows, harguments, (placeRows_eq_ok_iff hbase).1 h⟩
  · rintro ⟨base, rows, harguments, h⟩
    have hbase := (arguments_inRange harguments).base.1
    exact ⟨(base, rows), harguments, (placeRows_eq_ok_iff hbase).2 h⟩

/-- What is read is a name and then arguments that lie on the neck. -/
theorem exists_arguments {args : String} {order : FretOrder} {origin : Origin} {d : ChordDefinition}
    (h : read args order origin = .ok d) :
    ∃ ws base rows, words args = d.name :: ws ∧ arguments d.name ws order = .ok (base, rows) ∧
      NeckReaches base rows ∧ d = ofRows d.name origin base rows := by
  rcases hwords : words args with _ | ⟨name, ws⟩
  · rw [read, hwords] at h
    cases h
  · by_cases hws : ws = []
    · rw [read, hwords, hws] at h
      cases h
    · obtain ⟨base, rows, harguments, hneck, rfl⟩ := (read_eq_ok_iff hwords hws).1 h
      exact ⟨ws, base, rows, rfl, harguments, hneck, rfl⟩

/-! ## The forms -/

/-- The word announces a base fret or rows. -/
def IsKey (w : String) : Prop := isBaseWord w = true ∨ isFretsWord w = true

theorem not_isKey_of_forall (h : ∀ c ∈ w.toList, c.toLower ≠ 't') : ¬ IsKey w := by
  intro hkey
  have ht : 't' ∈ (lower w).toList := by
    rcases hkey with hkey | hkey <;>
    · rw [beq_iff_eq.1 hkey]
      decide
  rw [lower, String.toList_ofList] at ht
  obtain ⟨c, hc, hct⟩ := List.mem_map.1 ht
  exact h c hc hct

theorem not_isKey_of_writes {n : Int} (h : Writes w n) : ¬ IsKey w := by
  refine not_isKey_of_forall (h.forall_mem (by decide) (by decide) fun c hdigit => ?_)
  rw [toLower_of_isDigit hdigit]
  rintro rfl
  exact absurd hdigit (by decide)

theorem IsMute.not_isKey (h : IsMute w) : ¬ IsKey w := by
  unfold IsKey
  rcases h with rfl | rfl | rfl <;> decide

theorem IsRow.not_isKey {row : Int} (h : IsRow w row) : ¬ IsKey w := by
  rcases h with ⟨hmute, -⟩ | ⟨hwrites, -⟩
  · exact hmute.not_isKey
  · exact not_isKey_of_writes hwrites

theorem isBase_one_iff : IsBase "1" base ↔ base = 1 := by
  have hread : readBase "" "1" = .ok 1 := by decide +kernel
  rw [← readBase_eq_ok_iff, hread]
  exact ⟨fun h => (Except.ok.inj h).symm, fun h => by rw [h]⟩

/-- What holds of the words of rows holds of all these words. -/
theorem forall_of_forall₂ {p : String → Prop} {rows : List Int}
    (hp : ∀ w row, IsRow w row → p w) (h : List.Forall₂ IsRow ws rows) : ∀ w ∈ ws, p w :=
  ((List.forall₂_and_left ws rows).1 (h.imp fun w row hrow => ⟨hp w row hrow, hrow⟩)).1

theorem isWord_of_forall₂ {rows : List Int} (h : List.Forall₂ IsRow ws rows) :
    ∀ w ∈ ws, IsWord w := by
  refine forall_of_forall₂ (fun w row hrow => ?_) h
  rcases hrow with ⟨hmute, -⟩ | ⟨hwrites, -⟩
  · rcases hmute with rfl | rfl | rfl <;> decide +kernel
  · exact hwrites.isWord

theorem not_isKey_of_mem {rows : List Int} (h : List.Forall₂ IsRow ws rows) :
    ∀ w ∈ ws, ¬ IsKey w :=
  forall_of_forall₂ (fun _ _ hrow => hrow.not_isKey) h

theorem arguments_of_isKey {order : FretOrder} (hw : w ∈ ws) (h : IsKey w) :
    arguments name ws order = readNamed name ws 1 none := by
  refine if_pos (List.any_eq_true.2 ⟨w, hw, ?_⟩)
  exact Bool.or_eq_true_iff.2 h

theorem arguments_of_not_isKey {order : FretOrder} (h : ∀ w ∈ ws, ¬ IsKey w) :
    arguments name ws order = readOrdered name ws order := by
  refine if_neg fun hany => ?_
  obtain ⟨w, hw, hkey⟩ := List.any_eq_true.1 hany
  exact h w hw (Bool.or_eq_true_iff.1 hkey)

theorem arguments_baseThenFrets {k₁ k₂ : String} {order : FretOrder} (hk₁ : isBaseWord k₁ = true)
    (hk₂ : isFretsWord k₂ = true) (hfs : fs.length = strings) :
    arguments name (k₁ :: b :: k₂ :: fs) order = .ok (base, rows) ↔
      IsBase b base ∧ List.Forall₂ IsRow fs rows.toList := by
  rw [arguments_of_isKey List.mem_cons_self (.inl hk₁), readNamed_base hk₁, bind_eq_ok_iff]
  simp only [readBase_eq_ok_iff, readNamed_seven hfs]
  constructor
  · rintro ⟨base', hbase, -, hrows, rfl⟩
    exact ⟨hbase, hrows⟩
  · rintro ⟨hbase, hrows⟩
    exact ⟨base, hbase, hk₂, hrows, rfl⟩

theorem arguments_fretsThenBase {k₁ k₂ : String} {order : FretOrder} (hk₁ : isBaseWord k₁ = true)
    (hk₂ : isFretsWord k₂ = true) (hfs : fs.length = strings) :
    arguments name (k₂ :: (fs ++ [k₁, b])) order = .ok (base, rows) ↔
      IsBase b base ∧ List.Forall₂ IsRow fs rows.toList := by
  rw [arguments_of_isKey List.mem_cons_self (.inr hk₂), readNamed_frets hk₂,
    List.take_left' hfs, List.drop_left' hfs, bind_eq_ok_iff]
  simp only [readNamed_base hk₁, readNamed_nil, bind_eq_ok_iff, readBase_eq_ok_iff,
    readFrets_eq_ok_iff, List.take_of_length_le (Nat.le_of_eq hfs)]
  constructor
  · rintro ⟨rows', hrows, base', hbase, h⟩
    obtain ⟨rfl, rfl⟩ := Prod.mk.inj (Except.ok.inj h)
    exact ⟨hbase, hrows⟩
  · rintro ⟨hbase, hrows⟩
    exact ⟨rows, hrows, base, hbase, rfl⟩

/-- Seven words among which there is a key give rows if the first of them announces the six
others. -/
theorem arguments_seven {order : FretOrder} (hws : ws.length = strings)
    (hkey : ∃ v ∈ w :: ws, IsKey v) : arguments name (w :: ws) order = .ok (base, rows) ↔
      isFretsWord w = true ∧ IsBase "1" base ∧ List.Forall₂ IsRow ws rows.toList := by
  obtain ⟨v, hv, hkey⟩ := hkey
  rw [arguments_of_isKey hv hkey, readNamed_seven hws, isBase_one_iff, and_comm (a := base = 1)]

theorem not_isKey_of_isBase (h : IsBase b base) : ¬ IsKey b := not_isKey_of_writes h.1

theorem arguments_baseFirst (hfs : fs.length = strings) :
    arguments name (b :: fs) .baseFirst = .ok (base, rows) ↔
      IsBase (if isFretsWord b then "1" else b) base ∧ List.Forall₂ IsRow fs rows.toList := by
  by_cases hkey : ∃ v ∈ b :: fs, IsKey v
  · rw [arguments_seven hfs hkey]
    by_cases hb : isFretsWord b = true
    · simp [hb]
    · -- neither a base fret nor a row is a key
      refine ⟨fun h => absurd h.1 hb, fun ⟨hbase, hrows⟩ => ?_⟩
      rw [if_neg hb] at hbase
      obtain ⟨v, hv, hkey⟩ := hkey
      rcases List.mem_cons.1 hv with rfl | hv
      · exact absurd hkey (not_isKey_of_isBase hbase)
      · exact absurd hkey (not_isKey_of_mem hrows v hv)
  · have hnone : ∀ v ∈ b :: fs, ¬ IsKey v := fun v hv hv' => hkey ⟨v, hv, hv'⟩
    have hb : ¬ isFretsWord b = true := fun h => hnone b List.mem_cons_self (.inr h)
    rw [arguments_of_not_isKey hnone, if_neg hb]
    simp only [readOrdered, List.headD_cons, List.tail_cons, bind_eq_ok_iff, readBase_eq_ok_iff,
      readFrets_eq_ok_iff, List.take_of_length_le (Nat.le_of_eq hfs)]
    constructor
    · rintro ⟨base', hbase, rows', hrows, h⟩
      obtain ⟨rfl, rfl⟩ := Prod.mk.inj (Except.ok.inj h)
      exact ⟨hbase, hrows⟩
    · rintro ⟨hbase, hrows⟩
      exact ⟨base, hbase, rows, hrows, rfl⟩

theorem arguments_baseLast {first : String} {others : List String}
    (hfs : (first :: others).length = strings) :
    arguments name (first :: (others ++ [b])) .baseLast = .ok (base, rows) ↔
      if isFretsWord first then
        IsBase "1" base ∧ List.Forall₂ IsRow (others ++ [b]) rows.toList
      else IsBase b base ∧ List.Forall₂ IsRow (first :: others) rows.toList := by
  by_cases hkey : ∃ v ∈ first :: (others ++ [b]), IsKey v
  · rw [arguments_seven (by simpa using hfs) hkey]
    by_cases hfirst : isFretsWord first = true
    · simp [hfirst]
    · refine ⟨fun h => absurd h.1 hfirst, fun h => ?_⟩
      rw [if_neg hfirst] at h
      obtain ⟨hbase, hrows⟩ := h
      obtain ⟨v, hv, hkey⟩ := hkey
      rw [← List.cons_append] at hv
      rcases List.mem_append.1 hv with hv | hv
      · exact absurd hkey (not_isKey_of_mem hrows v hv)
      · obtain rfl := List.mem_singleton.1 hv
        exact absurd hkey (not_isKey_of_isBase hbase)
  · have hnone : ∀ v ∈ first :: (others ++ [b]), ¬ IsKey v := fun v hv hv' => hkey ⟨v, hv, hv'⟩
    have hfirst : ¬ isFretsWord first = true :=
      fun h => hnone first List.mem_cons_self (.inr h)
    have hlast : (first :: others ++ [b])[strings]? = some b := by
      rw [← hfs]
      exact List.getElem?_concat_length
    rw [arguments_of_not_isKey hnone, if_neg hfirst, ← List.cons_append]
    simp only [readOrdered, hlast, bind_eq_ok_iff, readBase_eq_ok_iff, readFrets_eq_ok_iff,
      List.take_left' hfs]
    constructor
    · rintro ⟨rows', hrows, base', hbase, h⟩
      obtain ⟨rfl, rfl⟩ := Prod.mk.inj (Except.ok.inj h)
      exact ⟨hbase, hrows⟩
    · rintro ⟨hbase, hrows⟩
      exact ⟨rows, hrows, base, hbase, rfl⟩

end Arguments

/-- Joined by blanks, the words are read as the definition. -/
def Reads (ws : List String) (order : FretOrder) (origin : Origin) (d : ChordDefinition) : Prop :=
  read (" ".intercalate ws) order origin = .ok d

section Forms

variable {b first k₁ k₂ : String} {ws fs others : List String} {order : FretOrder}
  {origin : Origin} {d : ChordDefinition}

/-- What the words define depends on the arguments alone. -/
theorem reads_iff_defines (hws : ∀ w ∈ name :: ws, IsWord w) (hne : ws ≠ [])
    (harguments : ∀ base rows, arguments name ws order = .ok (base, rows) ↔
      IsBase b base ∧ List.Forall₂ IsRow fs rows.toList) :
    Reads (name :: ws) order origin d ↔ Defines name b fs origin d := by
  unfold Reads
  rw [read_eq_ok_iff (words_intercalate hws) hne]
  simp only [harguments, and_assoc]
  rfl

theorem isWord_of_isBaseWord (h : isBaseWord w = true) : IsWord w :=
  IsWord.of_sameLetters h (by decide +kernel)

theorem isWord_of_isFretsWord (h : isFretsWord w = true) : IsWord w :=
  IsWord.of_sameLetters h (by decide +kernel)

theorem reads_baseThenFrets (hname : IsWord name) (hb : IsWord b) (hws : ∀ w ∈ fs, IsWord w)
    (hfs : fs.length = strings) (hk₁ : isBaseWord k₁ = true) (hk₂ : isFretsWord k₂ = true) :
    Reads (name :: k₁ :: b :: k₂ :: fs) order origin d ↔ Defines name b fs origin d := by
  refine reads_iff_defines ?_ (List.cons_ne_nil _ _) fun base rows =>
    arguments_baseThenFrets hk₁ hk₂ hfs
  simp only [List.forall_mem_cons]
  exact ⟨hname, isWord_of_isBaseWord hk₁, hb, isWord_of_isFretsWord hk₂, hws⟩

theorem reads_fretsThenBase (hname : IsWord name) (hb : IsWord b) (hws : ∀ w ∈ fs, IsWord w)
    (hfs : fs.length = strings) (hk₁ : isBaseWord k₁ = true) (hk₂ : isFretsWord k₂ = true) :
    Reads (name :: k₂ :: (fs ++ [k₁, b])) order origin d ↔ Defines name b fs origin d := by
  refine reads_iff_defines ?_ (List.cons_ne_nil _ _) fun base rows =>
    arguments_fretsThenBase hk₁ hk₂ hfs
  simp only [List.forall_mem_cons, List.forall_mem_append]
  exact ⟨hname, isWord_of_isFretsWord hk₂, hws, isWord_of_isBaseWord hk₁, hb,
    List.forall_mem_nil _⟩

theorem reads_baseFirst (hname : IsWord name) (hb : IsWord b) (hws : ∀ w ∈ fs, IsWord w)
    (hfs : fs.length = strings) : Reads (name :: b :: fs) .baseFirst origin d ↔
      Defines name (if isFretsWord b then "1" else b) fs origin d :=
  reads_iff_defines (List.forall_mem_cons.2 ⟨hname, List.forall_mem_cons.2 ⟨hb, hws⟩⟩)
    (List.cons_ne_nil _ _) fun _ _ => arguments_baseFirst hfs

theorem reads_baseLast (hname : IsWord name) (hb : IsWord b)
    (hws : ∀ w ∈ first :: others, IsWord w) (hfs : (first :: others).length = strings) :
    Reads (name :: first :: (others ++ [b])) .baseLast origin d ↔
      if isFretsWord first then Defines name "1" (others ++ [b]) origin d
      else Defines name b (first :: others) origin d := by
  have hall : ∀ w ∈ name :: first :: (others ++ [b]), IsWord w := by
    rw [← List.cons_append, List.forall_mem_cons, List.forall_mem_append]
    exact ⟨hname, hws, List.forall_mem_singleton.2 hb⟩
  by_cases hfirst : isFretsWord first = true
  · rw [if_pos hfirst]
    refine reads_iff_defines hall (List.cons_ne_nil _ _) fun base rows => ?_
    rw [arguments_baseLast hfs, if_pos hfirst]
  · rw [if_neg hfirst]
    refine reads_iff_defines hall (List.cons_ne_nil _ _) fun base rows => ?_
    rw [arguments_baseLast hfs, if_neg hfirst]

/-- With the words `base-fret` and `frets`, in any letter case and either way round, a definition
says the same in either order, and without them it says so too, base fret first or last. Only if the
word after the name is then itself the word `frets` are the six words behind it the rows, with one
for the base fret. -/
theorem forms_agree (hwords : ∀ w ∈ name :: b :: first :: others, IsWord w)
    (hfs : (first :: others).length = strings) (hk₁ : isBaseWord k₁ = true)
    (hk₂ : isFretsWord k₂ = true) (origin : Origin) (d : ChordDefinition) :
    (∀ order, Reads (name :: k₁ :: b :: k₂ :: first :: others) order origin d ↔
        Defines name b (first :: others) origin d) ∧
      (∀ order, Reads (name :: k₂ :: (first :: others ++ [k₁, b])) order origin d ↔
        Defines name b (first :: others) origin d) ∧
      (Reads (name :: b :: first :: others) .baseFirst origin d ↔
        Defines name (if isFretsWord b then "1" else b) (first :: others) origin d) ∧
      (Reads (name :: first :: (others ++ [b])) .baseLast origin d ↔
        if isFretsWord first then Defines name "1" (others ++ [b]) origin d
        else Defines name b (first :: others) origin d) := by
  obtain ⟨hname, hrest⟩ := List.forall_mem_cons.1 hwords
  obtain ⟨hb, hws⟩ := List.forall_mem_cons.1 hrest
  exact ⟨fun _ => reads_baseThenFrets hname hb hws hfs hk₁ hk₂,
    fun _ => reads_fretsThenBase hname hb hws hfs hk₁ hk₂,
    reads_baseFirst hname hb hws hfs, reads_baseLast hname hb hws hfs⟩

/-- A base fret with a sign, a muted string and rows with signs and leading zeros. -/
theorem forms_agree_raised :
    let d := ofRows "Bb" .song 3 #v[-1, 0, 2, 3, 3, 127]
    Reads ["Bb", "base-fret", "+3", "frets", "x", "-0", "2", "03", "+3", "127"]
        .baseFirst .song d ∧
      Reads ["Bb", "FRETS", "x", "-0", "2", "03", "+3", "127", "Base-Fret", "+3"]
        .baseLast .song d ∧
      Reads ["Bb", "+3", "x", "-0", "2", "03", "+3", "127"] .baseFirst .song d ∧
      Reads ["Bb", "x", "-0", "2", "03", "+3", "127", "+3"] .baseLast .song d := by
  intro d
  have hread : read (" ".intercalate
      ["Bb", "base-fret", "+3", "frets", "x", "-0", "2", "03", "+3", "127"]) .baseFirst .song =
        .ok d := by decide +kernel
  have hwords : ∀ w ∈ ["Bb", "+3", "x", "-0", "2", "03", "+3", "127"], IsWord w := by
    decide +kernel
  have hsmall : isBaseWord "base-fret" = true ∧ isFretsWord "frets" = true := by decide
  have hcapital : isBaseWord "Base-Fret" = true ∧ isFretsWord "FRETS" = true := by decide
  obtain ⟨hbase, -, hfirst, hlast⟩ := forms_agree hwords rfl hsmall.1 hsmall.2 .song d
  obtain ⟨-, hfrets, -⟩ := forms_agree hwords rfl hcapital.1 hcapital.2 .song d
  have hdefines := (hbase .baseFirst).1 hread
  exact ⟨hread, (hfrets .baseLast).2 hdefines, hfirst.2 hdefines, hlast.2 hdefines⟩

/-- Without the word `base-fret` the word `frets` announces the rows, also in the place of a base
fret or of a row, where it is read as neither. -/
theorem forms_disagree_fretsAlone :
    (∀ w ∈ ["X", "frets", "0", "1"], IsWord w) ∧
      (∀ base, ¬ IsBase "frets" base) ∧ (∀ row, ¬ IsRow "frets" row) ∧
      Reads ["X", "frets", "0", "0", "0", "0", "0", "0"] .baseFirst .song
        (ofRows "X" .song 1 #v[0, 0, 0, 0, 0, 0]) ∧
      (∀ d, ¬ Reads ["X", "base-fret", "frets", "frets", "0", "0", "0", "0", "0", "0"]
        .baseFirst .song d) ∧
      Reads ["X", "frets", "0", "0", "0", "0", "0", "1"] .baseLast .song
        (ofRows "X" .song 1 #v[0, 0, 0, 0, 0, 1]) ∧
      ∀ d, ¬ Reads ["X", "base-fret", "1", "frets", "frets", "0", "0", "0", "0", "0"]
        .baseLast .song d := by
  have hkey : IsKey "frets" := .inr (by decide)
  have hbaseFirst : read (" ".intercalate ["X", "frets", "0", "0", "0", "0", "0", "0"])
      .baseFirst .song = .ok (ofRows "X" .song 1 #v[0, 0, 0, 0, 0, 0]) := by decide +kernel
  have hbaseLast : read (" ".intercalate ["X", "frets", "0", "0", "0", "0", "0", "1"])
      .baseLast .song = .ok (ofRows "X" .song 1 #v[0, 0, 0, 0, 0, 1]) := by decide +kernel
  have hbase : read (" ".intercalate
      ["X", "base-fret", "frets", "frets", "0", "0", "0", "0", "0", "0"]) .baseFirst .song =
        .error (.invalidChordDefinition "X" (.badBase "frets")) := by decide +kernel
  have hrow : read (" ".intercalate
      ["X", "base-fret", "1", "frets", "frets", "0", "0", "0", "0", "0"]) .baseLast .song =
        .error (.invalidChordDefinition "X" (.badFret "frets")) := by decide +kernel
  refine ⟨by decide +kernel, fun _ h => not_isKey_of_isBase h hkey, fun _ h => h.not_isKey hkey,
    hbaseFirst, fun d h => ?_, hbaseLast, fun d h => ?_⟩
  · cases hbase.symm.trans h
  · cases hrow.symm.trans h

end Forms

end ChordDefinition

end Songbook
