import Songbook.Proofs.ChordBooks
import Songbook.Proofs.DefinitionForms
import Songbook.Proofs.DiagramFit

/-!
# Definitions read back

The text of a definition writes every fret as its row from the base fret on, so it can be read again
only if those are rows that a definition may have (`Writable`). What has been read is writable, and
moving the base fret leaves it so, since a diagram then shows every fret (`Fitting.writable`). Read
again, a writable fingering is the one that was written but for the marks that fitting left on it
(`read_text`).
-/

namespace Songbook

open Text Decimal ChordDefinition

namespace Fingering

variable {f : Fingering} {name : String} {origin : Origin}

/-- The frets held are rows of a definition from the base fret on. -/
structure Writable (f : Fingering) : Prop where
  base : 1 ≤ f.baseFret ∧ f.baseFret ≤ lastFret
  held : ∀ n ∈ f.held, f.baseFret ≤ n ∧ n ≤ lastFret ∧ n < f.baseFret + 127

/-- The fingering without what fitting has noted on it. -/
def unmarked (f : Fingering) : Fingering := { f with adjustedFrom := none, ungridable := false }

/-- The row that is written for a string. -/
def rowOf (f : Fingering) : Fret → Int
  | .muted => -1
  | .openString => 0
  | .held n => f.row n

def writtenRows (f : Fingering) : Vector Int strings := f.frets.map f.rowOf

theorem mem_held {n : Nat} (h : .held n ∈ f.frets.toList) : n ∈ f.held :=
  List.mem_filterMap.2 ⟨.held n, h, rfl⟩

namespace Writable

variable (h : f.Writable)

include h

theorem row_eq {n : Nat} (hn : n ∈ f.held) : f.row n = (n - f.baseFret + 1 : Nat) := by
  have hbase := (h.held n hn).1
  unfold row
  omega

theorem placed_rowOf {fret : Fret} (hfret : fret ∈ f.frets.toList) :
    placed f.baseFret (f.rowOf fret) = fret := by
  cases fret with
  | muted => rfl
  | openString => rfl
  | held n =>
    have hn := mem_held hfret
    have hbase := (h.held n hn).1
    rw [rowOf, h.row_eq hn, placed, if_neg (by omega), if_neg (by omega)]
    congr
    omega

theorem ofRows_writtenRows :
    ChordDefinition.ofRows name origin f.baseFret f.writtenRows =
      ⟨name, origin, .hard, some f.unmarked⟩ := by
  have hplaces : f.writtenRows.map (placed f.baseFret) = f.frets := by
    rw [writtenRows, Vector.map_map]
    refine (Vector.map_congr_left fun fret hfret => ?_).trans (Vector.map_id _)
    exact h.placed_rowOf (Vector.mem_toList_iff.2 hfret)
  rw [ChordDefinition.ofRows, hplaces]
  rfl

theorem neckReaches : NeckReaches f.baseFret f.writtenRows := by
  intro row hrow hpos
  obtain ⟨fret, hfret, rfl⟩ := List.mem_map.1 (Vector.toList_map ▸ hrow)
  cases fret with
  | muted => cases hpos
  | openString => cases hpos
  | held n =>
    have hn := h.held n (mem_held hfret)
    show _ + f.row n - 1 ≤ _
    unfold Fingering.row
    omega

theorem isBase : IsBase (toString f.baseFret) f.baseFret := ⟨writes_toString _, h.base⟩

theorem isRow_relativeText : List.Forall₂ IsRow f.relativeText f.writtenRows.toList := by
  rw [writtenRows, Vector.toList_map, relativeText, List.forall₂_map_left_iff,
    List.forall₂_map_right_iff, List.forall₂_same]
  intro fret hfret
  cases fret with
  | muted => exact .inl ⟨.inl rfl, rfl⟩
  | openString => exact .inr ⟨writes_toString 0, show (0 : Int) ≤ 0 ∧ (0 : Int) ≤ 127 by decide⟩
  | held n =>
    have hn := mem_held hfret
    have hlast := (h.held n hn).2.2
    show IsRow (toString (f.row n)) (f.row n)
    rw [h.row_eq hn]
    exact .inr ⟨writes_toString _, by omega, by omega⟩

/-- The text defines the fingering again. -/
theorem defines_text : Defines name (toString f.baseFret) f.relativeText origin
    ⟨name, origin, .hard, some f.unmarked⟩ :=
  ⟨f.baseFret, f.writtenRows, h.isBase, h.isRow_relativeText, h.neckReaches,
    h.ofRows_writtenRows.symm⟩

end Writable

theorem onNeck_of_writable (h : f.Writable) : f.OnNeck := fun n hn => by
  have hheld := h.held n hn
  have hbase := h.base.1
  omega

/-- Rows of a definition are written again as they are. -/
theorem writable_ofRows {base : Nat} {rows : Vector Int strings} (h : InRange base rows)
    (hneck : NeckReaches base rows) : Writable ⟨base, rows.map (placed base), none, false⟩ := by
  refine ⟨h.base, fun n hn => ?_⟩
  obtain ⟨fret, hfret, hheld⟩ := List.mem_filterMap.1 hn
  obtain ⟨row, hrow, rfl⟩ := List.mem_map.1 (Vector.toList_map ▸ hfret)
  have hlast := h.rows row hrow
  have hreach := hneck row hrow
  unfold placed at hheld
  split at hheld
  · cases hheld
  · split at hheld
    · cases hheld
    · obtain rfl := Option.some.inj hheld
      show base ≤ _ ∧ _ ∧ _ < base + 127
      omega

/-- A diagram shows no more rows than a definition may write. -/
theorem Fitting.writable {diagram : Nat} {r : Fingering × Adjustment} (hf : f.Writable)
    (hdiagram : diagram ≤ 127) (h : Fitting f diagram r) : r.1.Writable := by
  cases h with
  | kept => exact hf
  | @moved _ base hidden _ _ least =>
    obtain ⟨hpos, hshows⟩ := least.1
    have hrows : ∀ n ∈ f.held, base ≤ n ∧ n < base + diagram := shows_iff.1 hshows
    obtain ⟨low, high, hreaches⟩ := exists_reaches (held_ne_nil_of_hidden hidden)
    have hlow := hrows low hreaches.low_mem
    have hlast := (hf.held low hreaches.low_mem).2.1
    refine ⟨⟨hpos, by show base ≤ _; omega⟩, fun n hn => ?_⟩
    have hrow := hrows n hn
    exact ⟨hrow.1, (hf.held n hn).2.1, by show n < base + 127; omega⟩
  | tooWide => exact ⟨hf.base, hf.held⟩

end Fingering

namespace ChordDefinition

variable {d : ChordDefinition} {f : Fingering} {args : String} {order : FretOrder} {origin : Origin}

/-- The definition has a name that is read as one word, and a fingering that can be written. -/
structure Printable (d : ChordDefinition) (f : Fingering) : Prop where
  name : IsWord d.name
  hard : d.difficulty = .hard
  fingering : d.fingering = some f
  writable : f.Writable

/-- What is written of a definition is read again. -/
theorem Printable.read_text (h : d.Printable f) (order : FretOrder) (origin : Origin) :
    read d.text order origin = .ok ⟨d.name, origin, .hard, some f.unmarked⟩ := by
  have htext : d.text = " ".intercalate
      (d.name :: "base-fret" :: toString f.baseFret :: "frets" :: f.relativeText) := by
    rw [text, h.fingering]
    rfl
  have hrows := h.writable.isRow_relativeText
  have hlength : f.relativeText.length = strings := by
    rw [hrows.length_eq, Vector.length_toList]
  rw [htext]
  exact (reads_baseThenFrets h.name h.writable.isBase.1.isWord (isWord_of_forall₂ hrows) hlength
    (by decide) (by decide)).2 h.writable.defines_text

/-- What is read is a name, and rows from a base fret on. -/
theorem printable_of_read (h : read args order origin = .ok d) :
    ∃ f, d.Printable f := by
  obtain ⟨ws, base, rows, hwords, harguments, hneck, hd⟩ := exists_arguments h
  have hname : IsWord d.name := isWord_of_mem_words (hwords ▸ List.mem_cons_self)
  rw [hd]
  exact ⟨_, hname, rfl, rfl, Fingering.writable_ofRows (arguments_inRange harguments) hneck⟩

end ChordDefinition

namespace ChordBook

variable {b : ChordBook} {d : ChordDefinition} {f : Fingering}

theorem get?_define (b : ChordBook) (d : ChordDefinition) :
    (b.define d).1.get? d.name = some (b.fitted d).1 := by
  rw [get?_eq, entries_define, if_pos rfl]
  rfl

/-- A definition is still printable once it is fitted, with the same frets. -/
theorem printable_fitted (h : d.Printable f) :
    ∃ g, (b.fitted d).1.Printable g ∧ g.frets = f.frets := by
  unfold fitted
  split
  · next f' _ hf =>
    obtain rfl := Option.some.inj (h.fingering.symm.trans hf)
    have hfitting := Fingering.fitting_adjust (Fingering.onNeck_of_writable h.writable) diagramRows
    exact ⟨_, ⟨h.name, h.hard, rfl, hfitting.writable h.writable (by decide)⟩,
      Fingering.frets_adjust f diagramRows⟩
  · exact ⟨f, h, rfl⟩

/-- The text of a definition that was read and entered, fitted or not, is read in either order as
the same name, base fret and frets, and as the same fingering if fitting left no mark on it. -/
theorem read_text_define {args : String} {order : FretOrder} {origin : Origin}
    (h : ChordDefinition.read args order origin = .ok d) (b : ChordBook) :
    ∃ entered f, (b.define d).1.get? d.name = some entered ∧ entered.name = d.name ∧
      entered.fingering = some f ∧ d.fingering.map Fingering.frets = some f.frets ∧
      ∀ order' origin', ∃ f',
        ChordDefinition.read entered.text order' origin' =
            .ok ⟨d.name, origin', entered.difficulty, some f'⟩ ∧
          f'.baseFret = f.baseFret ∧ f'.frets = f.frets ∧
          (f.adjustedFrom = none → f.ungridable = false → f' = f) := by
  obtain ⟨f, hprintable⟩ := ChordDefinition.printable_of_read h
  obtain ⟨g, hentered, hfrets⟩ := printable_fitted (b := b) hprintable
  have hname := (fitted_keeps b d).1
  refine ⟨(b.fitted d).1, g, get?_define b d, hname, hentered.fingering, ?_, ?_⟩
  · rw [hprintable.fingering, hfrets]
    rfl
  · intro order' origin'
    refine ⟨g.unmarked, ?_, rfl, rfl, fun hfrom hmark => ?_⟩
    · rw [hentered.read_text order' origin', hname, hentered.hard]
    · rw [Fingering.unmarked, ← hfrom, ← hmark]

theorem read_text_define_movedUp :
    let d := ChordDefinition.ofRows "Bb" .song 1 #v[-1, 10, 12, 12, 12, 10]
    let text := "Bb base-fret 8 frets x 3 5 5 5 3"
    ChordDefinition.read "Bb 1 x 10 12 12 12 10" .baseFirst .song = .ok d ∧
      ∃ entered f, ((empty true).define d).1.get? "Bb" = some entered ∧ entered.text = text ∧
        entered.fingering = some f ∧ f.baseFret = 8 ∧ f.adjustedFrom = some 1 ∧
        ∃ f', ChordDefinition.read text .baseLast .configuration =
            .ok ⟨"Bb", .configuration, .hard, some f'⟩ ∧
          f'.baseFret = f.baseFret ∧ f'.frets = f.frets := by
  intro d text
  have hread : ChordDefinition.read "Bb 1 x 10 12 12 12 10" .baseFirst .song = .ok d := by
    decide +kernel
  obtain ⟨entered, f, hget, -, hf, -, hagain⟩ := read_text_define hread (empty true)
  have hmoved : ((empty true).fitted d).1 = { d with
      fingering := some ⟨8, #v[.muted, .held 10, .held 12, .held 12, .held 12, .held 10], some 1,
        false⟩ } := by decide +kernel
  obtain rfl := Option.some.inj ((get?_define _ d).symm.trans hget)
  have htext : ((empty true).fitted d).1.text = text := by decide +kernel
  rw [hmoved] at hf
  obtain rfl := Option.some.inj hf
  obtain ⟨f', hagain, hbase, hfrets, -⟩ := hagain .baseLast .configuration
  rw [htext, hmoved] at hagain
  exact ⟨hread, _, _, hget, htext, by rw [hmoved], rfl, rfl, f', hagain, hbase, hfrets⟩

end ChordBook

end Songbook
