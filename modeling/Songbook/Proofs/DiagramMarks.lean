import Mathlib.Algebra.Order.Ring.Rat
import Mathlib.Data.List.FinRange
import Mathlib.Data.List.ReduceOption
import Mathlib.Tactic.Ring
import Songbook.Proofs.FontSelection
import Songbook.Proofs.PrintedDefinitions

/-!
# The marks of a diagram

What the code of a diagram paints is its strings and frets, the nut if the first row is the first
fret, and then the marks of the strings in their order (`run_diagram`). How a string is marked can
be said without any code (`Marked`): rings and crosses stand over it and a dot in the row of its
fret, and only a fret that lies in none of the rows has no mark.

A definition that has been read and entered is fitted to the diagram. So every string of it has its
mark, unless the definition was told to be too wide; then some string has none
(`definition_marked`).
-/

namespace Songbook

namespace Fingering

variable {f : Fingering}

theorem mem_held_iff {n : Nat} : n ∈ f.held ↔ ∃ s : Fin strings, f.frets[s] = .held n := by
  constructor
  · intro h
    obtain ⟨fret, hfret, hheld⟩ := List.mem_filterMap.1 h
    obtain ⟨s, hs, rfl⟩ := Vector.mem_iff_getElem.1 (Vector.mem_toList_iff.1 hfret)
    refine ⟨⟨s, hs⟩, ?_⟩
    show f.frets[s] = .held n
    generalize f.frets[s] = fret at hheld
    cases fret with
    | held => exact congrArg _ (Option.some.inj hheld)
    | openString => cases hheld
    | muted => cases hheld
  · rintro ⟨s, hs⟩
    exact mem_held (Vector.mem_toList_iff.2 (hs ▸ Vector.getElem_mem s.isLt))

/-- Fitting leaves a fret out of the diagram only if it says that the span is too wide. -/
theorem Fitting.hidden_iff {diagram : Nat} {g : Fingering} {adjustment : Adjustment}
    (h : Fitting f diagram (g, adjustment)) :
    ¬ g.Shows diagram ↔ ∃ span, adjustment = .tooWide span := by
  cases h with
  | kept hshows => exact ⟨fun h => absurd hshows h, fun ⟨_, h⟩ => nomatch h⟩
  | moved _ _ _ least => exact ⟨fun h => absurd least.1.2 h, fun ⟨_, h⟩ => nomatch h⟩
  | @tooWide span hspan hwide =>
    refine ⟨fun _ => ⟨span, rfl⟩, fun _ hshows => ?_⟩
    have hnarrow := span_le_of_shows hspan hshows
    omega

end Fingering

namespace PostScript

variable {L : Type}

/-- A path that is painted. -/
inductive Paint (L : Type) where
  | stroke (path : List (Segment L))
  | fill (path : List (Segment L))

/-- What is painted, in the coordinates in force there. -/
def Event.paint? : Event L → Option (List (Change L) × Paint L)
  | .stroked state => some (state.changes, .stroke state.path)
  | .filled state => some (state.changes, .fill state.path)
  | _ => none

/-- A line from one point to another. -/
def straight (h v h' v' : L) : List (Segment L) := [.moveTo h v, .lineTo h' v']

variable [Length L]

def circle (h v radius : L) : List (Segment L) :=
  [.arc h v radius (Length.ofInt 0) (Length.ofInt 360)]

namespace DiagramFrame

variable (frame : DiagramFrame L)

/-- The strings and the frets. -/
def grid : List (Segment L) :=
  ((List.range strings).flatMap fun s =>
    straight (frame.stringAt s) frame.top (frame.stringAt s) frame.bottom) ++
  (List.range (diagramRows + 1)).flatMap fun r =>
    straight frame.left (frame.fretAt r) frame.right (frame.fretAt r)

/-- The nut is drawn over the first fret of the neck only. -/
def nut (baseFret : Nat) : List (Paint L) :=
  if baseFret = 1 then [.stroke (straight frame.left frame.top frame.right frame.top)] else []

/-- The middle of a row, counted from one. -/
def rowMiddle (row : Nat) : L := frame.top - (Length.ofInt row - 0.5) * frame.row

def crossAt (x : L) : List (Segment L) :=
  let low := frame.top + 1
  let high := low + 2 * frame.marker
  straight (x - frame.marker) low (x + frame.marker) high ++
    straight (x + frame.marker) low (x - frame.marker) high

/-- The mark of a string in a diagram with this fret in its first row. -/
inductive Marked (base string : Nat) : Fret → Option (Paint L) → Prop
  | ring : Marked base string .openString (some (.stroke
      (circle (frame.stringAt string) (frame.top + frame.marker + 1) frame.marker)))
  | cross : Marked base string .muted (some (.stroke (frame.crossAt (frame.stringAt string))))
  | dot {fret row : Nat} (inside : 1 ≤ row ∧ row ≤ diagramRows) (h : fret + 1 = base + row) :
      Marked base string (.held fret) (some (.fill
        (circle (frame.stringAt string) (frame.rowMiddle row) (frame.marker * 1.5))))
  | hidden {fret : Nat} (outside : ∀ row, 1 ≤ row → row ≤ diagramRows → fret + 1 ≠ base + row) :
      Marked base string (.held fret) none

/-- All that a diagram paints, with these marks over and between its strings. -/
def paints (baseFret : Nat) (marks : Fin strings → Option (Paint L)) : List (Paint L) :=
  .stroke frame.grid :: (frame.nut baseFret ++ (List.ofFn marks).reduceOption)

theorem Marked.eq_none_iff {frame : DiagramFrame L} {base string : Nat} {fret : Fret}
    {mark : Option (Paint L)} (h : frame.Marked base string fret mark) :
    mark = none ↔ ∃ n, fret = .held n ∧ ¬ (base ≤ n ∧ n < base + diagramRows) := by
  cases h with
  | ring => exact ⟨nofun, fun ⟨_, h, _⟩ => nomatch h⟩
  | cross => exact ⟨nofun, fun ⟨_, h, _⟩ => nomatch h⟩
  | dot inside hrow =>
    refine ⟨nofun, fun ⟨n, hn, outside⟩ => ?_⟩
    cases hn
    omega
  | @hidden fret outside =>
    refine ⟨fun _ => ⟨fret, rfl, fun hinside => ?_⟩, fun _ => rfl⟩
    exact outside (fret + 1 - base) (by omega) (by omega) (by omega)

/-- A string is without a mark only where the fingering does not fit the diagram. -/
theorem exists_unmarked_iff {frame : DiagramFrame L} {f : Fingering}
    {marks : Fin strings → Option (Paint L)}
    (h : ∀ s : Fin strings, frame.Marked f.baseFret s f.frets[s] (marks s)) :
    (∃ s, marks s = none) ↔ ¬ f.Shows diagramRows := by
  rw [Fingering.shows_iff]
  constructor
  · rintro ⟨s, hs⟩ hshows
    obtain ⟨n, hn, outside⟩ := (h s).eq_none_iff.1 hs
    exact outside (hshows n (Fingering.mem_held_iff.2 ⟨s, hn⟩))
  · intro hhidden
    push Not at hhidden
    obtain ⟨n, hn, outside⟩ := hhidden
    obtain ⟨s, hs⟩ := Fingering.mem_held_iff.1 hn
    refine ⟨s, (h s).eq_none_iff.2 ⟨n, hs, fun inside => ?_⟩⟩
    have hbeyond := outside inside.1
    omega

/-- Over exact lengths a dot is halfway between two frets that are drawn. -/
theorem rowMiddle_eq (frame : DiagramFrame Rat) (row : Nat) :
    frame.rowMiddle (row + 1) = (frame.fretAt row + frame.fretAt (row + 1)) / 2 := by
  have hhalf : ((0.5 : Rat)) = 1 / 2 := by decide +kernel
  show frame.top - (((row + 1 : Nat) : Int) - 0.5) * frame.row =
    (frame.top - ((row : Int) : Rat) * frame.row +
      (frame.top - (((row + 1 : Nat) : Int) : Rat) * frame.row)) / 2
  rw [hhalf]
  push_cast
  ring

end DiagramFrame

namespace Machine

/-! ## Code that paints -/

/-- Nothing but these paths is painted meanwhile, in the coordinates in force. -/
structure Painted (ps : List (Paint L)) (m m' : Machine L) : Prop where
  saved : m'.saved = m.saved
  knows : m'.Knows
  changes : m'.graphics.changes = m.graphics.changes
  events : ∃ es, m'.events = m.events ++ es ∧
    es.filterMap Event.paint? = ps.map fun p => (m.graphics.changes, p)

omit [Length L] in
theorem Painted.trans {ps qs : List (Paint L)} {m₁ m₂ m₃ : Machine L} (h₁ : m₁.Painted ps m₂)
    (h₂ : m₂.Painted qs m₃) : m₁.Painted (ps ++ qs) m₃ := by
  obtain ⟨es₁, hevents₁, hpaints₁⟩ := h₁.events
  obtain ⟨es₂, hevents₂, hpaints₂⟩ := h₂.events
  rw [h₁.changes] at hpaints₂
  refine ⟨h₂.saved.trans h₁.saved, h₂.knows, h₂.changes.trans h₁.changes, es₁ ++ es₂, ?_, ?_⟩
  · rw [hevents₂, hevents₁, List.append_assoc]
  · rw [List.filterMap_append, hpaints₁, hpaints₂, List.map_append]

omit [Length L] in
theorem painted_withFont {m : Machine L} (hm : m.Knows) (font : ScaledFont L) :
    m.Painted [] (m.withFont font) :=
  ⟨rfl, ⟨hm.dot, hm.ring⟩, rfl, [], (List.append_nil _).symm, rfl⟩

variable (width : ScaledFont L → String → L)

/-- Code that only goes on with the path. -/
def Traces (ts : List (Token L)) (path : List (Segment L)) : Prop :=
  ∀ operands names g saved events, run width ts ⟨operands, names, g, saved, events⟩ =
    some ⟨operands, names, { g with path := g.path ++ path }, saved, events⟩

/-- Code that paints these paths while this font is in force. -/
def Paints (font : Font) (ts : List (Token L)) (ps : List (Paint L)) : Prop :=
  ∀ m : Machine L, m.Knows → m.graphics.font = some font.scaled →
    ∃ m', run width ts m = some m' ∧ m'.graphics.font = some font.scaled ∧ m.Painted ps m'

variable {width} {f : Font} {a b : List (Token L)} {p q : List (Segment L)} {ps qs : List (Paint L)}

theorem Traces.append (ha : Traces width a p) (hb : Traces width b q) :
    Traces width (a ++ b) (p ++ q) := by
  intro operands names g saved events
  rw [run_append, ha, Option.bind_some, hb, List.append_assoc]

theorem traces_straight (h v h' v' : L) :
    Traces width (moveTo h v ++ lineTo h' v') (straight h v h' v') :=
  fun _ _ _ _ _ => by rw [straight, ← List.singleton_append, ← List.append_assoc]; rfl

theorem Traces.rows {α : Type} {code : α → List (Token L)} {path : α → List (Segment L)}
    (h : ∀ x, Traces width (code x) (path x)) (xs : List α) :
    Traces width (tokens (xs.map fun x => .code (code x))) (xs.flatMap path) := by
  induction xs with
  | nil =>
    intro operands names g saved events
    rw [List.flatMap_nil, List.append_nil]
    rfl
  | cons x xs ih => exact (h x).append ih

theorem Paints.nil : Paints width f [] [] :=
  fun m hm hfont => ⟨m, rfl, hfont, rfl, hm, rfl, [], (List.append_nil _).symm, rfl⟩

theorem Paints.append (ha : Paints width f a ps) (hb : Paints width f b qs) :
    Paints width f (a ++ b) (ps ++ qs) := by
  intro m hm hfont
  obtain ⟨m₁, hrun₁, hfont₁, h₁⟩ := ha m hm hfont
  obtain ⟨m₂, hrun₂, hfont₂, h₂⟩ := hb m₁ h₁.knows hfont₁
  exact ⟨m₂, by rw [run_append, hrun₁, Option.bind_some, hrun₂], hfont₂, h₁.trans h₂⟩

/-- What is painted stays when the state that was saved is gone back to. -/
theorem Paints.saving (ha : Paints width f a ps) :
    Paints width f (.op .gsave :: (a ++ [.op .grestore])) ps := by
  intro m hm hfont
  obtain ⟨operands, names, g, saved, events⟩ := m
  obtain ⟨m', hrun, -, h'⟩ :=
    ha ⟨operands, names, g, g :: saved, events⟩ ⟨hm.dot, hm.ring⟩ hfont
  obtain ⟨operands', names', g', saved', events'⟩ := m'
  obtain rfl : saved' = g :: saved := h'.saved
  refine ⟨⟨operands', names', g, saved, events'⟩, ?_, hfont, rfl, ⟨h'.knows.dot, h'.knows.ring⟩,
    rfl, h'.events⟩
  show run width (a ++ [.op .grestore]) ⟨operands, names, g, g :: saved, events⟩ = _
  rw [run_append, hrun]
  rfl

/-- A new path is stroked as far as it goes. -/
theorem Traces.paints (ha : Traces width a p) :
    Paints width f (.op .newpath :: (a ++ [.op .stroke])) [.stroke p] := by
  intro m hm hfont
  obtain ⟨operands, names, g, saved, events⟩ := m
  have hrun : run width (.op .newpath :: (a ++ [.op .stroke])) ⟨operands, names, g, saved, events⟩ =
      (run width a ⟨operands, names, g.withoutPath, saved, events⟩).bind
        (run width [.op .stroke]) := run_append width a _ _
  rw [ha] at hrun
  exact ⟨_, hrun, hfont, rfl, ⟨hm.dot, hm.ring⟩, rfl, _, rfl, rfl⟩

/-- Code that only changes the path and how it is painted. -/
theorem Paints.of_run (h : ∀ m : Machine L, ∃ m', run width a m = some m' ∧
    m'.graphics.font = m.graphics.font ∧ m'.graphics.changes = m.graphics.changes ∧
    m'.names = m.names ∧ m'.saved = m.saved ∧ m'.events = m.events) : Paints width f a [] := by
  intro m hm hfont
  obtain ⟨m', hrun, hfont', hchanges, hnames, hsaved, hevents⟩ := h m
  exact ⟨m', hrun, hfont'.trans hfont, hsaved, ⟨hnames ▸ hm.dot, hnames ▸ hm.ring⟩, hchanges, [],
    hevents.trans (List.append_nil _).symm, rfl⟩

theorem paints_moveTo (h v : L) : Paints width f (moveTo h v) [] :=
  .of_run fun _ => ⟨_, rfl, rfl, rfl, rfl, rfl, rfl⟩

theorem paints_lineWidth (x : L) : Paints width f [.length x, .op .setlinewidth] [] :=
  .of_run fun _ => ⟨_, rfl, rfl, rfl, rfl, rfl, rfl⟩

theorem paints_showAligned (text : String) (align : Align) :
    Paints width f (showAligned text align) [] := by
  intro m hm hfont
  obtain ⟨operands, names, ⟨font, path, gray, lineWidth, changes⟩, saved, events⟩ := m
  obtain rfl : font = some f.scaled := hfont
  obtain ⟨hdot, hring⟩ := hm
  cases align with
  | left => exact ⟨_, rfl, rfl, rfl, ⟨hdot, hring⟩, rfl, _, rfl, rfl⟩
  | center => exact ⟨_, rfl, rfl, rfl, ⟨hdot, hring⟩, rfl, _, List.append_assoc .., rfl⟩
  | right => exact ⟨_, rfl, rfl, rfl, ⟨hdot, hring⟩, rfl, _, List.append_assoc .., rfl⟩

/-- Rings and dots are circles that are stroked or filled. -/
theorem paints_circle {name : String} {paint : Operator} {h v radius : L} {p : Paint L}
    (hpaint : paint = .fill ∧ p = .fill (circle h v radius) ∨
      paint = .stroke ∧ p = .stroke (circle h v radius))
    (hname : ∀ m : Machine L, m.Knows →
      m.names name = some (.procedure [.integer 0, .integer 360, .op .arc, .op paint])) :
    Paints width f [.op .newpath, .length h, .length v, .length radius, .call name] [p] := by
  intro m hm hfont
  have hrun : run width _ m = _ := run_circle (hname m hm) h v radius
  rcases hpaint with ⟨rfl, rfl⟩ | ⟨rfl, rfl⟩
  · exact ⟨_, hrun, hfont, rfl, ⟨hm.dot, hm.ring⟩, rfl, _, rfl, rfl⟩
  · exact ⟨_, hrun, hfont, rfl, ⟨hm.dot, hm.ring⟩, rfl, _, rfl, rfl⟩

theorem Paints.flatMap {α : Type} {rows : α → List (Row L)} {paints : α → List (Paint L)}
    (h : ∀ x, Paints width f (tokens (rows x)) (paints x)) (xs : List α) :
    Paints width f (tokens (xs.flatMap rows)) (xs.flatMap paints) := by
  induction xs with
  | nil => exact .nil
  | cons x xs ih =>
    rw [List.flatMap_cons, tokens_append]
    exact (h x).append ih

/-! ## Diagrams -/

section Diagram

variable (frame : DiagramFrame L)

/-- The code of a string's mark, if there is any, paints the mark. -/
theorem paints_mark (fingering : Fingering) (string : Nat) (fret : Fret) :
    ∃ mark, frame.Marked fingering.baseFret string fret mark ∧ ∀ width f,
      Paints width f (tokens (frame.mark? fingering string fret).toList) mark.toList := by
  cases fret with
  | openString =>
    exact ⟨_, .ring, fun _ _ => paints_circle (.inr ⟨rfl, rfl⟩) fun _ hm => hm.ring⟩
  | muted =>
    refine ⟨_, .cross, fun _ _ => ?_⟩
    exact ((traces_straight _ _ _ _).append (traces_straight _ _ _ _)).paints
  | held n =>
    unfold DiagramFrame.mark?
    dsimp only
    split
    · next hinside =>
      obtain ⟨row, hrow⟩ := Int.eq_ofNat_of_zero_le (Int.le_trans (by decide) hinside.1)
      rw [hrow] at hinside ⊢
      unfold Fingering.row at hrow
      have hinRow : n + 1 = fingering.baseFret + row := by omega
      refine ⟨_, .dot (by omega) hinRow, fun _ _ => ?_⟩
      exact paints_circle (.inl ⟨rfl, rfl⟩) fun _ hm => hm.dot
    · next houtside =>
      refine ⟨_, .hidden fun row hfirst hlast hrow => houtside ?_, fun _ _ => .nil⟩
      unfold Fingering.row
      omega

theorem marks_eq_flatMap (fingering : Fingering) :
    frame.marks fingering = (List.finRange strings).flatMap fun s : Fin strings =>
      (frame.mark? fingering s fingering.frets[s]).toList := by
  have hpairs : fingering.frets.toList.zipIdx =
      (List.finRange strings).map fun s => (fingering.frets[s], s.val) := by
    refine List.ext_getElem (by simp) fun i hi hi' => ?_
    simp
  rw [DiagramFrame.marks, hpairs, List.filterMap_map, List.filterMap_eq_flatMap_toList]
  rfl

variable (width f) in
/-- The strings and the frets, but for what is saved before them. -/
theorem paints_lines : ∃ ts, tokens frame.lines = .op .gsave :: ts ∧
    Paints width f ts [.stroke frame.grid] := by
  have hstrings : Traces width _ _ := .rows (fun s => traces_straight (frame.stringAt s) frame.top
    (frame.stringAt s) frame.bottom) (List.range strings)
  have hfrets : Traces width _ _ := .rows (fun r => traces_straight frame.left (frame.fretAt r)
    frame.right (frame.fretAt r)) (List.range (diagramRows + 1))
  refine ⟨_, ?_, (paints_lineWidth 0.5).append (hstrings.append hfrets).paints⟩
  simp only [DiagramFrame.lines, tokens_append, List.append_assoc]
  rfl

theorem paints_base (baseFret : Nat) :
    Paints width f (tokens (frame.base baseFret)) (frame.nut baseFret) := by
  unfold DiagramFrame.base DiagramFrame.nut
  split
  · have hthick : Paints width f ([.integer 2, .op .setlinewidth] : List (Token L)) [] :=
      .of_run fun _ => ⟨_, rfl, rfl, rfl, rfl, rfl, rfl⟩
    exact hthick.append (traces_straight _ _ _ _).paints
  · exact (paints_moveTo _ _).append (paints_showAligned (toString baseFret) .right)

theorem paints_written (adjustedFrom : Option Nat) :
    Paints width f (tokens (frame.written adjustedFrom)) [] := by
  cases adjustedFrom with
  | none => exact .nil
  | some base => exact (paints_moveTo _ _).append (paints_showAligned _ .left)

/-- What a diagram paints, with a mark for each string. -/
theorem paints_fingering (fingering : Fingering) :
    ∃ marks : Fin strings → Option (Paint L),
      (∀ s : Fin strings, frame.Marked fingering.baseFret s fingering.frets[s] (marks s)) ∧
      ∀ width f,
        Paints width f (tokens (frame.rows fingering)) (frame.paints fingering.baseFret marks) := by
  choose marks hmarked hpaints using fun s : Fin strings =>
    paints_mark frame fingering s fingering.frets[s]
  refine ⟨marks, hmarked, fun width f => ?_⟩
  obtain ⟨ts, hlines, hgrid⟩ := paints_lines width f frame
  have hmarks : Paints width f (tokens (frame.marks fingering)) (List.ofFn marks).reduceOption := by
    rw [marks_eq_flatMap, List.ofFn_eq_map, List.reduceOption, List.filterMap_map,
      List.filterMap_eq_flatMap_toList]
    exact Paints.flatMap (fun s => hpaints s width f) _
  have h := ((hgrid.append (paints_base frame fingering.baseFret)).append
    (paints_written frame fingering.adjustedFrom)).append ((paints_lineWidth 0.5).append hmarks)
  rw [tokens_rows frame hlines]
  simpa [DiagramFrame.paints] using h.saving

/-- Whichever font is in force before it, a diagram prints its texts and paints what its fingering
paints. -/
theorem run_diagram {width : ScaledFont L → String → L} {m : Machine L} (hm : m.Knows)
    {current : Option Font} (hcurrent : m.InForce current) {d : ChordDefinition}
    {fingering : Fingering} (hd : d.fingering = some fingering) (label : Option String)
    (font : Font) (size : L) (origin : Point L) {ps : List (Paint L)}
    (h : Paints width font (tokens ((DiagramFrame.below origin.h
      (origin.v - Length.ofInt font.size) size).rows fingering)) ps) :
    ∃ m', run width (tokens (diagram current d label font size origin)) m = some m' ∧
      m.Prints (diagramUses font d label) m' ∧ m.Painted ps m' := by
  have hname : Paints width font (moveTo (origin.h + size / 2)
      (origin.v - Length.ofInt font.size) ++ showAligned d.name .center) [] :=
    (paints_moveTo _ _).append (paints_showAligned _ .center)
  have hpaints : Paints width font (tokens (diagram (some font) d label font size origin)) ps := by
    simp only [diagram, selectFont, if_true, tokens_append, hd]
    refine (hname.append (?_ : Paints width font _ [])).append h
    cases label with
    | none => exact .nil
    | some text => exact paints_showAligned text .left
  have hselected := prints_withFont hm font.scaled
  have hpainted := painted_withFont hm font.scaled
  have hkeeps : Keeps width font _ _ := keeps_diagram d label size origin
  obtain ⟨m₁, hrun₁, -, -, h₁⟩ := hkeeps _ hselected.knows rfl
  obtain ⟨m₂, hrun₂, -, h₂⟩ := hpaints _ hselected.knows rfl
  obtain rfl := Option.some.inj (hrun₁.symm.trans hrun₂)
  refine ⟨m₁, ?_, hselected.trans h₁, hpainted.trans h₂⟩
  rw [tokens_diagram, run_append, run_selectFont width hcurrent, Option.bind_some, hrun₁]

end Diagram

end Machine

end PostScript

namespace ChordBook

open PostScript Machine Text

variable {L : Type} [Length L]

theorem problem?_eq_ungridable_iff {name : String} {adjustment : Adjustment} {span : Nat} :
    problem? name adjustment = some (.ungridable name span) ↔ adjustment = .tooWide span := by
  cases adjustment with
  | kept => exact ⟨nofun, nofun⟩
  | moved => exact ⟨nofun, nofun⟩
  | tooWide span' => simp [problem?]

/-- On any page, the diagram of a definition that was read and entered by a fitting book has a mark
for each string and no other marks: for its fret, and in its row from the base fret on that is
printed. Only if the definition was told to be ungridable some strings have none, and these are
held in none of the rows. -/
theorem definition_marked {args : String} {order : FretOrder} {origin : Origin}
    {d : ChordDefinition} (hread : ChordDefinition.read args order origin = .ok d) {b : ChordBook}
    (hadjust : b.autoAdjust = true) (width : ScaledFont L → String → L) {pen : Pen L}
    {m : Machine L} (hstep : InStep true pen m) :
    ∃ entered f ws base rows,
      (b.define d).1.get? d.name = some entered ∧ entered.fingering = some f ∧
      words args = d.name :: ws ∧
      ChordDefinition.arguments d.name ws order = .ok (base, rows) ∧
      f.frets = rows.map (ChordDefinition.placed base) ∧
      ∀ (label : Option String) (font : Font) (size : L),
        let frame := DiagramFrame.below pen.point.h (pen.point.v - Length.ofInt font.size) size
        ∃ (marks : Fin strings → Option (Paint L)) (m' : Machine L),
          run width (tokens (draw pen (.diagram entered label font size)).1) m = some m' ∧
          m.Prints (diagramUses font entered label) m' ∧
          m.Painted (frame.paints f.baseFret marks) m' ∧
          (∀ s : Fin strings, frame.Marked f.baseFret s f.frets[s] (marks s)) ∧
          ((∃ s, marks s = none) ↔
            ∃ span, problem? d.name (b.define d).2 = some (.ungridable d.name span)) := by
  obtain ⟨ws, base, rows, hwords, harguments, hneck, hd⟩ := ChordDefinition.exists_arguments hread
  let written : Fingering := ⟨base, rows.map (ChordDefinition.placed base), none, false⟩
  have hwritten : d.fingering = some written := by rw [hd]; rfl
  have hneck : written.OnNeck := Fingering.onNeck_of_writable
    (Fingering.writable_ofRows (ChordDefinition.arguments_inRange harguments) hneck)
  rcases hadjusted : written.adjust diagramRows with ⟨f, adjustment⟩
  have hfitting := hadjusted ▸ Fingering.fitting_adjust hneck diagramRows
  have hfrets : f.frets = written.frets := by
    rw [← Fingering.frets_adjust written diagramRows, hadjusted]
  have hfitted : b.fitted d = ({ d with fingering := some f }, adjustment) := by
    rw [fitted, hadjust, hwritten]
    dsimp only
    rw [hadjusted]
  have hentered : (b.define d).1.get? d.name = some { d with fingering := some f } := by
    rw [get?_define, hfitted]
  have htold : (b.define d).2 = adjustment := congrArg Prod.snd hfitted
  refine ⟨_, f, ws, base, rows, hentered, rfl, hwords, harguments, hfrets,
    fun label font size => ?_⟩
  obtain ⟨marks, hmarked, hpaints⟩ := paints_fingering
    (DiagramFrame.below pen.point.h (pen.point.v - Length.ofInt font.size) size) f
  obtain ⟨m', hrun, hprints, hpainted⟩ := run_diagram hstep.knows (hstep.font rfl)
    (d := { d with fingering := some f }) rfl label font size pen.point (hpaints width font)
  refine ⟨marks, m', hrun, hprints, hpainted, hmarked, ?_⟩
  rw [DiagramFrame.exists_unmarked_iff hmarked, hfitting.hidden_iff, htold]
  exact exists_congr fun span => problem?_eq_ungridable_iff.symm

theorem definition_marked_wide :
    let d := ChordDefinition.ofRows "Wide" .song 1 #v[-1, 1, 0, 3, 8, 5]
    let g : Graphics Rat := ⟨none, [], 0, 1, []⟩
    let m : Machine Rat := { ready (fun _ => none) g with saved := [g] }
    let width : ScaledFont Rat → String → Rat := fun font text => text.length * font.size
    ChordDefinition.read "Wide 1 x 1 0 3 8 5" .baseFirst .song = .ok d ∧
      (empty true).autoAdjust = true ∧ InStep true Pen.start m ∧
      ∃ entered m', ((empty true).define d).1.get? "Wide" = some entered ∧
        run width (tokens (draw Pen.start (.diagram entered none ⟨"Times-Roman", 12⟩ 50)).1) m =
          some m' ∧
        problem? "Wide" ((empty true).define d).2 = some (.ungridable "Wide" 8) ∧
        ∃ marks, m.Painted ((DiagramFrame.below 0 (0 - 12) 50).paints 1 marks) m' ∧
          marks 4 = none := by
  intro d g m width
  have hread : ChordDefinition.read "Wide 1 x 1 0 3 8 5" .baseFirst .song = .ok d := by
    decide +kernel
  have hstep : InStep true Pen.start m := ⟨⟨rfl, rfl⟩, rfl, rfl, fun _ => inForce_none _⟩
  obtain ⟨entered, f, -, -, -, hget, hf, -, -, -, hdrawn⟩ :=
    definition_marked hread (b := empty true) rfl width hstep
  obtain ⟨marks, m', hrun, -, hpainted, hmarked, -⟩ := hdrawn none ⟨"Times-Roman", 12⟩ 50
  have hwide : ((empty true).fitted d).1 = { d with
      fingering := some ⟨1, #v[.muted, .held 1, .openString, .held 3, .held 8, .held 5], none,
        true⟩ } := by decide +kernel
  obtain rfl := Option.some.inj ((get?_define _ d).symm.trans hget)
  rw [hwide] at hf
  obtain rfl := Option.some.inj hf
  refine ⟨hread, rfl, hstep, _, m', hget, hrun, by decide +kernel, marks, hpainted, ?_⟩
  exact (hmarked 4).eq_none_iff.2 ⟨8, rfl, by decide⟩

end ChordBook

end Songbook
