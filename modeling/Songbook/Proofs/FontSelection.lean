import Songbook.Proofs.FontCode
import Songbook.Proofs.Sheets

/-!
# Selecting fonts

A pen selects a font only where it takes another one to be in force. It is right about that on every
page (`InStep`), so each text is measured and shown in the font that was asked for, and a pen that
selects the font before every text prints the same.
-/

namespace Songbook

namespace Drawing

/-- Whether a page is open after a drawing, unless it is out of place: pages follow each other, and
whatever is drawn is drawn on a page. -/
def pageAfter {L : Type} (isOpen : Bool) : Drawing L → Option Bool
  | .beginSheet _ => if isOpen then none else some true
  | .endSheet _ => if isOpen then some false else none
  | .beginDocument _ | .endDocument _ | .transform _ | .moveTo _ => some isOpen
  | .resetTransform | .text .. | .chords .. | .stroke .. | .diagram .. =>
    if isOpen then some true else none

section Documents

variable {L : Type} {ds es : List (Drawing L)}

theorem pages_append {isOpen₁ isOpen₂ isOpen₃ : Bool}
    (hds : ds.foldlM pageAfter isOpen₁ = some isOpen₂)
    (hes : es.foldlM pageAfter isOpen₂ = some isOpen₃) :
    (ds ++ es).foldlM pageAfter isOpen₁ = some isOpen₃ := by
  rw [List.foldlM_append, hds]
  exact hes

theorem pageAfter_content {d : Drawing L} (h : d.isContent) : d.pageAfter true = some true := by
  cases d <;> simp_all [isContent, pageAfter]

theorem pages_contents (h : ∀ d ∈ ds, d.isContent) : ds.foldlM pageAfter true = some true := by
  induction ds with
  | nil => rfl
  | cons d ds ih =>
    rw [List.foldlM_cons, pageAfter_content (h d (by simp))]
    exact ih fun e he => h e (List.mem_cons_of_mem _ he)

variable [Length L] {g : PageGeometry L} {p : Pagination}

theorem pages_pageOpening (slot : Nat) :
    (pageOpening g p slot).foldlM pageAfter true = some true := by
  unfold pageOpening
  split <;> rfl

theorem OpenSheet.pages {n k : Nat} (h : OpenSheet g p n k ds) :
    ds.foldlM pageAfter false = some true := by
  induction h with
  | first =>
    have hsheet : (sheetOpening g p n).foldlM pageAfter false = some true := by
      unfold sheetOpening
      split <;> rfl
    exact pages_append hsheet (pages_pageOpening 1)
  | content _ hd ih => exact pages_append ih (pages_contents (by simpa using hd))
  | page _ _ ih => exact pages_append ih (pages_pageOpening _)

theorem ClosedSheets.pages {n : Nat} (h : ClosedSheets g p n ds) :
    ds.foldlM pageAfter false = some false := by
  induction h with
  | none => rfl
  | @sheet n k _ _ footer _ ho hf ih =>
    have hreset : (if p = .one then [] else [.resetTransform] : List (Drawing L)).foldlM
        pageAfter true = some true := by
      split <;> rfl
    have hend : ([.endSheet (n + 1)] : List (Drawing L)).foldlM pageAfter true = some false := rfl
    exact pages_append (pages_append ih ho.pages)
      (pages_append (pages_append hreset (pages_contents hf)) hend)

end Documents

end Drawing

variable {L : Type} [Length L]

namespace PostScript

/-- The texts of a drawing in the fonts that it asks for. -/
def drawingUses : Drawing L → List (TextUse L)
  | .text words _ font align decoration =>
    decorationUses font words decoration ++ alignedUses font words align
  | .chords line textFont chordFont =>
    line.chords.flatMap (chordUses line.text textFont chordFont)
  | .diagram chord label font _ => diagramUses font chord label
  | _ => []

/-- A drawing by a pen that selects the font at once and again before every text. -/
def drawSelecting (pen : Pen L) : Drawing L → List (Token L)
  | .text words _ font align decoration =>
    tokens (selectFont none font) ++
      selecting font
        (tokens (decorate pen.point words font.size decoration) ++ showAligned words align)
  | .chords line textFont chordFont =>
    [.symbol "minhpos", .length pen.point.h, .op .define] ++
      line.chords.flatMap (placeChordSelecting line.text textFont chordFont pen.point)
  | .diagram chord label font size =>
    tokens (selectFont none font) ++
      selecting font (tokens (diagram (some font) chord label font size pen.point))
  | d => tokens (draw pen d).1

def drawAllSelecting (pen : Pen L) : List (Drawing L) → List (Token L)
  | [] => []
  | d :: ds => drawSelecting pen d ++ drawAllSelecting (draw pen d).2 ds

namespace Machine

/-- A machine that knows the names that documents define. -/
def withPrologue : Machine L → Machine L
  | ⟨operands, names, g, saved, events⟩ =>
    ⟨operands, define (define (define names
      "inch" (.procedure [.integer 72, .op .mul]))
      "dot" (.procedure [.integer 0, .integer 360, .op .arc, .op .fill]))
      "ring" (.procedure [.integer 0, .integer 360, .op .arc, .op .stroke]), g, saved, events⟩

theorem run_prologue (width : ScaledFont L → String → L) (g : PageGeometry L) (m : Machine L) :
    run width (tokens (prologue g)) m = some m.withPrologue := rfl

variable {width : ScaledFont L → String → L} {f : Font} {u : List (TextUse L)}

/-- The machine has the font in force that the pen takes to be, and nothing saved but the page that
is open. Between pages the pen may be wrong, since it keeps the font of the page that has ended. -/
structure InStep (isOpen : Bool) (pen : Pen L) (m : Machine L) : Prop where
  knows : m.Knows
  operands : m.operands = []
  saved : m.saved.length = isOpen.toNat
  font : isOpen = true → m.InForce pen.font

theorem InStep.prints {isOpen : Bool} {pen pen' : Pen L} {m m' : Machine L}
    (h : InStep isOpen pen m) (hp : m.Prints u m') (hfont : isOpen = true → m'.InForce pen'.font) :
    InStep isOpen pen' m' :=
  ⟨hp.knows, hp.operands.trans h.operands, (congrArg List.length hp.saved).trans h.saved, hfont⟩

section Pages

variable {pen : Pen L} {m : Machine L}

/-- What is quiet may stand anywhere. -/
theorem InStep.quiet {isOpen : Bool} (h : InStep isOpen pen m) {ts : List (Token L)}
    (hts : Quiet width ts) (point : Point L) :
    ∃ m', run width ts m = some m' ∧ InStep isOpen ⟨pen.font, point⟩ m' ∧
      m'.textUses = m.textUses := by
  obtain ⟨m', hrun, hfont, hp⟩ := hts.runs m h.knows
  exact ⟨m', hrun, h.prints hp fun ho f hf => hfont.trans (h.font ho f hf),
    hp.textUses_eq.trans (List.append_nil _)⟩

/-- What is drawn on a page in a font leaves this font in force. -/
theorem InStep.selected (h : InStep true pen m) {ts : List (Token L)} (hts : Keeps width f ts u) :
    ∃ m', run width (tokens (selectFont pen.font f) ++ ts) m = some m' ∧
      run width (tokens (selectFont none f) ++ selecting f ts) m = some m' ∧
      InStep true { pen with font := some f } m' ∧ m'.textUses = m.textUses ++ u := by
  have hselect := prints_withFont h.knows f.scaled
  obtain ⟨m', hrun, hselecting, hfont, hp⟩ := hts _ hselect.knows rfl
  refine ⟨m', ?_, ?_, h.prints (hselect.trans hp) fun _ => inForce_some hfont,
    (hselect.trans hp).textUses_eq⟩
  · rw [run_append, run_selectFont width (h.font rfl), Option.bind_some, hrun]
  · rw [run_append, run_selectFont width (inForce_none m), Option.bind_some, hselecting]

/-- The font that a page ends with is forgotten where the next one begins. -/
theorem inStep_beginSheet (h : InStep false pen m) (number : Nat) :
    ∃ m', run width (tokens (beginSheet number)) m = some m' ∧
      InStep true { pen with font := none } m' ∧ m'.textUses = m.textUses := by
  obtain ⟨operands, names, g, saved, events⟩ := m
  exact ⟨⟨operands, names, g, g :: saved, events⟩, rfl, ⟨⟨h.knows.dot, h.knows.ring⟩, h.operands,
    congrArg (· + 1) h.saved, fun _ => inForce_none _⟩, rfl⟩

/-- What the page has saved is all there is to go back to. -/
theorem exists_saved (h : InStep true pen m) : ∃ g, m.saved = [g] :=
  List.length_eq_one_iff.mp h.saved

theorem inStep_endSheet (h : InStep true pen m) :
    ∃ m', run width [.op .grestore, .op .showpage] m = some m' ∧ InStep false pen m' ∧
      m'.textUses = m.textUses := by
  obtain ⟨g, hg⟩ := exists_saved h
  obtain ⟨operands, names, g', saved, events⟩ := m
  obtain rfl : saved = [g] := hg
  refine ⟨⟨operands, names, g.renewed, [], events ++ [.sheet]⟩, rfl,
    ⟨⟨h.knows.dot, h.knows.ring⟩, h.operands, rfl, nofun⟩, ?_⟩
  show (events ++ [Event.sheet]).filterMap Event.textUse? = _
  rw [List.filterMap_append]
  exact List.append_nil _

theorem inStep_resetTransform (h : InStep true pen m) :
    ∃ m', run width [.op .grestore, .op .gsave] m = some m' ∧
      InStep true { pen with font := none } m' ∧ m'.textUses = m.textUses := by
  obtain ⟨g, hg⟩ := exists_saved h
  obtain ⟨operands, names, g', saved, events⟩ := m
  obtain rfl : saved = [g] := hg
  exact ⟨⟨operands, names, g, [g], events⟩, rfl,
    ⟨⟨h.knows.dot, h.knows.ring⟩, h.operands, rfl, fun _ => inForce_none _⟩, rfl⟩

theorem inStep_chords (h : InStep true pen m) (line : Line) (textFont chordFont : Font) :
    ∃ m', run width (tokens (draw pen (.chords line textFont chordFont)).1) m = some m' ∧
      run width (drawSelecting pen (.chords line textFont chordFont)) m = some m' ∧
      InStep true (draw pen (.chords line textFont chordFont)).2 m' ∧
      m'.textUses =
        m.textUses ++ line.chords.flatMap (chordUses line.text textFont chordFont) := by
  let m₁ : Machine L := { m with names := define m.names "minhpos" (.number pen.point.h) }
  have h₁ : m.Prints [] m₁ := .silent ⟨h.knows.dot, h.knows.ring⟩ rfl rfl rfl
  obtain ⟨m₂, hrun, hselecting, hfont, h₂⟩ := run_placeChords width line.text textFont
    chordFont pen.point line.chords pen.font h₁.knows ⟨_, rfl⟩ (m := m₁) (h.font rfl)
  refine ⟨m₂, hrun, hselecting, h.prints (h₁.trans h₂) fun _ => ?_, (h₁.trans h₂).textUses_eq⟩
  show m₂.InForce (fontAfterChords pen.font line chordFont)
  unfold fontAfterChords Line.hasChords
  cases hchords : line.chords with
  | nil => rwa [hchords] at hfont
  | cons => rwa [hchords] at hfont

theorem onPage {isOpen isOpen' after : Bool}
    (h : (if isOpen then some after else none) = some isOpen') :
    isOpen = true ∧ isOpen' = after := by
  cases isOpen with
  | false => cases h
  | true =>
    cases h
    exact ⟨rfl, rfl⟩

variable (width) in
/-- A drawing leaves pen and machine in step. -/
theorem draw_inStep {isOpen isOpen' : Bool} {d : Drawing L}
    (h : InStep isOpen pen m) (hd : d.pageAfter isOpen = some isOpen') :
    ∃ m', run width (tokens (draw pen d).1) m = some m' ∧
      run width (drawSelecting pen d) m = some m' ∧ InStep isOpen' (draw pen d).2 m' ∧
      m'.textUses = m.textUses ++ drawingUses d := by
  -- a pen that selects every font draws this as any other does
  have textless {ts : List (Token L)} {isOpen : Bool} {pen : Pen L}
      (h : ∃ m', run width ts m = some m' ∧ InStep isOpen pen m' ∧ m'.textUses = m.textUses) :
      ∃ m', run width ts m = some m' ∧ run width ts m = some m' ∧ InStep isOpen pen m' ∧
        m'.textUses = m.textUses ++ [] := by
    obtain ⟨m', hrun, hstep, huses⟩ := h
    exact ⟨m', hrun, hrun, hstep, huses.trans (List.append_nil _).symm⟩
  cases d with
  | beginDocument g =>
    cases hd
    exact textless ⟨m.withPrologue, rfl, ⟨⟨rfl, rfl⟩, h.operands, h.saved, h.font⟩, rfl⟩
  | endDocument sheets =>
    cases hd
    exact textless ⟨m, rfl, h, rfl⟩
  | transform t =>
    cases hd
    exact textless (h.quiet (quiet_transform t) pen.point)
  | moveTo point =>
    cases hd
    exact textless (h.quiet (quiet_moveTo point.h point.v) point)
  | beginSheet number =>
    cases isOpen with
    | true => cases hd
    | false =>
      cases hd
      exact textless (inStep_beginSheet h number)
  | endSheet number =>
    obtain ⟨rfl, rfl⟩ := onPage hd
    exact textless (inStep_endSheet h)
  | resetTransform =>
    obtain ⟨rfl, rfl⟩ := onPage hd
    exact textless (inStep_resetTransform h)
  | stroke points lineWidth =>
    obtain ⟨rfl, rfl⟩ := onPage hd
    exact textless (h.quiet (quiet_strokes points lineWidth) pen.point)
  | text words slot font align decoration =>
    obtain ⟨rfl, rfl⟩ := onPage hd
    have hline : tokens [code (showAligned words align)] = showAligned (L := L) words align :=
      List.append_nil _
    have htokens : tokens (draw pen (.text words slot font align decoration)).1 =
        tokens (selectFont pen.font font) ++
          (tokens (decorate pen.point words font.size decoration) ++ showAligned words align) := by
      rw [draw, tokens_append, tokens_append, hline, List.append_assoc]
    rw [htokens]
    exact h.selected ((keeps_decorate pen.point words decoration).append
      (keeps_showAligned words align))
  | chords line textFont chordFont =>
    obtain ⟨rfl, rfl⟩ := onPage hd
    exact inStep_chords h line textFont chordFont
  | diagram chord label font size =>
    obtain ⟨rfl, rfl⟩ := onPage hd
    rw [draw, tokens_diagram]
    exact h.selected (keeps_diagram chord label size pen.point)

variable (width) in
/-- Drawings leave pen and machine in step, whatever their order. -/
theorem drawAll_inStep {isOpen isOpen' : Bool} {ds : List (Drawing L)} (h : InStep isOpen pen m)
    (hds : ds.foldlM Drawing.pageAfter isOpen = some isOpen') :
    ∃ m', run width (tokens (drawAll pen ds).1) m = some m' ∧
      run width (drawAllSelecting pen ds) m = some m' ∧ InStep isOpen' (drawAll pen ds).2 m' ∧
      m'.textUses = m.textUses ++ ds.flatMap drawingUses := by
  induction ds generalizing isOpen pen m with
  | nil =>
    cases hds
    exact ⟨m, rfl, rfl, h, (List.append_nil _).symm⟩
  | cons d ds ih =>
    obtain ⟨isOpen₁, hd, hds⟩ := Option.bind_eq_some_iff.mp hds
    obtain ⟨m₁, hrun₁, hselecting₁, hstep₁, huses₁⟩ := draw_inStep width h hd
    obtain ⟨m₂, hrun₂, hselecting₂, hstep₂, huses₂⟩ := ih hstep₁ hds
    refine ⟨m₂, ?_, ?_, hstep₂, ?_⟩
    · show run width (tokens ((draw pen d).1 ++ (drawAll (draw pen d).2 ds).1)) m = _
      rw [tokens_append, run_append, hrun₁, Option.bind_some, hrun₂]
    · rw [drawAllSelecting, run_append, hselecting₁, Option.bind_some, hselecting₂]
    · rw [huses₂, huses₁, List.flatMap_cons, List.append_assoc]

end Pages

/-- A machine that has printed nothing yet and knows what documents define. -/
def ready (names : String → Option (Value L)) (g : Graphics L) : Machine L :=
  withPrologue ⟨[], names, g, [], []⟩

theorem inStep_ready (names : String → Option (Value L)) (g : Graphics L) :
    InStep false Pen.start (ready names g) :=
  ⟨⟨rfl, rfl⟩, rfl, rfl, nofun⟩

/-- However the calls of a page are ordered, each text is measured and shown in the font that was
asked for, and selecting the font before every text changes nothing of what is printed. Nothing but
an open page is left saved, and nothing is gone back to that the pages have not saved. -/
theorem run_drawAll_in_fonts (width : ScaledFont L → String → L)
    (names : String → Option (Value L)) (g : Graphics L) {ds : List (Drawing L)} {isOpen : Bool}
    (hds : ds.foldlM Drawing.pageAfter false = some isOpen) :
    ∃ m, run width (tokens (drawAll Pen.start ds).1) (ready names g) = some m ∧
      run width (drawAllSelecting Pen.start ds) (ready names g) = some m ∧
      m.textUses = ds.flatMap drawingUses ∧ m.saved.length = isOpen.toNat := by
  obtain ⟨m, hrun, hselecting, hstep, huses⟩ := drawAll_inStep width
    (inStep_ready names g) hds
  exact ⟨m, hrun, hselecting, huses, hstep.saved⟩

/-- A whole document prints each of its texts in the font that was asked for, and leaves nothing
saved. -/
theorem run_document_in_fonts {geometry : PageGeometry L} {p : Pagination} {ds : List (Drawing L)}
    (hds : Drawing.IsDocument geometry p ds) (width : ScaledFont L → String → L)
    (names : String → Option (Value L)) (g : Graphics L) :
    ∃ m, run width (tokens (drawAll Pen.start ds).1) ⟨[], names, g, [], []⟩ = some m ∧
      m.textUses = ds.flatMap drawingUses ∧ m.saved = [] := by
  obtain ⟨n, sheets, hsheets, rfl⟩ := hds
  have hpages : (sheets ++ [Drawing.endDocument n]).foldlM Drawing.pageAfter false = some false :=
    Drawing.pages_append hsheets.pages rfl
  obtain ⟨m, hrun, -, hstep, huses⟩ := drawAll_inStep width (inStep_ready names g) hpages
  refine ⟨m, ?_, huses, List.length_eq_zero_iff.mp hstep.saved⟩
  show run width (tokens (prologue geometry) ++ _) _ = _
  rw [run_append, run_prologue]
  exact hrun

end Machine

end PostScript

end Songbook
