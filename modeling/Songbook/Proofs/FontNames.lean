import Songbook.Proofs.CodeReading
import Songbook.Proofs.FontSelection

/-!
# Names of fonts

The family of a font is written as it stands, so code that selects a font can be read only if the
family is a name. A document is read as the code that it is written from exactly if all its
families are (`readCode?_document_iff`).
-/

namespace Songbook

/-- The fonts that a drawing is printed in. -/
def Drawing.fonts {L : Type} : Drawing L → List Font
  | .text _ _ font _ _ | .diagram _ _ font _ => [font]
  | .chords line textFont chordFont => if line.hasChords then [textFont, chordFont] else []
  | _ => []

namespace PostScript

/-- The families can stand behind a slash. -/
def AreNames (fonts : List Font) : Prop := ∀ font ∈ fonts, isName font.family = true

theorem areNames_nil : AreNames [] := List.forall_mem_nil _

variable {L : Type}

/-! ## Rows -/

section Readable

variable {font : Font}

theorem selectFont_readable (h : isName font.family = true) (current : Option Font) :
    (selectFont (L := L) current font).all Row.isReadable = true := by
  unfold selectFont
  split
  · rfl
  · simp [Row.isReadable, areReadable, Token.isReadable, h]

theorem showAligned_readable (text : String) (align : Align) :
    areReadable (showAligned (L := L) text align) = true := by
  cases align <;> rfl

/-- Rows that are all made the same way. -/
theorem map_readable {α : Type} {f : α → Row L} (h : ∀ a, (f a).isReadable = true) (as : List α) :
    (as.map f).all Row.isReadable = true :=
  List.all_eq_true.2 fun _ hrow => by
    obtain ⟨a, -, rfl⟩ := List.mem_map.1 hrow
    exact h a

theorem decorate_readable [Length L] (origin : Point L) (text : String) (size : Int)
    (decoration : Decoration) :
    (decorate origin text size decoration).all Row.isReadable = true := by
  cases decoration <;> rfl

theorem placeChords_readable {textFont chordFont : Font} (htext : isName textFont.family = true)
    (hchord : isName chordFont.family = true) (lyrics : String) (origin : Point L)
    (current : Option Font) (marks : List ChordMark) :
    (placeChords lyrics textFont chordFont origin current marks).all Row.isReadable = true := by
  induction marks generalizing current with
  | nil => rfl
  | cons mark marks ih =>
    have hplace : (chordPlace lyrics origin mark).all Row.isReadable = true := rfl
    have hat : (chordAtPlace origin mark).all Row.isReadable = true := rfl
    simp only [placeChords, placeChord, List.all_append, selectFont_readable htext,
      selectFont_readable hchord, hplace, hat, ih, Bool.and_self]

theorem stroke_readable (width : L) (points : List (Point L)) :
    (stroke width points).all Row.isReadable = true := by
  cases points with
  | nil => rfl
  | cons first rest =>
    have hlines := map_readable (f := fun p => code (lineTo p.h p.v)) (fun _ => rfl) rest
    simp only [stroke, List.all_append, hlines]
    rfl

/-- No line ends in a word. -/
theorem endsNoLine_of_isWord {word : String} (h : isWord word = true) :
    word.toList.all (!isLineEnd ·) = true :=
  List.all_eq_true.2 fun c hc => by
    have hregular := List.all_eq_true.1 (isName_of_isWord h) c hc
    unfold isRegular isSpace at hregular
    unfold isLineEnd
    simp_all

theorem trailer_readable (sheets : Nat) : (trailer (L := L) sheets).all Row.isReadable = true := by
  have hsheets := endsNoLine_of_isWord (isWord_nat sheets)
  simp only [trailer, List.all_cons, Row.isReadable, String.toList_append, List.all_append, hsheets]
  rfl

theorem beginSheet_readable (number : Nat) :
    (beginSheet (L := L) number).all Row.isReadable = true := by
  have hnumber := endsNoLine_of_isWord (isWord_nat number)
  simp only [beginSheet, List.all_cons, Row.isReadable, String.toList_append, List.all_append,
    hnumber]
  rfl

variable [Length L]

theorem transform_readable (t : Transform L) : (transform t).all Row.isReadable = true := by
  unfold transform
  simp only [List.all_append]
  split_ifs <;> rfl

namespace DiagramFrame

variable (f : DiagramFrame L)

theorem lines_readable : f.lines.all Row.isReadable = true := by
  have hstrings := map_readable
    (f := fun s => code (moveTo (f.stringAt s) f.top ++ lineTo (f.stringAt s) f.bottom))
    (fun _ => rfl) (List.range strings)
  have hfrets := map_readable
    (f := fun r => code (moveTo f.left (f.fretAt r) ++ lineTo f.right (f.fretAt r)))
    (fun _ => rfl) (List.range (diagramRows + 1))
  simp only [lines, List.all_append, hstrings, hfrets]
  rfl

theorem base_readable (baseFret : Nat) : (f.base baseFret).all Row.isReadable = true := by
  unfold base
  split <;> rfl

theorem written_readable (adjustedFrom : Option Nat) :
    (f.written adjustedFrom).all Row.isReadable = true := by
  cases adjustedFrom <;> rfl

theorem marks_readable (fingering : Fingering) :
    (f.marks fingering).all Row.isReadable = true :=
  List.all_eq_true.2 fun row hrow => by
    obtain ⟨⟨fret, string⟩, -, hmark⟩ := List.mem_filterMap.1 hrow
    cases fret with
    | openString | muted =>
      cases hmark
      rfl
    | held n =>
      obtain ⟨-, hdot⟩ := Option.ite_none_right_eq_some.1 hmark
      cases hdot
      rfl

theorem rows_readable (fingering : Fingering) :
    (f.rows fingering).all Row.isReadable = true := by
  simp only [rows, List.all_append, f.lines_readable, f.base_readable, f.written_readable,
    f.marks_readable]
  rfl

end DiagramFrame

theorem diagram_readable (h : isName font.family = true) (current : Option Font)
    (chord : ChordDefinition) (label : Option String) (size : L) (origin : Point L) :
    (diagram current chord label font size origin).all Row.isReadable = true := by
  simp only [diagram, List.all_append, selectFont_readable h]
  cases label <;> cases chord.fingering <;> simp only [DiagramFrame.rows_readable] <;> rfl

theorem prologue_readable [WritesWords L] (g : PageGeometry L) :
    (prologue g).all Row.isReadable = true := by
  have hbounds : (Row.comment ("BoundingBox: 5 5 " ++ Length.text (g.width - 7) ++ " " ++
      Length.text (g.top + 31)) : Row L).isReadable = true := by
    have hwidth := endsNoLine_of_isWord (WritesWords.text (g.width - 7))
    have htop := endsNoLine_of_isWord (WritesWords.text (g.top + 31))
    simp only [Row.isReadable, String.toList_append, List.all_append, hwidth, htop]
    rfl
  simp only [prologue, List.all_cons, hbounds]
  rfl

theorem draw_readable [WritesWords L] {d : Drawing L} (h : AreNames d.fonts) (pen : Pen L) :
    (draw pen d).1.all Row.isReadable = true := by
  cases d with
  | beginDocument g =>
    show (Row.header :: prologue g).all Row.isReadable = true
    rw [List.all_cons, prologue_readable]
    rfl
  | endDocument sheets => exact trailer_readable sheets
  | beginSheet number => exact beginSheet_readable number
  | endSheet | resetTransform | moveTo => rfl
  | transform t => exact transform_readable t
  | text words slot font align decoration =>
    have hline : [code (showAligned (L := L) words align)].all Row.isReadable = true := by
      simpa [Row.isReadable] using showAligned_readable words align
    simp only [draw, List.all_append, selectFont_readable (h font (by simp [Drawing.fonts])),
      decorate_readable, hline, Bool.and_self]
  | chords line textFont chordFont =>
    obtain ⟨lyrics, marks⟩ := line
    show (placeChords lyrics textFont chordFont pen.point pen.font marks).all Row.isReadable = true
    cases marks with
    | nil => rfl
    | cons mark marks =>
      exact placeChords_readable (h textFont (by simp [Drawing.fonts, Line.hasChords]))
        (h chordFont (by simp [Drawing.fonts, Line.hasChords])) ..
  | stroke points width => exact stroke_readable width points
  | diagram chord label font size =>
    exact diagram_readable (h font (by simp [Drawing.fonts])) _ chord label size _

theorem drawAll_readable [WritesWords L] {ds : List (Drawing L)}
    (h : ∀ d ∈ ds, AreNames d.fonts) (pen : Pen L) :
    (drawAll pen ds).1.all Row.isReadable = true := by
  induction ds generalizing pen with
  | nil => rfl
  | cons d ds ih =>
    obtain ⟨hd, hds⟩ := List.forall_mem_cons.1 h
    show ((draw pen d).1 ++ (drawAll (draw pen d).2 ds).1).all Row.isReadable = true
    rw [List.all_append, draw_readable hd, ih hds, Bool.and_self]

end Readable

/-! ## Names -/

section Sound

variable [Length L]

/-- No name in the code has characters that names do not have. -/
def IsSound (rows : List (Row L)) : Prop := (lexemes (tokens rows)).all Lexeme.isSound = true

theorem isSound_append {rows rows' : List (Row L)} :
    IsSound (rows ++ rows') ↔ IsSound rows ∧ IsSound rows' := by
  unfold IsSound
  rw [tokens_append, lexemes_append, List.all_append, Bool.and_eq_true_iff]

/-- The pen has taken up a font whose family can be read. -/
def Pen.IsNamed (pen : Pen L) : Prop := AreNames pen.font.toList

variable {pen : Pen L}

theorem isNamed_start : (Pen.start : Pen L).IsNamed := areNames_nil

theorem isName_of_selectFont {font : Font} (hpen : pen.IsNamed)
    (h : IsSound (selectFont (L := L) pen.font font)) : isName font.family = true := by
  unfold selectFont at h
  split at h
  · next hcurrent => exact hpen font (by simp [hcurrent])
  · exact (Bool.and_eq_true_iff.1 h).1

theorem areNames_of_placeChords {textFont chordFont : Font} {lyrics : String} {origin : Point L}
    {mark : ChordMark} {marks : List ChordMark} (hpen : pen.IsNamed)
    (h : IsSound (placeChords lyrics textFont chordFont origin pen.font (mark :: marks))) :
    AreNames [textFont, chordFont] := by
  simp only [placeChords, placeChord, isSound_append] at h
  have htext := isName_of_selectFont hpen h.1.1.1.1
  have hpen' : (⟨some textFont, origin⟩ : Pen L).IsNamed := by
    simpa [Pen.IsNamed, AreNames] using htext
  have hchord := isName_of_selectFont hpen' h.1.1.2
  simp [AreNames, htext, hchord]

theorem areNames_of_draw (hpen : pen.IsNamed) {d : Drawing L} (h : IsSound (draw pen d).1) :
    AreNames d.fonts ∧ (draw pen d).2.IsNamed := by
  cases d with
  | text words slot font align decoration =>
    have hname := isName_of_selectFont hpen (isSound_append.1 (isSound_append.1 h).1).1
    simp [AreNames, Drawing.fonts, draw, Pen.IsNamed, hname]
  | diagram chord label font size =>
    have hname := isName_of_selectFont hpen
      (isSound_append.1 (isSound_append.1 (isSound_append.1 h).1).1).1
    simp [AreNames, Drawing.fonts, draw, Pen.IsNamed, hname]
  | chords line textFont chordFont =>
    obtain ⟨lyrics, marks⟩ := line
    cases marks with
    | nil => exact ⟨areNames_nil, hpen⟩
    | cons mark marks =>
      have hrows : IsSound ([code [.symbol "minhpos", .length pen.point.h, .op .define]] ++
          placeChords lyrics textFont chordFont pen.point pen.font (mark :: marks)) := h
      have hnames := areNames_of_placeChords hpen (isSound_append.1 hrows).2
      have hpen' : (⟨some chordFont, pen.point⟩ : Pen L).IsNamed := by
        simpa [Pen.IsNamed, AreNames] using hnames chordFont (by simp)
      exact ⟨hnames, hpen'⟩
  | beginSheet | resetTransform => exact ⟨areNames_nil, areNames_nil⟩
  | beginDocument | endDocument | endSheet | transform | moveTo | stroke =>
    exact ⟨areNames_nil, hpen⟩

theorem areNames_of_drawAll (hpen : pen.IsNamed) {ds : List (Drawing L)}
    (h : IsSound (drawAll pen ds).1) : ∀ d ∈ ds, AreNames d.fonts := by
  induction ds generalizing pen with
  | nil => exact List.forall_mem_nil _
  | cons d ds ih =>
    obtain ⟨hd, hds⟩ := isSound_append.1 h
    obtain ⟨hnames, hpen'⟩ := areNames_of_draw hpen hd
    exact List.forall_mem_cons.2 ⟨hnames, ih hpen' hds⟩

end Sound

/-- A document is read as the code that it is written from exactly if all families are names. -/
theorem readCode?_document_iff [Length L] [WritesWords L] (ds : List (Drawing L)) :
    readCode? (document ds) = some (lexemes (tokens (drawAll Pen.start ds).1)) ↔
      ∀ d ∈ ds, AreNames d.fonts :=
  ⟨fun h => areNames_of_drawAll isNamed_start (readFrom_sound h rfl),
    fun h => readCode?_rows (drawAll_readable h _)⟩

namespace Machine

/-- However the calls of a page are ordered, their code measures and shows each text in the font
that was asked for, and selecting the font before every text changes nothing of what is printed.
Nothing but an open page is left saved, and nothing is gone back to that the pages have not saved.
The document is read as this code exactly if the families of all fonts are names. -/
theorem document_in_fonts_iff [Length L] [WritesWords L] (width : ScaledFont L → String → L)
    (names : String → Option (Value L)) (g : Graphics L) {ds : List (Drawing L)} {isOpen : Bool}
    (hds : ds.foldlM Drawing.pageAfter false = some isOpen) :
    (∃ m, run width (tokens (drawAll Pen.start ds).1) (ready names g) = some m ∧
      run width (drawAllSelecting Pen.start ds) (ready names g) = some m ∧
      m.textUses = ds.flatMap drawingUses ∧ m.saved.length = isOpen.toNat) ∧
    (readCode? (document ds) = some (lexemes (tokens (drawAll Pen.start ds).1)) ↔
      ∀ d ∈ ds, AreNames d.fonts) :=
  ⟨run_drawAll_in_fonts width names g hds, readCode?_document_iff ds⟩

theorem document_in_fonts_iff_resetTransform :
    let text : Font := ⟨"Times-Roman", 12⟩
    let bold : Font := ⟨"Helvetica-Bold", 9⟩
    let ds : List (Drawing Float) :=
      [.beginSheet 1, .moveTo ⟨72, 700⟩, .text "Refrain" .text text .left .shaded,
       .chords ⟨"Hello", [⟨0, "G"⟩, ⟨4, "D7"⟩]⟩ text bold, .resetTransform,
       .text "1" .text bold .right .plain, .endSheet 1, .beginSheet 2,
       .text "2" .text bold .center .boxed,
       .diagram ⟨"Bm", .builtin, .easy,
         some ⟨2, #v[.muted, .held 2, .held 4, .held 4, .held 3, .held 2], some 1, false⟩⟩ none
         text 40]
    let width : ScaledFont Float → String → Float := fun font text =>
      font.size * Length.ofInt text.length
    let blank := ready (fun _ => none) ⟨none, [], 0, 1, []⟩
    ds.foldlM Drawing.pageAfter false = some true ∧
    (∃ m, run width (tokens (drawAll Pen.start ds).1) blank = some m ∧
      run width (drawAllSelecting Pen.start ds) blank = some m ∧
      m.textUses =
        [.measured "Refrain " text.scaled, .shown "Refrain" text.scaled,
         .measured "" text.scaled, .measured "G" bold.scaled, .shown "G" bold.scaled,
         .measured "Hell" text.scaled, .measured "D7" bold.scaled, .shown "D7" bold.scaled,
         .measured "1" bold.scaled, .shown "1" bold.scaled,
         .measured "2" bold.scaled, .measured "2" bold.scaled, .shown "2" bold.scaled,
         .measured "Bm" text.scaled, .shown "Bm" text.scaled, .measured "2" text.scaled,
         .shown "2" text.scaled, .shown "was 1" text.scaled] ∧
      m.saved.length = 1) ∧
    readCode? (document ds) = some (lexemes (tokens (drawAll Pen.start ds).1)) := by
  intro text bold ds width blank
  have hds : ds.foldlM Drawing.pageAfter false = some true := rfl
  obtain ⟨⟨m, hrun, hselecting, huses, hsaved⟩, hread⟩ :=
    document_in_fonts_iff width (fun _ => none) ⟨none, [], 0, 1, []⟩ hds
  have htext : isName text.family = true := by decide +kernel
  have hbold : isName bold.family = true := by decide +kernel
  refine ⟨hds, ⟨m, hrun, hselecting, huses.trans rfl, hsaved⟩, hread.2 ?_⟩
  simp [ds, AreNames, Drawing.fonts, Line.hasChords, htext, hbold]

/-- A family is read up to its first blank. What follows is run, and the document stops where the
font would be selected. -/
theorem document_stops_at_blank :
    let ds : List (Drawing Float) :=
      [.beginSheet 1, .text "x" .text ⟨"Times New Roman", 12⟩ .left .plain, .endSheet 1]
    let code : List (Token Float) :=
      [.op .gsave, .symbol "Times", .call "New", .call "Roman", .op .findfont, .integer 12,
       .op .scalefont, .op .setfont, .string "x", .op .showText, .op .grestore, .op .showpage]
    ds.foldlM Drawing.pageAfter false = some false ∧
    readCode? (document ds) = some (lexemes code) ∧
    run (fun _ _ => 0) code (ready (fun _ => none) ⟨none, [], 0, 1, []⟩) = none := by
  refine ⟨rfl, by decide +kernel, rfl⟩

end Machine

end PostScript

end Songbook
