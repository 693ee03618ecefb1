import Songbook.PostScript.Machine

/-!
# The fonts that code prints in

What a machine measures and shows while code is run, and in which fonts. Texts that are aligned or
decorated and diagrams are code that keeps to the font in force (`Keeps`): it is the same whether or
not this font is selected again before each text. Chords over a line change between two fonts.
-/

namespace Songbook

namespace PostScript

variable {L : Type}

/-- A text that is measured or shown in a font. -/
inductive TextUse (L : Type) where
  | measured (text : String) (font : ScaledFont L)
  | shown (text : String) (font : ScaledFont L)

def Event.textUse? : Event L → Option (TextUse L)
  | .measured text font => some (.measured text font)
  | .shown text font _ => some (.shown text font)
  | _ => none

namespace Machine

/-- The texts printed and measured so far, in the fonts in force there. -/
def textUses (m : Machine L) : List (TextUse L) := m.events.filterMap Event.textUse?

/-- The names that diagrams are drawn with. -/
structure Knows (m : Machine L) : Prop where
  dot : m.names "dot" = some (.procedure [.integer 0, .integer 360, .op .arc, .op .fill])
  ring : m.names "ring" = some (.procedure [.integer 0, .integer 360, .op .arc, .op .stroke])

/-- Nothing but these texts is measured and shown meanwhile. -/
structure Prints (uses : List (TextUse L)) (m m' : Machine L) : Prop where
  saved : m'.saved = m.saved
  operands : m'.operands = m.operands
  knows : m'.Knows
  events : ∃ es, m'.events = m.events ++ es ∧ es.filterMap Event.textUse? = uses

def withFont (font : ScaledFont L) : Machine L → Machine L
  | ⟨operands, names, g, saved, events⟩ =>
    ⟨operands, names, { g with font := some font }, saved, events⟩

theorem Prints.trans {u v : List (TextUse L)} {m₁ m₂ m₃ : Machine L} (h₁ : m₁.Prints u m₂)
    (h₂ : m₂.Prints v m₃) : m₁.Prints (u ++ v) m₃ := by
  obtain ⟨es₁, hevents₁, rfl⟩ := h₁.events
  obtain ⟨es₂, hevents₂, rfl⟩ := h₂.events
  refine ⟨h₂.saved.trans h₁.saved, h₂.operands.trans h₁.operands, h₂.knows, es₁ ++ es₂, ?_, ?_⟩
  · rw [hevents₂, hevents₁, List.append_assoc]
  · rw [List.filterMap_append]

theorem Prints.textUses_eq {u : List (TextUse L)} {m m' : Machine L} (h : m.Prints u m') :
    m'.textUses = m.textUses ++ u := by
  obtain ⟨es, hevents, rfl⟩ := h.events
  rw [textUses, hevents, List.filterMap_append]
  rfl

theorem Prints.silent {m m' : Machine L} (hm' : m'.Knows) (hsaved : m'.saved = m.saved)
    (hoperands : m'.operands = m.operands) (hevents : m'.events = m.events) : m.Prints [] m' :=
  ⟨hsaved, hoperands, hm', [], hevents.trans (List.append_nil _).symm, rfl⟩

theorem prints_withFont {m : Machine L} (hm : m.Knows) (font : ScaledFont L) :
    m.Prints [] (m.withFont font) :=
  .silent ⟨hm.dot, hm.ring⟩ rfl rfl rfl

end Machine

end PostScript

variable {L : Type} [Length L]

def Font.scaled (f : Font) : PostScript.ScaledFont L := ⟨f.family, Length.ofInt f.size⟩

namespace PostScript

section Asked

variable (font : Font)

/-- A text that is not left-aligned is measured first. -/
def alignedUses (text : String) : Align → List (TextUse L)
  | .left => [.shown text font.scaled]
  | .center | .right => [.measured text font.scaled, .shown text font.scaled]

def decorationUses (text : String) : Decoration → List (TextUse L)
  | .plain => []
  | .shaded => [.measured (text ++ " ") font.scaled]
  | .boxed => [.measured text font.scaled]

/-- The lyrics before a chord are measured in the font of the text. -/
def chordUses (lyrics : String) (textFont chordFont : Font) (mark : ChordMark) : List (TextUse L) :=
  [.measured (String.ofList (lyrics.toList.take mark.offset)) textFont.scaled,
   .measured mark.name chordFont.scaled, .shown mark.name chordFont.scaled]

def fingeringUses (fingering : Fingering) : List (TextUse L) :=
  (if fingering.baseFret = 1 then []
    else alignedUses font (toString fingering.baseFret) .right) ++
  match fingering.adjustedFrom with
    | some base => [.shown ("was " ++ toString base) font.scaled]
    | none => []

def diagramUses (chord : ChordDefinition) (label : Option String) : List (TextUse L) :=
  alignedUses font chord.name .center ++
  (match label with
    | some text => [.shown text font.scaled]
    | none => []) ++
  match chord.fingering with
    | some fingering => fingeringUses font fingering
    | none => []

end Asked

/-- Code that selects a font before each of its texts. -/
def selecting (font : Font) (ts : List (Token L)) : List (Token L) :=
  ts.flatMap fun t =>
    match t with
    | .string _ => tokens (selectFont none font) ++ [t]
    | _ => [t]

omit [Length L] in
theorem selecting_append (font : Font) (a b : List (Token L)) :
    selecting font (a ++ b) = selecting font a ++ selecting font b :=
  List.flatMap_append

def placeChordSelecting (lyrics : String) (textFont chordFont : Font) (origin : Point L)
    (mark : ChordMark) : List (Token L) :=
  tokens (selectFont none textFont) ++
    selecting textFont (tokens (chordPlace lyrics origin mark)) ++
    tokens (selectFont none chordFont) ++ selecting chordFont (tokens (chordAtPlace origin mark))

namespace Machine

/-- The font that a pen takes to be in force is, if it takes one to be. -/
def InForce (current : Option Font) (m : Machine L) : Prop :=
  ∀ f, current = some f → m.graphics.font = some f.scaled

theorem inForce_none (m : Machine L) : m.InForce none := fun _ h => nomatch h

theorem inForce_some {f : Font} {m : Machine L} (h : m.graphics.font = some f.scaled) :
    m.InForce (some f) := fun _ hf => by
  cases hf
  exact h

variable (width : ScaledFont L → String → L)

theorem run_append (a b : List (Token L)) (m : Machine L) :
    run width (a ++ b) m = (run width a m).bind (run width b) := by
  unfold run
  rw [List.foldlM_append]
  rfl

/-- A font that is in force is as good as selected. -/
theorem run_selectFont {current : Option Font} {m : Machine L} (h : m.InForce current) (f : Font) :
    run width (tokens (selectFont current f)) m = some (m.withFont f.scaled) := by
  obtain ⟨operands, names, ⟨font, path, gray, lineWidth, changes⟩, saved, events⟩ := m
  unfold selectFont
  split
  · obtain rfl : font = some f.scaled := h f ‹_›
    rfl
  · rfl

/-- Code without texts that leaves the font as it is. -/
structure Quiet (ts : List (Token L)) : Prop where
  selecting_eq : ∀ f, selecting f ts = ts
  runs : ∀ m : Machine L, m.Knows →
    ∃ m', run width ts m = some m' ∧ m'.graphics.font = m.graphics.font ∧ m.Prints [] m'

/-- Code that measures and shows these texts in a font, if it is in force, and that does the same
if the font is selected before each of them. -/
def Keeps (font : Font) (ts : List (Token L)) (uses : List (TextUse L)) : Prop :=
  ∀ m : Machine L, m.Knows → m.graphics.font = some font.scaled →
    ∃ m', run width ts m = some m' ∧ run width (selecting font ts) m = some m' ∧
      m'.graphics.font = some font.scaled ∧ m.Prints uses m'

variable {width} {f : Font} {a b : List (Token L)} {u v : List (TextUse L)}

theorem Quiet.nil : Quiet width ([] : List (Token L)) :=
  ⟨fun _ => rfl, fun m hm => ⟨m, rfl, rfl, .silent hm rfl rfl rfl⟩⟩

/-- Code that does nothing but change the graphics state. -/
theorem Quiet.of_run (ha : ∀ f, selecting f a = a) (h : ∀ m : Machine L,
    ∃ m', run width a m = some m' ∧ m'.graphics.font = m.graphics.font ∧ m'.names = m.names ∧
      m'.saved = m.saved ∧ m'.operands = m.operands ∧ m'.events = m.events) : Quiet width a := by
  refine ⟨ha, fun m hm => ?_⟩
  obtain ⟨m', hrun, hfont, hnames, hsaved, hoperands, hevents⟩ := h m
  exact ⟨m', hrun, hfont, .silent ⟨hnames ▸ hm.dot, hnames ▸ hm.ring⟩ hsaved hoperands hevents⟩

theorem Quiet.append (ha : Quiet width a) (hb : Quiet width b) : Quiet width (a ++ b) := by
  refine ⟨fun f => ?_, fun m hm => ?_⟩
  · rw [selecting_append, ha.selecting_eq, hb.selecting_eq]
  · obtain ⟨m₁, hrun₁, hfont₁, h₁⟩ := ha.runs m hm
    obtain ⟨m₂, hrun₂, hfont₂, h₂⟩ := hb.runs m₁ h₁.knows
    exact ⟨m₂, by rw [run_append, hrun₁, Option.bind_some, hrun₂], hfont₂.trans hfont₁,
      h₁.trans h₂⟩

theorem Quiet.rows {rows : List (Row L)} (h : ∀ r ∈ rows, Quiet width r.tokens) :
    Quiet width (tokens rows) := by
  induction rows with
  | nil => exact .nil
  | cons r rows ih => exact (h r (by simp)).append (ih fun r hr => h r (List.mem_cons_of_mem _ hr))

theorem Quiet.keeps (h : Quiet width a) : Keeps width f a [] := by
  intro m hm hfont
  obtain ⟨m', hrun, hfont', hp⟩ := h.runs m hm
  exact ⟨m', hrun, by rw [h.selecting_eq, hrun], hfont'.trans hfont, hp⟩

theorem Keeps.append (ha : Keeps width f a u) (hb : Keeps width f b v) :
    Keeps width f (a ++ b) (u ++ v) := by
  intro m hm hfont
  obtain ⟨m₁, hrun₁, hselect₁, hfont₁, h₁⟩ := ha m hm hfont
  obtain ⟨m₂, hrun₂, hselect₂, hfont₂, h₂⟩ := hb m₁ h₁.knows hfont₁
  refine ⟨m₂, by rw [run_append, hrun₁, Option.bind_some, hrun₂], ?_, hfont₂, h₁.trans h₂⟩
  rw [selecting_append, run_append, hselect₁, Option.bind_some, hselect₂]

/-- What is saved is gone back to. -/
theorem Keeps.saving {ts : List (Token L)} (h : Keeps width f ts u) :
    Keeps width f (.op .gsave :: (ts ++ [.op .grestore])) u := by
  intro m hm hfont
  obtain ⟨operands, names, g, saved, events⟩ := m
  obtain ⟨m', hrun, hselect, -, h'⟩ :=
    h ⟨operands, names, g, g :: saved, events⟩ ⟨hm.dot, hm.ring⟩ hfont
  obtain ⟨operands', names', g', saved', events'⟩ := m'
  obtain rfl : saved' = g :: saved := h'.saved
  refine ⟨⟨operands', names', g, saved, events'⟩, ?_, ?_, hfont, rfl, h'.operands,
    ⟨h'.knows.dot, h'.knows.ring⟩, h'.events⟩
  · show run width (ts ++ [.op .grestore]) ⟨operands, names, g, g :: saved, events⟩ = _
    rw [run_append, hrun]
    rfl
  · show run width (selecting f (ts ++ [.op .grestore]))
      ⟨operands, names, g, g :: saved, events⟩ = _
    rw [selecting_append, run_append, hselect]
    rfl

theorem quiet_moveTo (h v : L) : Quiet width (moveTo h v) :=
  .of_run (fun _ => rfl) fun _ => ⟨_, rfl, rfl, rfl, rfl, rfl, rfl⟩

theorem quiet_lineTo (h v : L) : Quiet width (lineTo h v) :=
  .of_run (fun _ => rfl) fun _ => ⟨_, rfl, rfl, rfl, rfl, rfl, rfl⟩

theorem quiet_newpath : Quiet width ([.op .newpath] : List (Token L)) :=
  .of_run (fun _ => rfl) fun _ => ⟨_, rfl, rfl, rfl, rfl, rfl, rfl⟩

theorem quiet_stroke : Quiet width ([.op .stroke] : List (Token L)) :=
  ⟨fun _ => rfl, fun _ hm => ⟨_, rfl, rfl, rfl, rfl, ⟨hm.dot, hm.ring⟩, _, rfl, rfl⟩⟩

theorem quiet_lineWidth (x : L) : Quiet width [.length x, .op .setlinewidth] :=
  .of_run (fun _ => rfl) fun _ => ⟨_, rfl, rfl, rfl, rfl, rfl, rfl⟩

theorem Quiet.unless {c : Prop} [Decidable c] {row : Row L} (h : Quiet width row.tokens) :
    Quiet width (tokens (if c then [] else [row])) := by
  split
  · exact .nil
  · exact h.append .nil

theorem quiet_transform (t : Transform L) : Quiet width (tokens (transform t)) := by
  obtain ⟨⟨h, v⟩, scale, rotation⟩ := t
  have hshift : Quiet width [.fixed h, .fixed v, .op .translate] :=
    .of_run (fun _ => rfl) fun _ => ⟨_, rfl, rfl, rfl, rfl, rfl, rfl⟩
  have hscale : Quiet width [.fixed scale, .fixed scale, .op .scale] :=
    .of_run (fun _ => rfl) fun _ => ⟨_, rfl, rfl, rfl, rfl, rfl, rfl⟩
  have hrotation : Quiet width [.fixed rotation, .op .rotate] :=
    .of_run (fun _ => rfl) fun _ => ⟨_, rfl, rfl, rfl, rfl, rfl, rfl⟩
  simp only [transform, tokens_append]
  exact (Quiet.unless hshift).append (Quiet.unless hscale) |>.append (Quiet.unless hrotation)

theorem quiet_strokes (points : List (Point L)) (x : L) :
    Quiet width (tokens (stroke x points)) := by
  cases points with
  | nil => exact .nil
  | cons first rest =>
    have hstart : Quiet width ([.length x, .op .setlinewidth, .integer 0, .op .setgray,
        .op .newpath] ++ moveTo first.h first.v) :=
      .of_run (fun _ => rfl) fun _ => ⟨_, rfl, rfl, rfl, rfl, rfl, rfl⟩
    have hrest : Quiet width (tokens (rest.map fun p => code (lineTo p.h p.v))) :=
      .rows fun r hr => by
        obtain ⟨p, -, rfl⟩ := List.mem_map.mp hr
        exact quiet_lineTo _ _
    simp only [stroke, tokens_append]
    exact (hstart.append hrest).append quiet_stroke

theorem keeps_showAligned (text : String) (align : Align) :
    Keeps width f (showAligned text align) (alignedUses f text align) := by
  intro m hm hfont
  obtain ⟨operands, names, ⟨font, path, gray, lineWidth, changes⟩, saved, events⟩ := m
  obtain rfl : font = some f.scaled := hfont
  obtain ⟨hdot, hring⟩ := hm
  cases align with
  | left => exact ⟨_, rfl, rfl, rfl, rfl, rfl, ⟨hdot, hring⟩, _, rfl, rfl⟩
  | center => exact ⟨_, rfl, rfl, rfl, rfl, rfl, ⟨hdot, hring⟩, _, List.append_assoc .., rfl⟩
  | right => exact ⟨_, rfl, rfl, rfl, rfl, rfl, ⟨hdot, hring⟩, _, List.append_assoc .., rfl⟩

theorem keeps_decorate (origin : Point L) (text : String) (decoration : Decoration) :
    Keeps width f (tokens (decorate origin text f.size decoration))
      (decorationUses f text decoration) := by
  intro m hm hfont
  obtain ⟨operands, names, ⟨font, path, gray, lineWidth, changes⟩, saved, events⟩ := m
  obtain rfl : font = some f.scaled := hfont
  obtain ⟨hdot, hring⟩ := hm
  cases decoration with
  | plain => exact ⟨_, rfl, rfl, rfl, rfl, rfl, ⟨hdot, hring⟩, [], (List.append_nil _).symm, rfl⟩
  | shaded => exact ⟨_, rfl, rfl, rfl, rfl, rfl, ⟨hdot, hring⟩, _, List.append_assoc .., rfl⟩
  | boxed => exact ⟨_, rfl, rfl, rfl, rfl, rfl, ⟨hdot, hring⟩, _, List.append_assoc .., rfl⟩

section Diagram

theorem step_procedure {m : Machine L} {name : String} {body : List (Token L)}
    (h : m.names name = some (.procedure body)) :
    step width m (.call name) = body.foldlM (perform width) m := by
  simp only [step, h]

/-- Rings and dots are arcs, and then what is done with them. -/
theorem run_circle {m : Machine L} {name : String} {paint : Operator}
    (hname : m.names name = some (.procedure [.integer 0, .integer 360, .op .arc, .op paint]))
    (h v radius : L) :
    run width [.op .newpath, .length h, .length v, .length radius, .call name] m =
      operate width paint { m with graphics := { m.graphics with
        path := [.arc h v radius (Length.ofInt 0) (Length.ofInt 360)] } } := by
  obtain ⟨operands, names, g, saved, events⟩ := m
  have hbody : step width ⟨.number radius :: .number v :: .number h :: operands, names,
      g.withoutPath, saved, events⟩ (.call name) = _ := step_procedure hname
  refine (congrArg (Option.bind · some) hbody).trans ?_
  -- the body and the code both end in a step whose outcome is passed on as it is
  exact (Option.bind_fun_some _).trans (Option.bind_fun_some _)

theorem quiet_circle {name : String} {paint : Operator} (hpaint : paint = .fill ∨ paint = .stroke)
    (hname : ∀ m : Machine L, m.Knows →
      m.names name = some (.procedure [.integer 0, .integer 360, .op .arc, .op paint]))
    (h v radius : L) :
    Quiet width [.op .newpath, .length h, .length v, .length radius, .call name] := by
  refine ⟨fun _ => rfl, fun m hm => ?_⟩
  have hrun : run width _ m = _ := run_circle (hname m hm) h v radius
  rcases hpaint with rfl | rfl
  · exact ⟨_, hrun, rfl, rfl, rfl, ⟨hm.dot, hm.ring⟩, _, rfl, rfl⟩
  · exact ⟨_, hrun, rfl, rfl, rfl, ⟨hm.dot, hm.ring⟩, _, rfl, rfl⟩

variable (frame : DiagramFrame L)

theorem quiet_mark {fingering : Fingering} {string : Nat} {fret : Fret} {r : Row L}
    (h : frame.mark? fingering string fret = some r) : Quiet width r.tokens := by
  unfold DiagramFrame.mark? at h
  cases fret with
  | openString =>
    cases h
    exact quiet_circle (.inr rfl) (fun _ hm => hm.ring) _ _ _
  | muted =>
    cases h
    exact quiet_newpath.append ((quiet_moveTo _ _).append ((quiet_lineTo _ _).append
      ((quiet_moveTo _ _).append ((quiet_lineTo _ _).append quiet_stroke))))
  | held n =>
    dsimp only at h
    split at h
    · cases h
      exact quiet_circle (.inl rfl) (fun _ hm => hm.dot) _ _ _
    · cases h

variable (width) in
/-- The strings and the frets, but for what is saved before them. -/
theorem quiet_lines :
    ∃ ts, tokens frame.lines = .op .gsave :: ts ∧ Quiet width ts := by
  have hstrings : Quiet width (tokens ((List.range strings).map fun s =>
      code (moveTo (frame.stringAt s) frame.top ++ lineTo (frame.stringAt s) frame.bottom))) :=
    .rows fun r hr => by
      obtain ⟨s, -, rfl⟩ := List.mem_map.mp hr
      exact (quiet_moveTo _ _).append (quiet_lineTo _ _)
  have hfrets : Quiet width (tokens ((List.range (diagramRows + 1)).map fun r =>
      code (moveTo frame.left (frame.fretAt r) ++ lineTo frame.right (frame.fretAt r)))) :=
    .rows fun r hr => by
      obtain ⟨s, -, rfl⟩ := List.mem_map.mp hr
      exact (quiet_moveTo _ _).append (quiet_lineTo _ _)
  refine ⟨_, ?_, (quiet_lineWidth 0.5).append (quiet_newpath.append
    (hstrings.append (hfrets.append quiet_stroke)))⟩
  simp only [DiagramFrame.lines, tokens_append, List.append_assoc]
  rfl

theorem keeps_base (baseFret : Nat) :
    Keeps width f (tokens (frame.base baseFret))
      (if baseFret = 1 then [] else alignedUses f (toString baseFret) .right) := by
  unfold DiagramFrame.base
  split
  · have hthick : Quiet width ([.integer 2, .op .setlinewidth] : List (Token L)) :=
      .of_run (fun _ => rfl) fun _ => ⟨_, rfl, rfl, rfl, rfl, rfl, rfl⟩
    exact (hthick.append (quiet_newpath.append ((quiet_moveTo _ _).append
      ((quiet_lineTo _ _).append quiet_stroke)))).keeps
  · exact (quiet_moveTo _ _).keeps.append (keeps_showAligned (toString baseFret) .right)

theorem keeps_written (adjustedFrom : Option Nat) :
    Keeps width f (tokens (frame.written adjustedFrom))
      (match adjustedFrom with
        | some base => [.shown ("was " ++ toString base) f.scaled]
        | none => []) := by
  cases adjustedFrom with
  | none => exact Quiet.nil.keeps
  | some base => exact (quiet_moveTo _ _).keeps.append (keeps_showAligned _ .left)

/-- What a diagram draws after its lines is drawn in the state that is saved before them. -/
theorem tokens_rows {ts : List (Token L)} (hlines : tokens frame.lines = .op .gsave :: ts)
    (fingering : Fingering) : tokens (frame.rows fingering) = .op .gsave ::
      (ts ++ tokens (frame.base fingering.baseFret) ++
        tokens (frame.written fingering.adjustedFrom) ++
        ([.length 0.5, .op .setlinewidth] ++ tokens (frame.marks fingering)) ++
        [.op .grestore]) := by
  simp only [DiagramFrame.rows, tokens_append, hlines]
  simp only [List.append_assoc, List.cons_append, List.nil_append]
  rfl

/-- All of a diagram but its name. -/
theorem keeps_fingering (fingering : Fingering) :
    Keeps width f (tokens (frame.rows fingering)) (fingeringUses f fingering) := by
  obtain ⟨ts, hlines, hquiet⟩ := quiet_lines width frame
  have hmarks : Quiet width (tokens (frame.marks fingering)) := .rows fun r hr => by
    obtain ⟨⟨fret, string⟩, -, h⟩ := List.mem_filterMap.mp hr
    exact quiet_mark frame h
  have h := (((hquiet.keeps (f := f)).append (keeps_base frame fingering.baseFret)).append
    (keeps_written frame fingering.adjustedFrom)).append
      ((quiet_lineWidth 0.5).append hmarks).keeps
  rw [tokens_rows frame hlines, ← List.append_nil (fingeringUses f fingering)]
  exact h.saving

theorem keeps_diagram (chord : ChordDefinition) (label : Option String) (size : L)
    (origin : Point L) :
    Keeps width f (tokens (diagram (some f) chord label f size origin))
      (diagramUses f chord label) := by
  have hlabel : Keeps width f (tokens (match label with
      | some text => [code (showAligned text .left)]
      | none => [])) (match label with
      | some text => [.shown text f.scaled]
      | none => []) := by
    cases label with
    | none => exact Quiet.nil.keeps
    | some text => exact keeps_showAligned text .left
  have hfingering : Keeps width f (tokens (match chord.fingering with
      | some fingering =>
        (DiagramFrame.below origin.h (origin.v - Length.ofInt f.size) size).rows fingering
      | none => [])) (match chord.fingering with
      | some fingering => fingeringUses f fingering
      | none => []) := by
    cases chord.fingering with
    | none => exact Quiet.nil.keeps
    | some fingering => exact keeps_fingering _ fingering
  have hname : Keeps width f (moveTo (origin.h + size / 2) (origin.v - Length.ofInt f.size) ++
      showAligned chord.name .center) ([] ++ alignedUses f chord.name .center) :=
    (quiet_moveTo _ _).keeps.append (keeps_showAligned chord.name .center)
  simp only [diagram, selectFont, if_true, tokens_append]
  exact (hname.append hlabel).append hfingering

theorem tokens_diagram (chord : ChordDefinition) (label : Option String) (font : Font) (size : L)
    (origin : Point L) (current : Option Font) :
    tokens (diagram current chord label font size origin) =
      tokens (selectFont current font) ++
        tokens (diagram (some font) chord label font size origin) := by
  simp only [diagram, selectFont, if_true, tokens_append, List.append_assoc]
  rfl

end Diagram

section Chords

theorem step_number {m : Machine L} {name : String} {x : L}
    (h : m.names name = some (.number x)) :
    step width m (.call name) = some (m.push (.number x)) := by
  simp only [step, h]

theorem perform_number {m : Machine L} {name : String} {x : L}
    (h : m.names name = some (.number x)) :
    perform width m (.call name) = some (m.push (.number x)) := by
  simp only [perform, h]

/-- Some place has been set down as where the next chord may begin. -/
def HasPlace (m : Machine L) : Prop := ∃ y, m.names "minhpos" = some (.number y)

variable (width)

/-- Left of `least` a chord cannot begin. -/
def placeFrom (x least : L) : L := if x < least then least else x

/-- A chord stands over its place in the lyrics or at the end of the chord before it. -/
theorem run_chordPlace {m : Machine L} {least : L}
    (hleast : m.names "minhpos" = some (.number least))
    (hfont : m.graphics.font = some f.scaled) (lyrics : String) (origin : Point L)
    (mark : ChordMark) :
    run width (tokens (chordPlace lyrics origin mark)) m =
      let before := String.ofList (lyrics.toList.take mark.offset)
      some { m with
        operands := .number (placeFrom (width f.scaled before + origin.h) least) :: m.operands
        events := m.events ++ [.measured before f.scaled] } := by
  obtain ⟨operands, names, ⟨font, path, gray, lineWidth, changes⟩, saved, events⟩ := m
  obtain rfl : font = some f.scaled := hfont
  let before := String.ofList (lyrics.toList.take mark.offset)
  let x := width f.scaled before + origin.h
  let after (operands : List (Value L)) : Machine L := ⟨operands, names,
    ⟨some f.scaled, path, gray, lineWidth, changes⟩, saved, events ++ [.measured before f.scaled]⟩
  have hcall : step width (after (.number x :: .number x :: operands)) (.call "minhpos") =
      some (after (.number least :: .number x :: .number x :: operands)) := step_number hleast
  -- what is left to run is the procedure, if the place is too far left
  have hrun : run width (tokens (chordPlace lyrics origin mark))
      ⟨operands, names, ⟨some f.scaled, path, gray, lineWidth, changes⟩, saved, events⟩ =
      step width (after (.procedure [.op .pop, .call "minhpos"] :: .boolean (decide (x < least)) ::
        .number x :: operands)) (.op .ifTrue) := by
    show (step width (after (.number x :: .number x :: operands)) (.call "minhpos")).bind _ = _
    rw [hcall]
    exact Option.bind_fun_some _
  rw [hrun]
  show _ = some (after (.number (placeFrom x least) :: operands))
  by_cases hleft : x < least
  · have hpush : perform width (after operands) (.call "minhpos") =
        some (after (.number least :: operands)) := perform_number hleast
    rw [decide_eq_true hleft, placeFrom, if_pos hleft]
    exact (congrArg (Option.bind · some) hpush).trans rfl
  · rw [decide_eq_false hleft, placeFrom, if_neg hleft]
    rfl

/-- What a chord shown at `x` leaves behind, be the font selected again before each text or not. -/
theorem run_chordAtPlace {m : Machine L} (hfont : m.graphics.font = some f.scaled) (x : L)
    (origin : Point L) (mark : ChordMark) :
    let m' : Machine L := { m with
      names := define m.names "minhpos" (.number (x + width f.scaled mark.name))
      graphics := (m.graphics.draw (.moveTo x origin.v)).draw
        (.moveBy (width f.scaled mark.name) 0)
      events := m.events ++ [.measured mark.name f.scaled,
        .shown mark.name f.scaled (m.graphics.draw (.moveTo x origin.v))] }
    run width (tokens (chordAtPlace origin mark)) (m.push (.number x)) = some m' ∧
      run width (selecting f (tokens (chordAtPlace origin mark))) (m.push (.number x)) =
        some m' := by
  obtain ⟨operands, names, ⟨font, path, gray, lineWidth, changes⟩, saved, events⟩ := m
  obtain rfl : font = some f.scaled := hfont
  have hevents : ∀ e e' : Event L, events ++ [e] ++ [e'] = events ++ [e, e'] := fun e e' =>
    List.append_assoc ..
  dsimp only
  rw [← hevents]
  exact ⟨rfl, rfl⟩

/-- The machine with a chord shown at `x`. The next one may begin where it ends. -/
def withChord (m : Machine L) (lyrics : String) (textFont chordFont : Font) (v x : L)
    (mark : ChordMark) : Machine L :=
  let moved := { m.graphics with font := some chordFont.scaled }.draw (.moveTo x v)
  { m with
    names := define m.names "minhpos" (.number (x + width chordFont.scaled mark.name))
    graphics := moved.draw (.moveBy (width chordFont.scaled mark.name) 0)
    events := m.events ++
      [.measured (String.ofList (lyrics.toList.take mark.offset)) textFont.scaled] ++
      [.measured mark.name chordFont.scaled, .shown mark.name chordFont.scaled moved] }

theorem prints_withChord {m : Machine L} (hm : m.Knows) (lyrics : String)
    (textFont chordFont : Font) (v x : L) (mark : ChordMark) :
    m.Prints (chordUses lyrics textFont chordFont mark)
      (m.withChord width lyrics textFont chordFont v x mark) :=
  ⟨rfl, rfl, ⟨hm.dot, hm.ring⟩, _, List.append_assoc .., rfl⟩

/-- The code of a chord shows it over its place in the lyrics, unless it would begin before the
place set down for it, whichever font is in force. -/
theorem run_placeChord {m : Machine L} {least : L}
    (hleast : m.names "minhpos" = some (.number least)) (lyrics : String)
    (textFont chordFont : Font) (origin : Point L) (mark : ChordMark) :
    let before := String.ofList (lyrics.toList.take mark.offset)
    let m' := m.withChord width lyrics textFont chordFont origin.v
      (placeFrom (width textFont.scaled before + origin.h) least) mark
    (∀ current, m.InForce current →
        run width (tokens (placeChord current lyrics textFont chordFont origin mark)) m = some m') ∧
      run width (placeChordSelecting lyrics textFont chordFont origin mark) m = some m' := by
  intro before
  let m₁ : Machine L := { m.withFont textFont.scaled with
    events := m.events ++ [.measured before textFont.scaled] }
  let x := placeFrom (width textFont.scaled before + origin.h) least
  have hplace : run width (tokens (chordPlace lyrics origin mark)) (m.withFont textFont.scaled) =
      some (m₁.push (.number x)) :=
    run_chordPlace width (m := m.withFont textFont.scaled) hleast rfl lyrics origin mark
  obtain ⟨hat, hatSelecting⟩ := run_chordAtPlace width (f := chordFont)
    (m := m₁.withFont chordFont.scaled) rfl x origin mark
  refine ⟨fun current hcurrent => ?_, ?_⟩
  · have hinForce : (m₁.push (.number x)).InForce (some textFont) := inForce_some rfl
    simp only [placeChord, tokens_append, run_append, run_selectFont width hcurrent, hplace,
      run_selectFont width hinForce, Option.bind_some]
    exact hat
  · have hselecting : selecting textFont (tokens (chordPlace lyrics origin mark)) =
        tokens (selectFont none textFont) ++ tokens (chordPlace lyrics origin mark) := rfl
    have hlyrics : run width (tokens (selectFont none textFont) ++
        selecting textFont (tokens (chordPlace lyrics origin mark))) m =
        some (m₁.push (.number x)) := by
      rw [hselecting, run_append, run_selectFont width (inForce_none m), Option.bind_some,
        run_append, run_selectFont width (inForce_none _), Option.bind_some]
      exact hplace
    rw [placeChordSelecting, run_append, run_append, hlyrics, Option.bind_some,
      run_selectFont width (inForce_none _), Option.bind_some]
    exact hatSelecting

/-- The chords over a line are placed alike, whichever font is in force before them. -/
theorem run_placeChords (lyrics : String) (textFont chordFont : Font) (origin : Point L)
    (marks : List ChordMark) (current : Option Font) {m : Machine L} (hm : m.Knows)
    (hmin : m.HasPlace) (hcurrent : m.InForce current) :
    ∃ m', run width (tokens (placeChords lyrics textFont chordFont origin current marks)) m =
        some m' ∧
      run width (marks.flatMap (placeChordSelecting lyrics textFont chordFont origin)) m =
        some m' ∧
      m'.InForce (if marks.isEmpty then current else some chordFont) ∧
      m.Prints (marks.flatMap (chordUses lyrics textFont chordFont)) m' := by
  induction marks generalizing current m with
  | nil => exact ⟨m, rfl, rfl, hcurrent, .silent hm rfl rfl rfl⟩
  | cons mark marks ih =>
    obtain ⟨least, hleast⟩ := hmin
    obtain ⟨hrun₁, hselecting₁⟩ :=
      run_placeChord width hleast lyrics textFont chordFont origin mark
    have h₁ := prints_withChord width hm lyrics textFont chordFont origin.v
      (placeFrom (width textFont.scaled (String.ofList (lyrics.toList.take mark.offset)) + origin.h)
        least) mark
    obtain ⟨m₂, hrun₂, hselecting₂, hfont₂, h₂⟩ :=
      ih (some chordFont) h₁.knows ⟨_, rfl⟩ (inForce_some rfl)
    refine ⟨m₂, ?_, ?_, ?_, ?_⟩
    · rw [placeChords, tokens_append, run_append, hrun₁ current hcurrent]
      exact hrun₂
    · rw [List.flatMap_cons, run_append, hselecting₁]
      exact hselecting₂
    · cases marks with
      | nil => exact hfont₂
      | cons => exact hfont₂
    · exact h₁.trans h₂

end Chords

end Machine

end PostScript

end Songbook
