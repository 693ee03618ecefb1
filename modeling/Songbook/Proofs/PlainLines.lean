import Songbook.Markup.Reader
import Songbook.Proofs.Outcome

/-!
# Lines by themselves

Most characters stand for themselves. A line made of them goes to the sink as it is written
(`feeds_lyrics`), and between braces on a line of its own it goes there as a directive
(`feeds_directive`).
-/

namespace Songbook.Markup.Reader

variable {ε σ : Type} {sink : Sink ε σ}

/-- Stands for itself in lyrics and in directives. -/
def isPlain (c : Char) : Bool := !(['[', ']', '{', '}', '#', '\n', '\r'].contains c)

/-- Reads a list of characters. -/
def feeds (sink : Sink ε σ) (cs : List Char) : Step ε σ Unit := cs.forM (feed sink)

theorem feeds_cons {c : Char} {cs : List Char} {p q : Reader × σ}
    (h : feed sink c p = .ok () q) : feeds sink (c :: cs) p = feeds sink cs q := by
  show (feed sink c >>= fun _ => feeds sink cs) p = _
  exact bind_of_ok h

theorem feeds_append {cs ds : List Char} {p q : Reader × σ} (h : feeds sink cs p = .ok () q) :
    feeds sink (cs ++ ds) p = feeds sink ds q := by
  induction cs generalizing p with
  | nil =>
    cases h
    rfl
  | cons c cs ih =>
    change (feed sink c >>= fun _ => feeds sink cs) p = _ at h
    show (feed sink c >>= fun _ => feeds sink (cs ++ ds)) p = _
    rw [bind_eq] at h ⊢
    rcases hc : feed sink c p with ⟨_, p'⟩ | ⟨e, p'⟩ <;> rw [hc] at h
    · exact ih h
    · cases h

/-- What plain characters are collected into. -/
inductive Collects : Mode → Token → Prop
  | lyrics : Collects .text .lyrics
  | directive : Collects .directive .directive

theorem place_plain {mode : Mode} {kind : Token} {c : Char} (hc : isPlain c = true)
    (hmode : Collects mode kind) (inTab : Bool) :
    place sink mode inTab c = collect sink kind c := by
  unfold place
  cases hmode <;> split <;> first | rfl | contradiction

/-- Brackets are lyrics in a tablature only. -/
theorem place_collectsLyrics {c : Char} {inTab : Bool}
    (hbracket : inTab = true ∨ c ≠ '[' ∧ c ≠ ']') (hbrace : c ≠ '{' ∧ c ≠ '}') :
    place sink .text inTab c = collect sink .lyrics c := by
  unfold place
  split <;> first | rfl | simp_all

theorem place_collectsName {c : Char} (hbracket : c ≠ '[' ∧ c ≠ ']') (hbrace : c ≠ '{' ∧ c ≠ '}')
    (hspace : c ≠ ' ') (inTab : Bool) :
    place sink .chord inTab c = collect sink .chordName c := by
  unfold place
  split <;> first | rfl | simp_all

theorem place_collectsDirective {c : Char} (hbrace : c ≠ '{' ∧ c ≠ '}') (inTab : Bool) :
    place sink .directive inTab c = collect sink .directive c := by
  unfold place
  split <;> first | rfl | simp_all

/-- With further characters in a token. -/
def collected (r : Reader) (kind : Token) (cs : List Char) : Reader :=
  { r with column := r.column + cs.length }.setBuffer
    { r.buffer kind with reversed := cs.reverse ++ (r.buffer kind).reversed } kind

theorem collected_cons (r : Reader) (kind : Token) (c : Char) (cs : List Char) :
    (r.collected kind [c]).collected kind cs = r.collected kind (c :: cs) := by
  cases kind <;> simp [collected, setBuffer, buffer] <;> omega

theorem collect_eq {r : Reader} {kind : Token} (c : Char) {s : σ}
    (hroom : (r.buffer kind).size < kind.capacity) :
    collect sink kind c (r, s) = .ok ()
      (r.setBuffer { r.buffer kind with reversed := c :: (r.buffer kind).reversed } kind, s) := by
  have hpush : (r.buffer kind).push kind c =
      ({ r.buffer kind with reversed := c :: (r.buffer kind).reversed }, false) := if_pos hroom
  show EStateM.Result.ok () (r.setBuffer ((r.buffer kind).push kind c).1 kind,
    if ((r.buffer kind).push kind c).2 then _ else s) = _
  rw [hpush]
  rfl

variable (sink) in
theorem feed_plain {r : Reader} {kind : Token} {c : Char} {s : σ} (hc : isPlain c = true)
    (hmode : Collects r.mode kind) (hroom : (r.buffer kind).size < kind.capacity) :
    feed sink c (r, s) = .ok () (r.collected kind [c], s) := by
  have hreturn : c ≠ '\r' := by
    rintro rfl
    simp [isPlain] at hc
  have hbreak : c ≠ '\n' := by
    rintro rfl
    simp [isPlain] at hc
  have hhash : c ≠ '#' := by
    rintro rfl
    simp [isPlain] at hc
  have hskip : r.mode ≠ .skip := by
    intro hskip
    rw [hskip] at hmode
    cases hmode
  show (if c = '\r' then _ else _ : Step ε σ Unit) (r, s) = _
  rw [if_neg hreturn]
  show (if r.mode = .skip then _ else _ : Step ε σ Unit) ({ r with column := r.column + 1 }, s) = _
  rw [if_neg hskip, if_neg hbreak, if_neg fun h => hhash h.1, place_plain hc hmode, collect_eq c]
  · cases kind <;> rfl
  · cases kind <;> exact hroom

variable (sink) in
theorem feeds_plain {cs : List Char} (hcs : cs.all isPlain = true) {r : Reader}
    {kind : Token} {s : σ} (hmode : Collects r.mode kind)
    (hroom : (r.buffer kind).size + cs.length ≤ kind.capacity) :
    feeds sink cs (r, s) = .ok () (r.collected kind cs, s) := by
  induction cs generalizing r with
  | nil =>
    have hnil : r.collected kind [] = r := by
      cases kind <;> rfl
    rw [hnil]
    rfl
  | cons c cs ih =>
    rw [List.length_cons] at hroom
    rw [List.all_cons, Bool.and_eq_true] at hcs
    have hfeed := feed_plain sink (s := s) hcs.1 hmode (by omega)
    have hrest := ih hcs.2 (r := r.collected kind [c])
      (by cases kind <;> exact hmode)
      (by cases kind <;> simp [collected, setBuffer, buffer, Buffer.size] at hroom ⊢ <;> omega)
    rw [feeds_cons hfeed, hrest, collected_cons]

theorem send_ok {x : EStateM ε σ Unit} {r : Reader} {s t : σ} (h : x s = .ok () t) :
    send x (r, s) = .ok () (r, t) := by
  unfold send
  dsimp only
  rw [h]

theorem feeds_lyrics {cs : List Char} {n : Nat} {s t : σ} (hcs : cs.all isPlain = true)
    (hroom : cs.length ≤ Token.lyrics.capacity)
    (h : sink.line n ⟨String.ofList cs, []⟩ s = .ok () t) :
    feeds sink (cs ++ ['\n']) (atLine n, s) = .ok () (atLine (n + 1), t) := by
  have hlyrics := feeds_plain sink (s := s) hcs (r := atLine n) .lyrics (by
    show 0 + cs.length ≤ _
    omega)
  let r := (atLine n).collected .lyrics cs
  have hcontent : r.content = ⟨String.ofList cs, []⟩ := by
    simp [r, collected, setBuffer, buffer, content, atLine, Buffer.text, Buffer.empty]
  have hend : feed sink '\n' (r, s) = (do
      update fun r => { r with lyrics := .empty, marks := [] }
      send (sink.line n r.content)
      update fun r => r.reset.nextLine : Step ε σ Unit) ({ r with column := r.column + 1 }, s) :=
    rfl
  rw [hcontent] at hend
  have hfed : feed sink '\n' (r, s) = .ok () (atLine (n + 1), t) :=
    hend.trans ((bind_of_ok rfl).trans ((bind_of_ok (send_ok h)).trans rfl))
  rw [feeds_append hlyrics, feeds_cons hfed]
  rfl

/-- A directive of plain characters on a line of its own. -/
theorem feeds_directive {body : List Char} {n : Nat} {s t : σ}
    (hbody : body.all isPlain = true) (hroom : body.length ≤ Token.directive.capacity)
    (h : sink.directive n (String.ofList body) s = .ok () t) :
    feeds sink ('{' :: body ++ ['}', '\n']) (atLine n, s) = .ok () (atLine (n + 1), t) := by
  let opened : Reader := { atLine n with column := 1, hasDirective := true, mode := .directive }
  have hopen : feed sink '{' (atLine n, s) = .ok () (opened, s) := rfl
  have hcollect := feeds_plain sink (s := s) hbody (r := opened) .directive (by
    show 0 + body.length ≤ _
    omega)
  let r := opened.collected .directive body
  have hbuffer : r.directive.text = String.ofList body := by
    simp [r, opened, collected, setBuffer, buffer, atLine, Buffer.text, Buffer.empty]
  have hclose : feed sink '}' (r, s) = (do
      update fun r => { r with directive := .empty }
      send (sink.directive n r.directive.text)
      update fun r => { r.reset with mode := .skip } : Step ε σ Unit)
      ({ r with column := r.column + 1 }, s) := rfl
  rw [hbuffer] at hclose
  have hfed : feed sink '}' (r, s) =
      .ok () ({ { r with column := r.column + 1 }.reset with mode := .skip }, t) :=
    hclose.trans ((bind_of_ok rfl).trans ((bind_of_ok (send_ok h)).trans rfl))
  rw [List.cons_append, feeds_cons hopen, feeds_append hcollect, feeds_cons hfed]
  rfl

/-- A text whose last line has ended leaves the reader at a line's beginning. -/
theorem readText_of_feeds {text : String} {n : Nat} {s t : σ}
    (h : feeds sink text.toList (start, s) = .ok () (atLine n, t)) :
    readText sink text s = .ok () t := by
  have hread : read sink text (start, s) = .ok () (atLine n, t) :=
    (bind_of_ok (x := feedAll sink text) h).trans rfl
  unfold readText
  rw [hread]

end Songbook.Markup.Reader
