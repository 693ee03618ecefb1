import Songbook.Proofs.LeadingIntegers
import Songbook.Proofs.Tellings

/-!
# Font sizes

A size that a directive gives is positive, and a change by some points is refused where it would
leave none. So the sizes that songs begin with are always positive, and of those in force only the
one of tablatures may not be: while it is linked it is two points smaller than the text, however
small that is (`relink_positive_iff`). All sizes of a run are positive exactly if the text is larger
than two points whenever a linked slot takes its font from it (`sizes_positive_iff`).
-/

namespace Songbook

namespace StyleSheet

variable {s : StyleSheet} {which : FontSlot} {f : Font → Font} {extensions : Bool} {scope : Scope}

/-- All sizes are positive. -/
def Positive (s : StyleSheet) : Prop :=
  ∀ which, 0 < (s.initial which).size ∧ 0 < (s.current which).size

/-- No size is beyond the largest. -/
def Bounded (s : StyleSheet) : Prop :=
  ∀ which, (s.initial which).size ≤ largestSize ∧ (s.current which).size ≤ largestSize

/-- All sizes are positive but perhaps the one that tablatures are printed in, and none is beyond
the largest. -/
structure Sized (s : StyleSheet) : Prop where
  initial : ∀ which, 0 < (s.initial which).size
  current : ∀ which, which ≠ .tab → 0 < (s.current which).size
  bounded : s.Bounded

/-- If the font of tablatures is linked, it may be two points smaller than the text. -/
def TabRoom (s : StyleSheet) : Prop := s.tab.linked = true → 2 < s.text.current.size

instance (s : StyleSheet) : Decidable s.TabRoom := by
  unfold TabRoom
  infer_instance

theorem Positive.sized (h : s.Positive) (hbounded : s.Bounded) : s.Sized :=
  ⟨fun which => (h which).1, fun which _ => (h which).2, hbounded⟩

theorem Sized.positive_iff (h : s.Sized) : s.Positive ↔ 0 < s.tab.current.size := by
  refine ⟨fun hpositive => (hpositive .tab).2, fun htab which => ⟨h.initial which, ?_⟩⟩
  by_cases hwhich : which = .tab
  · rw [hwhich]
    exact htab
  · exact h.current which hwhich

theorem default_positive : default.Positive := by
  intro which
  cases which <;> decide

theorem default_sized : default.Sized := by
  refine default_positive.sized fun which => ?_
  cases which <;> decide

/-! ## Links -/

theorem slot_modifySlot (s : StyleSheet) (which other : FontSlot) (f : Slot → Slot) :
    (s.modifySlot which f).slot other = if other = which then f (s.slot which) else s.slot other := by
  unfold modifySlot
  split
  · rename_i h
    rw [h, slot_setSlot]
  · rename_i h
    exact slot_setSlot_of_ne s _ h

/-- A linked slot takes the font that it derives, and every slot keeps its link. -/
theorem slot_relink (s : StyleSheet) (which : FontSlot) :
    s.relink.slot which = if which.isDependent && (s.slot which).linked then
      { s.slot which with current := s.derived which } else s.slot which := by
  obtain ⟨text, chord, ⟨_, _, tab⟩, ⟨_, _, comment⟩, ⟨_, _, commentItalic⟩⟩ := s
  cases which <;> cases tab <;> cases comment <;> cases commentItalic <;> rfl

theorem relink_initial (s : StyleSheet) (which : FontSlot) :
    s.relink.initial which = s.initial which := by
  unfold initial
  rw [slot_relink]
  split <;> rfl

theorem relink_current (s : StyleSheet) (which : FontSlot) :
    s.relink.current which =
      if which.isDependent && (s.slot which).linked then s.derived which else s.current which := by
  unfold current
  rw [slot_relink]
  split <;> rfl

theorem relink_tabRoom_iff : s.relink.TabRoom ↔ s.TabRoom := by
  have hlinked : s.relink.tab.linked = s.tab.linked := by
    have htab : s.relink.tab = _ := s.slot_relink .tab
    rw [htab]
    split <;> rfl
  have htext : s.relink.text = s.text := s.slot_relink .text
  rw [TabRoom, hlinked, htext, TabRoom]

theorem Bounded.relink (h : s.Bounded) : s.relink.Bounded := by
  intro which
  have htext : s.text.current.size ≤ largestSize := (h .text).2
  rw [relink_initial, relink_current]
  refine ⟨(h which).1, ?_⟩
  split
  · cases which with
    | tab => exact (wrapSize_bounds _).2
    | chord => exact (h .chord).2
    | text | comment | commentItalic => exact htext
  · exact (h which).2

theorem Sized.relink (h : s.Sized) : s.relink.Sized := by
  refine ⟨?_, ?_, h.bounded.relink⟩
  · intro which
    rw [relink_initial]
    exact h.initial which
  · intro which hwhich
    have htext : 0 < s.text.current.size := h.current .text (by decide)
    rw [relink_current]
    split
    · cases which with
      | tab => exact absurd rfl hwhich
      | chord => exact h.current .chord (by decide)
      | text | comment | commentItalic => exact htext
    · exact h.current which hwhich

/-- The fonts taken by linked slots are positive exactly if there is room for tablatures. -/
theorem relink_positive_iff (h : s.Sized) (htab : s.tab.linked = false → 0 < s.tab.current.size) :
    s.relink.Positive ↔ s.relink.TabRoom := by
  have hcurrent : s.relink.tab.current = _ := s.relink_current .tab
  rw [h.relink.positive_iff, relink_tabRoom_iff, TabRoom, hcurrent]
  cases hlinked : s.tab.linked with
  | false => simpa [FontSlot.isDependent, slot, hlinked, current] using htab hlinked
  | true =>
    have htext : 0 < s.text.current.size := h.current .text (by decide)
    have hlargest : s.text.current.size ≤ largestSize := (h.bounded .text).2
    have hderived : wrapSize (s.text.current.size - 2) = s.text.current.size - 2 :=
      wrapSize_eq_self (by omega) (by omega)
    simp only [FontSlot.isDependent, slot, hlinked, Bool.and_self, if_true, derived, hderived,
      forall_const]
    omega

/-! ## Changes -/

/-- Makes a size of a size. -/
structure KeepsSize (f : Font → Font) : Prop where
  pos : ∀ font, 0 < font.size → 0 < (f font).size
  le_largest : ∀ font, font.size ≤ largestSize → (f font).size ≤ largestSize

theorem keepsSize_family (family : String) : KeepsSize fun font => { font with family } :=
  ⟨fun _ hpos => hpos, fun _ hle => hle⟩

theorem keepsSize_size {size : Int} (hpos : 0 < size) (hle : size ≤ largestSize) :
    KeepsSize fun font => { font with size } :=
  ⟨fun _ _ => hpos, fun _ _ => hle⟩

theorem setInitial_initial (s : StyleSheet) (which other : FontSlot) (f : Font → Font) :
    (s.setInitial which f).initial other =
      if other = which then f (s.initial which) else s.initial other := by
  unfold initial setInitial
  rw [slot_modifySlot]
  split
  · dsimp only
    split <;> rfl
  · rfl

theorem setInitial_current (s : StyleSheet) (which other : FontSlot) (f : Font → Font) :
    (s.setInitial which f).current other =
      if other = which ∧ which.isDependent then f (s.initial which) else s.current other := by
  unfold current setInitial
  rw [slot_modifySlot]
  by_cases hother : other = which
  · subst hother
    simp only [if_true, true_and]
    split <;> rfl
  · simp [hother]

/-- With another font in force in a slot, which is linked no longer. -/
def unlinked (s : StyleSheet) (which : FontSlot) (f : Font → Font) : StyleSheet :=
  s.modifySlot which fun v => { v with current := f v.current, linked := false }

theorem setCurrent_eq (s : StyleSheet) (which : FontSlot) (f : Font → Font) (extensions : Bool) :
    s.setCurrent which f extensions = if extensions || which.isDependent then s.unlinked which f
      else (s.unlinked which f).relink := rfl

theorem unlinked_initial (s : StyleSheet) (which other : FontSlot) (f : Font → Font) :
    (s.unlinked which f).initial other = s.initial other := by
  unfold initial unlinked
  rw [slot_modifySlot]
  split
  · rename_i h
    rw [h]
  · rfl

theorem unlinked_current (s : StyleSheet) (which other : FontSlot) (f : Font → Font) :
    (s.unlinked which f).current other =
      if other = which then f (s.current which) else s.current other := by
  unfold current unlinked
  rw [slot_modifySlot]
  split <;> rfl

theorem Bounded.unlinked (h : s.Bounded) (hf : KeepsSize f) : (s.unlinked which f).Bounded := by
  intro other
  rw [unlinked_initial, unlinked_current]
  refine ⟨(h other).1, ?_⟩
  split
  · exact hf.le_largest _ (h which).2
  · exact (h other).2

theorem Sized.unlinked (h : s.Sized) (hf : KeepsSize f) : (s.unlinked which f).Sized := by
  refine ⟨?_, ?_, h.bounded.unlinked hf⟩
  · intro other
    rw [unlinked_initial]
    exact h.initial other
  · intro other hother
    rw [unlinked_current]
    split
    · rename_i hwhich
      exact hf.pos _ (h.current which (hwhich ▸ hother))
    · exact h.current other hother

theorem Positive.unlinked (h : s.Positive) (hf : KeepsSize f) : (s.unlinked which f).Positive := by
  intro other
  rw [unlinked_initial, unlinked_current]
  refine ⟨(h other).1, ?_⟩
  split
  · exact hf.pos _ (h which).2
  · exact (h other).2

theorem Bounded.changeInitial (h : s.Bounded) (hf : KeepsSize f) :
    (s.change which f extensions .initial).Bounded := by
  show (s.setInitial which f).Bounded
  intro other
  rw [setInitial_initial, setInitial_current]
  constructor
  · split
    · exact hf.le_largest _ (h which).1
    · exact (h other).1
  · split
    · exact hf.le_largest _ (h which).1
    · exact (h other).2

theorem Sized.change (h : s.Sized) (hf : KeepsSize f) :
    (s.change which f extensions scope).Sized := by
  cases scope with
  | initial =>
    refine ⟨?_, ?_, h.bounded.changeInitial hf⟩
    · intro other
      show 0 < ((s.setInitial which f).initial other).size
      rw [setInitial_initial]
      split
      · exact hf.pos _ (h.initial which)
      · exact h.initial other
    · intro other hother
      show 0 < ((s.setInitial which f).current other).size
      rw [setInitial_current]
      split
      · exact hf.pos _ (h.initial which)
      · exact h.current other hother
  | current =>
    show (s.setCurrent which f extensions).Sized
    rw [setCurrent_eq]
    split
    · exact h.unlinked hf
    · exact (h.unlinked hf).relink

/-- A font that songs are to begin with does not change the linked ones. -/
theorem Positive.changeInitial (h : s.Positive) (hf : KeepsSize f) :
    (s.change which f extensions .initial).Positive := by
  show (s.setInitial which f).Positive
  intro other
  rw [setInitial_initial, setInitial_current]
  constructor
  · split
    · exact hf.pos _ (h which).1
    · exact (h other).1
  · split
    · exact hf.pos _ (h which).1
    · exact (h other).2

theorem changeCurrent_positive_iff (h : s.Positive) (hbounded : s.Bounded) (hf : KeepsSize f) :
    (s.change which f extensions .current).Positive ↔
      (extensions || which.isDependent) = false → (s.change which f extensions .current).TabRoom := by
  show (s.setCurrent which f extensions).Positive ↔ _ → (s.setCurrent which f extensions).TabRoom
  rw [setCurrent_eq]
  cases extensions || which.isDependent with
  | true => simpa using h.unlinked hf
  | false =>
    have hpositive : (s.unlinked which f).Positive := h.unlinked hf
    simpa using relink_positive_iff (hpositive.sized (hbounded.unlinked hf))
      fun _ => (hpositive .tab).2

/-- With the fonts in force that songs begin with. -/
def returned (s : StyleSheet) : StyleSheet :=
  let back := fun (v : Slot) => { v with current := v.initial }
  ⟨back s.text, back s.chord, back s.tab, back s.comment, back s.commentItalic⟩

theorem returned_positive (h : s.Sized) : s.returned.Positive := by
  intro which
  have hinitial := h.initial which
  cases which <;> exact ⟨hinitial, hinitial⟩

theorem returned_sized (h : s.Sized) : s.returned.Sized := by
  refine (returned_positive h).sized fun which => ?_
  have hinitial := (h.bounded which).1
  cases which <;> exact ⟨hinitial, hinitial⟩

theorem Sized.reset (h : s.Sized) : s.reset.Sized := (returned_sized h).relink

/-- A song begins with sizes if there is room for tablatures. -/
theorem reset_positive_iff (h : s.Sized) : s.reset.Positive ↔ s.reset.TabRoom :=
  relink_positive_iff (returned_sized h) fun _ => (returned_positive h .tab).2

end StyleSheet

/-! ## Directives -/

/-- Gives a size, if it gives an absolute one. -/
def Directive.IsSized {L : Type} : Directive L → Prop
  | .size _ (.absolute points) => 0 < points ∧ points ≤ largestSize
  | _ => True

variable {L : Type}

namespace Directive

variable [Length L]

theorem isSized_of_read {k : Keyword} {args : String} {d : Directive L}
    (h : read k args = .ok d) : d.IsSized := by
  have hsize : ∀ {slot : FontSlot}, (readSize k args).map (Directive.size slot) = .ok d →
      d.IsSized := by
    intro slot hmap
    cases hread : readSize k args with
    | error p =>
      rw [hread] at hmap
      cases hmap
    | ok change =>
      rw [hread] at hmap
      cases hmap
      cases change with
      | absolute points =>
        refine ⟨readSize_pos hread, (readSize_le hread).trans ?_⟩
        decide
      | relative delta => trivial
  cases k <;> first
    | (cases h; trivial)
    | exact of_map_ok (P := IsSized) h fun _ => trivial
    | exact hsize h

end Directive

/-- An absolute size, or a family, of text or chords makes the linked slots take their fonts,
without the extensions. -/
def Directive.derives (d : Directive L) (s : Session L) : Bool :=
  match d with
  | .font slot _ | .size slot (.absolute _) =>
    !(s.document.modes.extensions || slot.isDependent)
  | _ => false

namespace StyleSheet

/-- A size is another size, or the fonts stay as they are. -/
theorem resized_cases (s : StyleSheet) (slot : FontSlot) (change : SizeArgument) (scope : Scope)
    (extensions : Bool)
    (hsize : ∀ points, change = .absolute points → 0 < points ∧ points ≤ largestSize) :
    s.resized slot change scope extensions = s ∨
      ∃ f, KeepsSize f ∧ s.resized slot change scope extensions = s.change slot f extensions scope ∧
        ((∃ points, change = .absolute points) ∨ extensions = true) := by
  cases change with
  | absolute points =>
    obtain ⟨hpos, hle⟩ := hsize points rfl
    exact .inr ⟨_, keepsSize_size hpos hle, rfl, .inl ⟨points, rfl⟩⟩
  | relative delta =>
    unfold resized
    cases extensions with
    | false => exact .inl rfl
    | true =>
      simp only [if_true, adjustSize?]
      split
      · rename_i hpos
        exact .inr ⟨fun font => { font with size := (s.inScope slot scope).size + delta },
          keepsSize_size hpos.1 hpos.2, rfl, .inr trivial⟩
      · exact .inl rfl

end StyleSheet

variable [Length L]

namespace Typeset

open Session

variable {settings : Settings L} {s : Session L} {d : Directive L}

theorem isSized_of_directive? {text : String} (h : directive? s text = some d) : d.IsSized := by
  obtain ⟨k, args, -, hread⟩ := exists_keyword_of_directive? h
  exact Directive.isSized_of_read hread

theorem isSized_of_telling {x : Telling} (h : x.directive? s = some d) : d.IsSized := by
  match x with
  | .found (.directive n text) => exact isSized_of_directive? h
  | .song _ | .found (.chord ..) | .found (.line ..) | .found (.problem ..) => cases h

omit [Length L] in
theorem scope_of_startup {startup : Bool} (hs : s.startup = startup) :
    s.scope = if startup then .initial else .current := by
  rw [Session.scope, hs]

theorem registered_sized (hd : d.IsSized) (h : s.document.styles.Sized) (page : Nat) :
    (d.registered s page).styles.Sized := by
  have hpaper : ∀ paper? : Option (PageGeometry L), (s.papered paper?).styles.Sized := by
    intro paper?
    rw [s.papered_styles]
    exact h
  cases d with
  | font slot family => exact h.change (StyleSheet.keepsSize_family family)
  | size slot change =>
    show (s.document.styles.resized slot change _ _).Sized
    rcases s.document.styles.resized_cases slot change s.scope
      s.document.modes.extensions (by rintro points rfl; exact hd) with
      hsame | ⟨f, hf, hchange, -⟩
    · rw [hsame]
      exact h
    · rw [hchange]
      exact h.change hf
  | newSong => exact h.reset
  | paperType name => exact hpaper _
  | formSpec spec => exact hpaper _
  | _ => exact h

/-- In a song the sizes in force stay positive if there is room for tablatures when they are
derived. -/
theorem registered_positive_iff (hs : s.startup = false) (hd : d.IsSized)
    (hnew : d.isNewSong = false) (hpaper : d.setsPaper = false)
    (h : s.document.styles.Positive) (hbounded : s.document.styles.Bounded) (page : Nat) :
    (d.registered s page).styles.Positive ↔
      (d.derives s = true → (d.registered s page).styles.TabRoom) := by
  have hscope : s.scope = .current := scope_of_startup hs
  have hsame : s.document.styles.Positive ↔ (false = true → s.document.styles.TabRoom) :=
    iff_of_true h nofun
  cases d with
  | font slot family =>
    show (s.document.styles.change slot _ _ s.scope).Positive ↔
      (!(s.document.modes.extensions || slot.isDependent)) = true →
        (s.document.styles.change slot _ _ s.scope).TabRoom
    rw [hscope, Bool.not_eq_true']
    exact StyleSheet.changeCurrent_positive_iff h hbounded (StyleSheet.keepsSize_family family)
  | size slot change =>
    cases change with
    | absolute points =>
      show (s.document.styles.change slot _ _ s.scope).Positive ↔
        (!(s.document.modes.extensions || slot.isDependent)) = true →
          (s.document.styles.change slot _ _ s.scope).TabRoom
      rw [hscope, Bool.not_eq_true']
      exact StyleSheet.changeCurrent_positive_iff h hbounded (StyleSheet.keepsSize_size hd.1 hd.2)
    | relative delta =>
      show (s.document.styles.resized slot _ _ _).Positive ↔ (false = true → _)
      refine iff_of_true ?_ nofun
      rcases s.document.styles.resized_cases slot (.relative delta) s.scope
        s.document.modes.extensions nofun with hsame | ⟨f, hf, hchange, ⟨_, h⟩ | hextensions⟩
      · rw [hsame]
        exact h
      · cases h
      · rw [hchange, hscope, StyleSheet.changeCurrent_positive_iff h hbounded hf, hextensions]
        exact nofun
  | newSong => cases hnew
  | paperType name => cases hpaper
  | formSpec spec => cases hpaper
  | _ => exact hsame

/-- In a configuration file the sizes in force stay positive. -/
theorem registered_positive_startup (hs : s.startup = true) (hd : d.IsSized)
    (hcontent : d.isContent = false) (h : s.document.styles.Positive) (page : Nat) :
    (d.registered s page).styles.Positive := by
  have hscope : s.scope = .initial := scope_of_startup hs
  have hpaper : ∀ paper? : Option (PageGeometry L), (s.papered paper?).styles.Positive := by
    intro paper?
    rw [s.papered_styles]
    exact h
  cases d with
  | font slot family =>
    show (s.document.styles.change slot _ _ s.scope).Positive
    rw [hscope]
    exact h.changeInitial (StyleSheet.keepsSize_family family)
  | size slot change =>
    show (s.document.styles.resized slot change _ _).Positive
    rcases s.document.styles.resized_cases slot change s.scope
      s.document.modes.extensions (by rintro points rfl; exact hd) with
      hsame | ⟨f, hf, hchange, -⟩
    · rw [hsame]
      exact h
    · rw [hchange, hscope]
      exact h.changeInitial hf
  | newSong => cases hcontent
  | paperType name => exact hpaper _
  | formSpec spec => exact hpaper _
  | _ => exact h

theorem found_positive_startup (e : Markup.Event) (s : Session L) (page : Nat)
    (hs : s.startup = true) (h : s.register.styles.Positive ∧ s.register.styles.Sized) :
    (e.registered s page).styles.Positive ∧ (e.registered s page).styles.Sized :=
  registered_holds (P := fun r => r.styles.Positive ∧ r.styles.Sized) e s page (fun _ => h)
    fun _ _ hd => ⟨registered_positive_startup hs (isSized_of_directive? hd)
      (isContent_of_directive? hs hd) h.1 page, registered_sized (isSized_of_directive? hd) h.2 page⟩

end Typeset

/-! ## Along a run -/

/-- A telling makes the linked slots take their fonts. -/
def Telling.derives (x : Telling) (s : Session L) : Bool :=
  x.beginsSong s || (x.directive? s).any (·.derives s)

namespace Typeset

open Session

variable {settings : Settings L} {s : Session L}

theorem told_sized (h : s.InSong settings) (hsized : s.document.styles.Sized) (x : Telling) :
    (s.told x).document.styles.Sized := by
  have hstyles : ∀ {r : Register L}, (s.told x).register = r → r.styles.Sized →
      (s.told x).document.styles.Sized := fun hr hsized => by
    subst hr
    exact hsized
  rcases told_register_cases h x with ⟨-, htold⟩ | ⟨-, -, htold⟩ | ⟨d, -, hd, -, -, -, htold⟩
  · exact hstyles htold hsized.reset
  · exact hstyles htold hsized
  · exact hstyles htold (registered_sized (isSized_of_telling hd) hsized _)

theorem told_positive_iff (h : s.InSong settings) (hsized : s.document.styles.Sized)
    (hpositive : s.document.styles.Positive) (x : Telling) :
    (s.told x).document.styles.Positive ↔
      (x.derives s = true → (s.told x).document.styles.TabRoom) := by
  unfold Telling.derives
  rcases told_register_cases h x with ⟨hbegins, htold⟩ | ⟨hbegins, hd, htold⟩ |
    ⟨d, hbegins, hd, -, hnew, hpaper, htold⟩
  · have hstyles : (s.told x).document.styles = _ := congrArg Register.styles htold
    rw [hstyles, hbegins]
    refine (StyleSheet.reset_positive_iff hsized).trans ?_
    exact ⟨fun hroom _ => hroom, fun hroom => hroom rfl⟩
  · have hstyles : (s.told x).document.styles = _ := congrArg Register.styles htold
    rw [hstyles, hbegins, hd]
    exact iff_of_true hpositive nofun
  · have hstyles : (s.told x).document.styles = _ := congrArg Register.styles htold
    rw [hstyles, hbegins, hd]
    exact registered_positive_iff h.onPage.inSong (isSized_of_telling hd) hnew hpaper hpositive
      hsized.bounded _

theorem toldAll_sized (h : s.InSong settings) (hsized : s.document.styles.Sized)
    (xs : List Telling) : (s.toldAll xs).document.styles.Sized := by
  induction xs generalizing s with
  | nil => exact hsized
  | cons x xs ih => exact ih (told_inSong h x) (told_sized h hsized x)

/-- The sizes in force are positive all the time exactly if there is room for tablatures at the
beginning and whenever linked slots take their fonts. -/
theorem toldAll_positive_iff (h : s.InSong settings) (hsized : s.document.styles.Sized)
    (hfirst : s.document.styles.Positive ↔ s.document.styles.TabRoom) (xs : List Telling) :
    (∀ before, before <+: xs → (s.toldAll before).document.styles.Positive) ↔
      s.document.styles.TabRoom ∧ ∀ before x, before ++ [x] <+: xs →
        x.derives (s.toldAll before) = true →
          (s.toldAll (before ++ [x])).document.styles.TabRoom := by
  have hstep : ∀ before x, (s.toldAll before).document.styles.Positive →
      ((s.toldAll (before ++ [x])).document.styles.Positive ↔
        (x.derives (s.toldAll before) = true →
          (s.toldAll (before ++ [x])).document.styles.TabRoom)) := fun before x hpositive => by
    rw [toldAll_append]
    exact told_positive_iff (toldAll_inSong h before) (toldAll_sized h hsized before) hpositive x
  constructor
  · intro hall
    refine ⟨hfirst.1 (hall [] List.nil_prefix), fun before x hprefix => ?_⟩
    exact (hstep before x (hall before ((List.prefix_append _ _).trans hprefix))).1
      (hall _ hprefix)
  · rintro ⟨hroom, hderives⟩ before
    -- from the first moment on: each telling is judged by the sizes that the ones before it left
    induction before using List.reverseRecOn with
    | nil => exact fun _ => hfirst.2 hroom
    | append_singleton before x ih =>
      intro hprefix
      exact (hstep before x (ih ((List.prefix_append _ _).trans hprefix))).2
        (hderives before x hprefix)

/-- Configuration files leave a size in every slot. -/
theorem prepare_sized (settings : Settings L) (configurations : List (String × String)) :
    Ends (prepare configurations noOverrides) (.start settings .unlimited) (· = .brokenCharacter)
      fun _ t => t.document.styles.Sized := by
  have hread := readConfigurations_keep
    (J := fun r : Register L => r.styles.Positive ∧ r.styles.Sized) found_positive_startup
    (fun _ _ h => h) configurations () (.start settings .unlimited)
    ⟨rfl, StyleSheet.default_positive, StyleSheet.default_sized⟩
  exact hread.bind fun _ s hs => .of_ok (show applyOverrides noOverrides s = .ok () s from rfl) hs.2.2

theorem Begins.sized {configurations : List (String × String)}
    (h : Begins settings configurations noOverrides) :
    (firstSong settings configurations noOverrides).document.styles.Sized ∧
      ((firstSong settings configurations noOverrides).document.styles.Positive ↔
        (firstSong settings configurations noOverrides).document.styles.TabRoom) := by
  obtain ⟨s, log, hprepare, -, hfirst⟩ := h.exists_prepared
  have hsized := (prepare_sized settings configurations).holds hprepare
  rw [hfirst]
  exact ⟨hsized.reset, StyleSheet.reset_positive_iff hsized⟩

/-- Without overrides all sizes are positive in configuration files. In songs the sizes that songs
begin with are positive, and those in force but the one of tablatures; none is beyond the largest.
That one is positive as well at all times exactly if the text is larger than two points at the
beginning of the first song and whenever the font of tablatures is linked and taken from the
text. -/
theorem sizes_positive_iff (settings : Settings L) :
    HoldsInConfigurations settings (fun s => s.document.styles.Positive) ∧
      ∀ configurations songs : List (String × String),
        SongsTo settings configurations noOverrides songs fun t =>
          let first := firstSong settings configurations noOverrides
          let tellings := runTellings settings configurations noOverrides songs
          t = first.toldAll tellings ∧
            (∀ before, before <+: tellings → (first.toldAll before).document.styles.Sized) ∧
            ((∀ before, before <+: tellings → (first.toldAll before).document.styles.Positive) ↔
              first.document.styles.TabRoom ∧ ∀ before x, before ++ [x] <+: tellings →
                x.derives (first.toldAll before) = true →
                  (first.toldAll (before ++ [x])).document.styles.TabRoom) := by
  constructor
  · have hholds : HoldsInConfigurations settings fun s =>
        s.document.styles.Positive ∧ s.document.styles.Sized :=
      holdsInConfigurations (J := fun r => r.styles.Positive ∧ r.styles.Sized)
        found_positive_startup (fun _ _ h => h)
        ⟨StyleSheet.default_positive, StyleSheet.default_sized⟩
    exact fun configurations name beginning =>
      (hholds configurations name beginning).mono fun _ _ h => h.1
  · intro configurations songs
    refine songsTo_of_told settings configurations noOverrides songs fun hbegins => ?_
    obtain ⟨hsized, hfirst⟩ := hbegins.sized
    exact ⟨rfl, fun before _ => toldAll_sized hbegins.inSong hsized before,
      toldAll_positive_iff hbegins.inSong hsized hfirst _⟩

/-- A song in letters of one point. -/
def tinySong : String × String := ("a", "\x7btextsize: 1\x7d\n")

/-- Tablatures are set in letters of minus one point. -/
theorem tabSize_negative_tinySong : ∃ t : Session Rat,
    (do prepare [] noOverrides; printSongs [tinySong]; begin) (.start .default .unlimited) =
      .ok () t ∧
    (t.document.styles.current .tab).size = -1 ∧ ¬ t.document.styles.Positive := by
  refine ⟨_, eq_ok_of_succeeds (by decide +kernel), ?_, fun hpositive => ?_⟩
  · decide +kernel
  · exact absurd (hpositive .tab).2 (by decide +kernel)

end Typeset

end Songbook
