import Songbook.Proofs.Outcome
import Songbook.Session.Directives

/-!
# Which directives pass where

A keyword that belongs to songs only, or to configuration files only, reads as a directive of that
kind whatever its arguments (`isContent_of_read`, `setsPaper_of_read`). So a song never changes the
paper, and a configuration file never prints. Titles are printed at their keywords only
(`isHeading_of_read`).
-/

namespace Songbook

variable {L : Type} [Length L]

/-- Prints a title or a subtitle. -/
def Keyword.isHeading : Keyword → Bool
  | .title | .subtitle => true
  | _ => false

namespace Directive

/-- Prints something or moves the cursor. -/
def isContent : Directive L → Bool
  | .startOfChorus | .endOfChorus | .comment .. | .newSong | .title _ | .subtitle _ | .newPage
  | .newPhysicalPage | .startOfTab | .endOfTab | .columnBreak | .columns _ | .twoColumn _
  | .startOfBlock _ | .endOfBlock | .bridge _ | .indent _ | .conditionalBreak _ => true
  | _ => false

/-- Prints a title or a subtitle. -/
def isHeading : Directive L → Bool
  | .title _ | .subtitle _ => true
  | _ => false

/-- Changes the paper. -/
def setsPaper : Directive L → Bool
  | .paperType _ | .formSpec _ => true
  | _ => false

omit [Length L] in
/-- What a directive has with every sound argument, it has. -/
theorem of_map_ok {α : Type} {x : Except Problem α} {f : α → Directive L} {d : Directive L}
    {P : Directive L → Prop} (h : x.map f = .ok d) (hf : ∀ a, P (f a)) : P d := by
  rcases x with p | a
  · cases h
  · cases h
    exact hf a

theorem isContent_of_read {k : Keyword} {args : String} {d : Directive L}
    (h : read k args = .ok d) : d.isContent = k.isContent := by
  cases k <;> first
    | (cases h; rfl)
    | exact of_map_ok (P := fun d => d.isContent = _) h fun _ => rfl

theorem isHeading_of_read {k : Keyword} {args : String} {d : Directive L}
    (h : read k args = .ok d) : d.isHeading = k.isHeading := by
  cases k <;> first
    | (cases h; rfl)
    | exact of_map_ok (P := fun d => d.isHeading = _) h fun _ => rfl

theorem setsPaper_of_read {k : Keyword} {args : String} {d : Directive L}
    (h : read k args = .ok d) : d.setsPaper = k.startupOnly := by
  cases k <;> first
    | (cases h; rfl)
    | exact of_map_ok (P := fun d => d.setsPaper = _) h fun _ => rfl

end Directive

namespace Typeset

variable {s : Session L}

/-- What a session may be told to do where it stands: directives of the other place are refused. -/
def Admits (s : Session L) (d : Directive L) : Prop :=
  if s.startup then d.isContent = false else d.setsPaper = false

theorem refusal?_eq_none {k : Keyword} {startup extensions : Bool}
    (h : refusal? k startup extensions = none) :
    if startup then k.isContent = false else k.startupOnly = false := by
  cases startup with
  | true => exact Bool.eq_false_iff.2 fun hk => by simp [refusal?, hk] at h
  | false => exact Bool.eq_false_iff.2 fun hk => by simp [refusal?, hk] at h

/-- A directive is reported, or it belongs where the session stands. -/
theorem perform_ends {E : Fault → Prop} {Q : Unit → Session L → Prop} (k : Keyword)
    (args : String) (hreport : ∀ p, Ends (report p) s E Q)
    (happly : ∀ d, Directive.read k args = .ok d → Admits s d → Ends (apply k d) s E Q) :
    Ends (perform k args) s E Q := by
  unfold perform
  refine .bind_ok rfl ?_
  split
  · exact hreport _
  · rename_i hnone
    have hk := refusal?_eq_none hnone
    split
    · rename_i d hd
      refine happly d hd ?_
      unfold Admits
      rwa [Directive.isContent_of_read hd, Directive.setsPaper_of_read hd]
    · exact hreport _

/-- The text of a directive is interpreted by its keyword, after a notice if there is one. -/
theorem dispatch_of_split {text name args : String}
    (hsplit : Keyword.splitText? text = some (name, args)) (s : Session L) :
    (Keyword.ofName? name = none ∧ dispatch text s = report (.unknownDirective name) s) ∨
      ∃ k, Keyword.ofName? name = some k ∧ (dispatch text s = perform k args s ∨
        ∃ notice, dispatch text s = (report (.notice notice) >>= fun _ => perform k args) s) := by
  unfold dispatch
  rw [hsplit]
  dsimp only
  cases Keyword.ofName? name with
  | none => exact .inl ⟨rfl, rfl⟩
  | some k =>
    refine .inr ⟨k, rfl, ?_⟩
    dsimp only
    rw [get_bind]
    by_cases hlevel : 4 < s.settings.warningLevel
    · rw [if_pos hlevel]
      cases k.notice? with
      | none => exact .inl rfl
      | some notice => exact .inr ⟨notice, rfl⟩
    · rw [if_neg hlevel]
      exact .inl rfl

/-- A known keyword is reported of at most, and then performed. -/
theorem dispatch_ends {text name args : String} {E : Fault → Prop} {Q : Unit → Session L → Prop}
    (hsplit : Keyword.splitText? text = some (name, args))
    (hunknown : Keyword.ofName? name = none → Ends (report (.unknownDirective name)) s E Q)
    (hperform : ∀ k, Keyword.ofName? name = some k → Ends (perform k args) s E Q ∧
      ∀ notice, Ends (perform k args) (s.report (.notice notice)) E Q) :
    Ends (dispatch text) s E Q := by
  unfold Ends
  rcases dispatch_of_split hsplit s with ⟨hname, hdispatch⟩ |
    ⟨k, hname, hdispatch | ⟨notice, hdispatch⟩⟩ <;> rw [hdispatch]
  · exact hunknown hname
  · exact (hperform k hname).1
  · exact (hperform k hname).2 notice

/-- A directive with sound arguments is applied where it is not refused. -/
theorem dispatch_applies {text name args : String} {k : Keyword} {d : Directive L}
    (hsplit : Keyword.splitText? text = some (name, args)) (hname : Keyword.ofName? name = some k)
    (hread : Directive.read k args = .ok d)
    (hrefusal : refusal? k s.startup s.document.modes.extensions = none) :
    ∃ log, dispatch text s = apply k d { s with log } := by
  have hperform : ∀ log, perform k args { s with log } = apply k d { s with log } := by
    intro log
    rw [perform, get_bind]
    dsimp only
    rw [hrefusal, hread]
  rcases dispatch_of_split hsplit s with ⟨hunknown, -⟩ | ⟨k', hk', hdispatch⟩
  · rw [hname] at hunknown
    cases hunknown
  · obtain rfl : k = k' := Option.some.inj (hname.symm.trans hk')
    rcases hdispatch with hdispatch | ⟨notice, hdispatch⟩
    · exact ⟨s.log, hdispatch.trans (hperform s.log)⟩
    · exact ⟨_, hdispatch.trans (hperform _)⟩

end Typeset

end Songbook
