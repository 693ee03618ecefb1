import Mathlib.Data.List.TakeWhile
import Songbook.Proofs.Layout

/-!
# Texts of directives

A text is cut after its keyword. That works while the delimiter there takes one byte; no text else
stops a session, wherever it stands: an action ends in a value, or in the refusal of a full device
(`Safe`).
-/

namespace Songbook

namespace Keyword

/-- Without the delimiters before it the text is the keyword, the delimiter after it and the rest,
or the keyword alone. -/
structure Splits (text keyword : String) (delimiter : Option Char) (rest : String) : Prop where
  body : text.toList.dropWhile Text.isDelimiter =
    keyword.toList ++ (delimiter.toList ++ rest.toList)
  unbroken : ∀ c ∈ keyword.toList, Text.isDelimiter c = false
  delimits : ∀ c ∈ delimiter, Text.isDelimiter c = true
  alone : delimiter = none → rest = ""

theorem Splits.takeWhile {text keyword rest : String} {delimiter : Option Char}
    (h : Splits text keyword delimiter rest) :
    (text.toList.dropWhile Text.isDelimiter).takeWhile (!Text.isDelimiter ·) = keyword.toList := by
  rw [h.body, List.takeWhile_append_of_pos fun c hc => by simp [h.unbroken c hc]]
  cases delimiter with
  | none => simp [h.alone rfl]
  | some d => simp [h.delimits d rfl]

theorem Splits.unique {text k k' r r' : String} {d d' : Option Char} (h : Splits text k d r)
    (h' : Splits text k' d' r') : k = k' ∧ d = d' ∧ r = r' := by
  have hk : k.toList = k'.toList := h.takeWhile.symm.trans h'.takeWhile
  have hrest : d.toList ++ r.toList = d'.toList ++ r'.toList := by
    have hbody := h.body.symm.trans h'.body
    rwa [hk, List.append_cancel_left_eq] at hbody
  refine ⟨String.toList_inj.1 hk, ?_⟩
  cases d with
  | none =>
    obtain rfl := h.alone rfl
    cases d' with
    | none => exact ⟨rfl, (h'.alone rfl).symm⟩
    | some c => simp at hrest
  | some c =>
    cases d' with
    | none =>
      obtain rfl := h'.alone rfl
      simp at hrest
    | some c' =>
      obtain ⟨rfl, hr⟩ : c = c' ∧ r.toList = r'.toList := by simpa using hrest
      exact ⟨rfl, String.toList_inj.1 hr⟩

theorem exists_splits (text : String) : ∃ keyword delimiter rest,
    Splits text keyword delimiter rest := by
  have hparts := List.takeWhile_append_dropWhile (p := (!Text.isDelimiter ·))
    (l := text.toList.dropWhile Text.isDelimiter)
  have hunbroken : ∀ c ∈ (text.toList.dropWhile Text.isDelimiter).takeWhile
      (!Text.isDelimiter ·), Text.isDelimiter c = false := fun c hc => by
    simpa using List.mem_takeWhile_imp hc
  rcases hafter : (text.toList.dropWhile Text.isDelimiter).dropWhile (!Text.isDelimiter ·)
    with _ | ⟨d, rest⟩
  · exact ⟨String.ofList _, none, "", by simpa [hafter] using hparts.symm,
      by simpa using hunbroken, by simp, fun _ => rfl⟩
  · have hd : Text.isDelimiter d = true := by
      have hhead := List.head_dropWhile_not (!Text.isDelimiter ·)
        (l := text.toList.dropWhile Text.isDelimiter) (by simp [hafter])
      simpa [hafter] using hhead
    exact ⟨String.ofList _, some d, String.ofList rest, by simpa [hafter] using hparts.symm,
      by simpa using hunbroken, by simpa using hd, nofun⟩

/-- The split fails exactly at a delimiter of more than one byte. -/
theorem splitText?_eq {text keyword rest : String} {delimiter : Option Char}
    [Decidable (∀ c ∈ delimiter, c.utf8Size = 1)]
    (h : Splits text keyword delimiter rest) : splitText? text =
      if ∀ c ∈ delimiter, c.utf8Size = 1 then some (keyword, rest) else none := by
  have hkeyword := h.takeWhile
  have hafter : (text.toList.dropWhile Text.isDelimiter).dropWhile (!Text.isDelimiter ·) =
      delimiter.toList ++ rest.toList := by
    have hparts := List.takeWhile_append_dropWhile (p := (!Text.isDelimiter ·))
      (l := text.toList.dropWhile Text.isDelimiter)
    rw [hkeyword] at hparts
    exact List.append_cancel_left (hparts.trans h.body)
  simp only [splitText?, hkeyword, hafter]
  cases delimiter with
  | none => simp [h.alone rfl]
  | some d => simp

end Keyword

namespace Typeset

open Session

variable {L : Type}

/-- The refusal of a device with that limit. -/
def IsRefusal (limit : Option Limit) (e : Fault) : Prop :=
  ∃ l, limit = some l ∧ e = .device l.reason

/-- From any session whose device has that limit, `x` ends in a value or in the device's refusal. -/
abbrev Safe (limit : Option Limit) {α : Type} (x : Typeset L α) : Prop :=
  Keeps (fun (_ : Unit) (s : Session L) => s.device.limit = limit) (IsRefusal limit) x

variable {limit : Option Limit}

theorem change_safe {f : Session L → Session L} (h : ∀ s, (f s).device.limit = s.device.limit) :
    Safe limit (modify f : Typeset L Unit) := fun _ s hs => (h s).trans hs

theorem draw_eq_of_refusal? {d : Drawing L} {s : Session L} {reason : String}
    (h : s.device.refusal? = some reason) : draw d s = .error (.device reason)
      { s with device := { s.device with received := s.device.received.push d } } := by
  simp only [draw, Device.draw, h]

theorem draw_eq_of_room {d : Drawing L} {s : Session L} (h : s.device.refusal? = none) :
    draw d s =
      .ok () { s with device := { s.device with received := s.device.received.push d } } := by
  simp only [draw, Device.draw, h]

theorem draw_safe (d : Drawing L) : Safe limit (draw d) := by
  intro _ s hs
  cases hroom : s.device.refusal? with
  | none => exact .of_ok (draw_eq_of_room hroom) hs
  | some reason =>
    have hreason : ∃ l, limit = some l ∧ reason = l.reason := by
      unfold Device.refusal? at hroom
      rw [hs] at hroom
      cases limit with
      | none => cases hroom
      | some l =>
        refine ⟨l, rfl, ?_⟩
        dsimp only at hroom
        split at hroom
        · exact (Option.some.inj hroom).symm
        · cases hroom
    obtain ⟨l, hl, rfl⟩ := hreason
    unfold Ends
    rw [draw_eq_of_refusal? hroom]
    exact ⟨l, hl, rfl⟩

variable [Length L]

/-- Whatever is laid out, only the device can refuse it. -/
theorem LaysOut.safe {α : Type} {inside quiet : Bool} {x : Typeset L α}
    (h : LaysOut inside quiet x) : Safe limit x := by
  have houtside := h.outside
  clear h
  induction houtside with
  | pure a => exact .pure a
  | get => exact fun _ _ hs => hs
  | bind _ _ ihx ihf => exact .bind ihx ihf
  | draw _ => exact draw_safe _
  | note _ => exact change_safe fun _ => rfl
  | report _ p => exact change_safe fun _ => rfl
  | change hdevice _ _ => exact change_safe fun s => congrArg (·.limit) (hdevice s)
  | turn hinside _ => cases hinside

theorem dispatch_safe {text : String} (h : Keyword.splitText? text ≠ none) :
    Safe limit (dispatch text : Typeset L Unit) := (dispatch_laysOut h).safe

theorem dispatch_broken {text : String} (h : Keyword.splitText? text = none) (s : Session L) :
    dispatch text s = .error .brokenCharacter s := by
  unfold dispatch
  rw [h]
  rfl

/-- A directive stops at nothing but a full device as long as the delimiter after its keyword takes
one byte; a wider one stops it wherever it stands. -/
theorem dispatch_ends_iff (text : String) : ∃ keyword delimiter rest,
    Keyword.Splits text keyword delimiter rest ∧
      ((∀ c ∈ delimiter, c.utf8Size = 1) →
        Keyword.splitText? text = some (keyword, rest) ∧
          ∀ s : Session L, Ends (dispatch text) s (IsRefusal s.device.limit) fun _ _ => True) ∧
      (¬(∀ c ∈ delimiter, c.utf8Size = 1) →
        Keyword.splitText? text = none ∧
          ∀ s : Session L, dispatch text s = .error .brokenCharacter s) := by
  obtain ⟨keyword, delimiter, rest, h⟩ := Keyword.exists_splits text
  refine ⟨keyword, delimiter, rest, h, fun hnarrow => ?_, fun hwide => ?_⟩
  · have hsplit := Keyword.splitText?_eq h
    rw [if_pos hnarrow] at hsplit
    refine ⟨hsplit, fun s => ?_⟩
    exact (dispatch_safe (by simp [hsplit]) () s rfl).mono fun _ _ _ => trivial
  · have hsplit := Keyword.splitText?_eq h
    rw [if_neg hwide] at hsplit
    exact ⟨hsplit, dispatch_broken hsplit⟩

/-- A no-break space takes two bytes, so it does. -/
theorem dispatch_noBreakSpace :
    Keyword.Splits "title\u00a0x" "title" (some '\u00a0') "x" ∧
      Keyword.splitText? "title\u00a0x" = none ∧
      dispatch "title\u00a0x" (.start .default .unlimited : Session Rat) =
        .error .brokenCharacter (.start .default .unlimited) := by
  have hsplit : Keyword.splitText? "title\u00a0x" = none := by decide +kernel
  have hunbroken : "title".toList.all (!Text.isDelimiter ·) = true := by decide +kernel
  refine ⟨⟨?_, fun c hc => ?_, ?_, nofun⟩, hsplit, dispatch_broken hsplit _⟩
  · decide +kernel
  · simpa using List.all_eq_true.1 hunbroken c hc
  · rintro _ ⟨⟩
    decide +kernel

end Typeset

end Songbook
