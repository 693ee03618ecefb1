import Songbook.Proofs.Interruptions
import Songbook.Proofs.Sight

/-!
# Devices that refuse

A device with room for so many drawings refuses the next one, and the refusal ends the call in which
it happens. No step of a session looks at the device (`Heeds`), so until then the run is the run on
a device that refuses nothing, and no drawing is made after it (`Heeds.passes`). The drawings that
the device received are the first ones of the unrefused run (`refused_received`).
-/

namespace Songbook

open Markup

variable {L : Type}

namespace Session

/-- The session on a device that refuses nothing. -/
def freed (s : Session L) : Session L := { s with device := { s.device with limit := none } }

/-- What was drawn and logged may have become more. -/
def Grows (s t : Session L) : Prop :=
  s.device.received.toList <+: t.device.received.toList ∧ s.log.toList <+: t.log.toList

theorem Grows.refl (s : Session L) : s.Grows s := ⟨List.prefix_rfl, List.prefix_rfl⟩

theorem Grows.trans {s t u : Session L} (h : s.Grows t) (h' : t.Grows u) : s.Grows u :=
  ⟨h.1.trans h'.1, h.2.trans h'.2⟩

theorem Grows.diagnostics {s t : Session L} (h : s.Grows t) : s.diagnostics <+: t.diagnostics :=
  h.2.filterMap _

theorem grows_note (s : Session L) (e : LogEntry L) : s.Grows (s.note e) :=
  ⟨List.prefix_rfl, by simp [note]⟩

theorem grows_report (s : Session L) (p : Problem) : s.Grows (s.report p) := s.grows_note _

end Session

open Session

/-- A device of limit `l` stops a run at its first refusal: the refused drawing is the last one. -/
def refusal (l : Limit) : Interruption Fault (Session L) where
  Same s t := s.device.limit = some l ∧ s.device.received.size ≤ l.capacity ∧ t = s.freed
  Stopped e s t := e = .device l.reason ∧ s.device.received.size = l.capacity + 1 ∧ s.Grows t
  Grows := Session.Grows
  refl := Grows.refl
  trans := Grows.trans
  goesOn h h' := ⟨h.1, h.2.1, h.2.2.trans h'⟩

namespace Typeset

variable {α : Type} {l : Limit}

/-- A change that does not see the device. -/
theorem passes_of_freed {x : Typeset L α} {a : α} {g : Session L → Session L}
    (hx : ∀ s, x s = .ok a (g s)) (hgrows : ∀ s : Session L, s.Grows (g s))
    (hdevice : ∀ s, (g s).device = s.device) (hfreed : ∀ s, g s.freed = (g s).freed) :
    (refusal l).Passes x := by
  refine .of_ok hx hgrows ?_
  rintro s _ ⟨hlimit, hroom, rfl⟩
  refine ⟨?_, ?_, hfreed s⟩
  · rw [hdevice]
    exact hlimit
  · rw [hdevice]
    exact hroom

theorem endState_draw (d : Drawing L) (s : Session L) :
    endState (draw d) s = { s with device := { s.device with
      received := s.device.received.push d } } := by
  unfold endState draw Device.draw
  cases s.device.refusal? <;> rfl

/-- A full device refuses the drawing; any other goes on. -/
theorem draw_passes (d : Drawing L) : (refusal l).Passes (draw d) := by
  refine ⟨fun s => ?_, ?_⟩
  · rw [endState_draw]
    exact ⟨by simp, List.prefix_rfl⟩
  · rintro s _ ⟨hlimit, hroom, rfl⟩
    rw [endState_draw]
    have hfree : s.freed.device.refusal? = none := rfl
    by_cases hfull : l.capacity ≤ s.device.received.size
    · have hrefusal : s.device.refusal? = some l.reason := by
        unfold Device.refusal?
        rw [hlimit]
        exact if_pos hfull
      have hdraw : draw d s = .error (.device l.reason) { s with device := { s.device with
          received := s.device.received.push d } } := by
        unfold draw Device.draw
        rw [hrefusal]
      rw [hdraw]
      refine .inr ⟨rfl, ?_, List.prefix_rfl, List.prefix_rfl⟩
      simp only [Array.size_push]
      omega
    · have hrefusal : s.device.refusal? = none := by
        unfold Device.refusal?
        rw [hlimit]
        exact if_neg hfull
      have hdraw : draw d s = .ok () { s with device := { s.device with
          received := s.device.received.push d } } := by
        unfold draw Device.draw
        rw [hrefusal]
      rw [hdraw]
      refine ⟨_, rfl, hlimit, ?_, rfl⟩
      simp only [Array.size_push]
      omega

/-- What does not look at the device is interrupted by its refusals alone. -/
theorem Heeds.passes {x : Typeset L α} (h : Heeds true x) : (refusal l).Passes x := by
  induction h with
  | pure a => exact .pure a
  | throw e => exact .throw e
  | bind _ _ ihx ihf => exact .bind ihx ihf
  | look hsight _ ih =>
    refine .read ?_ fun s => ih s nofun
    rintro s _ ⟨-, -, rfl⟩
    rw [hsight s nofun, hsight s.freed nofun]
    rfl
  | draw _ => exact draw_passes _
  | note e => exact passes_of_freed (fun _ => rfl) (grows_note · e) (fun _ => rfl) fun _ => rfl
  | report p => exact passes_of_freed (fun _ => rfl) (grows_report · p) (fun _ => rfl) fun _ => rfl
  | @change f hf =>
    refine passes_of_freed (g := f) (fun _ => rfl) (fun s => ?_) hf.device fun s => ?_
    · unfold Session.Grows
      rw [hf.device, hf.log]
      exact Grows.refl s
    · refine eq_of_sight ?_ ?_ ?_
      · have hfreed : (f s).freed.sight true = (f s).sight true := rfl
        rw [hfreed, hf.sight s, hf.sight s.freed]
        rfl
      · show (f s.freed).device = { (f s).device with limit := none }
        rw [hf.device, hf.device]
        rfl
      · show (f s.freed).log = (f s).log
        rw [hf.log, hf.log]
        rfl
  | enter hfalse _ => cases hfalse

/-! ## Chords -/

theorem shownChord_freed (name : String) (s : Session L) :
    shownChord name s.freed = ((shownChord name s).1, (shownChord name s).2.freed) := by
  unfold shownChord
  dsimp only
  split <;> rfl

theorem useChord_log (name : String) (s : Session L) : useChord name s =
    s.entered (s.document.chords.use name) (if (s.document.chords.get? name).isNone then
      s.log.push (.noFingering name) else s.log) := by
  unfold useChord
  dsimp only
  split <;> rfl

theorem resolveChord_freed (name : String) (s : Session L) :
    resolveChord name s.freed = ((resolveChord name s).1, (resolveChord name s).2.freed) := by
  unfold resolveChord
  rw [shownChord_freed]
  split
  · rfl
  · simp only [useChord_log]
    rfl

theorem grows_useChord (name : String) (s : Session L) : s.Grows (useChord name s) := by
  rw [useChord_log]
  refine ⟨List.prefix_rfl, ?_⟩
  dsimp only [entered]
  split
  · exact (grows_note s (.noFingering name)).2
  · exact List.prefix_rfl

theorem grows_resolveChord (name : String) (s : Session L) :
    s.Grows (resolveChord name s).2 := by
  unfold resolveChord
  split
  · exact .refl s
  · unfold shownChord
    cases ChordName.read? name with
    | some n => exact grows_useChord _ s
    | none => exact (grows_report s _).trans (grows_useChord name _)

theorem resolveChord_device (name : String) (s : Session L) :
    (resolveChord name s).2.device = s.device := by
  obtain ⟨chords, log, heq⟩ := resolveChord_eq name s
  rw [heq]

variable [Length L]

theorem sink_passes : (refusal l).SinkPasses (sink (L := L)) where
  chord_grows n name s := by
    dsimp only [sink]
    split
    · exact .refl s
    · exact grows_resolveChord name (atLine n s)
  chord_same n name s t := by
    rintro ⟨hlimit, hroom, rfl⟩
    have hchord : sink.chord n name s.freed =
        ((sink.chord n name s).1, (sink.chord n name s).2.freed) := by
      dsimp only [sink]
      show (if s.startup then _ else _) = _
      split
      · rfl
      · exact resolveChord_freed name (atLine n s)
    have hdevice : (sink.chord n name s).2.device = s.device := by
      dsimp only [sink]
      split
      · rfl
      · exact resolveChord_device name (atLine n s)
    rw [hchord]
    exact ⟨rfl, hdevice ▸ hlimit, hdevice ▸ hroom, rfl⟩
  problem_grows n p s := grows_report (atLine n s) p
  problem_same n p s t := by
    rintro ⟨hlimit, hroom, rfl⟩
    exact ⟨hlimit, hroom, rfl⟩
  line n content := (sink_line_heeds n content).passes
  directive n text := (sink_directive_heeds n text).passes
  inTab s t := by
    rintro ⟨-, -, rfl⟩
    rfl

/-! ## Calls -/

/-- What can be asked of a session. -/
inductive Call
  | configuration (name text : String)
  | overrides (o : Overrides)
  | start
  | song (name text : String)
  | finish
  | knownChords

def Call.run : Call → Typeset L Unit
  | .configuration name text => readConfiguration name text
  | .overrides o => applyOverrides o
  | .start => begin
  | .song name text => readSong name text
  | .finish => Typeset.finish
  | .knownChords => printKnownChords

/-- The session after calls. A call may be made also when the one before it ended in a fault. -/
def after (calls : List Call) (s : Session L) : Session L :=
  calls.foldl (fun s call => endState call.run s) s

omit [Length L] in
theorem inStartup_passes {x : Typeset L Unit} (hx : (refusal l).Passes x) :
    (refusal l).Passes (inStartup x) := by
  have hend : ∀ s, endState (inStartup x) s =
      { endState x { s with startup := true } with startup := false } := by
    intro s
    unfold endState
    dsimp only [inStartup]
    rcases x { s with startup := true } with ⟨a, t⟩ | ⟨e, t⟩ <;> rfl
  refine ⟨fun s => ?_, ?_⟩
  · rw [hend]
    exact hx.grows { s with startup := true }
  · rintro s _ ⟨hlimit, hroom, rfl⟩
    have hrun := hx.same { s with startup := true } { s.freed with startup := true }
      ⟨hlimit, hroom, rfl⟩
    rw [hend]
    dsimp only [inStartup]
    rcases hs : x { s with startup := true } with ⟨a, s'⟩ | ⟨e, s'⟩ <;> rw [hs] at hrun
    · obtain ⟨_, hfreed, hlimit', hroom', rfl⟩ := hrun
      rw [hfreed]
      exact ⟨_, rfl, hlimit', hroom', rfl⟩
    · rcases hrun with ⟨_, hfreed, hlimit', hroom', rfl⟩ | hstopped
      · rw [hfreed]
        exact .inl ⟨_, rfl, hlimit', hroom', rfl⟩
      · exact .inr hstopped

theorem run_passes (call : Call) : (refusal l).Passes (call.run (L := L)) := by
  cases call with
  | configuration name text =>
    exact .bind (Heeds.note _).passes fun _ =>
      .bind (Heeds.passes (aside_heeds (fun _ => rfl) fun _ => rfl)) fun _ =>
        inStartup_passes (Interruption.readText_passes sink_passes text)
  | overrides o => exact (applyOverrides_heeds o).passes
  | start => exact begin_heeds.passes
  | song name text =>
    show (refusal l).Passes (readSong name text)
    rw [readSong_eq, songWith_bind]
    exact .bind (songWith_heeds name (.pure ())).passes fun _ =>
      Interruption.readText_passes sink_passes text
  | finish => exact finish_heeds.passes
  | knownChords => exact printKnownChords_heeds.passes

theorem grows_after (calls : List Call) (s : Session L) : s.Grows (after calls s) := by
  induction calls generalizing s with
  | nil => exact .refl s
  | cons call calls ih =>
    exact ((run_passes (l := ⟨0, ""⟩) call).grows s).trans (ih _)

/-- Calls are made alike on both devices until one of them is refused. -/
theorem after_same (calls : List Call) {s t : Session L} (h : (refusal l).Same s t) :
    (refusal l).Same (after calls s) (after calls t) ∨
    ∃ made call rest, calls = made ++ call :: rest ∧
      (refusal l).Same (after made s) (after made t) ∧
      ∃ e u, call.run (after made s) = .error e u ∧ (refusal l).Stopped e u (after calls t) := by
  induction calls generalizing s t with
  | nil => exact .inl h
  | cons call calls ih =>
    have hgoes : (refusal l).Same (endState (call.run (L := L)) s) (endState call.run t) →
        (refusal l).Same (after (call :: calls) s) (after (call :: calls) t) ∨
        ∃ made call' rest, call :: calls = made ++ call' :: rest ∧
          (refusal l).Same (after made s) (after made t) ∧ ∃ e u,
            call'.run (after made s) = .error e u ∧
            (refusal l).Stopped e u (after (call :: calls) t) := by
      intro hsame
      rcases ih hsame with hdone | ⟨made, call', rest, rfl, hmade, hstop⟩
      · exact .inl hdone
      · exact .inr ⟨call :: made, call', rest, rfl, hmade, hstop⟩
    have hrun := (run_passes call).same s t h
    rcases hs : call.run s with ⟨a, s'⟩ | ⟨e, s'⟩ <;> rw [hs] at hrun
    · obtain ⟨t', ht', hst'⟩ := hrun
      refine hgoes ?_
      rw [endState_of_ok hs, endState_of_ok ht']
      exact hst'
    · rcases hrun with ⟨t', ht', hst'⟩ | hstopped
      · refine hgoes ?_
        unfold endState
        rw [hs, ht']
        exact hst'
      · exact .inr ⟨[], call, calls, rfl, h, e, s', hs,
          (refusal l).goesOn hstopped (grows_after calls _)⟩

/-- A device with room for `l.capacity` drawings refuses nothing if the calls make no more of them.
Otherwise one call ends in the refusal: until then nothing was refused, the device has received the
first drawings of the unrefused run and the one that it refused, and what was reported are the first
problems of the unrefused run. -/
theorem refused_received (settings : Settings L) (l : Limit) (calls : List Call) :
    ((after calls (.start settings .unlimited)).device.received.size ≤ l.capacity →
      (after calls (.start settings (.limited l))).freed =
        after calls (.start settings .unlimited)) ∧
    (l.capacity < (after calls (.start settings .unlimited)).device.received.size →
      ∃ made call rest, calls = made ++ call :: rest ∧
        (after made (.start settings (.limited l))).freed = after made (.start settings .unlimited) ∧
        (after made (.start settings (.limited l))).device.received.size ≤ l.capacity ∧
        ∃ e t, call.run (after made (.start settings (.limited l))) = .error e t ∧
          e = .device l.reason ∧ e.message = "render error: " ++ l.reason ∧
          t.device.received.toList = (after calls (.start settings
            .unlimited)).device.received.toList.take (l.capacity + 1) ∧
          t.diagnostics <+: (after calls (.start settings .unlimited)).diagnostics) := by
  have hstart : (refusal l).Same (Session.start settings (.limited l))
      (.start settings .unlimited) := ⟨rfl, Nat.zero_le _, rfl⟩
  rcases after_same calls hstart with ⟨-, hroom, hfreed⟩ |
    ⟨made, call, rest, hcalls, ⟨-, hmade, hfreed⟩, e, t, hrun, rfl, hsize, hgrows⟩
  · refine ⟨fun _ => hfreed.symm, fun hmore => ?_⟩
    rw [hfreed] at hmore
    exact absurd hroom (Nat.not_le.2 hmore)
  · have hreceived := List.prefix_iff_eq_take.1 hgrows.1
    rw [Array.length_toList, hsize] at hreceived
    refine ⟨fun hroom => ?_, fun _ => ?_⟩
    · have hle := hgrows.1.length_le
      simp only [Array.length_toList] at hle
      omega
    · exact ⟨made, call, rest, hcalls, hfreed.symm, hmade, _, t, hrun, rfl, rfl, hreceived,
        hgrows.diagnostics⟩

/-- The third drawing of a song is refused. -/
theorem refused_received_third :
    2 < (after [.song "a" "la", .finish]
      (Session.start .default .unlimited : Session Rat)).device.received.size ∧
    ∃ made call rest e, ∃ t : Session Rat, [.song "a" "la", .finish] = made ++ call :: rest ∧
      Call.run call (after made (.start .default (.limited ⟨2, "full"⟩))) = .error e t ∧
      e.message = "render error: full" := by
  have hmore : 2 < (after [.song "a" "la", .finish]
      (Session.start .default .unlimited : Session Rat)).device.received.size := by decide +kernel
  obtain ⟨made, call, rest, hcalls, -, -, e, t, hrun, -, hmessage, -⟩ :=
    (refused_received .default ⟨2, "full"⟩ [.song "a" "la", .finish]).2 hmore
  exact ⟨hmore, made, call, rest, e, t, hcalls, hrun, hmessage⟩

end Typeset

end Songbook
