import Cordia.Audio.Capture
import Cordia.Audio.Dsp
/-!
# A capture session on the global DSP (`src-tauri/src/audio_capture.rs:217-252`)

`Cordia.Audio.Capture` proves the pipeline's accounting for any `process_frame` and any settings
command. Here both are the DSP's own. The processing thread locks the DSP that `get_dsp()` returns
and calls its `process_frame` on the popped frame (`:221-243`). A settings command calls one of the
setters of that same DSP under the same lock. The DSP is a process-wide singleton that outlives a
session, so a session starts from whatever the calls before it left.

The gate reads three settings: whether transmission is muted, the input mode, and the key.
`process_frame` changes none of them, so along any interleaving of callbacks, the processing
thread, the consumer and the settings commands, they are those of the commands alone
(`settings_sessionRun`). So mute and push-to-talk hold end to end (`session_transmission_gate`).
While transmission is muted, every frame the processing thread turns out is silence. In
push-to-talk mode a frame passes exactly while the key is held.
-/

namespace Cordia.Audio

/-- The actions of a capture session on `get_dsp()`'s DSP: those of the pipeline, with each
settings command a call on that DSP. The code's commands are the setters; a `process_frame` from
elsewhere is allowed too, and changes nothing below. -/
inductive SessionAct (α R : Type) where
  | callback (data : List α)
  | pop
  | process
  | receive
  | receiveLevel
  | command (c : DspCmd R)
  | dropReceiver

/-- The frame `process_frame` was given and what it turned out, sent or dropped. -/
def Event.processedOut? {F : Type} : Event F → Option (Frame F × List F)
  | .processed frame out _ _ => some (frame, out)
  | _ => none

namespace SessionAct

variable {α R : Type}

/-- The call a settings command makes on the DSP. -/
def command? : SessionAct α R → Option (DspCmd R)
  | .command c => some c
  | _ => none

variable [OfScientific R] [Add R] [Sub R] [Mul R] [Div R] [Max R] [Min R] [LT R] [LE R]
  [DecidableRel ((· < ·) : R → R → Prop)] [DecidableRel ((· ≤ ·) : R → R → Prop)]
  (abs sqrt : R → R)

/-- The pipeline's action: a settings command adjusts the DSP by its call. -/
def toAct : SessionAct α R → Act α (AudioDSP R)
  | .callback data => .callback data
  | .pop => .pop
  | .process => .process
  | .receive => .receive
  | .receiveLevel => .receiveLevel
  | .command c => .adjust (·.step abs sqrt c)
  | .dropReceiver => .dropReceiver

end SessionAct

section Session

variable {α R : Type} [OfScientific R] [Add R] [Sub R] [Mul R] [Div R] [Max R] [Min R] [LT R]
  [LE R] [DecidableRel ((· < ·) : R → R → Prop)] [DecidableRel ((· ≤ ·) : R → R → Prop)]

namespace AudioDSP

variable (abs sqrt : R → R)

/-- What the gate reads of the DSP besides its smoothed gain. -/
def settings (dsp : AudioDSP R) : Bool × InputMode × Bool :=
  (dsp.transmissionMuted, dsp.inputMode, dsp.pttPressed)

@[simp] theorem settings_processFrame (dsp : AudioDSP R) (input : List R) :
    (dsp.processFrame abs sqrt input).1.settings = dsp.settings := by
  simp [settings]

/-- A call changes the settings as a function of the settings alone. -/
theorem settings_step {d₁ d₂ : AudioDSP R} (h : d₁.settings = d₂.settings) (c : DspCmd R) :
    (d₁.step abs sqrt c).settings = (d₂.step abs sqrt c).settings := by
  simp only [settings, Prod.mk.injEq] at h
  obtain ⟨hmuted, hmode, hptt⟩ := h
  cases c <;>
    simp [settings, step, setGain, setThreshold, setInputMode, setPttPressed, setTransmissionMuted,
      hmuted, hmode, hptt]

theorem settings_run {d₁ d₂ : AudioDSP R} (h : d₁.settings = d₂.settings) (cmds : List (DspCmd R)) :
    (d₁.run abs sqrt cmds).settings = (d₂.run abs sqrt cmds).settings := by
  induction cmds generalizing d₁ d₂ with
  | nil => exact h
  | cons c cmds ih => exact ih (settings_step abs sqrt h c)

theorem run_append (dsp : AudioDSP R) (cmds cmds' : List (DspCmd R)) :
    dsp.run abs sqrt (cmds ++ cmds') = (dsp.run abs sqrt cmds).run abs sqrt cmds' :=
  List.foldl_append _ _ _ _

end AudioDSP

variable (fromSample : α → R) (abs sqrt : R → R) (cap : Nat)

/-- A capture session on `get_dsp()`'s DSP after the calls `pre` on it: `start_capture`'s pipeline,
with the DSP's `process_frame` and the frames padded with `0.0` (`:270`). -/
def sessionRun (pre : List (DspCmd R)) (acts : List (SessionAct α R)) :
    Pipeline R (AudioDSP R) × List (Event R) :=
  (Pipeline.start (AudioDSP.new.run abs sqrt pre)).run fromSample 0.0
    (AudioDSP.processFrame abs sqrt) cap (acts.map (SessionAct.toAct abs sqrt))

/-- One action changes the DSP's settings as its settings command does, if it is one. -/
theorem settings_sessionStep (p : Pipeline R (AudioDSP R)) (a : SessionAct α R) :
    ((p.step fromSample 0.0 (AudioDSP.processFrame abs sqrt) cap (a.toAct abs sqrt)).1.dsp).settings =
      (p.dsp.run abs sqrt a.command?.toList).settings := by
  cases a with
  | process =>
    simp only [SessionAct.toAct, Pipeline.step]
    split
    · rfl
    · split_ifs <;> exact AudioDSP.settings_processFrame abs sqrt _ _
  | command c => rfl
  | _ => simp only [SessionAct.toAct, Pipeline.step]; (try split) <;> rfl

/-- Along a whole session, the DSP's settings are those of the settings commands alone. -/
theorem settings_sessionRun : ∀ (p : Pipeline R (AudioDSP R)) (acts : List (SessionAct α R)),
    ((p.run fromSample 0.0 (AudioDSP.processFrame abs sqrt) cap
        (acts.map (SessionAct.toAct abs sqrt))).1.dsp).settings =
      (p.dsp.run abs sqrt (acts.filterMap SessionAct.command?)).settings
  | _, [] => rfl
  | p, a :: acts => by
    rw [List.map_cons, Pipeline.run_cons, settings_sessionRun,
      AudioDSP.settings_run abs sqrt (settings_sessionStep fromSample abs sqrt cap p a)]
    cases a <;> rfl

/-- The processing thread turns the frame it holds into its samples times the input gain, then
times the gate, taken at some envelope and level. -/
theorem processedOut_step (p : Pipeline R (AudioDSP R)) : ∃ displayedLevel level,
    (p.step fromSample 0.0 (AudioDSP.processFrame abs sqrt) cap .process).2.filterMap
        Event.processedOut? =
      (p.held.map fun frame => (frame, (frame.samples.map (· * p.dsp.gain)).map
        (· * ({ p.dsp with displayedLevel }.gate level).2))).toList := by
  cases hh : p.held with
  | none => exact ⟨0.0, 0.0, by simp only [Pipeline.step, hh]; rfl⟩
  | some frame =>
    obtain ⟨dl, level, hout⟩ := p.dsp.processFrame_samples abs sqrt frame.samples
    refine ⟨dl, level, ?_⟩
    simp only [Pipeline.step, hh]
    split_ifs <;> simp [Event.processedOut?, hout]

/-- **Mute and push-to-talk hold end to end.** In every interleaving of the audio callback, the
processing thread, the consumer and the settings commands, on a DSP that any calls `pre` have
left: the frame the processing thread turns out next is silence while transmission is muted. When
it is not muted and the DSP is in push-to-talk mode, the frame passes, times the input gain, if the
key was pressed after the last switch into push-to-talk and not released since, and is silence
otherwise. -/
theorem session_transmission_gate (pre : List (DspCmd R)) (acts : List (SessionAct α R)) :
    let p : Pipeline R (AudioDSP R) := (sessionRun fromSample abs sqrt cap pre acts).1
    let cmds : List (DspCmd R) := pre ++ acts.filterMap SessionAct.command?
    let out : List (Frame R × List R) :=
      (p.step fromSample 0.0 (AudioDSP.processFrame abs sqrt) cap .process).2.filterMap
        Event.processedOut?
    let gated : R → List (Frame R × List R) := fun g =>
      (p.held.map fun frame => (frame, (frame.samples.map (· * p.dsp.gain)).map (· * g))).toList
    (Muted cmds → out = gated 0.0) ∧
      (¬Muted cmds → PushToTalkMode cmds → KeyHeld cmds → out = gated 1.0) ∧
      (¬Muted cmds → PushToTalkMode cmds → ¬KeyHeld cmds → out = gated 0.0) := by
  intro p cmds out gated
  have hs : p.dsp.settings = (AudioDSP.new.run abs sqrt cmds).settings := by
    rw [AudioDSP.run_append]
    exact settings_sessionRun fromSample abs sqrt cap _ acts
  simp only [AudioDSP.settings, Prod.mk.injEq] at hs
  obtain ⟨hsm, hsp, hsk⟩ := hs
  obtain ⟨hm, hp, hk⟩ := AudioDSP.run_settings abs sqrt cmds
  obtain ⟨dl, level, hout⟩ := processedOut_step fromSample abs sqrt cap p
  have hunmuted : ¬Muted cmds → p.dsp.transmissionMuted = false := fun h =>
    hsm.trans (Bool.eq_false_iff.2 (mt hm.1 h))
  refine ⟨fun h => ?_, fun h hptt hkey => ?_, fun h hptt hkey => ?_⟩
  · rw [show out = _ from hout,
      AudioDSP.gate_snd_of_muted { p.dsp with displayedLevel := dl } (hsm.trans (hm.2 h))]
  · rw [show out = _ from hout,
      AudioDSP.gate_snd_of_pushToTalk { p.dsp with displayedLevel := dl } (hunmuted h)
        (hsp.trans (hp.2 hptt)), if_pos (hsk.trans (hk.2 hkey))]
  · rw [show out = _ from hout,
      AudioDSP.gate_snd_of_pushToTalk { p.dsp with displayedLevel := dl } (hunmuted h)
        (hsp.trans (hp.2 hptt)), if_neg (fun hc => mt hk.1 hkey (hsk.symm.trans hc))]

/-- **The meter's two paths agree.** Each time the processing thread processes a frame, the level
it queues for the UI is what `get_level` reports on the DSP it leaves, for any square root that
maps `0.0` to `0.0`, as IEEE `sqrt` does. This rests on frames never being empty. On an empty input
`process_frame` returns `0.0` and keeps its envelope, which `get_level` still reports. -/
theorem queued_level_eq_getLevel (h0 : sqrt 0.0 = 0.0) (p : Pipeline R (AudioDSP R)) :
    let q : Pipeline R (AudioDSP R) :=
      (p.step fromSample 0.0 (AudioDSP.processFrame abs sqrt) cap .process).1
    q.levels = p.levels ++ (p.held.map fun _ => q.dsp.getLevel sqrt).toList := by
  cases hh : p.held with
  | none => simp [Pipeline.step, hh]
  | some frame =>
    have hne : frame.samples ≠ [] := fun h => by
      simpa [h, frameSamples] using frame.length_eq
    simp only [Pipeline.step, hh]
    split_ifs <;> simp [AudioDSP.processFrame_level abs sqrt _ _ h0 hne]

/-- A session whose DSP holds a frame of silence, on `f32`, with the identity for `abs` and
`sqrt`. -/
theorem queued_level_eq_getLevel_of_silence :
    id (0.0 : Float) = 0.0 ∧
      let p : Pipeline Float (AudioDSP Float) :=
        { Pipeline.start AudioDSP.new with
          held := some ⟨List.replicate frameSamples 0.0, List.length_replicate _ _⟩ }
      let q : Pipeline Float (AudioDSP Float) :=
        (p.step id 0.0 (AudioDSP.processFrame id id) 1 .process).1
      q.levels = p.levels ++ (p.held.map fun _ => q.dsp.getLevel id).toList :=
  ⟨rfl, queued_level_eq_getLevel id id id 1 rfl _⟩

end Session

end Cordia.Audio
