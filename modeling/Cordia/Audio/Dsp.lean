import Cordia.Trace
/-!
# The DSP and its transmission gate (`src-tauri/src/audio_dsp.rs`)

`process_frame` (`:52-120`) applies the input gain, follows the peak with a decaying envelope for
the level meter, and multiplies every sample by a transmission gain, the gate. The gate is chosen
by the DSP's settings. When transmission is muted it is `0.0`. In push-to-talk mode it is `1.0`
while the key is held and `0.0` otherwise. In voice-activity mode it is the smoothed gain, which
moves toward `1.0` or `0.0` as the level crosses the threshold and never drops below `0.001`.

The settings change only through the setters (`:122-148`). `set_input_mode(PushToTalk)` releases the
key. `set_transmission_muted(false)` leaves the mode and the key as they were. So the settings in
force are functions of the history of commands, and `transmission_gate` states them as such, for
every run from `AudioDSP::new`. A muted DSP sends silence. An unmuted DSP in push-to-talk mode sends
the gained samples exactly when `set_ptt_pressed(true)` came after the last switch into
push-to-talk and no release came since, and silence otherwise.

All the arithmetic is `f32`. The number type `R` and its operations are parameters: the literals,
`+ - * /`, `f32::max`, `f32::min`, the comparisons, `abs` and `sqrt`. No law of them is assumed,
so every theorem holds for IEEE single precision with its NaNs and signed zeros.
-/

namespace Cordia.Audio

/-- `InputMode` (`:4-8`). -/
inductive InputMode where
  | voiceActivity
  | pushToTalk
deriving DecidableEq, Repr

/-- `AudioDSP` (`:12-30`), over a number type `R` standing for `f32`. -/
structure AudioDSP (R : Type) where
  gain : R
  threshold : R
  inputMode : InputMode
  pttPressed : Bool
  transmissionMuted : Bool
  displayedLevel : R
  currentGain : R
  noiseFloor : R
  maxLevel : R
  decayFactor : R
  attackCoeff : R
  releaseCoeff : R

/-- The calls made on the DSP: the setters, behind the settings commands, and `process_frame`,
from the processing thread. -/
inductive DspCmd (R : Type) where
  | setGain (gain : R)
  | setThreshold (threshold : R)
  | setInputMode (mode : InputMode)
  | setPttPressed (pressed : Bool)
  | setTransmissionMuted (muted : Bool)
  | processFrame (input : List R)

section Dsp

variable {R : Type} [OfScientific R] [Add R] [Sub R] [Mul R] [Div R] [Max R] [Min R] [LT R] [LE R]
  [DecidableRel ((· < ·) : R → R → Prop)] [DecidableRel ((· ≤ ·) : R → R → Prop)]

namespace AudioDSP

/-- `AudioDSP::new` (`:33-49`). -/
def new : AudioDSP R :=
  ⟨1.0, 0.2, .voiceActivity, false, false, 0.0, 0.0, 0.0002, 0.07, 0.88, 0.3, 0.05⟩

/-- Step 6 of `process_frame` (`:88-111`): the smoothed gain left in `current_gain`, and the
transmission gain applied to the samples. -/
def gate (dsp : AudioDSP R) (level : R) : R × R :=
  if dsp.transmissionMuted then (dsp.currentGain, 0.0)
  else match dsp.inputMode with
    | .voiceActivity =>
      let targetGain : R := if dsp.threshold ≤ level then 1.0 else 0.0
      let currentGain :=
        if dsp.currentGain < targetGain then
          dsp.currentGain * (1.0 - dsp.attackCoeff) + targetGain * dsp.attackCoeff
        else dsp.currentGain * (1.0 - dsp.releaseCoeff) + targetGain * dsp.releaseCoeff
      (currentGain, max currentGain 0.001)
    | .pushToTalk => (dsp.currentGain, if dsp.pttPressed then 1.0 else 0.0)

omit [Div R] [Min R] in
theorem gate_snd_of_muted (dsp : AudioDSP R) (h : dsp.transmissionMuted = true) (level : R) :
    (dsp.gate level).2 = 0.0 := by
  simp only [gate, h, if_true]

omit [Div R] [Min R] in
theorem gate_snd_of_pushToTalk (dsp : AudioDSP R) (h : dsp.transmissionMuted = false)
    (hm : dsp.inputMode = .pushToTalk) (level : R) :
    (dsp.gate level).2 = if dsp.pttPressed then 1.0 else 0.0 := by
  simp only [gate, h, hm, Bool.false_eq_true, if_false]

variable (abs sqrt : R → R)

/-- `process_frame` (`:52-120`): the DSP after the frame, the processed samples and the level for
the meter. -/
def processFrame (dsp : AudioDSP R) (input : List R) : AudioDSP R × List R × R :=
  if input.isEmpty then (dsp, [], 0.0)
  else
    let samples := input.map (· * dsp.gain)
    let peak := (samples.map abs).foldl max 0.0
    let displayedLevel := max peak (dsp.displayedLevel * dsp.decayFactor)
    let displayedLevel := if displayedLevel < dsp.noiseFloor then 0.0 else displayedLevel
    let normalized :=
      if displayedLevel < dsp.noiseFloor then 0.0
      else max (min ((displayedLevel - dsp.noiseFloor) / (dsp.maxLevel - dsp.noiseFloor)) 1.0) 0.0
    let level := sqrt normalized
    let g := { dsp with displayedLevel }.gate level
    ({ dsp with displayedLevel, currentGain := g.1 }, samples.map (· * g.2), level)

/-- `set_gain` (`:122-124`). -/
def setGain (dsp : AudioDSP R) (gain : R) : AudioDSP R := { dsp with gain := max gain 0.0 }

/-- `set_threshold` (`:126-128`), with `f32::clamp(0.0, 1.0)` as it is written. -/
def setThreshold (dsp : AudioDSP R) (threshold : R) : AudioDSP R :=
  let t : R := if threshold < 0.0 then 0.0 else threshold
  { dsp with threshold := if 1.0 < t then 1.0 else t }

/-- `set_input_mode` (`:130-137`). -/
def setInputMode (dsp : AudioDSP R) (mode : InputMode) : AudioDSP R :=
  { dsp with inputMode := mode, currentGain := 0.0,
             pttPressed := if mode = .pushToTalk then false else dsp.pttPressed }

/-- `set_ptt_pressed` (`:139-141`). -/
def setPttPressed (dsp : AudioDSP R) (pressed : Bool) : AudioDSP R := { dsp with pttPressed := pressed }

/-- `set_transmission_muted` (`:143-148`). -/
def setTransmissionMuted (dsp : AudioDSP R) (muted : Bool) : AudioDSP R :=
  { dsp with transmissionMuted := muted, currentGain := if muted then 0.0 else dsp.currentGain }

/-- `get_level` (`:150-161`). -/
def getLevel (dsp : AudioDSP R) : R :=
  if dsp.displayedLevel < dsp.noiseFloor then 0.0
  else sqrt (max (min ((dsp.displayedLevel - dsp.noiseFloor) / (dsp.maxLevel - dsp.noiseFloor)) 1.0)
    0.0)

/-- One call. -/
def step (dsp : AudioDSP R) : DspCmd R → AudioDSP R
  | .setGain g => dsp.setGain g
  | .setThreshold t => dsp.setThreshold t
  | .setInputMode m => dsp.setInputMode m
  | .setPttPressed p => dsp.setPttPressed p
  | .setTransmissionMuted m => dsp.setTransmissionMuted m
  | .processFrame input => (dsp.processFrame abs sqrt input).1

/-- A run of calls, first call first. -/
def run (dsp : AudioDSP R) (cmds : List (DspCmd R)) : AudioDSP R := cmds.foldl (step abs sqrt) dsp

theorem run_append_singleton (dsp : AudioDSP R) (cmds : List (DspCmd R)) (c : DspCmd R) :
    dsp.run abs sqrt (cmds ++ [c]) = (dsp.run abs sqrt cmds).step abs sqrt c := by
  simp [run, List.foldl_append]

/-! ## What `process_frame` leaves alone -/

section Frame

variable (dsp : AudioDSP R) (input : List R)

@[simp] theorem processFrame_transmissionMuted :
    (dsp.processFrame abs sqrt input).1.transmissionMuted = dsp.transmissionMuted := by
  unfold processFrame; split <;> rfl

@[simp] theorem processFrame_inputMode :
    (dsp.processFrame abs sqrt input).1.inputMode = dsp.inputMode := by
  unfold processFrame; split <;> rfl

@[simp] theorem processFrame_pttPressed :
    (dsp.processFrame abs sqrt input).1.pttPressed = dsp.pttPressed := by
  unfold processFrame; split <;> rfl

/-- The processed samples are the gained samples times the gate, taken with the new envelope at
the frame's level. -/
theorem processFrame_samples : ∃ displayedLevel level,
    (dsp.processFrame abs sqrt input).2.1 =
      (input.map (· * dsp.gain)).map (· * ({ dsp with displayedLevel }.gate level).2) := by
  unfold processFrame
  split
  · rename_i h
    rw [List.isEmpty_iff.1 h]
    exact ⟨0.0, 0.0, rfl⟩
  · exact ⟨_, _, rfl⟩

/-- On a non-empty frame, the level `process_frame` returns is what `get_level` reports after it,
when `sqrt 0.0 = 0.0`. -/
theorem processFrame_level (h0 : sqrt 0.0 = 0.0) (hne : input ≠ []) :
    (dsp.processFrame abs sqrt input).2.2 = (dsp.processFrame abs sqrt input).1.getLevel sqrt := by
  have he : input.isEmpty = false := by simpa using hne
  simp only [processFrame, he, getLevel, Bool.false_eq_true, if_false]
  split_ifs <;> simp [h0]

end Frame

end AudioDSP

/-! ## The settings in force, from the history -/

/-- Transmission is muted: a `set_transmission_muted(true)` with no unmute after it. -/
def Muted (cmds : List (DspCmd R)) : Prop :=
  Since (· = .setTransmissionMuted true) (fun _ c => c = .setTransmissionMuted false) cmds

/-- Push-to-talk mode: a switch into it with no switch to voice activity after it. -/
def PushToTalkMode (cmds : List (DspCmd R)) : Prop :=
  Since (· = .setInputMode .pushToTalk) (fun _ c => c = .setInputMode .voiceActivity) cmds

/-- The key is held: a press with no release and no switch into push-to-talk after it. -/
def KeyHeld (cmds : List (DspCmd R)) : Prop :=
  Since (· = .setPttPressed true)
    (fun _ c => c = .setPttPressed false ∨ c = .setInputMode .pushToTalk) cmds

namespace AudioDSP

variable (abs sqrt : R → R) (dsp : AudioDSP R) (c : DspCmd R)

theorem muted_step : (dsp.step abs sqrt c).transmissionMuted = true ↔
    c = .setTransmissionMuted true ∨
      (¬c = .setTransmissionMuted false ∧ dsp.transmissionMuted = true) := by
  cases c with
  | setTransmissionMuted m => cases m <;> simp [step, setTransmissionMuted]
  | _ => simp [step, setGain, setThreshold, setInputMode, setPttPressed]

theorem pushToTalk_step : (dsp.step abs sqrt c).inputMode = .pushToTalk ↔
    c = .setInputMode .pushToTalk ∨
      (¬c = .setInputMode .voiceActivity ∧ dsp.inputMode = .pushToTalk) := by
  cases c with
  | setInputMode m => cases m <;> simp [step, setInputMode]
  | _ => simp [step, setGain, setThreshold, setPttPressed, setTransmissionMuted]

theorem keyHeld_step : (dsp.step abs sqrt c).pttPressed = true ↔
    c = .setPttPressed true ∨
      (¬(c = .setPttPressed false ∨ c = .setInputMode .pushToTalk) ∧ dsp.pttPressed = true) := by
  cases c with
  | setPttPressed p => cases p <;> simp [step, setPttPressed]
  | setInputMode m => cases m <;> simp [step, setInputMode]
  | _ => simp [step, setGain, setThreshold, setTransmissionMuted]

/-- The three settings of a DSP run from `new` are its history's. -/
theorem run_settings (cmds : List (DspCmd R)) :
    ((new.run abs sqrt cmds).transmissionMuted = true ↔ Muted cmds) ∧
      ((new.run abs sqrt cmds).inputMode = .pushToTalk ↔ PushToTalkMode cmds) ∧
      ((new.run abs sqrt cmds).pttPressed = true ↔ KeyHeld cmds) := by
  induction cmds using List.reverseRecOn with
  | nil => simp [run, new, Muted, PushToTalkMode, KeyHeld, not_since_nil]
  | append_singleton cmds c ih =>
    rw [run_append_singleton, muted_step, pushToTalk_step, keyHeld_step, Muted, PushToTalkMode,
      KeyHeld, since_append_singleton, since_append_singleton, since_append_singleton, ih.1, ih.2.1,
      ih.2.2]
    exact ⟨Iff.rfl, Iff.rfl, Iff.rfl⟩

end AudioDSP

/-- **The gate follows the settings' history.** After any run of calls from `AudioDSP::new`, the
next frame's samples are the gained samples times `0.0` while transmission is muted. When it is
not muted and the DSP is in push-to-talk mode, they are the gained samples times `1.0` if the key
was pressed after the last switch into push-to-talk and not released since, and times `0.0`
otherwise. -/
theorem transmission_gate (abs sqrt : R → R) (cmds : List (DspCmd R)) (input : List R) :
    let dsp : AudioDSP R := AudioDSP.new.run abs sqrt cmds
    let out : List R := (dsp.processFrame abs sqrt input).2.1
    (Muted cmds → out = (input.map (· * dsp.gain)).map (· * 0.0)) ∧
      (¬Muted cmds → PushToTalkMode cmds → KeyHeld cmds →
        out = (input.map (· * dsp.gain)).map (· * 1.0)) ∧
      (¬Muted cmds → PushToTalkMode cmds → ¬KeyHeld cmds →
        out = (input.map (· * dsp.gain)).map (· * 0.0)) := by
  obtain ⟨hm, hp, hk⟩ := AudioDSP.run_settings abs sqrt cmds
  obtain ⟨dl, level, hout⟩ := (AudioDSP.new.run abs sqrt cmds).processFrame_samples abs sqrt input
  simp only [hout, AudioDSP.gate]
  refine ⟨fun h => by rw [if_pos (hm.2 h)], fun h hptt hkey => ?_, fun h hptt hkey => ?_⟩
  · rw [if_neg (mt hm.1 h), hp.2 hptt, if_pos (hk.2 hkey)]
  · rw [if_neg (mt hm.1 h), hp.2 hptt, if_neg (mt hk.1 hkey)]

end Dsp

end Cordia.Audio
