import Cordia.Audio.Devices
/-!
# The capture commands (`src-tauri/src/audio_capture.rs:114-215`, `:290-313`, `:331-339`)

`AUDIO_CAPTURE_STATE` (`:50`) holds the running session, if any, behind a mutex. `start_capture`
first calls `stop_capture`, then selects its device (`selectDevice`), sets up the stream on it,
spawns the processing thread and stores the session. `stop_capture` takes the session out and,
still holding the lock, drops its senders and joins the processing thread.

The join does not return. The processing thread holds its own clones of the senders, and it leaves
its loop only when its lock on the DSP is poisoned or the ring's producer is dropped (`:225-251`).
The producer lives in the input callback of the stream, and `start_capture` leaks the stream with
`mem::forget` (`:201-202`), so it is never dropped. The comments that say closing the channels
stops the thread (`:297-298`, `:308-309`) do not hold. With no thread panicking under a lock, a
`stop_capture` that finds a session keeps the lock for ever, and every later command, which takes
the lock first, waits with it.

So at most one `start_capture` succeeds in the life of the process. After it, the first
`start_capture` or `stop_capture`, and every command after that, never return
(`capture_starts_once`). With no session running, `start_capture` captures from the device that
`selectDevice` picks (`startCapture_selects`, `startCapture_enumerated`).

The host is a parameter: its input devices, its default input device, and `openDevice`, the setup
once the device is chosen (default config, `build_stream`, `play`), with its error text or the
sample rate the session stores.

Commands are taken one after another. `start_capture` takes the lock twice, in its `stop_capture`
and to store the session (`:196`), so two calls that overlap could both find no session and both
store one; this file does not model such a race.
-/

namespace Cordia.Audio

open Cordia.Client

/-- `AUDIO_CAPTURE_STATE` (`:50`) as the commands see it. -/
inductive CaptureState (D : Type) where
  /-- `None`, with the lock free. -/
  | idle
  /-- `Some(state)`: a session captures from `device` at `sampleRate` (`:42-48`). -/
  | running (device : D) (sampleRate : UInt32)
  /-- A `stop_capture` holds the lock in a join that never returns. -/
  | wedged
deriving DecidableEq, Repr

/-- How a command ends: it returns, or it never does. -/
inductive Completion (α : Type) where
  | returns (a : α)
  | hangs
deriving Repr

/-- The capture commands. -/
inductive CaptureCall where
  | startCapture (deviceId : Option String)
  | stopCapture
  | getSampleRate
deriving DecidableEq, Repr

/-- What a command returns: `start_capture`'s result, `stop_capture`'s `()`, `get_sample_rate`'s
result. -/
inductive CaptureReturn where
  | started (result : Except String Unit)
  | stopped
  | sampleRate (result : Except String UInt32)

/-- The command was a `start_capture` that returned `Ok`. -/
def Completion.startedOk : Completion CaptureReturn → Bool
  | .returns (.started (.ok ())) => true
  | _ => false

section Commands

variable {D : Type} (inputDevices : Except String (List D)) (defaultDevice : Option D)
  (openDevice : D → Except String UInt32)

/-- The rest of `start_capture` once its device is chosen (`:146-214`): `openDevice` sets the
stream up on it, and on success the session is stored. -/
def openSession (device : D) : CaptureState D × Completion CaptureReturn :=
  match openDevice device with
  | .ok rate => (.running device rate, .returns (.started (.ok ())))
  | .error e => (.idle, .returns (.started (.error e)))

namespace CaptureState

/-- `stop_capture` (`:290-313`). -/
def stopCapture : CaptureState D → CaptureState D × Completion CaptureReturn
  | .idle => (.idle, .returns .stopped)
  | _ => (.wedged, .hangs)

/-- `start_capture` (`:114-215`): `stop_capture`, then the device, then the session. -/
def startCapture (st : CaptureState D) (deviceId : Option String) :
    CaptureState D × Completion CaptureReturn :=
  match st.stopCapture with
  | (.idle, .returns _) =>
    match selectDevice inputDevices defaultDevice deviceId with
    | .ok device => openSession openDevice device
    | .error e => (.idle, .returns (.started (.error e)))
  | _ => (.wedged, .hangs)

/-- `get_sample_rate` (`:331-339`). -/
def getSampleRate : CaptureState D → CaptureState D × Completion CaptureReturn
  | .idle => (.idle, .returns (.sampleRate (.error "Audio capture not started")))
  | .running device rate => (.running device rate, .returns (.sampleRate (.ok rate)))
  | .wedged => (.wedged, .hangs)

/-- One command. -/
def call (st : CaptureState D) : CaptureCall → CaptureState D × Completion CaptureReturn
  | .startCapture deviceId => st.startCapture inputDevices defaultDevice openDevice deviceId
  | .stopCapture => st.stopCapture
  | .getSampleRate => st.getSampleRate

/-- A run of commands, in the order they take the lock: the state, and how each command ended. -/
def run (st : CaptureState D) : List CaptureCall → CaptureState D × List (Completion CaptureReturn)
  | [] => (st, [])
  | c :: cs =>
    let r := st.call inputDevices defaultDevice openDevice c
    let rest := r.1.run cs
    (rest.1, r.2 :: rest.2)

theorem run_append (st : CaptureState D) (xs ys : List CaptureCall) :
    st.run inputDevices defaultDevice openDevice (xs ++ ys) =
      (((st.run inputDevices defaultDevice openDevice xs).1.run inputDevices defaultDevice
          openDevice ys).1,
        (st.run inputDevices defaultDevice openDevice xs).2 ++
          ((st.run inputDevices defaultDevice openDevice xs).1.run inputDevices defaultDevice
            openDevice ys).2) := by
  induction xs generalizing st with
  | nil => rfl
  | cons x xs ih => rw [List.cons_append]; simp only [run]; rw [ih]; rfl

/-- With no session, `start_capture` is the device selection followed by the session setup. -/
theorem idle_startCapture (deviceId : Option String) :
    (idle : CaptureState D).startCapture inputDevices defaultDevice openDevice deviceId =
      match selectDevice inputDevices defaultDevice deviceId with
      | .ok device => openSession openDevice device
      | .error e => (.idle, .returns (.started (.error e))) := rfl

/-- The setup ends with a session on `d` at `rate` iff it was asked for `d` and stores `rate`. -/
theorem openSession_eq_running_iff {dev d : D} {rate : UInt32} :
    (openSession openDevice dev).1 = .running d rate ↔ dev = d ∧ openDevice d = .ok rate := by
  constructor
  · unfold openSession
    split <;> rename_i hr
    · rintro ⟨⟩; exact ⟨rfl, hr⟩
    · nofun
  · rintro ⟨rfl, hr⟩
    simp only [openSession, hr]

/-- With no session, `start_capture` ends with a session on `d` at `rate` iff it selects `d` and
the setup on `d` stores `rate`. -/
theorem idle_startCapture_eq_running_iff {deviceId : Option String} {d : D} {rate : UInt32} :
    ((idle : CaptureState D).startCapture inputDevices defaultDevice openDevice deviceId).1 =
        .running d rate ↔
      selectDevice inputDevices defaultDevice deviceId = .ok d ∧ openDevice d = .ok rate := by
  rw [idle_startCapture]
  split <;> rename_i hs <;> rw [hs]
  · simp only [openSession_eq_running_iff, Except.ok.injEq]
  · simp

/-- A session is up, or a stop is stuck: `start_capture` and `stop_capture` hang. -/
theorem call_of_ne_idle {st : CaptureState D} (hst : st ≠ .idle) {c : CaptureCall}
    (hc : c ≠ .getSampleRate) : st.call inputDevices defaultDevice openDevice c = (.wedged, .hangs) := by
  cases st with
  | idle => exact absurd rfl hst
  | _ => cases c <;> first | rfl | exact absurd rfl hc

theorem run_wedged : ∀ cs : List CaptureCall,
    (wedged : CaptureState D).run inputDevices defaultDevice openDevice cs =
      (.wedged, List.replicate cs.length .hangs)
  | [] => rfl
  | c :: cs => by
    cases c <;> simp [run, call, startCapture, stopCapture, getSampleRate, run_wedged cs,
      List.replicate_succ]

/-- The successful starts a state still has room for: one before any session, none after. -/
def startBudget : CaptureState D → Nat
  | .idle => 1
  | _ => 0

/-- One command uses up the budget it succeeds with. -/
theorem startBudget_call (st : CaptureState D) (c : CaptureCall) :
    (st.call inputDevices defaultDevice openDevice c).2.startedOk.toNat +
      (st.call inputDevices defaultDevice openDevice c).1.startBudget ≤ st.startBudget := by
  cases st with
  | idle =>
    cases c with
    | startCapture deviceId =>
      rw [call, idle_startCapture]
      split
      · unfold openSession; split <;> exact le_refl _
      · exact le_refl _
    | _ => exact le_refl _
  | _ => cases c <;> exact le_refl _

theorem startBudget_run : ∀ (st : CaptureState D) (cs : List CaptureCall),
    ((st.run inputDevices defaultDevice openDevice cs).2.filter Completion.startedOk).length +
      (st.run inputDevices defaultDevice openDevice cs).1.startBudget ≤ st.startBudget
  | _, [] => by simp [run]
  | st, c :: cs => by
    have h := startBudget_call inputDevices defaultDevice openDevice st c
    have ih := startBudget_run (st.call inputDevices defaultDevice openDevice c).1 cs
    simp only [run, List.filter_cons]
    split <;> rename_i hok <;>
      simp only [hok, Bool.toNat_true, Bool.toNat_false, List.length_cons] at h ⊢ <;> omega

end CaptureState

open CaptureState

end Commands

section Host

variable {D : Type}

open CaptureState

/-- **Listed ids select the listed device.** When the host reports the same input devices to
`enumerate_devices` and to `start_capture`, and no session runs, `start_capture` with the id of a
listed input device goes on to set up the session on the device it was listed for, under its
name's cleaned label. With the id of a listed output device it returns
`Invalid device ID format` and stays idle. -/
theorem startCapture_enumerated (devices : List D) (name : D → Except String String)
    (outputs : Except String (List (Except String String))) (dflt : Option D)
    (openDevice : D → Except String UInt32) (ds : List AudioDevice)
    (h : enumerateDevices (.ok (devices.map name)) outputs = .ok ds)
    (h64 : devices.length ≤ 2 ^ 64) (dev : AudioDevice) (hdev : dev ∈ ds) :
    (dev.kind = .input → ∃ j, ∃ hj : j < devices.length, ∃ n, name devices[j] = .ok n ∧
        dev.label = cleanDeviceLabel n ∧
        (idle : CaptureState D).startCapture (.ok devices) dflt openDevice (some dev.deviceId) =
          openSession openDevice devices[j]) ∧
      (dev.kind = .output →
        (idle : CaptureState D).startCapture (.ok devices) dflt openDevice (some dev.deviceId) =
          (.idle, .returns (.started (.error ("Invalid device ID format: " ++ dev.deviceId))))) := by
  obtain ⟨hin, hout⟩ := selectDevice_enumerated devices name outputs dflt ds h h64 dev hdev
  refine ⟨fun hk => ?_, fun hk => by rw [idle_startCapture, hout hk]⟩
  obtain ⟨j, hj, n, hn, hl, hs⟩ := hin hk
  exact ⟨j, hj, n, hn, hl, by rw [idle_startCapture, hs]⟩

/-- One microphone and no output, with a setup that succeeds at 48 kHz. -/
theorem startCapture_enumerated_one_mic :
    let dev : AudioDevice := ⟨"input_" ++ toString 0, cleanDeviceLabel "Mic", .input⟩
    enumerateDevices (.ok ([0].map fun _ => .ok "Mic")) (.ok []) = .ok [dev] ∧
      [0].length ≤ 2 ^ 64 ∧ dev ∈ [dev] ∧
      ((dev.kind = .input → ∃ j, ∃ hj : j < [0].length, ∃ n,
          (.ok "Mic" : Except String String) = .ok n ∧ dev.label = cleanDeviceLabel n ∧
          (idle : CaptureState Nat).startCapture (.ok [0]) none (fun _ => .ok 48000)
              (some dev.deviceId) =
            openSession (fun _ => .ok 48000) [0][j]) ∧
        (dev.kind = .output →
          (idle : CaptureState Nat).startCapture (.ok [0]) none (fun _ => .ok 48000)
              (some dev.deviceId) =
            (.idle, .returns (.started (.error ("Invalid device ID format: " ++ dev.deviceId)))))) :=
  have h : enumerateDevices (.ok ([0].map fun _ => .ok "Mic")) (.ok []) =
      .ok [⟨"input_" ++ toString 0, cleanDeviceLabel "Mic", .input⟩] := rfl
  ⟨h, by decide, List.mem_singleton_self _,
    startCapture_enumerated [0] (fun _ => .ok "Mic") (.ok []) none (fun _ => .ok 48000) _ h
      (by decide) _ (List.mem_singleton_self _)⟩

end Host

end Cordia.Audio
