import Mathlib.Data.List.Basic
import Mathlib.Algebra.Group.Nat.Basic
/-!
# The capture pipeline (`src-tauri/src/audio_capture.rs`)

A capture session has three parties and two bounded queues. The audio callback (`build_stream`,
`:256-287`) copies each buffer the driver hands it into one frame of `FRAME_SAMPLES` samples and
pushes it onto the raw ring of `RAW_RING_CAP` frames. When the ring is full it drops the frame and
counts it in `DROPPED_RAW`. The processing thread (`process_audio_frames`, `:217-252`) pops the
oldest frame, runs it through the DSP and `try_send`s the result on the processed-frame channel.
When that fails it counts the frame in `DROPPED_PROCESSED`. Either way it sends the frame's level
on the level channel. A consumer receives from both channels.

The processed-frame channel is the `sync_channel` of whatever capacity the caller of
`start_capture` chose. A consumer blocked in `recv` on the empty channel takes the next frame
straight from `try_send`. For `sync_channel(0)` this hand-off is the only way `try_send` succeeds.

`step` is one action of one party, and returns the events it caused. `pipeline_accounting`
proves the file's promise, "frames are dropped (never queued)", over every interleaving. Both
queues stay within their bounds, and every captured frame is accounted for: dropped at the ring
and counted, still in the ring, held by the processing thread, or processed. The DSP sees the
kept frames in capture order, the channel hands out the processed frames in the order they were
sent, and each counter is its number of drops modulo `2^64`. The ring keeps the oldest frames:
while the processing thread stalls, the frames it will process next are the first
`RAW_RING_CAP` captured, however long the stall (`callbacks_keep_oldest`).

Two losses go uncounted. Samples past the `FRAME_SAMPLES`-th of a longer buffer are cut off
(`copyFrame_samples`). Frames still queued when the consumer drops its receiver are gone.

The DSP (`process_frame`), the sample conversion (`cpal::FromSample`), the ring (`rtrb`) and the
channels (`std::sync::mpsc`) are outside this file. The DSP and the conversion are parameters, so
every theorem holds for any of them. The ring and the channels are modelled by their contracts: a
FIFO of bounded length whose push fails exactly when it is full and no receiver waits on it.
-/

namespace Cordia.Audio

/-- `FRAME_SAMPLES` (`:20`): 10 ms at 48 kHz. -/
def frameSamples : Nat := 480

/-- `RAW_RING_CAP` (`:22`): about 80 ms. -/
def rawRingCap : Nat := 8

/-- `[f32; FRAME_SAMPLES]`: the length is part of the type. -/
structure Frame (F : Type) where
  samples : List F
  length_eq : samples.length = frameSamples

/-! ## The callback's copy -/

section Copy

variable {α F : Type} (fromSample : α → F) (zero : F)

/-- The loop of the audio callback (`:271-275`): start from `[0.0; FRAME_SAMPLES]` and write the
first `min(data.len(), FRAME_SAMPLES)` samples of the buffer, converted, at their indices. -/
def copySamples (data : List α) : List F :=
  let len := min data.length frameSamples
  (data.take len).enum.foldl (fun frame e => frame.set e.1 (fromSample e.2))
    (List.replicate frameSamples zero)

/-- Writing `xs` from index `ys.length` into `ys` followed by zeros. -/
theorem foldl_set_enumFrom : ∀ (xs : List α) (ys : List F) (m : Nat), xs.length ≤ m →
    (xs.enumFrom ys.length).foldl (fun frame e => frame.set e.1 (fromSample e.2))
      (ys ++ List.replicate m zero) =
      ys ++ xs.map fromSample ++ List.replicate (m - xs.length) zero
  | [], ys, m, _ => by simp
  | x :: xs, ys, m + 1, h => by
    have ih := foldl_set_enumFrom xs (ys ++ [fromSample x]) m (by simpa using h)
    simp only [List.length_append, List.length_singleton, List.append_assoc,
      List.singleton_append] at ih
    simp only [List.enumFrom_cons, List.foldl_cons, List.replicate_succ,
      List.set_append_right _ _ (le_refl _), Nat.sub_self, List.set_cons_zero, List.map_cons,
      List.length_cons, Nat.add_sub_add_right]
    rw [ih]; simp

theorem copySamples_eq (data : List α) :
    copySamples fromSample zero data =
      (data.take frameSamples).map fromSample ++
        List.replicate (frameSamples - data.length) zero := by
  have htake : data.take (min data.length frameSamples) = data.take frameSamples := by
    rw [List.take_eq_take]; omega
  have := foldl_set_enumFrom fromSample zero (data.take frameSamples) [] frameSamples
    (List.length_take_le _ _)
  simp only [List.length_nil, List.nil_append, List.length_take] at this
  rw [copySamples, htake, List.enum, this]
  congr 2
  omega

/-- The frame the callback pushes for a buffer (`:271-275`). -/
def copyFrame (data : List α) : Frame F where
  samples := copySamples fromSample zero data
  length_eq := by rw [copySamples_eq]; simp; omega

/-- The callback's frame is the first `FRAME_SAMPLES` samples of the buffer, converted, then
zeros up to `FRAME_SAMPLES`: a short buffer is padded with silence, and a long one loses its
tail. -/
theorem copyFrame_samples (data : List α) :
    (copyFrame fromSample zero data).samples =
      (data.take frameSamples).map fromSample ++
        List.replicate (frameSamples - data.length) zero :=
  copySamples_eq fromSample zero data

end Copy

/-! ## A session -/

/-- What the parties of a capture session share (`:171-193`). -/
structure Pipeline (F σ : Type) where
  /-- The raw ring, oldest frame first. -/
  ring : List (Frame F)
  /-- The frame the processing thread has popped and not yet sent on. -/
  held : Option (Frame F)
  /-- The DSP behind `get_dsp()`'s mutex. -/
  dsp : σ
  /-- The processed-frame channel, oldest first. -/
  frames : List (List F)
  /-- The level channel, oldest first. -/
  levels : List F
  /-- The consumer still holds the processed-frame receiver. -/
  receiverAlive : Bool
  /-- The consumer is blocked in `recv` on the empty processed-frame channel. -/
  receiverWaiting : Bool
  /-- `DROPPED_RAW` (`:16`). -/
  droppedRaw : UInt64
  /-- `DROPPED_PROCESSED` (`:17`). -/
  droppedProcessed : UInt64

/-- One action of one party. -/
inductive Act (α σ : Type) where
  /-- The driver calls the input callback with a buffer (`:269-280`). -/
  | callback (data : List α)
  /-- The processing thread's `raw_consumer.pop()` (`:226`); on an empty ring it yields. -/
  | pop
  /-- The rest of its loop body (`:236-250`): `process_frame` under the DSP lock, `try_send`, the
  level. -/
  | process
  /-- The consumer's `recv` on the processed-frame channel: it takes the oldest frame, or, on an
  empty channel, blocks until the next one is sent. -/
  | receive
  /-- The consumer takes the oldest level. -/
  | receiveLevel
  /-- A settings command (`set_gain`, `set_threshold`, ...) changes the DSP under its lock. -/
  | adjust (f : σ → σ)
  /-- The consumer drops its processed-frame receiver. -/
  | dropReceiver

/-- The buffer of a callback. -/
def Act.buffer? {α σ : Type} : Act α σ → Option (List α)
  | .callback data => some data
  | _ => none

/-- What an action did. -/
inductive Event (F : Type) where
  /-- A callback copied `frame`: onto the ring when `kept`, else the ring was full and
  `DROPPED_RAW` counted it. -/
  | captured (frame : Frame F) (kept : Bool)
  | popped (frame : Frame F)
  /-- `process_frame` turned `frame` into `out` and `level`: `out` went on the channel when `sent`,
  else `try_send` failed and `DROPPED_PROCESSED` counted it. -/
  | processed (frame : Frame F) (out : List F) (level : F) (sent : Bool)
  | received (out : List F)
  | receivedLevel (level : F)
  /-- A processed frame still queued when the receiver went. -/
  | discarded (out : List F)

namespace Event

variable {F : Type}

@[simp] def captured? : Event F → Option (Frame F)
  | .captured frame _ => some frame
  | _ => none

@[simp] def kept? : Event F → Option (Frame F)
  | .captured frame true => some frame
  | _ => none

@[simp] def rawDropped? : Event F → Option (Frame F)
  | .captured frame false => some frame
  | _ => none

@[simp] def popped? : Event F → Option (Frame F)
  | .popped frame => some frame
  | _ => none

@[simp] def processed? : Event F → Option (Frame F)
  | .processed frame _ _ _ => some frame
  | _ => none

@[simp] def sent? : Event F → Option (List F)
  | .processed _ out _ true => some out
  | _ => none

@[simp] def processedDropped? : Event F → Option (List F)
  | .processed _ out _ false => some out
  | _ => none

@[simp] def level? : Event F → Option F
  | .processed _ _ level _ => some level
  | _ => none

/-- A processed frame that left the channel: received, or discarded with the receiver. -/
@[simp] def left? : Event F → Option (List F)
  | .received out | .discarded out => some out
  | _ => none

@[simp] def receivedLevel? : Event F → Option F
  | .receivedLevel level => some level
  | _ => none

end Event

namespace Pipeline

variable {α F σ : Type}

/-- The session `start_capture` sets up (`:171-176`): counters reset, ring and channels empty. The
DSP is the global one (`get_dsp`), with the settings it has. -/
def start (dsp : σ) : Pipeline F σ := ⟨[], none, dsp, [], [], true, false, 0, 0⟩

variable (fromSample : α → F) (zero : F) (process : σ → List F → σ × List F × F) (cap : Nat)

/-- One action, and the events it caused. `cap` is the capacity of the processed-frame channel,
which the caller of `start_capture` chooses; `process` is `AudioDSP::process_frame`. -/
def step (p : Pipeline F σ) : Act α σ → Pipeline F σ × List (Event F)
  | .callback data =>
    let frame := copyFrame fromSample zero data
    if p.ring.length < rawRingCap then ({ p with ring := p.ring ++ [frame] }, [.captured frame true])
    else ({ p with droppedRaw := p.droppedRaw + 1 }, [.captured frame false])
  | .pop =>
    match p.held, p.ring with
    | none, frame :: rest => ({ p with held := some frame, ring := rest }, [.popped frame])
    | _, _ => (p, [])
  | .process =>
    match p.held with
    | none => (p, [])
    | some frame =>
      let r := process p.dsp frame.samples
      let p' := { p with held := none, dsp := r.1, levels := p.levels ++ [r.2.2] }
      if p.receiverWaiting then
        ({ p' with receiverWaiting := false }, [.processed frame r.2.1 r.2.2 true, .received r.2.1])
      else if p.receiverAlive ∧ p.frames.length < cap then
        ({ p' with frames := p.frames ++ [r.2.1] }, [.processed frame r.2.1 r.2.2 true])
      else
        ({ p' with droppedProcessed := p.droppedProcessed + 1 },
          [.processed frame r.2.1 r.2.2 false])
  | .receive =>
    match p.frames with
    | [] => ({ p with receiverWaiting := p.receiverAlive }, [])
    | out :: rest => ({ p with frames := rest }, [.received out])
  | .receiveLevel =>
    match p.levels with
    | [] => (p, [])
    | level :: rest => ({ p with levels := rest }, [.receivedLevel level])
  | .adjust f => ({ p with dsp := f p.dsp }, [])
  | .dropReceiver =>
    ({ p with receiverAlive := false, receiverWaiting := false, frames := [] },
      p.frames.map .discarded)

/-- A run: the actions in order, and every event they caused, in order. -/
def run (p : Pipeline F σ) : List (Act α σ) → Pipeline F σ × List (Event F)
  | [] => (p, [])
  | a :: acts =>
    let q := step fromSample zero process cap p a
    let r := run q.1 acts
    (r.1, q.2 ++ r.2)

@[simp] theorem run_nil (p : Pipeline F σ) :
    run fromSample zero process cap p [] = (p, []) := rfl

theorem run_cons (p : Pipeline F σ) (a : Act α σ) (acts : List (Act α σ)) :
    run fromSample zero process cap p (a :: acts) =
      ((run fromSample zero process cap (step fromSample zero process cap p a).1 acts).1,
        (step fromSample zero process cap p a).2 ++
          (run fromSample zero process cap (step fromSample zero process cap p a).1 acts).2) :=
  rfl

end Pipeline

/-! ## Every frame accounted for -/

@[simp] theorem filterMap_const_none {β γ : Type} :
    ∀ l : List β, l.filterMap (fun _ => (none : Option γ)) = []
  | [] => rfl
  | _ :: l => filterMap_const_none l

theorem u64_toNat_lt (a : UInt64) : a.toNat < 2 ^ 64 := a.toNat_lt_size

theorem u64_toNat_add_one (a : UInt64) : (a + 1).toNat = (a.toNat + 1) % 2 ^ 64 :=
  BitVec.toNat_add _ _

/-- What a session satisfies against the events so far: the queues within their bounds, each
queue's contents the part of its input that has not left it, and each counter its number of
drops. A consumer waits only on an empty channel. -/
structure Accounted {F σ : Type} (cap : Nat) (p : Pipeline F σ) (T : List (Event F)) : Prop where
  ring_le : p.ring.length ≤ rawRingCap
  frames_le : p.frames.length ≤ cap
  waiting_empty : p.receiverWaiting = true → p.frames = []
  ring_fifo : T.filterMap Event.kept? = T.filterMap Event.popped? ++ p.ring
  held_eq : T.filterMap Event.popped? = T.filterMap Event.processed? ++ p.held.toList
  frames_fifo : T.filterMap Event.sent? = T.filterMap Event.left? ++ p.frames
  levels_fifo : T.filterMap Event.level? = T.filterMap Event.receivedLevel? ++ p.levels
  droppedRaw_eq : p.droppedRaw.toNat = (T.filterMap Event.rawDropped?).length % 2 ^ 64
  droppedProcessed_eq :
    p.droppedProcessed.toNat = (T.filterMap Event.processedDropped?).length % 2 ^ 64

theorem u64_toNat_eq_mod (a : UInt64) : a.toNat = a.toNat % 2 ^ 64 :=
  (Nat.mod_eq_of_lt a.toNat_lt_size).symm

/-- An accounted session stays accounted after events `E` that account for the change from `p` to
`q` locally: each queue gained what went in and lost what came out, and each counter counted its
drops. -/
theorem Accounted.extend {F σ : Type} {cap : Nat} {p q : Pipeline F σ} {T E : List (Event F)}
    (h : Accounted cap p T)
    (hring_le : q.ring.length ≤ rawRingCap) (hframes_le : q.frames.length ≤ cap)
    (hwaiting : q.receiverWaiting = true → q.frames = [])
    (hring : p.ring ++ E.filterMap Event.kept? = E.filterMap Event.popped? ++ q.ring)
    (hheld : p.held.toList ++ E.filterMap Event.popped? =
      E.filterMap Event.processed? ++ q.held.toList)
    (hframes : p.frames ++ E.filterMap Event.sent? = E.filterMap Event.left? ++ q.frames)
    (hlevels : p.levels ++ E.filterMap Event.level? = E.filterMap Event.receivedLevel? ++ q.levels)
    (hraw : q.droppedRaw.toNat =
      (p.droppedRaw.toNat + (E.filterMap Event.rawDropped?).length) % 2 ^ 64)
    (hproc : q.droppedProcessed.toNat =
      (p.droppedProcessed.toNat + (E.filterMap Event.processedDropped?).length) % 2 ^ 64) :
    Accounted cap q (T ++ E) where
  ring_le := hring_le
  frames_le := hframes_le
  waiting_empty := hwaiting
  ring_fifo := by simp only [List.filterMap_append, h.ring_fifo, List.append_assoc, hring]
  held_eq := by simp only [List.filterMap_append, h.held_eq, List.append_assoc, hheld]
  frames_fifo := by simp only [List.filterMap_append, h.frames_fifo, List.append_assoc, hframes]
  levels_fifo := by simp only [List.filterMap_append, h.levels_fifo, List.append_assoc, hlevels]
  droppedRaw_eq := by
    rw [hraw, h.droppedRaw_eq, Nat.mod_add_mod, List.filterMap_append, List.length_append]
  droppedProcessed_eq := by
    rw [hproc, h.droppedProcessed_eq, Nat.mod_add_mod, List.filterMap_append, List.length_append]

section Run

variable {α F σ : Type} (fromSample : α → F) (zero : F) (process : σ → List F → σ × List F × F)
  (cap : Nat)

theorem accounted_start (dsp : σ) : Accounted cap (Pipeline.start dsp : Pipeline F σ) [] :=
  ⟨Nat.zero_le _, Nat.zero_le _, fun _ => rfl, rfl, rfl, rfl, rfl, rfl, rfl⟩

theorem Accounted.step {p : Pipeline F σ} {T : List (Event F)} (h : Accounted cap p T)
    (a : Act α σ) :
    Accounted cap (p.step fromSample zero process cap a).1
      (T ++ (p.step fromSample zero process cap a).2) := by
  cases a with
  | callback data =>
    simp only [Pipeline.step]
    split
    · exact h.extend (by simp; omega) h.frames_le h.waiting_empty (by simp) (by simp) (by simp)
        (by simp) (u64_toNat_eq_mod _) (u64_toNat_eq_mod _)
    · exact h.extend h.ring_le h.frames_le h.waiting_empty (by simp) (by simp) (by simp) (by simp)
        (u64_toNat_add_one _) (u64_toNat_eq_mod _)
  | pop =>
    simp only [Pipeline.step]
    split
    · rename_i frame rest hheld hring
      have hle := h.ring_le
      rw [hring, List.length_cons] at hle
      exact h.extend (by dsimp only; omega) h.frames_le h.waiting_empty (by simp [hring])
        (by simp [hheld]) (by simp) (by simp) (u64_toNat_eq_mod _) (u64_toNat_eq_mod _)
    · simpa using h
  | process =>
    simp only [Pipeline.step]
    split
    · simpa using h
    · rename_i frame hheld
      split
      · -- a waiting consumer takes the frame from `try_send`
        rename_i hwait
        exact h.extend h.ring_le h.frames_le (fun hw => absurd hw Bool.false_ne_true) (by simp)
          (by simp [hheld]) (by simp [h.waiting_empty hwait]) (by simp) (u64_toNat_eq_mod _)
          (u64_toNat_eq_mod _)
      · rename_i hnw
        split
        · exact h.extend h.ring_le (by simp; omega) (fun hw => absurd hw hnw) (by simp)
            (by simp [hheld])
            (by simp) (by simp) (u64_toNat_eq_mod _) (u64_toNat_eq_mod _)
        · exact h.extend h.ring_le h.frames_le h.waiting_empty (by simp) (by simp [hheld])
            (by simp) (by simp) (u64_toNat_eq_mod _) (u64_toNat_add_one _)
  | receive =>
    simp only [Pipeline.step]
    split
    · rename_i hf
      exact h.extend h.ring_le h.frames_le (fun _ => hf) (by simp) (by simp) (by simp)
        (by simp) (u64_toNat_eq_mod _) (u64_toNat_eq_mod _)
    · rename_i out rest hf
      have hle := h.frames_le
      rw [hf, List.length_cons] at hle
      have hnw : p.receiverWaiting = false :=
        Bool.eq_false_iff.2 fun hw => List.cons_ne_nil out rest (hf ▸ h.waiting_empty hw)
      exact h.extend h.ring_le (by dsimp only; omega) (by simp [hnw]) (by simp) (by simp)
        (by simp [hf]) (by simp) (u64_toNat_eq_mod _) (u64_toNat_eq_mod _)
  | receiveLevel =>
    simp only [Pipeline.step]
    split
    · simpa using h
    · rename_i level rest hl
      exact h.extend h.ring_le h.frames_le h.waiting_empty (by simp) (by simp) (by simp)
        (by simp [hl]) (u64_toNat_eq_mod _) (u64_toNat_eq_mod _)
  | adjust f =>
    simp only [Pipeline.step, List.append_nil]
    exact ⟨h.1, h.2, h.3, h.4, h.5, h.6, h.7, h.8, h.9⟩
  | dropReceiver =>
    simp only [Pipeline.step]
    exact h.extend h.ring_le (Nat.zero_le _) (fun _ => rfl) (by simp [Function.comp_def])
      (by simp [Function.comp_def]) (by simp [Function.comp_def]) (by simp [Function.comp_def])
      (by simpa [Function.comp_def] using u64_toNat_eq_mod _)
      (by simpa [Function.comp_def] using u64_toNat_eq_mod _)

theorem Accounted.run {p : Pipeline F σ} {T : List (Event F)} (h : Accounted cap p T) :
    ∀ acts : List (Act α σ), Accounted cap (p.run fromSample zero process cap acts).1
      (T ++ (p.run fromSample zero process cap acts).2)
  | [] => by simpa using h
  | a :: acts => by
    simpa [Pipeline.run_cons] using (h.step fromSample zero process cap a).run acts


/-- Each callback causes one `captured` event, with its buffer's copy; no other action causes
one. -/
theorem captured_step (p : Pipeline F σ) (a : Act α σ) :
    (p.step fromSample zero process cap a).2.filterMap Event.captured? =
      (a.buffer?.map (copyFrame fromSample zero)).toList := by
  cases a with
  | callback data => simp only [Pipeline.step]; split <;> rfl
  | pop => simp only [Pipeline.step]; split <;> rfl
  | process =>
    simp only [Pipeline.step]
    split
    · rfl
    · split_ifs <;> rfl
  | receive => simp only [Pipeline.step]; split <;> rfl
  | receiveLevel => simp only [Pipeline.step]; split <;> rfl
  | adjust f => rfl
  | dropReceiver => simp [Pipeline.step, Act.buffer?, Function.comp_def]

theorem captured_run : ∀ (p : Pipeline F σ) (acts : List (Act α σ)),
    (p.run fromSample zero process cap acts).2.filterMap Event.captured? =
      (acts.filterMap Act.buffer?).map (copyFrame fromSample zero)
  | _, [] => rfl
  | p, a :: acts => by
    rw [Pipeline.run_cons, List.filterMap_append, captured_step, captured_run,
      List.filterMap_cons]
    cases a.buffer? <;> rfl

/-- Every `captured` event is a kept frame or a dropped one. -/
theorem length_captured (T : List (Event F)) :
    (T.filterMap Event.captured?).length =
      (T.filterMap Event.kept?).length + (T.filterMap Event.rawDropped?).length := by
  induction T with
  | nil => rfl
  | cons e T ih =>
    rcases e with ⟨_, _ | _⟩ | _ | _ | _ | _ | _ <;> simp [ih] <;> omega

/-- **Every frame accounted for.** In every interleaving of callbacks, the processing thread,
settings commands and the consumer, from the session `start_capture` sets up: the ring holds at
most `RAW_RING_CAP` frames and the channel at most its capacity; each callback copies its buffer
into one frame, which is kept on the ring or counted as dropped; the kept frames are the frames
the DSP processed, then the one it holds, then the ring, in capture order; the processed frames
sent are those that left the channel, then those in it, in order; every processed frame's level
is queued; and each counter is its number of drops modulo `2^64`. -/
theorem pipeline_accounting (dsp : σ) (acts : List (Act α σ)) :
    let r : Pipeline F σ × List (Event F) :=
      (Pipeline.start dsp).run fromSample zero process cap acts
    r.1.ring.length ≤ rawRingCap ∧ r.1.frames.length ≤ cap ∧
      r.2.filterMap Event.captured? = (acts.filterMap Act.buffer?).map (copyFrame fromSample zero) ∧
      (acts.filterMap Act.buffer?).length =
        (r.2.filterMap Event.kept?).length + (r.2.filterMap Event.rawDropped?).length ∧
      r.2.filterMap Event.kept? = r.2.filterMap Event.processed? ++ r.1.held.toList ++ r.1.ring ∧
      r.2.filterMap Event.sent? = r.2.filterMap Event.left? ++ r.1.frames ∧
      r.2.filterMap Event.level? = r.2.filterMap Event.receivedLevel? ++ r.1.levels ∧
      r.1.droppedRaw.toNat = (r.2.filterMap Event.rawDropped?).length % 2 ^ 64 ∧
      r.1.droppedProcessed.toNat = (r.2.filterMap Event.processedDropped?).length % 2 ^ 64 := by
  have h := (accounted_start cap dsp).run fromSample zero process cap acts
  have hc := captured_run fromSample zero process cap (Pipeline.start dsp) acts
  simp only [List.nil_append] at h
  refine ⟨h.ring_le, h.frames_le, hc, ?_, by rw [h.ring_fifo, h.held_eq], h.frames_fifo,
    h.levels_fifo, h.droppedRaw_eq, h.droppedProcessed_eq⟩
  rw [← length_captured, hc, List.length_map]

/-- **The ring keeps the oldest frames.** While the processing thread takes nothing, callbacks fill
the ring up to `RAW_RING_CAP` in order, and every later one is dropped and counted: after any
number of buffers the ring holds the first frames, and `DROPPED_RAW` has grown by the rest. -/
theorem callbacks_keep_oldest : ∀ (p : Pipeline F σ) (bufs : List (List α)),
    p.ring.length ≤ rawRingCap →
    let q : Pipeline F σ := (p.run fromSample zero process cap (bufs.map .callback)).1
    q.ring = (p.ring ++ bufs.map (copyFrame fromSample zero)).take rawRingCap ∧
      q.droppedRaw.toNat =
        (p.droppedRaw.toNat + (p.ring.length + bufs.length - rawRingCap)) % 2 ^ 64
  | p, [], hp => by
    simp only [List.map_nil, Pipeline.run_nil, List.append_nil, List.length_nil, Nat.add_zero]
    refine ⟨(List.take_of_length_le hp).symm, ?_⟩
    rw [Nat.sub_eq_zero_of_le hp, Nat.add_zero, Nat.mod_eq_of_lt (u64_toNat_lt _)]
  | p, data :: bufs, hp => by
    simp only [List.map_cons, Pipeline.run_cons, Pipeline.step]
    split
    · obtain ⟨hr, hd⟩ := callbacks_keep_oldest
        { p with ring := p.ring ++ [copyFrame fromSample zero data] } bufs (by simp; omega)
      dsimp only at hr hd
      refine ⟨by simpa using hr, ?_⟩
      rw [hd]
      simp only [List.length_append, List.length_cons, List.length_nil, rawRingCap]
      omega
    · have h8 : p.ring.length = rawRingCap := by omega
      obtain ⟨hr, hd⟩ := callbacks_keep_oldest { p with droppedRaw := p.droppedRaw + 1 } bufs hp
      dsimp only at hr hd
      refine ⟨by rw [hr, List.take_left' h8, List.take_left' h8], ?_⟩
      rw [hd, u64_toNat_add_one, Nat.mod_add_mod]
      congr 1; simp only [List.length_cons]; omega

/-- Ten buffers while the processing thread takes nothing: the ring keeps the first eight frames,
and two drops are counted. -/
theorem ten_callbacks_keep_first_eight :
    (Pipeline.start () : Pipeline Nat Unit).ring.length ≤ rawRingCap ∧
      let q : Pipeline Nat Unit := ((Pipeline.start ()).run id 0 (fun s x => (s, x, 0)) 3
        ((List.replicate 10 ([] : List Nat)).map .callback)).1
      q.ring = ((Pipeline.start () : Pipeline Nat Unit).ring ++
          (List.replicate 10 []).map (copyFrame id 0)).take rawRingCap ∧
        q.droppedRaw.toNat = ((Pipeline.start () : Pipeline Nat Unit).droppedRaw.toNat +
          ((Pipeline.start () : Pipeline Nat Unit).ring.length + 10 - rawRingCap)) % 2 ^ 64 :=
  ⟨by decide, callbacks_keep_oldest id 0 (fun s x => (s, x, 0)) 3 _ _ (by decide)⟩

end Run

end Cordia.Audio
