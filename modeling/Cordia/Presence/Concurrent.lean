import Cordia.Presence.Redis
/-!
# Snapshots interleaved with other clients (`beacon-server/src/handlers/redis.rs:91-146`)

`redis_presence_snapshot` makes three round trips: `SMEMBERS` (`:100`), the pipeline of `HGET`s
(`:108-116`) and the repair `SREM` (`:136-143`). Other clients' pipelines, and lapses, run between
them. `Sys` holds the store and the phase of every snapshot call, keyed by a call number; an `Act`
is one round trip of one call, or one other client's batch. The three round trips of one call with
nothing between them are `redisPresenceSnapshot` (`round_trips_eq_redisPresenceSnapshot`).

An announced user stays in the set until a call deletes the user's record, with one exception. A
snapshot that read the set before the user's `disconnect` and sent its `HGET`s after it holds the
user on its stale list; when the user says `hello` again before that snapshot's `SREM`, the `SREM`
takes the fresh membership out (`stale_srem_drops_fresh_hello`). `announced_member_stays` proves
that this race is the only one: a snapshot that had not sent its `HGET`s when the `hello` landed
finds the record live.
-/

namespace Cordia.Presence

/-- Where one `redis_presence_snapshot(k)` call is. -/
inductive SnapPhase where
  | idle
  /-- `SMEMBERS` returned `userIds`. -/
  | fetched (signingPubkey : String) (userIds : List String)
  /-- The `HGET`s came back: `out` is the answer and `stale` the members whose field was nil. -/
  | repair (signingPubkey : String) (stale : List String) (out : List PresenceUserStatus)
  | done (out : List PresenceUserStatus)
deriving DecidableEq, Repr

/-- The call is about to `SREM` `w` from the set of `k`. -/
def SnapPhase.removes (w k : String) : SnapPhase → Bool
  | .repair spk stale _ => k = spk ∧ w ∈ stale
  | _ => false

/-- One round trip. -/
inductive Act where
  /-- Another client's pipeline, applied as one batch, or a lapse. -/
  | batch (op : Op)
  /-- Call `id` starts a snapshot of `signingPubkey` with its `SMEMBERS` (`:100`). -/
  | smembers (id : Nat) (signingPubkey : String)
  /-- Call `id` sends its `HGET`s (`:108-116`). -/
  | hgets (id : Nat)
  /-- Call `id` sends its repair (`:136-143`). -/
  | srem (id : Nat)
deriving DecidableEq, Repr

/-- The act deletes `w`'s record. -/
def Act.deletes (w : String) : Act → Bool
  | .batch op => op.deletes w
  | _ => false

structure Sys where
  store : Store
  snaps : Nat → SnapPhase

namespace Sys

def init (store : Store) : Sys := ⟨store, fun _ => .idle⟩

/-- One round trip; a round trip of a call that is not at that point does nothing. -/
def step (sys : Sys) : Act → Sys
  | .batch op => { sys with store := sys.store.step op }
  | .smembers i k =>
    match sys.snaps i with
    | .idle =>
      let userIds := sys.store.smembers (redisServerKey k)
      let phase := if userIds.isEmpty then .done [] else .fetched k userIds
      { sys with snaps := Function.update sys.snaps i phase }
    | _ => sys
  | .hgets i =>
    match sys.snaps i with
    | .fetched k userIds =>
      let split := splitActive (userIds.zip (snapshotFields sys.store userIds))
      { sys with snaps := Function.update sys.snaps i (.repair k split.2 split.1) }
    | _ => sys
  | .srem i =>
    match sys.snaps i with
    | .repair k stale out =>
      ⟨sys.store.exec (repairCmds k stale), Function.update sys.snaps i (.done out)⟩
    | _ => sys

/-- An interleaving, first round trip first. -/
def run (sys : Sys) (acts : List Act) : Sys := acts.foldl step sys

/-- The act is the `SREM` of a call that holds `w` on its stale list for `k`. -/
def pendingSrem (sys : Sys) (w k : String) : Act → Bool
  | .srem i => (sys.snaps i).removes w k
  | _ => false

/-! ## What one round trip changes -/

variable (sys : Sys) (w k : String)

@[simp] theorem step_batch_store (op : Op) : (sys.step (.batch op)).store = sys.store.step op := rfl

@[simp] theorem step_smembers_store (i : Nat) (k' : String) :
    (sys.step (.smembers i k')).store = sys.store := by
  simp only [step]; split <;> rfl

@[simp] theorem step_hgets_store (i : Nat) : (sys.step (.hgets i)).store = sys.store := by
  simp only [step]; split <;> rfl

@[simp] theorem step_srem_hashes (i : Nat) :
    (sys.step (.srem i)).store.hashes = sys.store.hashes := by
  simp only [step]; split <;> simp [exec_repairCmds, Store.execCmd]

theorem mem_step_srem (i : Nat) : w ∈ (sys.step (.srem i)).store.sets (redisServerKey k) ↔
    w ∈ sys.store.sets (redisServerKey k) ∧ ¬(sys.snaps i).removes w k := by
  simp only [step]
  split <;> simp [*, exec_repairCmds, Store.mem_execCmd_srem, SnapPhase.removes]

/-- A round trip puts `w` on no stale list while `w`'s record is live. -/
theorem removes_of_step (hlive : sys.store.hget (redisUserKey w) activeField ≠ none) (a : Act)
    (j : Nat) (h : ((sys.step a).snaps j).removes w k) : (sys.snaps j).removes w k := by
  cases a with
  | batch op => exact h
  | smembers i _ | hgets i | srem i =>
    simp only [step] at h
    split at h
    · by_cases hj : j = i
      · subst hj
        simp only [Function.update_same, apply_ite (SnapPhase.removes w k)] at h
        simp [SnapPhase.removes, mem_splitActive_snd, mem_zip_snapshotFields, hlive] at h
      · simpa [hj] using h
    · exact h

/-! ## An announced member stays -/

/-- What keeps `w` in the set of `k` after the announcement that led to `sys₀`: the membership,
a live record, and no call about to remove `w` that was not about to at `sys₀`. -/
structure Keeps (sys₀ : Sys) (sys : Sys) : Prop where
  mem : w ∈ sys.store.sets (redisServerKey k)
  live : sys.store.hget (redisUserKey w) activeField ≠ none
  pending : ∀ i, (sys.snaps i).removes w k → (sys₀.snaps i).removes w k

variable {w k}

theorem keeps_announce {op : Op} (hann : op.announces w k) :
    Keeps w k (sys.step (.batch op)) (sys.step (.batch op)) := by
  obtain ⟨hw, hd⟩ := Op.writes_of_announces hann
  refine ⟨by simp [Store.mem_step, hann], ?_, fun _ h => h⟩
  rw [step_batch_store, Store.hget_step, hd, if_neg Bool.false_ne_true]
  exact fun h => by simp [(Option.or_eq_none.1 h).1] at hw

theorem Keeps.step {sys₀ : Sys} {sys : Sys} (hk : Keeps w k sys₀ sys) (a : Act)
    (hdel : a.deletes w = false) (hrace : sys₀.pendingSrem w k a = false) :
    Keeps w k sys₀ (sys.step a) := by
  have pending := fun j h => hk.pending j (removes_of_step sys w k hk.live a j h)
  cases a with
  | batch op =>
    simp only [Act.deletes] at hdel
    refine ⟨?_, ?_, pending⟩
    · rw [step_batch_store, Store.mem_step]
      refine .inr ⟨?_, hk.mem⟩
      rintro (h | ⟨-, h⟩)
      · simp [Op.deletes_of_leaves h] at hdel
      · exact hk.live h
    · rw [step_batch_store, Store.hget_step, hdel, if_neg Bool.false_ne_true]
      exact fun h => hk.live (Option.or_eq_none.1 h).2
  | smembers i _ | hgets i => exact ⟨by simpa using hk.mem, by simpa using hk.live, pending⟩
  | srem i =>
    refine ⟨(mem_step_srem sys w k i).2 ⟨hk.mem, fun h => ?_⟩, by simpa [Store.hget] using hk.live,
      pending⟩
    simp [pendingSrem, hk.pending i h] at hrace

theorem Keeps.run {sys₀ : Sys} : ∀ {sys : Sys} (acts : List Act), Keeps w k sys₀ sys →
    (∀ a ∈ acts, a.deletes w = false) → (∀ a ∈ acts, sys₀.pendingSrem w k a = false) →
    Keeps w k sys₀ (sys.run acts)
  | _, [], hk, _, _ => hk
  | _, a :: acts, hk, hdel, hrace =>
    Keeps.run acts (hk.step a (hdel a (.head _)) (hrace a (.head _)))
      (fun b hb => hdel b (.tail _ hb)) (fun b hb => hrace b (.tail _ hb))

/-- **No lost membership, but for one race.** After a `hello` or a refresh entry announces `w`
under `k`, `w` is in the set of `k` after every interleaving that deletes no record of `w` and
runs no `SREM` of a call that already held `w` on its stale list for `k` when the announcement
landed. -/
theorem announced_member_stays (op : Op) (hann : op.announces w k) (acts : List Act)
    (hdel : ∀ a ∈ acts, a.deletes w = false)
    (hrace : ∀ a ∈ acts, (sys.step (.batch op)).pendingSrem w k a = false) :
    w ∈ ((sys.step (.batch op)).run acts).store.sets (redisServerKey k) :=
  (Keeps.run acts (keeps_announce sys hann) hdel hrace).mem

/-- A `hello` followed by a whole snapshot of its key and an `active`. -/
theorem announced_member_stays_through_snapshot :
    let sys : Sys := (Sys.init Store.empty).step (.batch (.hello "u" ["k"] none))
    let acts : List Act := [.smembers 0 "k", .hgets 0, .srem 0, .batch (.active "u" none)]
    (∀ a ∈ acts, a.deletes "u" = false) ∧ (∀ a ∈ acts, sys.pendingSrem "u" "k" a = false) ∧
      "u" ∈ (sys.run acts).store.sets (redisServerKey "k") :=
  ⟨by decide, by decide,
    announced_member_stays _ (.hello "u" ["k"] none) (by decide) _ (by decide) (by decide)⟩

/-- The race: call `0` reads the set, the user disconnects, call `0`'s `HGET` finds the record
gone, the user says `hello` again, and call `0`'s `SREM` takes the fresh membership out. -/
theorem stale_srem_drops_fresh_hello :
    let sys : Sys := (Sys.init Store.empty).run [.batch (.hello "u" ["k"] none), .smembers 0 "k",
      .batch (.disconnect "u" ["k"]), .hgets 0, .batch (.hello "u" ["k"] none)]
    "u" ∈ sys.store.sets (redisServerKey "k") ∧
      "u" ∉ (sys.step (.srem 0)).store.sets (redisServerKey "k") := by
  dsimp only
  decide

/-! ## The sequential snapshot -/

/-- The three round trips of one call with nothing between them. -/
theorem round_trips_eq_redisPresenceSnapshot (k : String) (i : Nat) (hi : sys.snaps i = .idle) :
    let sys' : Sys := sys.run [.smembers i k, .hgets i, .srem i]
    sys'.store = (redisPresenceSnapshot sys.store k).1 ∧
      sys'.snaps i = .done (redisPresenceSnapshot sys.store k).2 := by
  by_cases he : (sys.store.smembers (redisServerKey k)).isEmpty <;>
    simp [run, step, hi, he, redisPresenceSnapshot]

end Sys

end Cordia.Presence
