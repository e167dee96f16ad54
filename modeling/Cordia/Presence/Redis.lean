import Cordia.Collections
import Mathlib.Logic.Function.Basic
/-!
# The Redis presence backend (`beacon-server/src/handlers/redis.rs`)

A user's record is the hash at `presence:user:{u}`, with the one field `active_signing_pubkey`
(`""` for no key) and an expiry. The users present under a signing key are the set at
`presence:house:{k}`, which never expires: only `disconnect` and the repair step of
`snapshot` take members out.

`hello`, `active`, `disconnect` and `refresh` each send one pipeline; `Store.exec` applies it
as one batch. `snapshot` makes three round trips (`SMEMBERS`, a pipeline of `HGET`, and an
`SREM` of the users whose record was gone); `redisPresenceSnapshot` runs them back to back,
and `Presence.Concurrent` lets other clients run between them.

`EXPIRE` only sets when a record lapses. The model does not keep time: a lapse is the event
`Op.lapse`, which may come at any point, so every result holds for every timing of the
expiries. A failed call (no connection, a failed query) sends nothing or has its answer
dropped, so it is a run without that call. The two key shapes have different prefixes, so
the hashes and the sets are kept in two maps.
-/

namespace Cordia.Presence

/-- `redis_user_key` (`:7`). -/
def redisUserKey (userId : String) : String := "presence:user:" ++ userId

/-- `redis_server_key` (`:13`); "house" is kept for the data already in Redis. -/
def redisServerKey (signingPubkey : String) : String := "presence:house:" ++ signingPubkey

/-- The hash field every presence function writes and reads. -/
def activeField : String := "active_signing_pubkey"

theorem append_left_inj (p a b : String) : p ++ a = p ++ b ↔ a = b := by
  refine ⟨fun h => ?_, fun h => h ▸ rfl⟩
  have := congrArg String.data h
  simp only [String.data_append] at this
  exact String.ext (List.append_cancel_left this)

@[simp] theorem redisUserKey_inj {a b : String} : redisUserKey a = redisUserKey b ↔ a = b :=
  append_left_inj _ _ _

@[simp] theorem redisServerKey_inj {a b : String} : redisServerKey a = redisServerKey b ↔ a = b :=
  append_left_inj _ _ _

/-- `PresenceUserStatus` (defined in `state::presence`, not under `src/`), with the two fields
`:127-130` fills in. -/
structure PresenceUserStatus where
  userId : String
  activeSigningPubkey : Option String
deriving DecidableEq, Repr

/-- The hashes (each a map from field to value) and the sets of the keyspace; an absent set
reads as empty, as `SMEMBERS` returns it. -/
structure Store where
  hashes : String → Option (HMap String String)
  sets : String → HSet String

/-- A Redis command the presence functions send. -/
inductive Cmd where
  | hset (key field value : String)
  | sadd (key member : String)
  | del (key : String)
  | srem (key : String) (members : List String)
deriving DecidableEq, Repr

namespace Store

def empty : Store := ⟨fun _ => none, fun _ => .empty⟩

/-- `HGET key field`. -/
def hget (st : Store) (key field : String) : Option String := (st.hashes key).bind (·.get field)

/-- `SMEMBERS key`. -/
def smembers (st : Store) (key : String) : List String := (st.sets key).elems

def execCmd (st : Store) : Cmd → Store
  | .hset key field value =>
    let hash := ((st.hashes key).getD .empty).insert field value
    { st with hashes := Function.update st.hashes key (some hash) }
  | .sadd key member => { st with sets := Function.update st.sets key ((st.sets key).insert member) }
  | .del key => { st with hashes := Function.update st.hashes key none }
  | .srem key members =>
    let set := members.foldl HSet.remove (st.sets key)
    { st with sets := Function.update st.sets key set }

/-- A pipeline, applied as one batch. -/
def exec (st : Store) (cmds : List Cmd) : Store := cmds.foldl execCmd st

/-- The record of `userId` lapses: its TTL has run out. -/
def lapse (st : Store) (userId : String) : Store :=
  { st with hashes := Function.update st.hashes (redisUserKey userId) none }

end Store

/-! ## The pipelines -/

/-- What `redis_presence_hello` sends (`:32-38`). -/
def helloCmds (userId : String) (signingPubkeys : List String) (active : Option String) :
    List Cmd :=
  .hset (redisUserKey userId) activeField (active.getD "") ::
    signingPubkeys.map fun spk => .sadd (redisServerKey spk) userId

/-- What `redis_presence_active` sends (`:58-60`). -/
def activeCmds (userId : String) (active : Option String) : List Cmd :=
  [.hset (redisUserKey userId) activeField (active.getD "")]

/-- What `redis_presence_disconnect` sends (`:78-83`). -/
def disconnectCmds (userId : String) (signingPubkeys : List String) : List Cmd :=
  .del (redisUserKey userId) :: signingPubkeys.map fun spk => .srem (redisServerKey spk) [userId]

/-- What `redis_presence_refresh` sends (`:161-171`): one `hello` batch per user, in one
pipeline; nothing for no users. -/
def refreshCmds (users : List (String × List String × Option String)) : List Cmd :=
  users.flatMap fun e => helloCmds e.1 e.2.1 e.2.2

/-! ## `redis_presence_snapshot` -/

/-- `if active_value.is_empty() { None } else { Some(active_value) }` (`:122-126`). -/
def decodeActive (value : String) : Option String := if value.isEmpty then none else some value

/-- The loop of `:120-134`: a user whose field came back is listed with it; a user whose field
came back nil is stale. -/
def splitActive : List (String × Option String) → List PresenceUserStatus × List String
  | [] => ([], [])
  | (u, some v) :: rest => (⟨u, decodeActive v⟩ :: (splitActive rest).1, (splitActive rest).2)
  | (u, none) :: rest => ((splitActive rest).1, u :: (splitActive rest).2)

/-- The `HGET` pipeline (`:108-116`). -/
def snapshotFields (st : Store) (userIds : List String) : List (Option String) :=
  userIds.map fun u => st.hget (redisUserKey u) activeField

/-- The repair (`:136-143`), sent only when a user was stale. -/
def repairCmds (signingPubkey : String) (stale : List String) : List Cmd :=
  if stale.isEmpty then [] else [.srem (redisServerKey signingPubkey) stale]

/-- `redis_presence_snapshot` (`:91-146`), its three round trips with no other client between. -/
def redisPresenceSnapshot (st : Store) (signingPubkey : String) :
    Store × List PresenceUserStatus :=
  let userIds := st.smembers (redisServerKey signingPubkey)
  if userIds.isEmpty then (st, [])
  else
    let split := splitActive (userIds.zip (snapshotFields st userIds))
    (st.exec (repairCmds signingPubkey split.2), split.1)

/-! ## Sequential runs -/

/-- A presence call, or a record's lapse. -/
inductive Op where
  | hello (userId : String) (signingPubkeys : List String) (active : Option String)
  | active (userId : String) (active : Option String)
  | disconnect (userId : String) (signingPubkeys : List String)
  | refresh (users : List (String × List String × Option String))
  | snapshot (signingPubkey : String)
  | lapse (userId : String)
deriving DecidableEq, Repr

/-- The value a refresh writes into `userId`'s record: that of its last entry for the user. -/
def refreshValue (users : List (String × List String × Option String)) (userId : String) :
    Option String :=
  (users.reverse.find? fun e => userId = e.1).map (·.2.2.getD "")

namespace Op

/-! What one call does to one user `w`: these four say everything a step can do to `w`'s
record and memberships (`hget_step`, `mem_step`). -/

/-- The value the call writes into `w`'s record. -/
def writes (w : String) : Op → Option String
  | .hello u _ a | .active u a => if w = u then some (a.getD "") else none
  | .refresh users => refreshValue users w
  | _ => none

/-- The call deletes `w`'s record. -/
def deletes (w : String) : Op → Bool
  | .disconnect u _ | .lapse u => w = u
  | _ => false

/-- The call adds `w` to the set of `k`. -/
def announces (w k : String) : Op → Bool
  | .hello u ks _ => w = u ∧ k ∈ ks
  | .refresh users => users.any fun e => w = e.1 ∧ k ∈ e.2.1
  | _ => false

/-- The call's own pipeline takes `w` out of the set of `k`. -/
def leaves (w k : String) : Op → Bool
  | .disconnect u ks => w = u ∧ k ∈ ks
  | _ => false

theorem deletes_of_leaves {w k : String} {y : Op} (h : y.leaves w k) : y.deletes w := by
  cases y <;> simp_all [leaves, deletes]

theorem writes_of_deletes {w : String} {y : Op} (h : y.deletes w) : y.writes w = none := by
  cases y <;> simp_all [deletes, writes]

theorem refreshValue_isSome {users : List (String × List String × Option String)} {w : String} :
    (refreshValue users w).isSome ↔ ∃ e ∈ users, w = e.1 := by
  simp [refreshValue, List.find?_isSome]

/-- An announcement writes the record and deletes nothing. -/
theorem writes_of_announces {w k : String} {y : Op} (h : y.announces w k) :
    (y.writes w).isSome ∧ y.deletes w = false := by
  cases y with
  | hello u ks a => simp_all [announces, writes, deletes]
  | refresh users =>
    simp only [announces, List.any_eq_true, decide_eq_true_eq] at h
    obtain ⟨e, he, hw, -⟩ := h
    exact ⟨refreshValue_isSome.2 ⟨e, he, hw⟩, rfl⟩
  | _ => simp [announces] at h

end Op

namespace Store

def step (st : Store) : Op → Store
  | .hello u ks a => st.exec (helloCmds u ks a)
  | .active u a => st.exec (activeCmds u a)
  | .disconnect u ks => st.exec (disconnectCmds u ks)
  | .refresh users => st.exec (refreshCmds users)
  | .snapshot k => (redisPresenceSnapshot st k).1
  | .lapse u => st.lapse u

/-- A run of calls, first call first. -/
def run (st : Store) (ops : List Op) : Store := ops.foldl step st

theorem run_append_singleton (st : Store) (ops : List Op) (x : Op) :
    st.run (ops ++ [x]) = (st.run ops).step x := by
  simp [run, List.foldl_append]

end Store

/-! ## Spec lemmas: what each call does to a record and to a set -/

namespace Store

variable (st : Store)

@[simp] theorem exec_nil : st.exec [] = st := rfl
@[simp] theorem exec_cons (c : Cmd) (cs : List Cmd) : st.exec (c :: cs) = (st.execCmd c).exec cs :=
  rfl

/-- `SADD`s of one user to several keys. -/
theorem exec_sadds (u : String) : ∀ (ks : List String) (st : Store),
    (st.exec (ks.map fun spk => .sadd (redisServerKey spk) u)).hashes = st.hashes ∧
      ∀ w k, w ∈ (st.exec (ks.map fun spk => .sadd (redisServerKey spk) u)).sets
        (redisServerKey k) ↔ w ∈ st.sets (redisServerKey k) ∨ (w = u ∧ k ∈ ks)
  | [], st => by simp
  | k :: ks, st => by
    obtain ⟨h1, h2⟩ := exec_sadds u ks (st.execCmd (.sadd (redisServerKey k) u))
    refine ⟨h1, fun w k' => ?_⟩
    rw [List.map_cons, exec_cons, h2]
    by_cases hk : k' = k
    · simp [execCmd, hk]; tauto
    · simp [execCmd, Function.update_apply, hk]

/-- `SREM`s of one user from several keys. -/
theorem exec_srems (u : String) : ∀ (ks : List String) (st : Store),
    (st.exec (ks.map fun spk => .srem (redisServerKey spk) [u])).hashes = st.hashes ∧
      ∀ w k, w ∈ (st.exec (ks.map fun spk => .srem (redisServerKey spk) [u])).sets
        (redisServerKey k) ↔ w ∈ st.sets (redisServerKey k) ∧ ¬(w = u ∧ k ∈ ks)
  | [], st => by simp
  | k :: ks, st => by
    obtain ⟨h1, h2⟩ := exec_srems u ks (st.execCmd (.srem (redisServerKey k) [u]))
    refine ⟨h1, fun w k' => ?_⟩
    rw [List.map_cons, exec_cons, h2]
    by_cases hk : k' = k <;> by_cases hw : w = u <;> simp [execCmd, Function.update_apply, hk, hw]

theorem hget_hset (u v w : String) :
    (st.execCmd (.hset (redisUserKey u) activeField v)).hget (redisUserKey w) activeField =
      if w = u then some v else st.hget (redisUserKey w) activeField := by
  by_cases hw : w = u <;> simp [execCmd, hget, Function.update_apply, hw]

variable (u w k : String)

theorem hget_hello (ks : List String) (a : Option String) :
    (st.exec (helloCmds u ks a)).hget (redisUserKey w) activeField =
      if w = u then some (a.getD "") else st.hget (redisUserKey w) activeField := by
  rw [helloCmds, exec_cons, hget, (exec_sadds u ks _).1, ← hget, hget_hset]

theorem mem_hello (ks : List String) (a : Option String) :
    w ∈ (st.exec (helloCmds u ks a)).sets (redisServerKey k) ↔
      w ∈ st.sets (redisServerKey k) ∨ (w = u ∧ k ∈ ks) := by
  rw [helloCmds, exec_cons, (exec_sadds u ks _).2]
  rfl

theorem hget_active (a : Option String) :
    (st.exec (activeCmds u a)).hget (redisUserKey w) activeField =
      if w = u then some (a.getD "") else st.hget (redisUserKey w) activeField :=
  hget_hset st u _ w

@[simp] theorem sets_active (a : Option String) : (st.exec (activeCmds u a)).sets = st.sets := rfl

theorem hget_disconnect (ks : List String) :
    (st.exec (disconnectCmds u ks)).hget (redisUserKey w) activeField =
      if w = u then none else st.hget (redisUserKey w) activeField := by
  rw [disconnectCmds, exec_cons, hget, (exec_srems u ks _).1]
  by_cases hw : w = u <;> simp [execCmd, hget, Function.update_apply, hw]

theorem mem_disconnect (ks : List String) :
    w ∈ (st.exec (disconnectCmds u ks)).sets (redisServerKey k) ↔
      w ∈ st.sets (redisServerKey k) ∧ ¬(w = u ∧ k ∈ ks) := by
  rw [disconnectCmds, exec_cons, (exec_srems u ks _).2]
  rfl

theorem hget_lapse :
    (st.lapse u).hget (redisUserKey w) activeField =
      if w = u then none else st.hget (redisUserKey w) activeField := by
  by_cases hw : w = u <;> simp [lapse, hget, Function.update_apply, hw]

@[simp] theorem sets_lapse : (st.lapse u).sets = st.sets := rfl

theorem exec_refreshCmds_append (users : List (String × List String × Option String))
    (e : String × List String × Option String) :
    st.exec (refreshCmds (users ++ [e])) =
      (st.exec (refreshCmds users)).exec (helloCmds e.1 e.2.1 e.2.2) := by
  simp [refreshCmds, exec, List.foldl_append]

theorem hget_refresh (users : List (String × List String × Option String)) :
    (st.exec (refreshCmds users)).hget (redisUserKey w) activeField =
      (refreshValue users w).or (st.hget (redisUserKey w) activeField) := by
  induction users using List.reverseRecOn with
  | nil => rfl
  | append_singleton users e ih =>
    rw [exec_refreshCmds_append, hget_hello, ih]
    by_cases h : w = e.1 <;> simp [refreshValue, h]

theorem mem_refresh (users : List (String × List String × Option String)) :
    w ∈ (st.exec (refreshCmds users)).sets (redisServerKey k) ↔
      w ∈ st.sets (redisServerKey k) ∨ ∃ e ∈ users, w = e.1 ∧ k ∈ e.2.1 := by
  induction users using List.reverseRecOn with
  | nil => simp [refreshCmds]
  | append_singleton users e ih =>
    rw [exec_refreshCmds_append, mem_hello, ih]
    simp only [List.mem_append, List.mem_singleton, or_and_right, exists_or, exists_eq_left,
      or_assoc]

theorem mem_execCmd_srem (key : String) (ms : List String) (key' : String) :
    w ∈ (st.execCmd (.srem key ms)).sets key' ↔
      w ∈ st.sets key' ∧ ¬(key' = key ∧ w ∈ ms) := by
  by_cases h : key' = key <;> simp [execCmd, Function.update_apply, h, and_comm]

theorem execCmd_srem_nil (key : String) : st.execCmd (.srem key []) = st := by
  simp [execCmd]

end Store

/-! ## What a snapshot reads, returns and repairs -/

theorem mem_splitActive_snd (l : List (String × Option String)) (u : String) :
    u ∈ (splitActive l).2 ↔ (u, none) ∈ l := by
  induction l using splitActive.induct <;> simp [splitActive, *]

theorem mem_splitActive_fst (l : List (String × Option String)) (e : PresenceUserStatus) :
    e ∈ (splitActive l).1 ↔
      ∃ v, (e.userId, some v) ∈ l ∧ e.activeSigningPubkey = decodeActive v := by
  induction l using splitActive.induct with
  | case1 => simp [splitActive]
  | case2 u v rest ih =>
    rw [splitActive, List.mem_cons, ih]
    cases e
    simp [or_and_right, exists_or, eq_comm, and_assoc]
  | case3 u rest ih => simp [splitActive, ih]

theorem splitActive_userIds_sublist (l : List (String × Option String)) :
    ((splitActive l).1.map (·.userId)).Sublist (l.map (·.1)) := by
  induction l using splitActive.induct <;> simp_all [splitActive]

/-- The fields come back in the order of the members. -/
theorem zip_snapshotFields (st : Store) (userIds : List String) :
    userIds.zip (snapshotFields st userIds) =
      userIds.map fun u => (u, st.hget (redisUserKey u) activeField) := by
  simpa using List.zip_map' id (fun u => st.hget (redisUserKey u) activeField) userIds

theorem mem_zip_snapshotFields (st : Store) (userIds : List String) (w : String)
    (x : Option String) : (w, x) ∈ userIds.zip (snapshotFields st userIds) ↔
      w ∈ userIds ∧ st.hget (redisUserKey w) activeField = x := by
  simp [zip_snapshotFields, and_left_comm]

/-- Skipping the `SREM` of no users is sending it. -/
theorem exec_repairCmds (st : Store) (k : String) (stale : List String) :
    st.exec (repairCmds k stale) = st.execCmd (.srem (redisServerKey k) stale) := by
  unfold repairCmds
  split
  · rename_i h
    rw [List.isEmpty_iff.1 h, Store.execCmd_srem_nil]
    rfl
  · rfl

/-- Both early exits of `redis_presence_snapshot` agree with running all three round trips. -/
theorem redisPresenceSnapshot_eq (st : Store) (k : String) :
    redisPresenceSnapshot st k =
      let userIds := st.smembers (redisServerKey k)
      let split := splitActive (userIds.zip (snapshotFields st userIds))
      (st.execCmd (.srem (redisServerKey k) split.2), split.1) := by
  simp only [redisPresenceSnapshot, exec_repairCmds]
  split
  · simp [List.isEmpty_iff.1 ‹_›, splitActive, Store.execCmd_srem_nil]
  · rfl

section Snapshot

variable (st : Store) (k w : String)

theorem mem_snapshotStale :
    w ∈ (splitActive ((st.smembers (redisServerKey k)).zip
      (snapshotFields st (st.smembers (redisServerKey k))))).2 ↔
      w ∈ st.sets (redisServerKey k) ∧ st.hget (redisUserKey w) activeField = none := by
  simp [mem_splitActive_snd, mem_zip_snapshotFields, Store.smembers, HSet.mem_def]

@[simp] theorem redisPresenceSnapshot_hashes : (redisPresenceSnapshot st k).1.hashes = st.hashes := by
  rw [redisPresenceSnapshot_eq]
  rfl

/-- The repair takes out of the set of `k` exactly the members whose record was gone. -/
theorem mem_redisPresenceSnapshot_sets (k' : String) :
    w ∈ (redisPresenceSnapshot st k).1.sets (redisServerKey k') ↔
      w ∈ st.sets (redisServerKey k') ∧
        ¬(k' = k ∧ st.hget (redisUserKey w) activeField = none) := by
  rw [redisPresenceSnapshot_eq]
  simp only [Store.mem_execCmd_srem, redisServerKey_inj, mem_snapshotStale]
  by_cases h : k' = k
  · subst h; tauto
  · simp [h]

/-- A snapshot lists each member whose record is live, with the record's key. -/
theorem mem_redisPresenceSnapshot_out (e : PresenceUserStatus) :
    e ∈ (redisPresenceSnapshot st k).2 ↔ e.userId ∈ st.sets (redisServerKey k) ∧
      ∃ v, st.hget (redisUserKey e.userId) activeField = some v ∧
        e.activeSigningPubkey = decodeActive v := by
  rw [redisPresenceSnapshot_eq]
  simp [mem_splitActive_fst, mem_zip_snapshotFields, Store.smembers, HSet.mem_def, and_assoc]

/-- A snapshot lists each user at most once. -/
theorem redisPresenceSnapshot_nodup : ((redisPresenceSnapshot st k).2.map (·.userId)).Nodup := by
  rw [redisPresenceSnapshot_eq]
  refine ((splitActive_userIds_sublist _).trans ?_).nodup (st.sets (redisServerKey k)).nodup
  simp [zip_snapshotFields, Function.comp_def, Store.smembers]

end Snapshot

/-! ## One call, one user -/

namespace Store

variable (st : Store) (w k : String)

theorem hget_step (y : Op) : (st.step y).hget (redisUserKey w) activeField =
    if y.deletes w then none else (y.writes w).or (st.hget (redisUserKey w) activeField) := by
  cases y with
  | hello u ks a => by_cases h : w = u <;> simp [step, hget_hello, Op.writes, Op.deletes, h]
  | active u a => by_cases h : w = u <;> simp [step, hget_active, Op.writes, Op.deletes, h]
  | disconnect u ks => by_cases h : w = u <;> simp [step, hget_disconnect, Op.writes, Op.deletes, h]
  | refresh users => simp [step, hget_refresh, Op.writes, Op.deletes]
  | snapshot k' => simp [step, hget, Op.writes, Op.deletes]
  | lapse u => by_cases h : w = u <;> simp [step, hget_lapse, Op.writes, Op.deletes, h]

theorem mem_step (y : Op) : w ∈ (st.step y).sets (redisServerKey k) ↔ y.announces w k ∨
    (¬(y.leaves w k ∨ (y = .snapshot k ∧ st.hget (redisUserKey w) activeField = none)) ∧
      w ∈ st.sets (redisServerKey k)) := by
  cases y with
  | hello u ks a => simp [step, mem_hello, Op.announces, Op.leaves, or_comm]
  | active u a => simp [step, Op.announces, Op.leaves]
  | disconnect u ks => simp [step, mem_disconnect, Op.announces, Op.leaves, and_comm]
  | refresh users => simp [step, mem_refresh, Op.announces, Op.leaves, or_comm]
  | snapshot k' =>
    by_cases h : k = k'
    · subst h; simp [step, mem_redisPresenceSnapshot_sets, Op.announces, Op.leaves, and_comm]
    · simp [step, mem_redisPresenceSnapshot_sets, Op.announces, Op.leaves, h, Ne.symm h]
  | lapse u => simp [step, Op.announces, Op.leaves]

end Store

end Cordia.Presence
