import Cordia.Presence.Redis
import Cordia.Trace
/-!
# What a snapshot shows after a sequential run

`RecordIs` and `Member` say, from the history of calls alone, what `u`'s record holds and whether
`u` is in the set of `k`; `hget_run` and `mem_run` prove that the store agrees with them after every
sequential run from the empty store. A snapshot of `k` then lists exactly the members whose record
is live, with the key of the record's last write (`snapshot_visibility`).

Membership is not "announced since the record was last deleted". A member leaves the set of `k`
only by a `disconnect` that names `k`, or by the repair of a snapshot of `k` that ran while the
record was gone. A member whose record lapsed, or was deleted by a `disconnect` naming other keys,
is shown again as soon as `hello` or `active` recreates the record under any keys, unless a snapshot
of `k` repaired it away in between (`lapsed_member_reappears`).
-/

namespace Cordia.Presence

/-- `w`'s record holds `v`: a call wrote `v`, and no later call deleted or rewrote the record. -/
def RecordIs (ops : List Op) (w v : String) : Prop :=
  Since (fun y => y.writes w = some v) (fun _ y => y.deletes w ∨ (y.writes w).isSome) ops

/-- `w`'s record exists. -/
def Live (ops : List Op) (w : String) : Prop := ∃ v, RecordIs ops w v

/-- `w` is in the set of `k`: a call announced `w` under `k`, and after it no `disconnect` of `w`
named `k` and no snapshot of `k` ran while `w`'s record was gone. -/
def Member (ops : List Op) (w k : String) : Prop :=
  Since (fun y => y.announces w k) (fun h y => y.leaves w k ∨ (y = .snapshot k ∧ ¬Live h w)) ops

/-! ## The store agrees with the history -/

variable (w k : String)

theorem hget_run (ops : List Op) (v : String) :
    (Store.empty.run ops).hget (redisUserKey w) activeField = some v ↔ RecordIs ops w v := by
  induction ops using List.reverseRecOn generalizing v with
  | nil => simp [Store.run, Store.empty, Store.hget, RecordIs, not_since_nil]
  | append_singleton ops y ih =>
    rw [Store.run_append_singleton, Store.hget_step, RecordIs, since_append_singleton, ← RecordIs,
      ← ih]
    by_cases hd : y.deletes w
    · simp [hd, Op.writes_of_deletes hd]
    · cases y.writes w <;> simp [hd]

theorem hget_run_eq_none (ops : List Op) :
    (Store.empty.run ops).hget (redisUserKey w) activeField = none ↔ ¬Live ops w := by
  simp [Live, ← hget_run, Option.eq_none_iff_forall_not_mem]

theorem mem_run (ops : List Op) :
    w ∈ (Store.empty.run ops).sets (redisServerKey k) ↔ Member ops w k := by
  induction ops using List.reverseRecOn with
  | nil => simp [Store.run, Store.empty, Member, not_since_nil, HSet.not_mem_empty]
  | append_singleton ops y ih =>
    rw [Store.run_append_singleton, Store.mem_step, hget_run_eq_none, ih]
    simp only [Member, since_append_singleton]

/-! ## What a snapshot returns -/

/-- **What a snapshot shows.** After any sequential run, `snapshot(k)` lists each user at most once,
and lists `w` with active key `x` exactly when `w` is a member of the set of `k` and `w`'s record
holds a value `v` with `x = decodeActive v`. -/
theorem snapshot_visibility (ops : List Op) (x : Option String) :
    let out := (redisPresenceSnapshot (Store.empty.run ops) k).2
    (out.map (·.userId)).Nodup ∧
      ((∃ e ∈ out, e.userId = w ∧ e.activeSigningPubkey = x) ↔
        Member ops w k ∧ ∃ v, RecordIs ops w v ∧ x = decodeActive v) := by
  refine ⟨redisPresenceSnapshot_nodup _ _, ⟨?_, ?_⟩⟩
  · rintro ⟨e, he, rfl, rfl⟩
    obtain ⟨hm, v, hv, hx⟩ := (mem_redisPresenceSnapshot_out _ _ e).1 he
    exact ⟨(mem_run _ _ ops).1 hm, v, (hget_run _ ops v).1 hv, hx⟩
  · rintro ⟨hm, v, hv, rfl⟩
    exact ⟨⟨w, decodeActive v⟩, (mem_redisPresenceSnapshot_out _ _ _).2
      ⟨(mem_run _ _ ops).2 hm, v, (hget_run _ ops v).2 hv, rfl⟩, rfl, rfl⟩

/-- A member whose record lapsed is shown again once `active` recreates the record; a snapshot of
the key in between repairs the membership away, and the later snapshot shows nobody. -/
theorem lapsed_member_reappears :
    let ops : List Op := [.hello "u" ["k"] none, .lapse "u"]
    (redisPresenceSnapshot (Store.empty.run (ops ++ [.active "u" none])) "k").2 = [⟨"u", none⟩] ∧
      (redisPresenceSnapshot (Store.empty.run (ops ++ [.snapshot "k", .active "u" none])) "k").2 =
        [] := by
  dsimp only
  decide

end Cordia.Presence
