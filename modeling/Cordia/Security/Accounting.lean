import Cordia.Security.ConnectionTracker
/-!
# Connection accounting

Two properties of every run of `try_register` and `unregister`.

`Capped`: a set cap is never exceeded, and where the per-IP cap is set no entry holds `0`.
`CountBounded`: after `k` calls every per-IP count is positive and at most `k`, so on a run of
fewer than `2^32` calls no entry holds `0`, whatever the caps (`connection_caps`). Without a
per-IP cap the count of an ip is an unchecked `u32`, and `2^32` registrations from one ip leave
`0` there (`uncapped_perIp_wraps_to_zero`).

`Exact`: when every `unregister` closes a registration that is still open, and fewer than `2^32`
are ever open at once, `total` and each `per_ip` entry count exactly the open registrations
(`accounting_exact`), so closing them all leaves the tracker empty.
-/

namespace Cordia.Security

namespace ConnectionTracker

@[simp] theorem u32_toNat_one : (1 : UInt32).toNat = 1 := rfl

theorem toNat_add_one {a : UInt32} (h : a.toNat + 1 < 2 ^ 32) : (a + 1).toNat = a.toNat + 1 := by
  rw [u32_toNat_add, u32_toNat_one]; omega

/-- Below a `u32` bound, `+ 1` does not wrap. -/
theorem add_one_le_of_not_le {a b : UInt32} (h : ¬b ≤ a) : 0 < a + 1 ∧ a + 1 ≤ b := by
  have := u32_toNat_lt b
  simp only [u32_lt_iff, u32_le_iff, UInt32.toNat_zero] at h ⊢
  rw [toNat_add_one (by omega)]
  omega

theorem run_append (t : ConnectionTracker) (xs ys : List Step) :
    t.run (xs ++ ys) = (t.run xs).run ys := List.foldl_append _ _ _ _

/-! ## Caps -/

/-- The caps hold, and where the per-IP cap is set every count is positive. -/
structure Capped (t : ConnectionTracker) : Prop where
  total_le : 0 < t.maxTotal → t.total ≤ t.maxTotal
  perIp_bounded : 0 < t.maxPerIp → ∀ ip n, t.perIp.get ip = some n → 0 < n ∧ n ≤ t.maxPerIp

theorem capped_new (maxTotal maxPerIp : UInt32) : Capped (new maxTotal maxPerIp) :=
  ⟨fun _ => Nat.zero_le _, by simp [new]⟩

section Steps

variable {t : ConnectionTracker} (hc : Capped t)
include hc

theorem Capped.tryRegister (ip : String) : Capped (t.tryRegister ip).2 := by
  cases h : (t.tryRegister ip).1 with
  | error => rw [tryRegister_error t ip h]; exact hc
  | ok =>
    obtain ⟨he, h1, h2⟩ := tryRegister_ok t ip h
    rw [he]
    refine ⟨fun hm => (add_one_le_of_not_le fun h => h1 ⟨hm, h⟩).2, fun hm q n hq => ?_⟩
    simp only [HMap.get_insert] at hq
    split at hq
    · cases hq
      exact add_one_le_of_not_le fun h => h2 ⟨hm, h⟩
    · exact hc.perIp_bounded hm q n hq

theorem Capped.unregister (ip : String) : Capped (t.unregister ip) := by
  constructor
  · intro hm
    have := hc.total_le hm
    simp only [unregister_total, unregister_maxTotal, u32_le_iff, toNat_satSub_one] at this ⊢
    omega
  · intro hm q n hq
    rw [unregister_maxPerIp] at hm ⊢
    rw [get_unregister_perIp] at hq
    split at hq
    · subst q
      obtain ⟨m, hg, hq⟩ := Option.bind_eq_some.1 hq
      have hb := hc.perIp_bounded hm ip m hg
      split at hq
      · cases hq
      · cases hq
        simp only [u32_lt_iff, u32_le_iff, UInt32.toNat_zero, u32_ext_iff,
          toNat_satSub_one] at hb ‹¬_› ⊢
        omega
    · exact hc.perIp_bounded hm q n hq

theorem Capped.step : ∀ x, Capped (t.step x)
  | .tryRegister ip => hc.tryRegister ip
  | .unregister ip => hc.unregister ip

end Steps

theorem capped_run : ∀ (steps : List Step) {t : ConnectionTracker}, Capped t → Capped (t.run steps)
  | [], _, hc => hc
  | x :: xs, _, hc => capped_run xs (hc.step x)

theorem run_limits : ∀ (steps : List Step) (t : ConnectionTracker),
    (t.run steps).maxTotal = t.maxTotal ∧ (t.run steps).maxPerIp = t.maxPerIp
  | [], _ => ⟨rfl, rfl⟩
  | x :: xs, t => by simpa using run_limits xs (t.step x)

/-- Every per-IP count is positive and at most `k`. After `k` calls from `new`, no count has had
room to wrap. -/
def CountBounded (k : Nat) (t : ConnectionTracker) : Prop :=
  ∀ ip n, t.perIp.get ip = some n → 0 < n.toNat ∧ n.toNat ≤ k

theorem countBounded_new (maxTotal maxPerIp : UInt32) : CountBounded 0 (new maxTotal maxPerIp) := by
  simp [CountBounded, new]

section Bounded

variable {k : Nat} {t : ConnectionTracker} (hb : CountBounded k t)
include hb

theorem CountBounded.tryRegister (hk : k + 1 < 2 ^ 32) (ip : String) :
    CountBounded (k + 1) (t.tryRegister ip).2 := by
  cases h : (t.tryRegister ip).1 with
  | error => rw [tryRegister_error t ip h]; exact fun q n hq => (hb q n hq).imp_right (by omega)
  | ok =>
    rw [(tryRegister_ok t ip h).1]
    intro q n hq
    simp only [HMap.get_insert] at hq
    split at hq
    · cases hq
      have hold : ((t.perIp.get ip).getD 0).toNat ≤ k := by
        cases hg : t.perIp.get ip with
        | none => simp
        | some m => exact (hb ip m hg).2
      rw [toNat_add_one (by omega)]
      omega
    · exact (hb q n hq).imp_right (by omega)

theorem CountBounded.unregister (ip : String) : CountBounded (k + 1) (t.unregister ip) := by
  intro q n hq
  rw [get_unregister_perIp] at hq
  split at hq
  · subst q
    obtain ⟨m, hg, hq⟩ := Option.bind_eq_some.1 hq
    have hm := hb ip m hg
    split at hq
    · cases hq
    · cases hq
      simp only [u32_ext_iff, toNat_satSub_one, UInt32.toNat_zero] at hm ‹¬_› ⊢
      omega
  · exact (hb q n hq).imp_right (by omega)

theorem CountBounded.step (hk : k + 1 < 2 ^ 32) : ∀ x, CountBounded (k + 1) (t.step x)
  | .tryRegister ip => hb.tryRegister hk ip
  | .unregister ip => hb.unregister ip

end Bounded

theorem countBounded_run : ∀ (steps : List Step) {k : Nat} {t : ConnectionTracker},
    CountBounded k t → k + steps.length < 2 ^ 32 → CountBounded (k + steps.length) (t.run steps)
  | [], _, _, hb, _ => hb
  | x :: xs, k, _, hb, hk => by
    have hk' : k + 1 + xs.length < 2 ^ 32 := by simp only [List.length_cons] at hk; omega
    simpa [Nat.add_assoc, Nat.add_comm 1] using countBounded_run xs (hb.step (by omega) x) hk'

/-- With no caps, registrations from one ip count up modulo `2^32`. -/
theorem perIp_after_registrations (ip : String) : ∀ n : Nat,
    ((new 0 0).run (List.replicate (n + 1) (.tryRegister ip))).perIp.get ip =
      some (UInt32.ofNat (n + 1))
  | 0 => by simp [new, step, tryRegister, HMap.orInsert]
  | n + 1 => by
    rw [List.replicate_succ', run_append, run_cons, run_nil]
    obtain ⟨h1, h2⟩ := run_limits (List.replicate (n + 1) (.tryRegister ip)) (new 0 0)
    have hok := tryRegister_uncapped _ ip h1 h2
    simp only [step, (tryRegister_ok _ ip hok).1, HMap.get_insert, if_true,
      perIp_after_registrations ip n, Option.getD_some, Option.some.injEq, u32_ext_iff,
      u32_toNat_add, u32_toNat_ofNat, u32_toNat_one]
    omega

/-- The ips of the registrations still open after one more call. -/
def stepOpen (t : ConnectionTracker) (opened : List String) : Step → List String
  | .tryRegister ip =>
    match (t.tryRegister ip).1 with
    | .ok () => ip :: opened
    | .error () => opened
  | .unregister ip => opened.erase ip

/-- The call keeps the run paired: an `unregister` closes a registration still open, and fewer
than `2^32` are open after it. -/
def stepPaired (t : ConnectionTracker) (opened : List String) : Step → Bool
  | .tryRegister ip => (stepOpen t opened (.tryRegister ip)).length < 2 ^ 32
  | .unregister ip => ip ∈ opened

/-- The open registrations after a run. -/
def openAfter : ConnectionTracker → List String → List Step → List String
  | _, opened, [] => opened
  | t, opened, x :: xs => openAfter (t.step x) (stepOpen t opened x) xs

/-- Every call of the run keeps it paired (`stepPaired`). -/
def paired : ConnectionTracker → List String → List Step → Bool
  | _, _, [] => true
  | t, opened, x :: xs => stepPaired t opened x && paired (t.step x) (stepOpen t opened x) xs

/-- `total` and every entry count exactly the open registrations, and an ip with none open
has no entry. -/
def Counts (t : ConnectionTracker) (opened : List String) : Prop :=
  t.total.toNat = opened.length ∧ ∀ ip,
    (t.perIp.get ip).map UInt32.toNat = if opened.count ip = 0 then none else some (opened.count ip)

theorem counts_new (maxTotal maxPerIp : UInt32) : Counts (new maxTotal maxPerIp) [] := by
  simp [Counts, new]

section Counts

variable {t : ConnectionTracker} {opened : List String} (h : Counts t opened)
include h

/-- The count `try_register` reads for an ip (`or_insert(0)`) is the number of registrations
from it still open. -/
theorem Counts.getD_perIp (ip : String) : ((t.perIp.get ip).getD 0).toNat = opened.count ip := by
  have hc := h.2 ip
  cases hg : t.perIp.get ip <;> rw [hg] at hc <;> split at hc <;> simp_all

theorem Counts.tryRegister (ip : String)
    (hx : (stepOpen t opened (.tryRegister ip)).length < 2 ^ 32) :
    Counts (t.tryRegister ip).2 (stepOpen t opened (.tryRegister ip)) := by
  simp only [stepOpen] at hx ⊢
  split at hx
  · rename_i hr
    rw [(tryRegister_ok t ip hr).1]
    simp only [List.length_cons] at hx
    have hcl := List.count_le_length ip opened
    refine ⟨by simp [toNat_add_one (h.1 ▸ hx), h.1], fun q => ?_⟩
    simp only [HMap.get_insert]
    split
    · subst q
      have hn := h.getD_perIp ip
      have hb : ((t.perIp.get ip).getD 0).toNat + 1 < 2 ^ 32 := by omega
      simp [List.count_cons_self, toNat_add_one hb, hn]
    · simp [List.count_cons_of_ne ‹_›, h.2 q]
  · rename_i hr
    rw [tryRegister_error t ip hr]
    exact h

theorem Counts.unregister (ip : String) (hx : ip ∈ opened) :
    Counts (t.unregister ip) (opened.erase ip) := by
  obtain ⟨htot, hper⟩ := h
  have hpos := List.count_pos_iff.2 hx
  refine ⟨?_, fun q => ?_⟩
  · simp only [unregister_total, toNat_satSub_one, List.length_erase_of_mem hx, htot]
  · rw [get_unregister_perIp]
    split
    · subst q
      have hc := hper ip
      rw [if_neg (by omega)] at hc
      obtain ⟨n, hg, hn⟩ := Option.map_eq_some'.1 hc
      have h1 : (satSub n 1).toNat = opened.count ip - 1 := by rw [toNat_satSub_one, hn]
      simp only [hg, Option.some_bind, List.count_erase_self, u32_ext_iff, h1, UInt32.toNat_zero]
      split <;> simp_all
    · simp [List.count_erase_of_ne ‹_›, hper q]

theorem Counts.step (x : Step) (hx : stepPaired t opened x = true) :
    Counts (t.step x) (stepOpen t opened x) := by
  cases x with
  | tryRegister ip => exact h.tryRegister ip (by simpa [stepPaired] using hx)
  | unregister ip => exact h.unregister ip (by simpa [stepPaired] using hx)

end Counts

theorem counts_run : ∀ (steps : List Step) {t : ConnectionTracker} {opened : List String},
    Counts t opened → paired t opened steps = true →
      Counts (t.run steps) (openAfter t opened steps)
  | [], _, _, h, _ => h
  | x :: xs, _, _, h, hp => by
    simp only [paired, Bool.and_eq_true] at hp
    exact counts_run xs (h.step x hp.1) hp.2

/-- **Exact accounting.** On a run where every `unregister` closes a registration still open and
fewer than `2^32` are ever open, `total` is the number of open registrations, each ip's entry is
the number of them from that ip and is absent when that is `0`; so once all are closed the
tracker is empty. -/
theorem accounting_exact (maxTotal maxPerIp : UInt32) (steps : List Step)
    (hp : paired (new maxTotal maxPerIp) [] steps = true) :
    ((new maxTotal maxPerIp).run steps).total.toNat =
        (openAfter (new maxTotal maxPerIp) [] steps).length ∧
      (∀ ip, (((new maxTotal maxPerIp).run steps).perIp.get ip).map UInt32.toNat =
        if (openAfter (new maxTotal maxPerIp) [] steps).count ip = 0 then none
        else some ((openAfter (new maxTotal maxPerIp) [] steps).count ip)) ∧
      (openAfter (new maxTotal maxPerIp) [] steps = [] →
        ((new maxTotal maxPerIp).run steps).total = 0 ∧
          ∀ ip, ((new maxTotal maxPerIp).run steps).perIp.get ip = none) := by
  obtain ⟨htot, hper⟩ := counts_run steps (counts_new maxTotal maxPerIp) hp
  refine ⟨htot, hper, fun he => ⟨?_, fun ip => ?_⟩⟩
  · rw [he] at htot
    exact UInt32.toNat.inj htot
  · simpa [he] using hper ip

/-- Two registrations from one ip and one close leave one open, counted once. -/
theorem accounting_exact_two_opens_one_close :
    paired (new 0 0) [] [.tryRegister "a", .tryRegister "a", .unregister "a"] = true ∧
      ((new 0 0).run [.tryRegister "a", .tryRegister "a", .unregister "a"]).total.toNat =
        (openAfter (new 0 0) [] [.tryRegister "a", .tryRegister "a", .unregister "a"]).length :=
  ⟨by decide, (accounting_exact 0 0 _ (by decide)).1⟩

end ConnectionTracker

end Cordia.Security
