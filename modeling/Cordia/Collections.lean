import Mathlib.Data.List.Nodup
/-!
# `HashSet` and `HashMap`

Both are modelled by their contents in iteration order: an `HSet` is a duplicate-free list, an
`HMap` an association list with duplicate-free keys. Rust fixes no iteration order, so every
theorem of the development that reads one (`register_peer`'s returned peers, the pairs
`handle_voice_disconnect` reports) is stated up to order, by membership or by count.

`HMap.addMember` and `HMap.removeMember` are the two index-set idioms of `state/signaling.rs`:
`map.entry(k).or_insert_with(HashSet::new).insert(x)` (`:62-74`) and
`get_mut(k)`, `remove(x)`, `if is_empty() { map.remove(k) }` (`:87-101`).
-/

namespace Cordia

/-- `std::collections::HashSet`. -/
structure HSet (α : Type) where
  elems : List α
  nodup : elems.Nodup
deriving DecidableEq

namespace HSet

variable {α : Type}

instance : Membership α (HSet α) := ⟨fun s a => a ∈ s.elems⟩

theorem mem_def {s : HSet α} {a : α} : a ∈ s ↔ a ∈ s.elems := Iff.rfl

/-- `HashSet::new`. -/
def empty : HSet α := ⟨[], List.nodup_nil⟩

@[simp] theorem not_mem_empty (a : α) : a ∉ (empty : HSet α) := List.not_mem_nil a

/-- `HashSet::is_empty`. -/
def isEmpty (s : HSet α) : Bool := s.elems.isEmpty

theorem isEmpty_iff {s : HSet α} : s.isEmpty = true ↔ ∀ a, a ∉ s := by
  simp only [isEmpty, List.isEmpty_iff, mem_def, List.eq_nil_iff_forall_not_mem]

variable [DecidableEq α]

instance (a : α) (s : HSet α) : Decidable (a ∈ s) := inferInstanceAs (Decidable (a ∈ s.elems))

/-- `HashSet::insert`: nothing changes when `a` is already there. -/
def insert (s : HSet α) (a : α) : HSet α :=
  if h : a ∈ s.elems then s else ⟨a :: s.elems, List.nodup_cons.2 ⟨h, s.nodup⟩⟩

/-- `HashSet::remove`. -/
def remove (s : HSet α) (a : α) : HSet α := ⟨s.elems.erase a, s.nodup.erase a⟩

@[simp] theorem mem_insert {s : HSet α} {a b : α} : a ∈ s.insert b ↔ a = b ∨ a ∈ s := by
  unfold insert
  split
  · exact ⟨Or.inr, fun | .inl rfl => ‹_› | .inr h => h⟩
  · exact List.mem_cons

@[simp] theorem mem_remove {s : HSet α} {a b : α} : a ∈ s.remove b ↔ a ≠ b ∧ a ∈ s :=
  s.nodup.mem_erase_iff

@[simp] theorem mem_foldl_remove (a : α) : ∀ (bs : List α) (s : HSet α),
    a ∈ bs.foldl remove s ↔ a ∈ s ∧ a ∉ bs
  | [], _ => by simp
  | b :: bs, s => by simp only [List.foldl_cons, mem_foldl_remove a bs, mem_remove, List.mem_cons]; tauto

theorem insert_not_isEmpty (s : HSet α) (a : α) : (s.insert a).isEmpty = false := by
  cases h : (s.insert a).isEmpty
  · rfl
  · exact absurd (mem_insert.2 (.inl rfl)) (isEmpty_iff.1 h a)

end HSet

/-- `std::collections::HashMap`. -/
structure HMap (κ ν : Type) where
  entries : List (κ × ν)
  nodup : (entries.map Prod.fst).Nodup
deriving DecidableEq

namespace HMap

variable {κ ν : Type}

/-- `HashMap::new`. -/
def empty : HMap κ ν := ⟨[], List.nodup_nil⟩

/-! ## `for (k, v) in map.iter_mut()` -/

section IterMut

variable {σ : Type} (f : σ → κ → ν → σ × ν)

/-- The loop over the entries: `f` rewrites each value in place and threads an accumulator. -/
def iterMutList : σ → List (κ × ν) → σ × List (κ × ν)
  | acc, [] => (acc, [])
  | acc, (k, v) :: es =>
    let (acc, v) := f acc k v
    let (acc, es) := iterMutList acc es
    (acc, (k, v) :: es)

theorem iterMutList_keys : ∀ (acc : σ) (l : List (κ × ν)),
    (iterMutList f acc l).2.map Prod.fst = l.map Prod.fst
  | _, [] => rfl
  | acc, (k, v) :: es => by simp [iterMutList, iterMutList_keys _ es]

/-- `for (k, v) in map.iter_mut() { .. }` with an accumulator. -/
def iterMut (acc : σ) (m : HMap κ ν) : σ × HMap κ ν :=
  ((iterMutList f acc m.entries).1,
    ⟨(iterMutList f acc m.entries).2, by rw [iterMutList_keys]; exact m.nodup⟩)

theorem iterMutList_fst : ∀ (acc : σ) (l : List (κ × ν)),
    (iterMutList f acc l).1 = l.foldl (fun s e => (f s e.1 e.2).1) acc
  | _, [] => rfl
  | acc, (k, v) :: es => by simp [iterMutList, iterMutList_fst _ es]

/-- The value the loop leaves at a key, when the body's new value ignores the accumulator. -/
theorem iterMutList_snd (g : κ → ν → ν) (hg : ∀ s k v, (f s k v).2 = g k v) :
    ∀ (acc : σ) (l : List (κ × ν)), (iterMutList f acc l).2 = l.map (fun e => (e.1, g e.1 e.2))
  | _, [] => rfl
  | acc, (k, v) :: es => by simp [iterMutList, hg, iterMutList_snd g hg _ es]

end IterMut

variable [DecidableEq κ]

/-- `HashMap::get`. -/
def get (m : HMap κ ν) (k : κ) : Option ν := (m.entries.find? (·.1 = k)).map (·.2)

/-- `HashMap::remove`. -/
def remove (m : HMap κ ν) (k : κ) : HMap κ ν :=
  ⟨m.entries.filter (·.1 ≠ k), ((List.filter_sublist _).map _).nodup m.nodup⟩

/-- `HashMap::insert`. -/
def insert (m : HMap κ ν) (k : κ) (v : ν) : HMap κ ν :=
  ⟨(k, v) :: (m.remove k).entries,
    List.nodup_cons.2 ⟨by simp [remove], (m.remove k).nodup⟩⟩

/-- `*map.entry(k).or_insert(d)`: the value at `k`, and the map with `d` put there when `k` was
absent. -/
def orInsert (m : HMap κ ν) (k : κ) (d : ν) : ν × HMap κ ν :=
  match m.get k with
  | some v => (v, m)
  | none => (d, m.insert k d)

/-- Every value replaced by its image under `f`, the keys kept. -/
def mapValues {ν' : Type} (f : ν → ν') (m : HMap κ ν) : HMap κ ν' :=
  ⟨m.entries.map fun e => (e.1, f e.2), by simpa [Function.comp_def] using m.nodup⟩

/-- `HashMap::retain`. -/
def retain (p : κ → ν → Bool) (m : HMap κ ν) : HMap κ ν :=
  ⟨m.entries.filter (fun e => p e.1 e.2), ((List.filter_sublist _).map _).nodup m.nodup⟩

@[simp] theorem get_empty (k : κ) : (empty : HMap κ ν).get k = none := rfl

theorem find?_filter_ne (l : List (κ × ν)) {k k' : κ} (h : k' ≠ k) :
    (l.filter (·.1 ≠ k)).find? (·.1 = k') = l.find? (·.1 = k') := by
  rw [List.find?_filter]
  congr 1
  funext e
  by_cases he : e.1 = k' <;> simp [he, h]

@[simp] theorem get_remove (m : HMap κ ν) (k k' : κ) :
    (m.remove k).get k' = if k' = k then none else m.get k' := by
  split
  · subst k'
    simp [get, remove, List.find?_eq_none]
  · simp only [get, remove, find?_filter_ne _ ‹_›]

theorem get_remove_eq_some {m : HMap κ ν} {k k' : κ} {v : ν} (h : (m.remove k).get k' = some v) :
    k' ≠ k ∧ m.get k' = some v := by
  rw [get_remove] at h
  split at h
  · cases h
  · exact ⟨‹_›, h⟩

@[simp] theorem get_insert (m : HMap κ ν) (k k' : κ) (v : ν) :
    (m.insert k v).get k' = if k' = k then some v else m.get k' := by
  by_cases h : k = k'
  · subst h; simp [get, insert]
  · have := get_remove m k k'
    simp only [get, insert, remove, List.find?_cons, decide_eq_true_eq, h, Ne.symm h] at this ⊢
    simpa using this

@[simp] theorem get_mapValues {ν' : Type} (f : ν → ν') (m : HMap κ ν) (k : κ) :
    (m.mapValues f).get k = (m.get k).map f := by
  simp [get, mapValues, List.find?_map, Function.comp_def]

@[simp] theorem insert_insert (m : HMap κ ν) (k : κ) (v w : ν) :
    (m.insert k v).insert k w = m.insert k w := by
  simp [insert, remove, List.filter_filter]

/-- `entry(k).or_insert(d)` reads what `get(k).unwrap_or(d)` reads. -/
theorem orInsert_fst (m : HMap κ ν) (k : κ) (d : ν) : (m.orInsert k d).1 = (m.get k).getD d := by
  unfold orInsert; split <;> simp_all

theorem get_eq_some_iff {m : HMap κ ν} {k : κ} {v : ν} :
    m.get k = some v ↔ (k, v) ∈ m.entries := by
  obtain ⟨l, hl⟩ := m
  simp only [get]
  induction l with
  | nil => simp
  | cons e l ih =>
    obtain ⟨k₀, v₀⟩ := e
    simp only [List.map_cons, List.nodup_cons, List.mem_map] at hl
    by_cases hk : k₀ = k
    · subst hk
      have : ∀ v', (k₀, v') ∉ l := fun v' h => hl.1 ⟨_, h, rfl⟩
      simp [this, eq_comm]
    · simp [hk, ih hl.2, Ne.symm hk]

@[simp] theorem get_retain (p : κ → ν → Bool) (m : HMap κ ν) (k : κ) :
    (m.retain p).get k = (m.get k).filter (p k) := by
  ext v
  simp only [Option.mem_def, Option.filter_eq_some, get_eq_some_iff, retain, List.mem_filter]

omit [DecidableEq κ] in
theorem iterMut_snd_eq {σ : Type} (f : σ → κ → ν → σ × ν) (g : κ → ν → ν)
    (hg : ∀ s k v, (f s k v).2 = g k v) (acc : σ) (m : HMap κ ν) :
    (iterMut f acc m).2.entries = m.entries.map (fun e => (e.1, g e.1 e.2)) :=
  iterMutList_snd f g hg acc m.entries

theorem get_iterMut {σ : Type} (f : σ → κ → ν → σ × ν) (g : κ → ν → ν)
    (hg : ∀ s k v, (f s k v).2 = g k v) (acc : σ) (m : HMap κ ν) (k : κ) :
    (iterMut f acc m).2.get k = (m.get k).map (g k) := by
  cases h : m.get k with
  | none =>
    simp only [get, iterMut_snd_eq f g hg, Option.map_eq_none', List.find?_eq_none,
      List.mem_map, decide_eq_true_eq, Option.map_none'] at h ⊢
    rintro _ ⟨e, he, rfl⟩
    exact h e he
  | some v =>
    apply get_eq_some_iff.2
    simp only [iterMut_snd_eq f g hg, List.mem_map, Prod.mk.injEq, Option.map_some']
    exact ⟨(k, v), get_eq_some_iff.1 h, rfl, rfl⟩

/-! ## Maps of index sets -/

variable {α : Type}

/-- The members of the set stored at `k`; an absent key holds none. -/
def members (m : HMap κ (HSet α)) (k : κ) : List α := ((m.get k).map HSet.elems).getD []

/-- No key holds an empty set. -/
def NoEmpty (m : HMap κ (HSet α)) : Prop := ∀ k s, m.get k = some s → s.isEmpty = false

theorem mem_members {m : HMap κ (HSet α)} {k : κ} {a : α} :
    a ∈ m.members k ↔ ∃ s, m.get k = some s ∧ a ∈ s := by
  unfold members
  cases m.get k <;> simp [HSet.mem_def]

@[simp] theorem members_empty (k : κ) : (empty : HMap κ (HSet α)).members k = [] := rfl

theorem NoEmpty.empty : NoEmpty (empty : HMap κ (HSet α)) := by simp [NoEmpty]

theorem NoEmpty.remove {m : HMap κ (HSet α)} (h : m.NoEmpty) (k : κ) :
    (m.remove k).NoEmpty := by
  intro k' s hs
  exact h k' s (get_remove_eq_some hs).2

variable [DecidableEq α]

/-- `m.entry(k).or_insert_with(HashSet::new).insert(a)`. -/
def addMember (m : HMap κ (HSet α)) (k : κ) (a : α) : HMap κ (HSet α) :=
  m.insert k (((m.get k).getD HSet.empty).insert a)

/-- `if let Some(set) = m.get_mut(k) { set.remove(a); if set.is_empty() { m.remove(k); } }`. -/
def removeMember (m : HMap κ (HSet α)) (k : κ) (a : α) : HMap κ (HSet α) :=
  match m.get k with
  | none => m
  | some s => if (s.remove a).isEmpty then m.remove k else m.insert k (s.remove a)

@[simp] theorem mem_members_addMember {m : HMap κ (HSet α)} {k k' : κ} {a b : α} :
    b ∈ (m.addMember k a).members k' ↔ (k' = k ∧ b = a) ∨ b ∈ m.members k' := by
  simp only [mem_members, addMember, get_insert]
  by_cases h : k' = k
  · subst h
    cases m.get k' <;> simp [HSet.mem_insert]
  · simp [h]

theorem get_removeMember (m : HMap κ (HSet α)) (k k' : κ) (a : α) :
    (m.removeMember k a).get k' =
      if k' = k then ((m.get k).map (·.remove a)).filter (fun s => !s.isEmpty) else m.get k' := by
  unfold removeMember
  cases hk : m.get k with
  | none => by_cases h : k' = k <;> simp [h, hk]
  | some s =>
    by_cases he : (s.remove a).isEmpty <;> by_cases h : k' = k <;> simp [he, h, hk, Option.filter]

@[simp] theorem mem_members_removeMember {m : HMap κ (HSet α)} {k k' : κ} {a b : α} :
    b ∈ (m.removeMember k a).members k' ↔ b ∈ m.members k' ∧ ¬(k' = k ∧ b = a) := by
  simp only [mem_members, get_removeMember]
  by_cases h : k' = k
  · subst h
    cases m.get k' with
    | none => simp
    | some s =>
      by_cases he : (s.remove a).isEmpty
      · have := HSet.isEmpty_iff.1 he b
        simp only [HSet.mem_remove] at this
        simp [he, Option.filter]
        tauto
      · simp [he, Option.filter, and_comm]
  · simp [h]

theorem NoEmpty.addMember {m : HMap κ (HSet α)} (h : m.NoEmpty) (k : κ) (a : α) :
    (m.addMember k a).NoEmpty := by
  intro k' s hs
  simp only [HMap.addMember, get_insert] at hs
  split at hs
  · cases hs; exact HSet.insert_not_isEmpty _ _
  · exact h k' s hs

theorem NoEmpty.removeMember {m : HMap κ (HSet α)} (h : m.NoEmpty) (k : κ) (a : α) :
    (m.removeMember k a).NoEmpty := by
  intro k' s hs
  rw [get_removeMember] at hs
  split at hs
  · cases hk : m.get k with
    | none => simp [hk] at hs
    | some s₀ =>
      by_cases he : (s₀.remove a).isEmpty <;> simp [hk, he, Option.filter] at hs
      subst hs
      simpa using he
  · exact h k' s hs

end HMap

end Cordia
