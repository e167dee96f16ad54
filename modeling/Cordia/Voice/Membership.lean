import Cordia.Voice.State
/-!
# Voice chat membership

`WellFormed`: every chat in `voice_chats` is non-empty and holds each user once. All three
methods keep it, so every reachable state has it (`voice_membership_invariant`).

Both removals key on the peer id, and a chat can hold one peer id twice, under two users (a
peer that joins again as another user after a `Hello` on a new socket). Then
`unregister_voice_peer` takes out only the first entry (`unregister_leaves_second_entry`), and
`handle_voice_disconnect` also takes out the entry of the other connection, without reporting it
(`disconnect_drops_other_connections_entry`). A second entry of one peer id is the only cause:
while no chat holds a peer id twice, both removals do what their comments say
(`removals_exact_of_uniquePeers`).
-/

namespace Cordia.Voice

open VoiceState

/-- Every chat is non-empty and holds each user at most once. -/
def WellFormed (vs : VoiceState) : Prop :=
  ∀ key peers, vs.voiceChats.get key = some peers → peers ≠ [] ∧ (peers.map (·.userId)).Nodup

theorem wellFormed_new : WellFormed new := by simp [WellFormed, new]

section Steps

variable {vs : VoiceState} (hw : WellFormed vs)
include hw

theorem WellFormed.registerVoicePeer (p : PeerId) (u : String) (s : ServerId) (ch : String)
    (c : ConnId) : WellFormed (vs.registerVoicePeer p u s ch c).1 := by
  intro key peers hk
  rw [get_registerVoicePeer] at hk
  split at hk
  · cases hk
    have hold : (((vs.voiceChats.get (s, ch)).getD []).map (·.userId)).Nodup := by
      cases h : vs.voiceChats.get (s, ch) with
      | none => simp
      | some old => simpa using (hw _ _ h).2
    refine ⟨by simp, ?_⟩
    rw [List.map_append, List.nodup_append]
    refine ⟨((List.filter_sublist _).map _).nodup hold, List.nodup_singleton _, ?_⟩
    simp [List.disjoint_singleton]
  · exact hw key peers hk

theorem WellFormed.unregisterVoicePeer (p : PeerId) (s : ServerId) (ch : String) :
    WellFormed (vs.unregisterVoicePeer p s ch).1 := by
  rcases unregisterVoicePeer_cases vs p s ch with ⟨peers, _, hget, he⟩ | ⟨-, he⟩
  · rw [he]
    intro key ps hk
    split at hk
    · exact hw key ps (HMap.get_remove_eq_some hk).2
    · rename_i hne
      simp only [HMap.get_insert] at hk
      split at hk
      · cases hk
        exact ⟨fun he => hne (List.isEmpty_iff.2 he),
          ((List.eraseP_sublist _).map _).nodup (hw _ _ hget).2⟩
      · exact hw key ps hk
  · rw [he]
    exact hw

theorem WellFormed.handleVoiceDisconnect (c : ConnId) :
    WellFormed (vs.handleVoiceDisconnect c).1 := by
  intro key ps hk
  rw [get_handleVoiceDisconnect] at hk
  cases h : vs.voiceChats.get key with
  | none => simp [h] at hk
  | some old =>
    rw [h, Option.map_some', Option.filter_some] at hk
    split at hk
    · rename_i hne
      cases hk
      exact ⟨fun he => by rw [he] at hne; simp at hne,
        ((List.filter_sublist _).map _).nodup (hw _ _ h).2⟩
    · cases hk

theorem WellFormed.step : ∀ x, WellFormed (vs.step x)
  | .register p u s ch c => hw.registerVoicePeer p u s ch c
  | .unregister p s ch => hw.unregisterVoicePeer p s ch
  | .disconnect c => hw.handleVoiceDisconnect c

end Steps

theorem wellFormed_run : ∀ (steps : List Step) {vs : VoiceState}, WellFormed vs →
    WellFormed (vs.run steps)
  | [], _, hw => hw
  | x :: xs, _, hw => wellFormed_run xs (hw.step x)

/-- **Voice membership.** In every reachable state each chat is non-empty and holds each user
once; and `register_voice_peer(p, u, s, ch, c)` leaves chat `(s, ch)` as its entries of other
users, in order, followed by `(p, u, c)`, and every other chat as it was. -/
theorem voice_membership_invariant (steps : List Step) :
    WellFormed (new.run steps) ∧
      ∀ p u s ch c key, ((new.run steps).registerVoicePeer p u s ch c).1.voiceChats.get key =
        if key = (s, ch) then
          some ((((new.run steps).voiceChats.get (s, ch)).getD []).filter (·.userId ≠ u) ++
            [⟨p, u, c⟩])
        else (new.run steps).voiceChats.get key :=
  ⟨wellFormed_run steps wellFormed_new, fun p u s ch c key => get_registerVoicePeer _ p u s ch c key⟩

/-! ## Removal by peer id -/

/-- One peer id in a chat under two users, from two connections. -/
def twoEntriesOnePeer : VoiceState :=
  new.run [.register "p" "u1" "s" "c" "c1", .register "p" "u2" "s" "c" "c2"]

/-- `unregister_voice_peer` takes out the first entry of the peer and leaves the second. -/
theorem unregister_leaves_second_entry :
    twoEntriesOnePeer.unregisterVoicePeer "p" "s" "c" =
      (⟨twoEntriesOnePeer.voiceChats.insert ("s", "c") [⟨"p", "u2", "c2"⟩]⟩, some "u1") := by
  decide

/-- The reference `handle_voice_disconnect` is compared with: every chat loses exactly its
entries on `connId`, in order, and the chats left empty go. -/
def VoiceState.disconnectByFilter (vs : VoiceState) (connId : ConnId) : VoiceState :=
  ⟨(vs.voiceChats.mapValues (·.filter (·.connId ≠ connId))).retain fun _ peers => !peers.isEmpty⟩

/-- Closing the second connection also takes out the first connection's entry, and reports
only its own. -/
theorem disconnect_drops_other_connections_entry :
    (twoEntriesOnePeer.handleVoiceDisconnect "c2").1.voiceChats.get ("s", "c") = none ∧
      (twoEntriesOnePeer.handleVoiceDisconnect "c2").2 = [("s", "c", "p", "u2")] ∧
      (twoEntriesOnePeer.disconnectByFilter "c2").voiceChats.get ("s", "c") =
        some [⟨"p", "u1", "c1"⟩] := by
  decide

/-! ## One entry per peer id -/

/-- No chat holds a peer id twice. -/
def UniquePeers (vs : VoiceState) : Prop :=
  ∀ e ∈ vs.voiceChats.entries, (e.2.map VoicePeer.peerId).Nodup

instance : DecidablePred UniquePeers := fun vs =>
  inferInstanceAs (Decidable (∀ e ∈ vs.voiceChats.entries, (e.2.map VoicePeer.peerId).Nodup))

theorem UniquePeers.get {vs : VoiceState} (h : UniquePeers vs) {key : ChatKey}
    {peers : List VoicePeer} (hk : vs.voiceChats.get key = some peers) :
    (peers.map (·.peerId)).Nodup :=
  h _ (HMap.get_eq_some_iff.1 hk)

/-- With one entry per peer id, erasing the peer's first entry erases all of them. -/
theorem peerId_ne_of_mem_eraseP {peers : List VoicePeer} (h : (peers.map (·.peerId)).Nodup)
    {p : PeerId} {q : VoicePeer} (hq : q ∈ peers.eraseP (·.peerId = p)) : q.peerId ≠ p := by
  intro hqp
  obtain ⟨a, l₁, l₂, h₁, ha, rfl, he⟩ :=
    List.exists_of_eraseP (p := fun x : VoicePeer => decide (x.peerId = p))
      (List.mem_of_mem_eraseP hq) (by simpa using hqp)
  rw [he] at hq
  simp only [List.map_append, List.map_cons, List.nodup_append, List.nodup_cons] at h
  simp only [decide_eq_true_eq] at ha
  rcases List.mem_append.1 hq with hq | hq
  · exact h₁ q hq (by simpa using hqp)
  · exact h.2.1.1 (ha ▸ hqp ▸ List.mem_map_of_mem _ hq)

/-- With one entry per peer id, the entries whose peer has an entry on `c` are the entries on
`c`. -/
theorem filter_peerId_eq_filter_connId {peers : List VoicePeer} (h : (peers.map (·.peerId)).Nodup)
    (c : ConnId) :
    peers.filter (fun q => q.peerId ∉ (peers.filter (·.connId = c)).map (·.peerId)) =
      peers.filter (·.connId ≠ c) := by
  refine List.filter_congr fun q hq => ?_
  simp only [List.mem_map, List.mem_filter, decide_eq_true_eq, not_exists, not_and, ne_eq,
    decide_eq_decide]
  exact ⟨fun hn hc => hn q ⟨hq, hc⟩ rfl,
    fun hc q' ⟨hq', hc'⟩ he => hc (List.inj_on_of_nodup_map h hq' hq he ▸ hc')⟩

/-- **With one entry per peer id, both removals do what their comments say.** Then
`unregister_voice_peer(p, s, ch)` leaves no entry of `p` in the chat, and
`handle_voice_disconnect(c)` takes out exactly the entries on `c`, as `disconnectByFilter` does. -/
theorem removals_exact_of_uniquePeers (vs : VoiceState) (h : UniquePeers vs) (p : PeerId)
    (s : ServerId) (ch : String) (c : ConnId) :
    (∀ peers, (vs.unregisterVoicePeer p s ch).1.voiceChats.get (s, ch) = some peers →
      ∀ q ∈ peers, q.peerId ≠ p) ∧
    ∀ key, (vs.handleVoiceDisconnect c).1.voiceChats.get key =
      (vs.disconnectByFilter c).voiceChats.get key := by
  refine ⟨fun peers' hk q hq => ?_, fun key => ?_⟩
  · rcases unregisterVoicePeer_cases vs p s ch with ⟨peers, _, hget, he⟩ | ⟨hf, he⟩
    · rw [he] at hk
      split at hk
      · simp at hk
      · simp only [HMap.get_insert, if_true, Option.some.injEq] at hk
        rw [← hk] at hq
        exact peerId_ne_of_mem_eraseP (h.get hget) hq
    · rw [he] at hk
      exact hf peers' hk q hq
  · rw [get_handleVoiceDisconnect, disconnectByFilter, HMap.get_retain, HMap.get_mapValues]
    cases hk : vs.voiceChats.get key with
    | none => rfl
    | some peers => simp only [Option.map_some', filter_peerId_eq_filter_connId (h.get hk)]

/-- Two peers in one chat from two connections. -/
theorem removals_exact_of_uniquePeers_two_peers :
    let vs : VoiceState :=
      new.run [.register "p" "u1" "s" "c" "c1", .register "q" "u2" "s" "c" "c2"]
    UniquePeers vs ∧ ∀ peers, (vs.unregisterVoicePeer "p" "s" "c").1.voiceChats.get ("s", "c") =
      some peers → ∀ q ∈ peers, q.peerId ≠ "p" :=
  ⟨by decide, (removals_exact_of_uniquePeers _ (by decide) "p" "s" "c" "c1").1⟩

end Cordia.Voice
