import Cordia.Signaling.State
import Cordia.Trace
/-!
# Index consistency (spec invariant S1)

S1 asks two things of the index sets: every registered peer is in the sets its record names
(`Indexed`), and every member of a set is registered with the key of that set (`Exact`).

`Indexed` and the absence of empty sets hold in every reachable state (`indexed_run`). `Exact`
does not: `register_peer` overwrites `peers[p]` and never takes `p` out of the sets of its previous
record, so a peer that says `Hello` twice under different servers or keys stays in the old sets
(`reregister_leaves_stale_sets`). It holds on runs where `Hello` only names peers that are not
registered (`s1_of_freshRun`). So the stale entries come from re-registration alone, and on fresh
runs a hint under `k` reaches exactly the peers registered with `k` (`broadcast_exact_of_freshRun`);
on every run it reaches each of them once (`broadcast_reaches_every_subscriber`).
-/

namespace Cordia.Signaling

open SignalingState

/-- The half of S1 that every reachable state keeps: each registered peer is in the sets its
record names, and no set is empty. The `conn_peers` part is relaxed for the peers in `pending`,
those a socket-close walk has still to unregister. -/
structure Indexed (pending : List PeerId) (st : SignalingState) : Prop where
  server_mem : ∀ q pc, st.peers.get q = some pc → q ∈ st.servers.members pc.serverId
  signing_mem : ∀ q pc spk, st.peers.get q = some pc → pc.signingPubkey = some spk →
    q ∈ st.signingServers.members spk
  conn_mem : ∀ q pc, st.peers.get q = some pc →
    q ∈ pending ∨ q ∈ st.connPeers.members pc.connId
  sender_bound : ∀ q pc, st.peers.get q = some pc → st.peerSenders.get q = some pc.connId
  servers_noEmpty : st.servers.NoEmpty
  signing_noEmpty : st.signingServers.NoEmpty
  conn_noEmpty : st.connPeers.NoEmpty

/-- The other half of S1: each member of a server's or a signing key's set is registered with
that server or key. -/
structure Exact (st : SignalingState) : Prop where
  server_exact : ∀ q s, q ∈ st.servers.members s →
    ∃ pc, st.peers.get q = some pc ∧ pc.serverId = s
  signing_exact : ∀ q spk, q ∈ st.signingServers.members spk →
    ∃ pc, st.peers.get q = some pc ∧ pc.signingPubkey = some spk

theorem indexed_new : Indexed [] new :=
  ⟨by simp [new], by simp [new], by simp [new], by simp [new], .empty, .empty, .empty⟩

/-! ## One lemma per step -/

section Steps

variable {l : List PeerId} {st : SignalingState}

theorem Indexed.hello (hi : Indexed l st) (p : PeerId) (s : ServerId) (k : Option SigningPubkey)
    (c : ConnId) : Indexed l (st.step (.hello p s k c)) := by
  simp only [SignalingState.step]
  refine ⟨fun q pc hq => ?_, fun q pc spk hq hk => ?_, fun q pc hq => ?_, fun q pc hq => ?_, ?_, ?_,
    ?_⟩
  · rcases (get_registerPeer_peers_eq_some st p q s k c).1 hq with ⟨rfl, rfl⟩ | ⟨-, hq⟩
    · simp
    · simp [hi.server_mem q pc hq]
  · rcases (get_registerPeer_peers_eq_some st p q s k c).1 hq with ⟨rfl, rfl⟩ | ⟨-, hq⟩
    · simp_all
    · simp [hi.signing_mem q pc spk hq hk]
  · rcases (get_registerPeer_peers_eq_some st p q s k c).1 hq with ⟨rfl, rfl⟩ | ⟨-, hq⟩
    · simp
    · simpa using (hi.conn_mem q pc hq).imp_right .inr
  · rcases (get_registerPeer_peers_eq_some st p q s k c).1 hq with ⟨rfl, rfl⟩ | ⟨hqp, hq⟩
    · simp
    · simp [hqp, hi.sender_bound q pc hq]
  · exact hi.servers_noEmpty.addMember _ _
  · cases k
    · exact hi.signing_noEmpty
    · exact hi.signing_noEmpty.addMember _ _
  · exact hi.conn_noEmpty.addMember _ _

theorem Indexed.unregisterPeer (hi : Indexed l st) (p : PeerId) :
    Indexed (l.erase p) (st.unregisterPeer p) := by
  cases h : st.peers.get p with
  | none =>
    rw [unregisterPeer_of_none st p h]
    refine ⟨hi.server_mem, hi.signing_mem, fun q pc hq => ?_, fun q pc hq => ?_, hi.servers_noEmpty,
      hi.signing_noEmpty, hi.conn_noEmpty⟩ <;>
      have hqp : q ≠ p := by rintro rfl; simp [h] at hq
    · exact (hi.conn_mem q pc hq).imp_left (List.mem_erase_of_ne hqp).2
    · simp [hqp, hi.sender_bound q pc hq]
  | some pc₀ =>
    rw [unregisterPeer_of_some st p h]
    refine ⟨fun q pc hq => ?_, fun q pc spk hq hk => ?_, fun q pc hq => ?_, fun q pc hq => ?_,
      hi.servers_noEmpty.removeMember _ _, ?_, hi.conn_noEmpty⟩
    · obtain ⟨hqp, hq⟩ := HMap.get_remove_eq_some hq
      exact HMap.mem_members_removeMember.2 ⟨hi.server_mem q pc hq, fun h' => hqp h'.2⟩
    · obtain ⟨hqp, hq⟩ := HMap.get_remove_eq_some hq
      have := hi.signing_mem q pc spk hq hk
      cases pc₀.signingPubkey <;> simp [this, hqp]
    · obtain ⟨hqp, hq⟩ := HMap.get_remove_eq_some hq
      exact (hi.conn_mem q pc hq).imp_left (List.mem_erase_of_ne hqp).2
    · obtain ⟨hqp, hq⟩ := HMap.get_remove_eq_some hq
      simp [hqp, hi.sender_bound q pc hq]
    · cases pc₀.signingPubkey
      · exact hi.signing_noEmpty
      · exact hi.signing_noEmpty.removeMember _ _

/-- A socket-close walk owes nothing once it has unregistered every peer it took. -/
theorem Indexed.foldl_unregisterPeer : ∀ {l : List PeerId} {st : SignalingState},
    Indexed l st → Indexed [] (l.foldl SignalingState.unregisterPeer st)
  | [], _, hi => hi
  | p :: l, _, hi => by
    have := hi.unregisterPeer p
    rw [List.erase_cons_head] at this
    rw [List.foldl_cons]
    exact Indexed.foldl_unregisterPeer this

theorem Indexed.close (hi : Indexed [] st) (c : ConnId) : Indexed [] (st.step (.close c)) := by
  simp only [SignalingState.step, closeConnection]
  split
  · exact hi
  · rename_i ps hps
    refine Indexed.foldl_unregisterPeer ⟨hi.server_mem, hi.signing_mem, fun q pc hq => ?_,
      hi.sender_bound, hi.servers_noEmpty, hi.signing_noEmpty, hi.conn_noEmpty.remove c⟩
    have h := (hi.conn_mem q pc hq).resolve_left (List.not_mem_nil q)
    by_cases hc : pc.connId = c
    · subst hc
      obtain ⟨s', hs', hq'⟩ := HMap.mem_members.1 h
      rw [hps] at hs'
      cases hs'
      exact .inl hq'
    · exact .inr (by simpa [HMap.mem_members, hc] using h)

theorem Indexed.step (hi : Indexed [] st) : ∀ x, Indexed [] (st.step x)
  | .hello p s k c => hi.hello p s k c
  | .goodbye p => by simpa using hi.unregisterPeer p
  | .close c => hi.close c

end Steps

/-- Every state the handler can reach keeps the half of S1 that `Indexed` states. -/
theorem indexed_run : ∀ (steps : List Step) {st : SignalingState}, Indexed [] st →
    Indexed [] (st.run steps)
  | [], _, hi => hi
  | x :: xs, _, hi => indexed_run xs (hi.step x)

/-- After the walk for `c`, no registered peer is bound to `c`. -/
theorem Indexed.close_unbinds {st : SignalingState} (hi : Indexed [] st) (c : ConnId) (q : PeerId)
    (pc : PeerConnection) (hq : (st.step (.close c)).peers.get q = some pc) : pc.connId ≠ c := by
  rintro rfl
  simp only [SignalingState.step, closeConnection] at hq
  split at hq
  · obtain ⟨_, hs, -⟩ :=
      HMap.mem_members.1 ((hi.conn_mem q pc hq).resolve_left (List.not_mem_nil q))
    simp_all
  · rename_i ps hps
    rw [get_foldl_unregisterPeer_peers] at hq
    split at hq
    · cases hq
    · obtain ⟨s', hs', hq'⟩ :=
        HMap.mem_members.1 ((hi.conn_mem q pc hq).resolve_left (List.not_mem_nil q))
      rw [hps] at hs'
      cases hs'
      exact ‹q ∉ _› hq'

/-! ## Fresh runs keep S1 exact -/

/-- The step does not re-register a registered peer. -/
def SignalingState.Step.fresh (st : SignalingState) : Step → Bool
  | .hello p .. => (st.peers.get p).isNone
  | _ => true

/-- Every `Hello` of the run names a peer that is not registered when it comes. -/
def freshRun (st : SignalingState) : List Step → Bool
  | [] => true
  | x :: xs => x.fresh st && freshRun (st.step x) xs

theorem exact_new : Exact new := ⟨by simp [new], by simp [new]⟩

section Fresh

variable {st : SignalingState}

theorem Exact.hello (he : Exact st) {p : PeerId} (hp : st.peers.get p = none) (s : ServerId)
    (k : Option SigningPubkey) (c : ConnId) : Exact (st.step (.hello p s k c)) := by
  simp only [SignalingState.step]
  refine ⟨fun q s' hq => ?_, fun q spk hq => ?_⟩
  · simp only [registerPeer_servers, HMap.mem_members_addMember] at hq
    rcases hq with ⟨rfl, rfl⟩ | hq
    · simp
    · obtain ⟨pc, hpc, rfl⟩ := he.server_exact q s' hq
      have hqp : q ≠ p := by rintro rfl; simp [hp] at hpc
      simp [hqp, hpc]
  · simp only [mem_members_registerPeer_signingServers] at hq
    rcases hq with ⟨rfl, rfl⟩ | hq
    · simp
    · obtain ⟨pc, hpc, hk⟩ := he.signing_exact q spk hq
      have hqp : q ≠ p := by rintro rfl; simp [hp] at hpc
      simp [hqp, hpc, hk]

theorem Exact.unregisterPeer (he : Exact st) (p : PeerId) : Exact (st.unregisterPeer p) := by
  refine ⟨fun q s hq => ?_, fun q spk hq => ?_⟩
  · simp only [mem_members_unregisterPeer_servers] at hq
    obtain ⟨pc, hpc, rfl⟩ := he.server_exact q s hq.1
    have hqp : q ≠ p := by rintro rfl; exact hq.2 ⟨rfl, pc, hpc, rfl⟩
    exact ⟨pc, by simp [hqp, hpc], rfl⟩
  · simp only [mem_members_unregisterPeer_signingServers] at hq
    obtain ⟨pc, hpc, hk⟩ := he.signing_exact q spk hq.1
    have hqp : q ≠ p := by rintro rfl; exact hq.2 ⟨rfl, pc, hpc, hk⟩
    exact ⟨pc, by simp [hqp, hpc], hk⟩

theorem Exact.foldl_unregisterPeer : ∀ (l : List PeerId) {st : SignalingState}, Exact st →
    Exact (l.foldl SignalingState.unregisterPeer st)
  | [], _, he => he
  | p :: l, _, he => Exact.foldl_unregisterPeer l (he.unregisterPeer p)

theorem Exact.close (he : Exact st) (c : ConnId) : Exact (st.step (.close c)) := by
  simp only [SignalingState.step, closeConnection]
  split
  · exact he
  · exact Exact.foldl_unregisterPeer _ ⟨he.server_exact, he.signing_exact⟩

/-- A step keeps `Exact` unless it re-registers a registered peer. -/
theorem Exact.step (he : Exact st) : ∀ x : Step, x.fresh st → Exact (st.step x)
  | .hello _ s k c, hf => he.hello (Option.isNone_iff_eq_none.1 hf) s k c
  | .goodbye p, _ => he.unregisterPeer p
  | .close c, _ => he.close c

theorem Exact.run : ∀ (steps : List Step) {st : SignalingState}, freshRun st steps → Exact st →
    Exact (st.run steps)
  | [], _, _, he => he
  | x :: xs, _, hf, he => by
    simp only [freshRun, Bool.and_eq_true] at hf
    exact Exact.run xs hf.2 (Exact.step he x hf.1)

end Fresh

/-- **S1 on fresh runs.** When no `Hello` re-registers a registered peer, every state keeps S1
for the server and signing-key sets both ways: each registered peer is in the sets its record
names, and each member of a set is registered with that set's server or key. -/
theorem s1_of_freshRun (steps : List Step) (h : freshRun new steps) :
    Indexed [] (new.run steps) ∧ Exact (new.run steps) :=
  ⟨indexed_run steps indexed_new, Exact.run steps h exact_new⟩

/-- A peer that says `Goodbye` and then `Hello` under another server is a fresh run. -/
theorem s1_of_freshRun_after_goodbye :
    freshRun new [.hello "p" "s1" (some "k") "c1", .goodbye "p", .hello "p" "s2" none "c2"] ∧
      Indexed [] (new.run [.hello "p" "s1" (some "k") "c1", .goodbye "p", .hello "p" "s2" none "c2"]) ∧
      Exact (new.run [.hello "p" "s1" (some "k") "c1", .goodbye "p", .hello "p" "s2" none "c2"]) :=
  ⟨by decide, s1_of_freshRun _ (by decide)⟩

/-! ## Who hears a hint -/

/-- **Every subscriber hears a hint once.** In every reachable state, a broadcast under `k` sends
at most one frame per peer, and sends one to each registered peer whose key is `k`, on the sender
of the peer's own connection. -/
theorem broadcast_reaches_every_subscriber {Hint : Type} (steps : List Step) (k : SigningPubkey)
    (hint : Hint) (p : PeerId) (pc : PeerConnection) :
    let st : SignalingState := new.run steps
    ((st.broadcastServerHintUpdated k hint).map (·.1)).Nodup ∧
      (st.peers.get p = some pc ∧ pc.signingPubkey = some k →
        (p, pc.connId, ⟨k, hint⟩) ∈ st.broadcastServerHintUpdated k hint) := by
  have hi := indexed_run steps indexed_new
  refine ⟨broadcastServerHintUpdated_nodup _ _ _, fun ⟨hp, hk⟩ => ?_⟩
  exact (mem_broadcastServerHintUpdated _ _ _ _).2
    ⟨hi.signing_mem p pc k hp hk, hi.sender_bound p pc hp, rfl⟩

/-- **Only subscribers hear a hint, on fresh runs.** When no `Hello` re-registers a registered
peer, a broadcast under `k` sends exactly one frame to each registered peer whose key is `k`, on
the sender of its own connection, and nothing else. -/
theorem broadcast_exact_of_freshRun {Hint : Type} (steps : List Step) (h : freshRun new steps)
    (k : SigningPubkey) (hint : Hint) (x : PeerId × WebSocketSender × ServerHintUpdated Hint) :
    x ∈ (new.run steps).broadcastServerHintUpdated k hint ↔
      ∃ pc, (new.run steps).peers.get x.1 = some pc ∧ pc.signingPubkey = some k ∧
        x.2 = (pc.connId, ⟨k, hint⟩) := by
  have hi := indexed_run steps indexed_new
  have he := Exact.run steps h exact_new
  rw [mem_broadcastServerHintUpdated]
  constructor
  · rintro ⟨hm, hs, hm'⟩
    obtain ⟨pc, hp, hk⟩ := he.signing_exact _ _ hm
    rw [hi.sender_bound _ pc hp] at hs
    exact ⟨pc, hp, hk, Prod.ext (Option.some.inj hs).symm hm'⟩
  · rintro ⟨pc, hp, hk, hx⟩
    exact ⟨hi.signing_mem _ pc k hp hk, by rw [hi.sender_bound _ pc hp, hx], by rw [hx]⟩

/-- The run of `close_of_old_socket_unbinds_peer`, where the hint reaches the peer once. -/
theorem broadcast_exact_after_goodbye :
    freshRun new [.hello "p" "s" (some "k") "c1", .goodbye "p", .hello "p" "s" (some "k") "c2"] ∧
      (("p", "c2", ⟨"k", ()⟩) ∈ (new.run [.hello "p" "s" (some "k") "c1", .goodbye "p",
        .hello "p" "s" (some "k") "c2"]).broadcastServerHintUpdated "k" () ↔
      ∃ pc, (new.run [.hello "p" "s" (some "k") "c1", .goodbye "p",
        .hello "p" "s" (some "k") "c2"]).peers.get "p" = some pc ∧ pc.signingPubkey = some "k" ∧
          ("c2", (⟨"k", ()⟩ : ServerHintUpdated Unit)) = (pc.connId, ⟨"k", ()⟩)) :=
  ⟨by decide, broadcast_exact_of_freshRun _ (by decide) "k" () ("p", "c2", ⟨"k", ()⟩)⟩

/-! ## Runs that break S1 and the identity binding -/

/-- Two `Hello`s of one peer under two servers and keys, then the close of its socket: no peer
is registered and no connection holds one, yet the first server's and key's sets keep the peer. -/
theorem reregister_leaves_stale_sets :
    let st : SignalingState :=
      new.run [.hello "p" "s1" (some "k1") "c", .hello "p" "s2" (some "k2") "c", .close "c"]
    st.peers.entries = [] ∧ st.connPeers.entries = [] ∧
      st.servers.members "s1" = ["p"] ∧ st.signingServers.members "k1" = ["p"] := by
  dsimp only
  decide

/-- A peer that re-subscribes under another key still gets the old key's hints. -/
theorem broadcast_reaches_resubscribed_peer :
    let st : SignalingState := new.run [.hello "p" "s" (some "k1") "c", .hello "p" "s" (some "k2") "c"]
    st.peers.get "p" = some ⟨"p", "s", some "k2", "c"⟩ ∧
      st.broadcastServerHintUpdated "k1" () = [("p", "c", ⟨"k1", ()⟩)] := by
  dsimp only
  decide

/-- `Goodbye` leaves the peer in `conn_peers` of its first socket; after the peer says `Hello` on
a second socket, closing the first one unregisters it there too. -/
theorem close_of_old_socket_unbinds_peer :
    let steps : List Step := [.hello "p" "s" none "c1", .goodbye "p", .hello "p" "s" none "c2"]
    (new.run steps).validatePeerConnection "p" "c2" = true ∧
      (new.run (steps ++ [.close "c1"])).validatePeerConnection "p" "c2" = false := by
  dsimp only
  decide

end Cordia.Signaling
