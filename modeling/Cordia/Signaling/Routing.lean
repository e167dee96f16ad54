import Cordia.Signaling.Index
/-!
# Signal forwarding and the peers of `Welcome` (spec §4.4)

The message handler is not under `src/`. `routeSignal` takes the `Offer`/`Answer`/`Ice` row of
the spec's table: a message that arrives on `conn_id` is forwarded on `peer_senders[to]` when
`validate_peer_connection(from, conn_id)` holds and `to` is registered in the server of `from`. In
every other case it is dropped.

The pre-check reads `peers`, but the frame goes on the sender that `peer_senders` holds, which is
a separate map. In every reachable state the two agree (`Indexed.sender_bound`), and `route_exact`
uses that. A signal sent on `c` is forwarded iff its source is registered on `c` and its
destination is registered in the same server, and then it goes on the destination's own
connection. This is the isolation of scenarios S-B and S-C, for every run. After a socket closes,
nothing sent on it is forwarded (`closed_connection_forwards_nothing`).

The `Welcome` that answers a `Hello` lists the peers `register_peer` returns. In every reachable
state it names each other peer registered in the server (`welcome_lists_server_peers`). Only on
runs without re-registration does it name only those, as `reregister_leaves_stale_sets` shows.
-/

namespace Cordia.Signaling

open SignalingState

/-- Modelled from the spec: the `Offer`/`Answer`/`Ice{from, to, payload}` branch of the message
handler (§4.4). The payload is forwarded unchanged, so only the sender it goes on is returned;
`none` is the silent drop. -/
def SignalingState.routeSignal (st : SignalingState) (connId : ConnId) (fromPeer toPeer : PeerId) :
    Option WebSocketSender :=
  if st.validatePeerConnection fromPeer connId && (st.peers.get toPeer).isSome &&
      decide (st.getServer toPeer = st.getServer fromPeer) then
    st.peerSenders.get toPeer
  else none

section Route

variable {st : SignalingState}

theorem validatePeerConnection_iff {p : PeerId} {c : ConnId} :
    st.validatePeerConnection p c = true ↔ ∃ pc, st.peers.get p = some pc ∧ pc.connId = c := by
  unfold validatePeerConnection
  split <;> simp_all

/-- The forwarding decision in a state whose senders agree with `peers`. -/
theorem Indexed.routeSignal_eq_some {l : List PeerId} (hi : Indexed l st) (c : ConnId)
    (p q : PeerId) (s : WebSocketSender) :
    st.routeSignal c p q = some s ↔
      ∃ pp pq, st.peers.get p = some pp ∧ pp.connId = c ∧ st.peers.get q = some pq ∧
        pq.serverId = pp.serverId ∧ s = pq.connId := by
  unfold routeSignal getServer
  constructor
  · intro h
    split at h
    · rename_i hc
      simp only [Bool.and_eq_true, validatePeerConnection_iff, Option.isSome_iff_exists,
        decide_eq_true_eq] at hc
      obtain ⟨⟨⟨pp, hp, hpc⟩, pq, hq⟩, hs⟩ := hc
      rw [hp, hq] at hs
      rw [hi.sender_bound q pq hq] at h
      exact ⟨pp, pq, hp, hpc, hq, Option.some.inj hs, (Option.some.inj h).symm⟩
    · cases h
  · rintro ⟨pp, pq, hp, rfl, hq, hs, rfl⟩
    have hv : st.validatePeerConnection p pp.connId = true :=
      validatePeerConnection_iff.2 ⟨pp, hp, rfl⟩
    simp [hv, hp, hq, hs, hi.sender_bound q pq hq]

end Route

/-- **Signals go where the spec says, in every reachable state.** A signal that arrives on `c`
naming `p` as its source and `q` as its destination is forwarded on sender `s` iff `p` is
registered on `c`, `q` is registered in the same server as `p`, and `s` is `q`'s own connection. -/
theorem route_exact (steps : List Step) (c : ConnId) (p q : PeerId) (s : WebSocketSender) :
    (new.run steps).routeSignal c p q = some s ↔
      ∃ pp pq, (new.run steps).peers.get p = some pp ∧ pp.connId = c ∧
        (new.run steps).peers.get q = some pq ∧ pq.serverId = pp.serverId ∧ s = pq.connId :=
  (indexed_run steps indexed_new).routeSignal_eq_some c p q s

/-- **A closed socket speaks for no one.** Once the socket-close walk for `c` has run, a signal
that arrives on `c` is dropped, whatever peers it names. -/
theorem closed_connection_forwards_nothing (steps : List Step) (c : ConnId) (p q : PeerId) :
    ((new.run steps).step (.close c)).routeSignal c p q = none := by
  have hi := indexed_run steps indexed_new
  rw [Option.eq_none_iff_forall_not_mem]
  intro s hs
  obtain ⟨pp, -, hp, hpc, -⟩ := ((hi.step (.close c)).routeSignal_eq_some c p q s).1 hs
  exact hi.close_unbinds c p pp hp hpc

/-- **`Welcome` names every peer of the server.** In every reachable state, the peers
`register_peer` returns for a `Hello` of `p` in server `s` include every other peer registered in
`s`. -/
theorem welcome_lists_server_peers (steps : List Step) (p : PeerId) (s : ServerId)
    (k : Option SigningPubkey) (c : ConnId) (q : PeerId) (pc : PeerConnection)
    (hq : (new.run steps).peers.get q = some pc) (hs : pc.serverId = s) (hqp : q ≠ p) :
    q ∈ ((new.run steps).registerPeer p s k c).2 := by
  have hm := (indexed_run steps indexed_new).server_mem q pc hq
  subst hs
  simp [registerPeer, hm, hqp]

/-- A peer `q` of server `s` hears of `p`'s arrival. -/
theorem welcome_lists_server_peers_of_hello :
    (new.run [.hello "q" "s" none "c1"]).peers.get "q" = some ⟨"q", "s", none, "c1"⟩ ∧
      "s" = "s" ∧ "q" ≠ "p" ∧
      "q" ∈ ((new.run [.hello "q" "s" none "c1"]).registerPeer "p" "s" none "c2").2 :=
  have hq : (new.run [.hello "q" "s" none "c1"]).peers.get "q" = some ⟨"q", "s", none, "c1"⟩ := by
    decide
  ⟨hq, rfl, by decide, welcome_lists_server_peers _ "p" "s" none "c2" "q" _ hq rfl (by decide)⟩

end Cordia.Signaling
