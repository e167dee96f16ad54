import Cordia.Collections
/-!
# `SignalingState` (`signaling-server/src/state/signaling.rs`)

The five indexes of the signaling server and the methods that maintain them. `register_peer`
(`:43-82`) writes `peers`, `conn_peers`, `servers` and `signing_servers`; `unregister_peer`
(`:84-106`) undoes the last three and drops the peer's sender, but leaves `conn_peers` to the caller.

The WebSocket handler, which owns the sender binding and the socket-close walk, is not under
`src/`; `Step` takes those two from the spec (§4.1 "Socket-close cleanup", §4.4 `Hello`).
A `WebSocketSender` is a handle on one connection's outbound channel, so it is named by the
connection's id.
-/

namespace Cordia.Signaling

abbrev PeerId := String
abbrev ServerId := String
abbrev SigningPubkey := String
abbrev ConnId := String

/-- A handle on the outbound channel of the connection it names. -/
abbrev WebSocketSender := ConnId

/-- `PeerConnection`, with the fields `register_peer` fills in. -/
structure PeerConnection where
  peerId : PeerId
  serverId : ServerId
  signingPubkey : Option SigningPubkey
  connId : ConnId
deriving DecidableEq, Repr

/-- `SignalingMessage::ServerHintUpdated`: the key and the fields of the hint it carries. -/
structure ServerHintUpdated (Hint : Type) where
  signingPubkey : SigningPubkey
  hint : Hint
deriving DecidableEq, Repr

structure SignalingState where
  peers : HMap PeerId PeerConnection
  servers : HMap ServerId (HSet PeerId)
  signingServers : HMap SigningPubkey (HSet PeerId)
  peerSenders : HMap PeerId WebSocketSender
  connPeers : HMap ConnId (HSet PeerId)

namespace SignalingState

/-- `SignalingState::new` (`:20`). -/
def new : SignalingState := ⟨.empty, .empty, .empty, .empty, .empty⟩

/-- `validate_peer_connection` (`:36-41`). -/
def validatePeerConnection (st : SignalingState) (peerId : PeerId) (connId : ConnId) : Bool :=
  match st.peers.get peerId with
  | some peer => peer.connId == connId
  | none => false

/-- `register_peer` (`:43-82`): the new state, and the other peers of the server. -/
def registerPeer (st : SignalingState) (peerId : PeerId) (serverId : ServerId)
    (signingPubkey : Option SigningPubkey) (connId : ConnId) : SignalingState × List PeerId :=
  let peers := st.peers.insert peerId ⟨peerId, serverId, signingPubkey, connId⟩
  let connPeers := st.connPeers.addMember connId peerId
  let servers := st.servers.addMember serverId peerId
  let signingServers := match signingPubkey with
    | some spk => st.signingServers.addMember spk peerId
    | none => st.signingServers
  ({ st with peers, connPeers, servers, signingServers },
    (servers.members serverId).filter (· ≠ peerId))

/-- `unregister_peer` (`:84-106`). -/
def unregisterPeer (st : SignalingState) (peerId : PeerId) : SignalingState :=
  let st := match st.peers.get peerId with
    | none => st
    | some conn =>
      { st with
        peers := st.peers.remove peerId
        servers := st.servers.removeMember conn.serverId peerId
        signingServers := match conn.signingPubkey with
          | some spk => st.signingServers.removeMember spk peerId
          | none => st.signingServers }
  { st with peerSenders := st.peerSenders.remove peerId }

/-- `get_server` (`:108-110`). -/
def getServer (st : SignalingState) (peerId : PeerId) : Option ServerId :=
  (st.peers.get peerId).map (·.serverId)

/-- `broadcast_server_hint_updated` (`:112-133`): every send it makes, as the peer whose sender
is used, that sender, and the frame. Serialising the frame (`:124`) does not fail: it holds
strings and a timestamp. -/
def broadcastServerHintUpdated {Hint : Type} (st : SignalingState) (signingPubkey : SigningPubkey)
    (hint : Hint) : List (PeerId × WebSocketSender × ServerHintUpdated Hint) :=
  match st.signingServers.get signingPubkey with
  | none => []
  | some peers =>
    peers.elems.filterMap fun p => (st.peerSenders.get p).map fun s => (p, s, ⟨signingPubkey, hint⟩)

/-- Modelled from the spec: the socket-close cleanup of the WebSocket handler, "take
`conn_peers[conn_id]` (remove), and for every peer in that set call `unregister_peer`". -/
def closeConnection (st : SignalingState) (connId : ConnId) : SignalingState :=
  match st.connPeers.get connId with
  | none => st
  | some ps => ps.elems.foldl unregisterPeer { st with connPeers := st.connPeers.remove connId }

/-! ## Spec lemmas -/

section Spec

variable (st : SignalingState) (p q : PeerId) (s : ServerId) (k : Option SigningPubkey) (c : ConnId)

@[simp] theorem registerPeer_peers :
    (st.registerPeer p s k c).1.peers = st.peers.insert p ⟨p, s, k, c⟩ := rfl
@[simp] theorem registerPeer_servers :
    (st.registerPeer p s k c).1.servers = st.servers.addMember s p := rfl
@[simp] theorem registerPeer_connPeers :
    (st.registerPeer p s k c).1.connPeers = st.connPeers.addMember c p := rfl
@[simp] theorem registerPeer_peerSenders :
    (st.registerPeer p s k c).1.peerSenders = st.peerSenders := rfl
theorem registerPeer_signingServers :
    (st.registerPeer p s k c).1.signingServers =
      match k with
      | some spk => st.signingServers.addMember spk p
      | none => st.signingServers := rfl

/-- `register_peer` binds `p` to its new record and leaves every other record. -/
theorem get_registerPeer_peers_eq_some {pc : PeerConnection} :
    (st.registerPeer p s k c).1.peers.get q = some pc ↔
      q = p ∧ pc = ⟨p, s, k, c⟩ ∨ q ≠ p ∧ st.peers.get q = some pc := by
  by_cases hq : q = p <;> simp [hq, eq_comm]

@[simp] theorem mem_members_registerPeer_signingServers {spk : SigningPubkey} :
    q ∈ (st.registerPeer p s k c).1.signingServers.members spk ↔
      (k = some spk ∧ q = p) ∨ q ∈ st.signingServers.members spk := by
  cases k <;> simp [registerPeer_signingServers, and_comm, eq_comm]

/-- `register_peer` returns the peers of the server other than the newcomer. -/
theorem mem_registerPeer_snd :
    q ∈ (st.registerPeer p s k c).2 ↔ q ≠ p ∧ q ∈ st.servers.members s := by
  simp only [registerPeer, List.mem_filter, HMap.mem_members_addMember, true_and,
    decide_eq_true_eq]
  tauto

theorem unregisterPeer_of_none (h : st.peers.get p = none) :
    st.unregisterPeer p = { st with peerSenders := st.peerSenders.remove p } := by
  simp [unregisterPeer, h]

theorem unregisterPeer_of_some {pc : PeerConnection} (h : st.peers.get p = some pc) :
    st.unregisterPeer p =
      { peers := st.peers.remove p
        servers := st.servers.removeMember pc.serverId p
        signingServers := match pc.signingPubkey with
          | some spk => st.signingServers.removeMember spk p
          | none => st.signingServers
        peerSenders := st.peerSenders.remove p
        connPeers := st.connPeers } := by
  simp [unregisterPeer, h]

@[simp] theorem unregisterPeer_connPeers : (st.unregisterPeer p).connPeers = st.connPeers := by
  unfold unregisterPeer; split <;> rfl

@[simp] theorem unregisterPeer_peerSenders :
    (st.unregisterPeer p).peerSenders = st.peerSenders.remove p := by
  unfold unregisterPeer; split <;> rfl

@[simp] theorem get_unregisterPeer_peers :
    (st.unregisterPeer p).peers.get q = if q = p then none else st.peers.get q := by
  cases h : st.peers.get p with
  | none =>
    rw [unregisterPeer_of_none st p h]
    split <;> simp_all
  | some pc => simp [unregisterPeer_of_some st p h]

/-- `unregister_peer` takes the peer out of its own server's set, and out of nothing else. -/
@[simp] theorem mem_members_unregisterPeer_servers :
    q ∈ (st.unregisterPeer p).servers.members s ↔
      q ∈ st.servers.members s ∧
        ¬(q = p ∧ ∃ pc, st.peers.get p = some pc ∧ pc.serverId = s) := by
  cases h : st.peers.get p with
  | none => simp [unregisterPeer_of_none st p h]
  | some pc => simp [unregisterPeer_of_some st p h, eq_comm, and_comm]

/-- `unregister_peer` takes the peer out of its own signing key's set, and out of nothing else. -/
@[simp] theorem mem_members_unregisterPeer_signingServers {spk : SigningPubkey} :
    q ∈ (st.unregisterPeer p).signingServers.members spk ↔
      q ∈ st.signingServers.members spk ∧
        ¬(q = p ∧ ∃ pc, st.peers.get p = some pc ∧ pc.signingPubkey = some spk) := by
  cases h : st.peers.get p with
  | none => simp [unregisterPeer_of_none st p h]
  | some pc =>
    rw [unregisterPeer_of_some st p h]
    cases hk : pc.signingPubkey <;> simp [hk, eq_comm, and_comm]

theorem closeConnection_of_some {ps : HSet PeerId} (h : st.connPeers.get c = some ps) :
    st.closeConnection c =
      ps.elems.foldl unregisterPeer { st with connPeers := st.connPeers.remove c } := by
  simp [closeConnection, h]

/-- `broadcast_server_hint_updated` sends one frame to each member of the key's set that has a
sender, on that sender. -/
theorem mem_broadcastServerHintUpdated {Hint : Type} (spk : SigningPubkey) (hint : Hint)
    (x : PeerId × WebSocketSender × ServerHintUpdated Hint) :
    x ∈ st.broadcastServerHintUpdated spk hint ↔ x.1 ∈ st.signingServers.members spk ∧
      st.peerSenders.get x.1 = some x.2.1 ∧ x.2.2 = ⟨spk, hint⟩ := by
  obtain ⟨q, s', m⟩ := x
  unfold broadcastServerHintUpdated
  cases h : st.signingServers.get spk with
  | none => simp [HMap.mem_members, h]
  | some ps =>
    simp [HMap.mem_members, h, HSet.mem_def, Option.map_eq_some', and_left_comm, and_assoc]
    exact fun _ _ => eq_comm

theorem filterMap_fst_sublist {β γ : Type} (g : PeerId → Option β) (f : PeerId → β → γ) :
    ∀ l : List PeerId, ((l.filterMap fun p => (g p).map fun b => (p, f p b)).map (·.1)).Sublist l
  | [] => by simp
  | a :: l => by
    cases h : g a
    · simpa [h] using (filterMap_fst_sublist g f l).cons a
    · simpa [h] using (filterMap_fst_sublist g f l).cons₂ a

/-- No peer gets two frames of one broadcast. -/
theorem broadcastServerHintUpdated_nodup {Hint : Type} (spk : SigningPubkey) (hint : Hint) :
    ((st.broadcastServerHintUpdated spk hint).map (·.1)).Nodup := by
  unfold broadcastServerHintUpdated
  split
  · simp
  · exact (filterMap_fst_sublist _ (fun _ s => (s, _)) _).nodup (HSet.nodup _)

/-- The peers a run of `unregister_peer` leaves: those it did not name. -/
theorem get_foldl_unregisterPeer_peers : ∀ (l : List PeerId) (st : SignalingState),
    (l.foldl unregisterPeer st).peers.get q = if q ∈ l then none else st.peers.get q
  | [], _ => by simp
  | p :: l, st => by
    rw [List.foldl_cons, get_foldl_unregisterPeer_peers l, get_unregisterPeer_peers]
    by_cases hq : q = p <;> by_cases hl : q ∈ l <;> simp [hq, hl]

end Spec

/-! ## Runs -/

/-- What the WebSocket handler does to the indexes. -/
inductive Step where
  /-- `Hello{peer_id, server_id, signing_pubkey}` on connection `connId`. -/
  | hello (peerId : PeerId) (serverId : ServerId) (signingPubkey : Option SigningPubkey)
      (connId : ConnId)
  /-- `Goodbye{peer_id}`. -/
  | goodbye (peerId : PeerId)
  /-- The socket of `connId` closes. -/
  | close (connId : ConnId)
deriving DecidableEq, Repr

/-- Modelled from the spec: the handler's use of the indexes (§4.4). `Hello` runs
`register_peer` and binds the connection's sender to the peer, `Goodbye` runs `unregister_peer`,
and a socket close runs the cleanup walk. -/
def step (st : SignalingState) : Step → SignalingState
  | .hello p s k c =>
    let st := (st.registerPeer p s k c).1
    { st with peerSenders := st.peerSenders.insert p c }
  | .goodbye p => st.unregisterPeer p
  | .close c => st.closeConnection c

/-- A run of steps, first step first. -/
def run (st : SignalingState) (steps : List Step) : SignalingState := steps.foldl step st

@[simp] theorem run_nil (st : SignalingState) : st.run [] = st := rfl

@[simp] theorem run_cons (st : SignalingState) (x : Step) (xs : List Step) :
    st.run (x :: xs) = (st.step x).run xs := rfl

theorem run_append_singleton (st : SignalingState) (xs : List Step) (x : Step) :
    st.run (xs ++ [x]) = (st.run xs).step x := by
  simp [run, List.foldl_append]

end SignalingState

end Cordia.Signaling
