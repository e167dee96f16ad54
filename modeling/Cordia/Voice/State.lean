import Cordia.Collections
/-!
# `VoiceState` (`beacon-server/src/state/voice.rs`)

Chat membership for voice: `voice_chats` maps `(server_id, chat_id)` to the chat's peers in
join order. `register_voice_peer` (`:30-59`) first drops the joining user's earlier entry, so a
chat holds each user at most once. It does not look at peer ids, so one peer id can hold two
entries of a chat under two users. `unregister_voice_peer` (`:63-77`) and
`handle_voice_disconnect` (`:81-101`) both key their removal on the peer id.

`server_signing_pubkeys` is read by none of these methods and is left out.
-/

namespace Cordia.Voice

abbrev PeerId := String
abbrev ServerId := String
abbrev ConnId := String

/-- `VoicePeer`. -/
structure VoicePeer where
  peerId : PeerId
  userId : String
  connId : ConnId
deriving DecidableEq, Repr

/-- `VoicePeerInfo` (`:7-10`). -/
structure VoicePeerInfo where
  peerId : PeerId
  userId : String
deriving DecidableEq, Repr

/-- A chat's key, `(server_id, chat_id)`. -/
abbrev ChatKey := ServerId × String

/-- An entry of `handle_voice_disconnect`'s result: `(server_id, chat_id, peer_id, user_id)`. -/
abbrev Departure := ServerId × String × PeerId × String

structure VoiceState where
  voiceChats : HMap ChatKey (List VoicePeer)
deriving DecidableEq

namespace VoiceState

/-- `VoiceState::new`. -/
def new : VoiceState := ⟨.empty⟩

/-- `register_voice_peer` (`:30-59`): the new state and the other peers of the chat. -/
def registerVoicePeer (vs : VoiceState) (peerId : PeerId) (userId : String) (serverId : ServerId)
    (chatId : String) (connId : ConnId) : VoiceState × List VoicePeerInfo :=
  let key := (serverId, chatId)
  let peers := ((vs.voiceChats.get key).getD []).filter (·.userId ≠ userId) ++
    [⟨peerId, userId, connId⟩]
  (⟨vs.voiceChats.insert key peers⟩,
    (peers.filter (·.peerId ≠ peerId)).map fun p => ⟨p.peerId, p.userId⟩)

/-- `unregister_voice_peer` (`:63-77`): `position` finds the first entry of the peer, `remove`
takes it out, and the chat goes when it is left empty. -/
def unregisterVoicePeer (vs : VoiceState) (peerId : PeerId) (serverId : ServerId)
    (chatId : String) : VoiceState × Option String :=
  let key := (serverId, chatId)
  match vs.voiceChats.get key with
  | none => (vs, none)
  | some peers =>
    match peers.find? (·.peerId = peerId) with
    | none => (vs, none)
    | some removed =>
      let peers := peers.eraseP (·.peerId = peerId)
      (⟨if peers.isEmpty then vs.voiceChats.remove key else vs.voiceChats.insert key peers⟩,
        some removed.userId)

/-- The inner loop `for (peer_id, user_id) in to_remove` (`:91-94`). -/
def removeEach (key : ChatKey) :
    List Departure × List VoicePeer → PeerId × String → List Departure × List VoicePeer
  | (removed, peers), (peerId, userId) =>
    (removed ++ [(key.1, key.2, peerId, userId)], peers.filter (·.peerId ≠ peerId))

/-- One chat of the `iter_mut` loop (`:85-95`): collect the entries on the connection, then
report and `retain` them away by peer id, one at a time. -/
def disconnectChat (connId : ConnId) (removed : List Departure) (key : ChatKey)
    (peers : List VoicePeer) : List Departure × List VoicePeer :=
  let toRemove := (peers.filter (·.connId = connId)).map fun p => (p.peerId, p.userId)
  toRemove.foldl (removeEach key) (removed, peers)

/-- `handle_voice_disconnect` (`:81-101`). -/
def handleVoiceDisconnect (vs : VoiceState) (connId : ConnId) : VoiceState × List Departure :=
  let (removed, chats) := vs.voiceChats.iterMut (disconnectChat connId) []
  (⟨chats.retain fun _ peers => !peers.isEmpty⟩, removed)

/-! ## Spec lemmas -/

section Spec

variable (vs : VoiceState) (p : PeerId) (u : String) (s : ServerId) (ch : String) (c : ConnId)

theorem get_registerVoicePeer (key : ChatKey) :
    (vs.registerVoicePeer p u s ch c).1.voiceChats.get key =
      if key = (s, ch) then
        some (((vs.voiceChats.get (s, ch)).getD []).filter (·.userId ≠ u) ++ [⟨p, u, c⟩])
      else vs.voiceChats.get key := by
  simp [registerVoicePeer]

theorem unregisterVoicePeer_of_found {peers : List VoicePeer} {r : VoicePeer}
    (hget : vs.voiceChats.get (s, ch) = some peers) (hfind : peers.find? (·.peerId = p) = some r) :
    vs.unregisterVoicePeer p s ch =
      (⟨if (peers.eraseP (·.peerId = p)).isEmpty then vs.voiceChats.remove (s, ch)
        else vs.voiceChats.insert (s, ch) (peers.eraseP (·.peerId = p))⟩, some r.userId) := by
  simp [unregisterVoicePeer, hget, hfind]

/-- `unregister_voice_peer` either finds an entry of the peer in the chat and erases the first,
or finds none and changes nothing. -/
theorem unregisterVoicePeer_cases :
    (∃ (peers : List VoicePeer) (r : VoicePeer), vs.voiceChats.get (s, ch) = some peers ∧
      vs.unregisterVoicePeer p s ch =
        (⟨if (peers.eraseP (·.peerId = p)).isEmpty then vs.voiceChats.remove (s, ch)
          else vs.voiceChats.insert (s, ch) (peers.eraseP (·.peerId = p))⟩, some r.userId)) ∨
    ((∀ peers : List VoicePeer, vs.voiceChats.get (s, ch) = some peers →
        ∀ q ∈ peers, q.peerId ≠ p) ∧
      vs.unregisterVoicePeer p s ch = (vs, none)) := by
  cases hget : vs.voiceChats.get (s, ch) with
  | none => exact .inr ⟨by simp, by simp [unregisterVoicePeer, hget]⟩
  | some peers =>
    cases hfind : peers.find? (·.peerId = p) with
    | none =>
      refine .inr ⟨fun _ h => ?_, by simp [unregisterVoicePeer, hget, hfind]⟩
      cases h
      simpa using List.find?_eq_none.1 hfind
    | some r => exact .inl ⟨peers, r, rfl, unregisterVoicePeer_of_found vs p s ch hget hfind⟩

/-- The inner loop keeps the entries whose peer id it was not given. -/
theorem foldl_removeEach_snd (key : ChatKey) : ∀ (l : List (PeerId × String))
    (r : List Departure) (ps : List VoicePeer),
    (l.foldl (removeEach key) (r, ps)).2 = ps.filter fun q => q.peerId ∉ l.map (·.1)
  | [], _, _ => by simp
  | e :: l, r, ps => by
    simp only [List.foldl_cons, removeEach, foldl_removeEach_snd key l, List.filter_filter,
      List.map_cons, List.mem_cons]
    congr 1
    funext q
    simp only [ne_eq, not_or, Bool.decide_and]
    exact Bool.and_comm _ _

/-- The inner loop reports one departure per pair it was given. -/
theorem foldl_removeEach_fst (key : ChatKey) : ∀ (l : List (PeerId × String))
    (r : List Departure) (ps : List VoicePeer),
    (l.foldl (removeEach key) (r, ps)).1 = r ++ l.map fun e => (key.1, key.2, e.1, e.2)
  | [], _, _ => by simp
  | e :: l, r, ps => by simp [removeEach, foldl_removeEach_fst key l]

/-- What the loop over one chat leaves: every entry whose peer id is that of an entry on the
connection goes, whatever its own connection. -/
theorem disconnectChat_snd (removed : List Departure) (key : ChatKey) (peers : List VoicePeer) :
    (disconnectChat c removed key peers).2 =
      peers.filter fun q => q.peerId ∉ (peers.filter (·.connId = c)).map (·.peerId) := by
  simp [disconnectChat, foldl_removeEach_snd, Function.comp_def]

/-- What the loop over one chat reports: one departure per entry on the connection. -/
theorem disconnectChat_fst (removed : List Departure) (key : ChatKey) (peers : List VoicePeer) :
    (disconnectChat c removed key peers).1 =
      removed ++ (peers.filter (·.connId = c)).map fun q => (key.1, key.2, q.peerId, q.userId) := by
  simp [disconnectChat, foldl_removeEach_fst, Function.comp_def]

theorem get_handleVoiceDisconnect (key : ChatKey) :
    (vs.handleVoiceDisconnect c).1.voiceChats.get key =
      ((vs.voiceChats.get key).map fun peers =>
        peers.filter fun q => q.peerId ∉ (peers.filter (·.connId = c)).map (·.peerId)).filter
        (fun peers => !peers.isEmpty) := by
  simp only [handleVoiceDisconnect, HMap.get_retain]
  rw [HMap.get_iterMut _ (fun _ peers => peers.filter fun q =>
    q.peerId ∉ (peers.filter (·.connId = c)).map (·.peerId))
    (fun r k ps => disconnectChat_snd c r k ps)]

theorem handleVoiceDisconnect_snd :
    (vs.handleVoiceDisconnect c).2 = vs.voiceChats.entries.flatMap fun e =>
      (e.2.filter (·.connId = c)).map fun q => (e.1.1, e.1.2, q.peerId, q.userId) := by
  simp only [handleVoiceDisconnect, HMap.iterMut, HMap.iterMutList_fst, disconnectChat_fst]
  generalize vs.voiceChats.entries = l
  suffices ∀ r : List Departure, l.foldl (fun s e => s ++ (e.2.filter (·.connId = c)).map
      fun q => (e.1.1, e.1.2, q.peerId, q.userId)) r =
      r ++ l.flatMap fun e =>
        (e.2.filter (·.connId = c)).map fun q => (e.1.1, e.1.2, q.peerId, q.userId) by
    simpa using this []
  induction l with
  | nil => simp
  | cons e l ih => intro r; simp [ih]

end Spec

/-! ## Runs -/

/-- The handler's calls into `VoiceState`. -/
inductive Step where
  | register (peerId : PeerId) (userId : String) (serverId : ServerId) (chatId : String)
      (connId : ConnId)
  | unregister (peerId : PeerId) (serverId : ServerId) (chatId : String)
  | disconnect (connId : ConnId)
deriving DecidableEq, Repr

def step (vs : VoiceState) : Step → VoiceState
  | .register p u s ch c => (vs.registerVoicePeer p u s ch c).1
  | .unregister p s ch => (vs.unregisterVoicePeer p s ch).1
  | .disconnect c => (vs.handleVoiceDisconnect c).1

/-- A run of calls, first call first. -/
def run (vs : VoiceState) (steps : List Step) : VoiceState := steps.foldl step vs

@[simp] theorem run_nil (vs : VoiceState) : vs.run [] = vs := rfl

@[simp] theorem run_cons (vs : VoiceState) (x : Step) (xs : List Step) :
    vs.run (x :: xs) = (vs.step x).run xs := rfl

end VoiceState

end Cordia.Voice
