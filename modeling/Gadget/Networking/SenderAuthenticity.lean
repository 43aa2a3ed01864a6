import Gadget.Lib.Run
import Gadget.Networking.BlueprintProtocol

/-!
# Who a delivered message is from

A protocol message comes over the connection of a peer, or as a gossip message that its author
has signed, and its payload names a sender once more. The handlers deliver the decoded payload
to the application, where the round-based adapter looks the named sender up in its table of
parties. Nothing compares the two: `NamesOrigin` is what a payload has to say of its own accord.
-/

namespace Gadget.Networking

open Rust Lib.Run List

variable {N : Network} {M : Type}

inductive MessageType where
  | broadcast
  | p2p
  deriving DecidableEq

structure Incoming (M : Type) where
  msg : M
  sender : ℕ
  id : ℕ
  msgType : MessageType
  deriving DecidableEq

inductive NetworkError where
  | serialization (e : String)
  | send (e : String)
  deriving DecidableEq

structure RoundBasedNetworkAdapter (N : Network) (M : Type) where
  parties : HashMap ℕ N.PeerId
  peerToParty : HashMap N.PeerId ℕ
  fromSlice : Bytes → Except String M
  parties_of_peerToParty : ∀ peer i, peerToParty.lookup peer = some i → parties.lookup i = some peer

namespace RoundBasedNetworkAdapter

def new (order : IterOrder ℕ) (parties : HashMap ℕ N.PeerId)
    (fromSlice : Bytes → Except String M) : RoundBasedNetworkAdapter N M where
  parties := parties
  peerToParty := HashMap.collect ((order.entries parties).map Prod.swap)
  fromSlice := fromSlice
  parties_of_peerToParty := by
    intro peer i h
    have hmem := HashMap.mem_of_lookup_collect h
    rw [List.mem_map] at hmem
    obtain ⟨⟨j, p⟩, hentry, hswap⟩ := hmem
    cases hswap
    exact (order.mem_entries parties j p).mp hentry

def pollNext (A : RoundBasedNetworkAdapter N M) (message : ProtocolMessage N.PeerId) :
    Option (Except NetworkError (Incoming M)) :=
  let msgType := if message.routing.recipient.isSome then MessageType.p2p else .broadcast
  match A.peerToParty.lookup message.routing.sender with
  | some senderIndex =>
    match A.fromSlice message.payload with
    | .ok msg => some (.ok ⟨msg, senderIndex, message.routing.messageId, msgType⟩)
    | .error e => some (.error (.serialization e))
  | none => none

lemma parties_of_pollNext {A : RoundBasedNetworkAdapter N M} {message : ProtocolMessage N.PeerId}
    {incoming : Incoming M} (h : A.pollNext message = some (.ok incoming)) :
    A.parties.lookup incoming.sender = some message.routing.sender := by
  simp only [pollNext] at h
  split at h
  next senderIndex hp =>
    split at h
    next msg _ =>
      cases h
      exact A.parties_of_peerToParty _ _ hp
    next e _ => cases h
  next => cases h

end RoundBasedNetworkAdapter

structure Arrival (N : Network) where
  delay : ℕ
  event : Event N
  author : N.PeerId

def Arrival.origin (a : Arrival N) : Option N.PeerId :=
  match a.event with
  | .request peer _ _ => some peer
  | .gossip _ _ => some a.author
  | _ => none

structure Delivery (N : Network) where
  message : ProtocolMessage N.PeerId
  origin : Option N.PeerId

def Delivery.Authentic (d : Delivery N) : Prop := d.origin = some d.message.routing.sender

def Output.delivery (origin : Option N.PeerId) : Output N → Option (Delivery N)
  | .deliver message => some ⟨message, origin⟩
  | _ => none

def Node.heard (cfg : Config N) (s : Node N) : Event N → Option (ProtocolMessage N.PeerId)
  | .request peer (.protocol _ payload _) _ =>
    if peer ≠ cfg.localPeerId ∧ s.peerManager.isPeerVerified peer = true ∧
        (s.checkPeerRateLimit peer).1 = true then
      (N.decodeProtocolMessage payload).toOption
    else none
  | .gossip propagationSource data =>
    if s.peerManager.isPeerVerified propagationSource = true ∧
        (s.checkPeerRateLimit propagationSource).1 = true then
      (N.decodeProtocolMessage data).toOption
    else none
  | _ => none

def deliveries (origin : Option N.PeerId) (out : List (Output N)) : List (Delivery N) :=
  out.filterMap (Output.delivery origin)

section Deliveries

variable (origin : Option N.PeerId) (cfg : Config N) (s : Node N)

@[simp] lemma deliveries_nil : deliveries origin [] = [] := rfl

@[simp] lemma deliveries_sendResponse (env : MessageEnv) (peer : N.PeerId)
    (resp : InstanceMessageResponse N) :
    deliveries origin (Node.sendResponse env peer resp) = [] := by
  unfold Node.sendResponse
  split_ifs <;> rfl

variable (peer : N.PeerId)

lemma deliveries_connectionEstablished (nowMs : ℕ) :
    deliveries origin (s.connectionEstablished cfg peer nowMs).2 = [] := by
  simp only [Node.connectionEstablished]
  split_ifs
  · rcases hs : cfg.sendHandshake peer nowMs with e | out
    · rfl
    simp only [Config.sendHandshake] at hs
    split at hs
    · cases hs
      rfl
    · rcases hkey : cfg.requestKey with e | key
      · rw [hkey] at hs; cases hs
      rw [hkey] at hs; cases hs; rfl
  · rfl

lemma deliveries_handleHandshakeRequest (h : Handshake N) (env : MessageEnv) :
    deliveries origin (s.handleHandshakeRequest cfg peer h env).2 = [] := by
  unfold Node.handleHandshakeRequest
  by_cases hw : s.peerManager.isKeyWhitelisted h.verificationIdKey
  · simp only [hw, if_true]
    rcases cfg.verifyHandshake env.checkedAtMs h with e | u
    · rcases e with e | _
      · exact deliveries_sendResponse ..
      rfl
    rcases cfg.signHandshake peer ⟨cfg.localPeerId, env.answeredAtMs⟩ with _ | sig
    · rfl
    cases env.channelOpen <;> rfl
  · simp only [hw, Bool.false_eq_true, if_false]
    rfl

lemma deliveries_handleProtocolRequest (proto : String) (pl : Bytes)
    (md : Option Bytes) (env : MessageEnv) :
    deliveries origin (s.handleProtocolRequest cfg peer pl env).2
      = ((s.heard cfg (.request peer (.protocol proto pl md) env)).map
          (Delivery.mk · origin)).toList := by
  unfold Node.handleProtocolRequest Node.heard
  by_cases hs : peer = cfg.localPeerId
  · simp [hs]
  by_cases hv : s.peerManager.isPeerVerified peer = true
  · rcases hr : s.checkPeerRateLimit peer with ⟨_ | _, s'⟩
    · simp [hs, hv, hr]
    · rcases hd : N.decodeProtocolMessage pl with e | msg
      · simp [hs, hv, hr, hd, Except.toOption]
      simp [hs, hv, hr, hd, Except.toOption, deliveries, Output.delivery]
  · simp [hs, hv]

lemma deliveries_handleGossip (src : N.PeerId) (data : Bytes) :
    deliveries origin (s.handleGossip src data).2
      = ((s.heard cfg (.gossip src data)).map (Delivery.mk · origin)).toList := by
  unfold Node.handleGossip Node.heard
  by_cases hv : s.peerManager.isPeerVerified src = true
  · rcases hr : s.checkPeerRateLimit src with ⟨_ | _, s'⟩
    · simp [hv, hr]
    · rcases hd : N.decodeProtocolMessage data with e | msg
      · simp [hv, hr, hd, Except.toOption]
      simp [hv, hr, hd, Except.toOption, deliveries, Output.delivery]
  · simp [hv]

theorem deliveries_handle (e : Event N) :
    deliveries origin (s.handle cfg e).2 = ((s.heard cfg e).map (Delivery.mk · origin)).toList := by
  cases e with
  | connectionEstablished peer nowMs => exact deliveries_connectionEstablished ..
  | request peer request env =>
    rcases request with h | ⟨protocol, payload, metadata⟩
    · exact deliveries_handleHandshakeRequest origin cfg s peer h env
    exact deliveries_handleProtocolRequest ..
  | gossip source data => exact deliveries_handleGossip ..
  | _ => rfl

end Deliveries

structure Station (N : Network) (M : Type) where
  node : Node N
  channel : List (Delivery N)
  polled : List (Delivery N × Option (Except NetworkError (Incoming M)))

inductive Activity (N : Network) where
  | arrive (a : Arrival N)
  | poll

namespace Station

def start (node : Node N) : Station N M := ⟨node, [], []⟩

def step (cfg : Config N) (A : RoundBasedNetworkAdapter N M) (s : Station N M) :
    Activity N → Station N M
  | .arrive a =>
    let (node, out) := (s.node.elapse a.delay).handle cfg a.event
    { s with node := node, channel := s.channel ++ deliveries a.origin out }
  | .poll =>
    match s.channel with
    | [] => s
    | d :: rest =>
      { s with channel := rest, polled := s.polled ++ [(d, A.pollNext d.message)] }

variable (s : Station N M)

def Authentic : Prop :=
  (∀ d ∈ s.channel, d.Authentic) ∧ ∀ p ∈ s.polled, p.1.Authentic

def Attributed (A : RoundBasedNetworkAdapter N M) (s : Station N M) : Prop :=
  ∀ d incoming, (d, some (.ok incoming)) ∈ s.polled →
    ∃ peer, d.origin = some peer ∧ A.parties.lookup incoming.sender = some peer

def NamesOrigin (cfg : Config N) (s : Station N M) : Activity N → Prop
  | .arrive a => ∀ message, (s.node.elapse a.delay).heard cfg a.event = some message →
      a.origin = some message.routing.sender
  | .poll => True

def Polled (A : RoundBasedNetworkAdapter N M) (s : Station N M) : Prop :=
  ∀ p ∈ s.polled, p.2 = A.pollNext p.1.message

variable {cfg : Config N} {A : RoundBasedNetworkAdapter N M}

lemma polled_step (e : Activity N) (h : s.Polled A) : (s.step cfg A e).Polled A := by
  rcases e with a | _
  · exact h
  simp only [step]
  split
  · exact h
  next d rest hc =>
    intro p hp
    rcases mem_append.mp hp with hold | hnew
    · exact h p hold
    · rw [mem_singleton.mp hnew]

lemma Authentic.attributed {s : Station N M} (hp : s.Polled A) (h : s.Authentic) :
    s.Attributed A := by
  intro d incoming hmem
  have hpo : A.pollNext d.message = some (.ok incoming) := (hp _ hmem).symm
  exact ⟨d.message.routing.sender, h.2 _ hmem, RoundBasedNetworkAdapter.parties_of_pollNext hpo⟩

lemma authentic_step_iff (e : Activity N) (h : s.Authentic) :
    (s.step cfg A e).Authentic ↔ s.NamesOrigin cfg e := by
  cases e with
  | arrive a =>
    simp only [step, Authentic, NamesOrigin, deliveries_handle, forall_mem_append,
      Option.mem_toList, Option.map_eq_some_iff, forall_exists_index, and_imp,
      forall_apply_eq_imp_iff₂, Delivery.Authentic]
    exact ⟨fun ha => ha.1.2, fun hn => ⟨⟨h.1, hn⟩, h.2⟩⟩
  | poll =>
    refine iff_of_true ?_ trivial
    simp only [step]
    split
    · exact h
    next d rest hc =>
      have hall := h.1
      rw [hc, forall_mem_cons] at hall
      refine ⟨hall.2, ?_⟩
      intro p hp
      rcases mem_append.mp hp with hold | hnew
      · exact h.2 p hold
      · rw [mem_singleton.mp hnew]
        exact hall.1

/-- **Senders.** In a run of a node and its application, every delivered message names the peer
that it came from, and the adapter attributes it to a party of that peer, exactly as long as the
payloads that are heard name their origin themselves. -/
theorem senders_authentic_iff (cfg : Config N) (A : RoundBasedNetworkAdapter N M) (node : Node N)
    (es : List (Activity N)) :
    Always (step cfg A) (fun s => s.Authentic ∧ s.Attributed A) (start node) es ↔
      Each (step cfg A) (NamesOrigin cfg) (start node) es := by
  have hs : (start node : Station N M).Authentic :=
    ⟨fun _ h => absurd h not_mem_nil, fun _ h => absurd h not_mem_nil⟩
  have hpo : (start node : Station N M).Polled A := fun _ h => absurd h not_mem_nil
  refine always_iff_each (J := Polled A) (fun s e hp _ => polled_step s e hp) ?_ hpo
    ⟨hs, hs.attributed hpo⟩ es
  intro s e hp h
  have hst : (s.step cfg A e).Authentic ↔ s.NamesOrigin cfg e := authentic_step_iff s e h.1
  constructor
  · exact fun h' => hst.mp h'.1
  · intro hn
    have h' := hst.mpr hn
    exact ⟨h', h'.attributed (polled_step s e hp)⟩

end Station

abbrev namedNetwork : Network :=
  { plainNetwork with
    decodeProtocolMessage := fun
      | [sender] => .ok ⟨"/round", ⟨0, 1, sender.toNat, some 0⟩, []⟩
      | _ => .error "UnexpectedEof" }

def namedConfig : Config namedNetwork := ⟨(0 : ℕ), (10 : ℕ), false, "/blueprint/1.0.0"⟩

noncomputable def namedNode : Node namedNetwork :=
  Node.new ⟨IterOrder.alone (Vector.replicate 20 0), IterOrder.alone (11 : ℕ)⟩
    (.instancePublicKeys {(11 : ℕ)}) 0

def namedHandshake : Handshake namedNetwork :=
  let msg : HandshakeMessage namedNetwork := ⟨(1 : ℕ), 5000⟩
  ⟨.instancePublicKey (11 : ℕ), UInt8.ofNat 11 :: msg.toBytes (0 : ℕ), msg⟩

noncomputable def namedAdapter : RoundBasedNetworkAdapter namedNetwork Unit :=
  .new (IterOrder.alone 2) (HashMap.collect [(2, (2 : ℕ))]) fun _ => .ok ()

def namedRun : List (Activity namedNetwork) :=
  [.arrive ⟨0, .connectionEstablished (1 : ℕ) 6000, (0 : ℕ)⟩,
    .arrive ⟨0, .request (1 : ℕ) (.handshake namedHandshake) ⟨6000, 6000, true⟩, (0 : ℕ)⟩,
    .arrive ⟨0, .request (1 : ℕ) (.protocol "/round" [2] none) ⟨6000, 6000, true⟩, (0 : ℕ)⟩,
    .arrive ⟨0, .gossip (1 : ℕ) [2], (3 : ℕ)⟩,
    .poll, .poll]

/-- Both messages reach the protocol as messages of party 2, which is peer 2. They came from
peers 1 and 3. -/
theorem Station.message_of_another :
    ((namedRun.foldl (step namedConfig namedAdapter) (start namedNode)).polled.map fun p =>
        (p.1.origin, p.2)) = [(some (1 : ℕ), some (.ok ⟨(), 2, 0, .p2p⟩)),
          (some (3 : ℕ), some (.ok ⟨(), 2, 0, .p2p⟩))] ∧
    namedAdapter.parties.lookup 2 = some (2 : ℕ) ∧
    ¬ Always (step namedConfig namedAdapter) (fun s => s.Authentic ∧ s.Attributed namedAdapter)
        (start namedNode) namedRun := by
  have hp : ((namedRun.foldl (step namedConfig namedAdapter) (start namedNode)).polled.map
      fun p => (p.1.origin, p.2)) = [(some (1 : ℕ), some (.ok ⟨(), 2, 0, .p2p⟩)),
        (some (3 : ℕ), some (.ok ⟨(), 2, 0, .p2p⟩))] := by
    decide +kernel
  have hpa : namedAdapter.parties.lookup 2 = some (2 : ℕ) := by decide
  refine ⟨hp, hpa, fun h => ?_⟩
  -- the first of the two came from peer 1
  have hf : (some (1 : ℕ), some (.ok ⟨(), 2, 0, .p2p⟩)) ∈
      (namedRun.foldl (step namedConfig namedAdapter) (start namedNode)).polled.map
        fun p => (p.1.origin, p.2) := by
    rw [hp]
    exact mem_cons_self
  obtain ⟨⟨d, answer⟩, hmem, heq⟩ := mem_map.mp hf
  obtain ⟨ho, rfl⟩ := Prod.mk.inj heq
  obtain ⟨peer, hpe, hof⟩ := h.last.2 d _ hmem
  rw [show d.origin = some (1 : ℕ) from ho] at hpe
  rw [hpa, ← hpe] at hof
  exact absurd hof (by decide)

end Gadget.Networking
