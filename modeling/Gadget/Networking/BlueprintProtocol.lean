import Gadget.Networking.Peers
import Gadget.Rust.Text

/-!
# The blueprint protocol behaviour

Messages, and the handlers of `BlueprintProtocolBehaviour`: connections coming and going,
handshakes as requests and as responses, protocol messages by request and by gossip. A
handler returns the node after the event and what it hands to the swarm and to the
application.
-/

namespace Gadget.Networking

open Rust

variable {N : Network}

structure HandshakeMessage (N : Network) where
  sender : N.PeerId
  timestamp : ℕ

namespace HandshakeMessage

def maxAge : ℕ := 30000

def isExpired (msg : HandshakeMessage N) (nowMs maxAge : ℕ) : Bool :=
  decide (nowMs - msg.timestamp > maxAge)

def toBytes (msg : HandshakeMessage N) (otherPeerId : N.PeerId) : Bytes :=
  N.peerIdToBytes msg.sender ++ N.peerIdToBytes otherPeerId ++ toBeBytes 16 msg.timestamp

end HandshakeMessage

structure Handshake (N : Network) where
  verificationIdKey : VerificationIdentifierKey N
  signature : N.keys.Signature
  msg : HandshakeMessage N

inductive InstanceMessageRequest (N : Network) where
  | handshake (h : Handshake N)
  | protocol (protocol : String) (payload : Bytes) (metadata : Option Bytes)

structure ErrorResponse where
  code : ℕ
  message : String

def ErrorResponse.debug (e : ErrorResponse) : String :=
  "Error \x7b code: " ++ toString e.code ++ ", message: " ++ e.message.quote ++ " \x7d"

inductive InstanceMessageResponse (N : Network) where
  | handshake (h : Handshake N)
  | success (protocol : String) (data : Option Bytes)
  | error (e : ErrorResponse)

structure Config (N : Network) where
  localPeerId : N.PeerId
  instanceKeyPair : N.keys.Secret
  useAddressForHandshakeVerification : Bool
  blueprintProtocolName : String

structure Node (N : Network) where
  peerManager : PeerManager N
  inboundHandshakes : HashMap N.PeerId ℤ
  outboundHandshakes : HashMap N.PeerId ℤ
  peerRequestRates : HashMap N.PeerId (ℤ × ℕ)
  peerRateCleanup : ℤ
  connections : N.PeerId → ℕ
  clock : ℤ

inductive Output (N : Network) where
  | request (peer : N.PeerId) (request : InstanceMessageRequest N)
  | response (peer : N.PeerId) (response : InstanceMessageResponse N)
  | deliver (message : ProtocolMessage N.PeerId)

structure MessageEnv where
  checkedAtMs : ℕ
  answeredAtMs : ℕ
  channelOpen : Bool

def Node.new (order : KeyOrder N) (allowedKeys : AllowedKeys N) (now : ℤ) : Node N where
  peerManager := PeerManager.new order allowedKeys
  inboundHandshakes := ∅
  outboundHandshakes := ∅
  peerRequestRates := ∅
  peerRateCleanup := now
  connections := fun _ => 0
  clock := now

variable (cfg : Config N)

def Config.signHandshake (peer : N.PeerId) (msg : HandshakeMessage N) : Option N.keys.Signature :=
  (N.keys.signWithSecret cfg.instanceKeyPair (msg.toBytes peer)).toOption

def Config.requestKey : Except String (VerificationIdentifierKey N) :=
  let publicKey := N.keys.publicFromSecret cfg.instanceKeyPair
  if cfg.useAddressForHandshakeVerification then
    (getAddressFromCompressedPubkey N (N.keys.publicToBytes publicKey)).map .evmAddress
  else .ok (.instancePublicKey publicKey)

/-- The key a node sends in its handshake responses: here the address is the hash of the key as
encoded, without decompressing it. -/
def Config.responseKey : VerificationIdentifierKey N :=
  let publicKey := N.keys.publicFromSecret cfg.instanceKeyPair
  if cfg.useAddressForHandshakeVerification then
    .evmAddress ((N.keccak256 (N.keys.publicToBytes publicKey)).drop 12)
  else .instancePublicKey publicKey

def Config.sendHandshake (peer : N.PeerId) (nowMs : ℕ) : Except String (List (Output N)) :=
  let msg : HandshakeMessage N := ⟨cfg.localPeerId, nowMs⟩
  match cfg.signHandshake peer msg with
  | none => .ok []
  | some signature =>
    cfg.requestKey.map fun key => [.request peer (.handshake ⟨key, signature, msg⟩)]

def Config.verifyHandshake (nowMs : ℕ) (h : Handshake N) : Outcome ErrorResponse Unit :=
  if h.msg.isExpired nowMs HandshakeMessage.maxAge then
    .error (.err ⟨400, "Handshake message expired"⟩)
  else
    match h.verificationIdKey.verify (h.msg.toBytes cfg.localPeerId)
        (N.keys.signatureToBytes h.signature) with
    | .error (.panicked text) => .error (.panicked text)
    | .error (.err e) => .error (.err ⟨400, "Invalid handshake signature: " ++ e⟩)
    | .ok false => .error (.err ⟨400, "Invalid handshake signature"⟩)
    | .ok true => .ok ()

def handshakeTimeout : ℤ := PeerManager.fromSecs 30

namespace Node

variable (s : Node N)

def checkExpiredHandshakes : Node N :=
  { s with
    inboundHandshakes :=
      HashMap.retain s.inboundHandshakes fun _ time => !decide (s.clock - time > handshakeTimeout)
    outboundHandshakes :=
      HashMap.retain s.outboundHandshakes
        fun _ time => !decide (s.clock - time > handshakeTimeout) }

def completeHandshake (peer : N.PeerId) (key : VerificationIdentifierKey N) : Node N :=
  { s with
    inboundHandshakes := s.inboundHandshakes.erase peer
    outboundHandshakes := s.outboundHandshakes.erase peer
    peerManager := (s.peerManager.linkPeerIdToVerificationIdKey peer key).verifyPeer peer }

def withPeers (m : PeerManager N) : Node N := { s with peerManager := m }

def sendResponse (env : MessageEnv) (peer : N.PeerId) (response : InstanceMessageResponse N) :
    List (Output N) :=
  if env.channelOpen then [.response peer response] else []

variable (cfg : Config N)

def handleHandshakeRequest (s : Node N) (peer : N.PeerId) (h : Handshake N)
    (env : MessageEnv) : Node N × List (Output N) :=
  if s.peerManager.isKeyWhitelisted h.verificationIdKey then
    match cfg.verifyHandshake env.checkedAtMs h with
    | .error (.panicked _) => (s, [])
    | .error (.err e) =>
      (s.checkExpiredHandshakes,
        sendResponse env peer (.error ⟨400, "Invalid handshake: " ++ e.debug⟩))
    | .ok () =>
      -- the key is linked before the answer is signed and sent
      let s : Node N :=
        { s with
          inboundHandshakes := s.inboundHandshakes.insert peer s.clock
          peerManager := s.peerManager.linkPeerIdToVerificationIdKey peer h.verificationIdKey }
      let msg : HandshakeMessage N := ⟨cfg.localPeerId, env.answeredAtMs⟩
      match cfg.signHandshake peer msg with
      | none => (s, [])
      | some signature =>
        if env.channelOpen then
          ((s.completeHandshake peer h.verificationIdKey).checkExpiredHandshakes,
            [.response peer (.handshake ⟨cfg.responseKey, signature, msg⟩)])
        else (s, [])
  else (s.withPeers (s.peerManager.handleNonwhitelistedPeer s.clock peer), [])

def handleHandshakeResponse (s : Node N) (peer : N.PeerId) (h : Handshake N)
    (env : MessageEnv) : Node N :=
  if s.peerManager.isPeerVerified peer then s
  else
    -- the pending entry goes, whatever becomes of the response
    let s : Node N := { s with outboundHandshakes := s.outboundHandshakes.erase peer }
    if s.peerManager.isKeyWhitelisted h.verificationIdKey then
      match cfg.verifyHandshake env.checkedAtMs h with
      | .error (.panicked _) => s
      | .error (.err _) =>
        (s.withPeers (s.peerManager.handleHandshakeFailure s.clock peer)).checkExpiredHandshakes
      | .ok () => (s.completeHandshake peer h.verificationIdKey).checkExpiredHandshakes
    else s.withPeers (s.peerManager.handleNonwhitelistedPeer s.clock peer)

def rateLimitWindow : ℤ := PeerManager.fromSecs 10

def rateLimitMaxRequests : ℕ := 100

def rateCleanupInterval : ℤ := PeerManager.fromSecs 60

def checkPeerRateLimit (peer : N.PeerId) : Bool × Node N :=
  -- stale windows of all peers are dropped now and then
  let s : Node N :=
    if s.clock - s.peerRateCleanup > rateCleanupInterval then
      { s with
        peerRequestRates :=
          HashMap.retain s.peerRequestRates
            fun _ rate => decide (s.clock - rate.1 < rateLimitWindow)
        peerRateCleanup := s.clock }
    else s
  let entry := (s.peerRequestRates.lookup peer).getD (s.clock, 0)
  -- an old window is replaced, without a look at its count
  if s.clock - entry.1 > rateLimitWindow then
    (true, { s with peerRequestRates := s.peerRequestRates.insert peer (s.clock, 1) })
  else
    let count := wrap32 (entry.2 + 1)
    (decide (count ≤ rateLimitMaxRequests),
      { s with peerRequestRates := s.peerRequestRates.insert peer (entry.1, count) })

def handleProtocolRequest (s : Node N) (peer : N.PeerId) (payload : Bytes)
    (env : MessageEnv) : Node N × List (Output N) :=
  if peer = cfg.localPeerId then (s, [])
  else if s.peerManager.isPeerVerified peer then
    match s.checkPeerRateLimit peer with
    | (false, s) => (s, [])
    | (true, s) =>
      match N.decodeProtocolMessage payload with
      | .error e =>
        (s, sendResponse env peer (.error ⟨400, "Invalid protocol message: " ++ e⟩))
      -- what the message says of its sender is not compared with `peer`
      | .ok message => (s.checkExpiredHandshakes, [.deliver message])
  else (s, sendResponse env peer (.error ⟨403, "Handshake required"⟩))

def handleGossip (propagationSource : N.PeerId) (data : Bytes) : Node N × List (Output N) :=
  if s.peerManager.isPeerVerified propagationSource then
    match s.checkPeerRateLimit propagationSource with
    | (false, s) => (s, [])
    | (true, s) =>
      match N.decodeProtocolMessage data with
      | .error _ => (s, [])
      | .ok message => (s, [.deliver message])
  else (s, [])

def handleRequest (s : Node N) (peer : N.PeerId)
    (request : InstanceMessageRequest N) (env : MessageEnv) : Node N × List (Output N) :=
  match request with
  | .handshake h => s.handleHandshakeRequest cfg peer h env
  | .protocol _ payload _ => s.handleProtocolRequest cfg peer payload env

def handleResponse (s : Node N) (peer : N.PeerId)
    (response : InstanceMessageResponse N) (env : MessageEnv) : Node N :=
  match response with
  | .handshake h => s.handleHandshakeResponse cfg peer h env
  | .error _ => if s.peerManager.isPeerVerified peer then s.checkExpiredHandshakes else s
  | .success _ _ => s.checkExpiredHandshakes

def connectionEstablished (s : Node N) (peer : N.PeerId) (nowMs : ℕ) : Node N × List (Output N) :=
  let otherEstablished := s.connections peer
  let s : Node N :=
    { s with connections := Function.update s.connections peer (otherEstablished + 1) }
  if otherEstablished = 0 ∧ s.peerManager.isPeerVerified peer = false then
    match cfg.sendHandshake peer nowMs with
    | .error _ => (s, [])
    -- a handshake that could not be signed is not sent, and pending all the same
    | .ok out => ({ s with outboundHandshakes := s.outboundHandshakes.insert peer s.clock }, out)
  else (s, [])

def connectionClosed (peer : N.PeerId) : Node N :=
  match s.connections peer with
  | 0 => s
  | remaining + 1 =>
    let s : Node N := { s with connections := Function.update s.connections peer remaining }
    if remaining = 0 then
      let m := if s.peerManager.isPeerVerified peer then s.peerManager.removePeer peer
        else s.peerManager
      { s with
        inboundHandshakes := s.inboundHandshakes.erase peer
        outboundHandshakes := s.outboundHandshakes.erase peer
        peerManager := m.removePeerIdFromVerificationIdKey peer }
    else s

def identifyReceived (s : Node N) (peer : N.PeerId) (protocols : Finset String) : Node N :=
  s.withPeers
    (if cfg.blueprintProtocolName ∈ protocols then
      s.peerManager.updatePeer peer ((s.peerManager.getPeerInfo peer).getD .default)
    else s.peerManager.banPeerWithDefaultDuration s.clock peer)

end Node

/-! ## Steps of a node, and what they do to the peer manager

An `Event` is one thing that happens to a node; `Node.step` lets time pass and handles it.
Whatever an event carries, it does one of a dozen things to the peer manager. `PeerAction`
lists them, `Node.action` reads off the one that an event comes to, and
`handle_peerManager` is the theorem that the handlers do nothing else. -/

open Function

inductive Event (N : Network) where
  | connectionEstablished (peer : N.PeerId) (nowMs : ℕ)
  | connectionClosed (peer : N.PeerId)
  | request (peer : N.PeerId) (request : InstanceMessageRequest N) (env : MessageEnv)
  | response (peer : N.PeerId) (response : InstanceMessageResponse N) (env : MessageEnv)
  | otherMessage
  | gossip (propagationSource : N.PeerId) (data : Bytes)
  | identify (peer : N.PeerId) (protocols : Finset String)
  | updatePeer (peer : N.PeerId) (info : PeerInfo)
  | removePeer (peer : N.PeerId)
  | allowedKeys (order : KeyOrder N) (keys : AllowedKeys N)
  | banPeer (peer : N.PeerId) (duration : Option ℕ)
  | nonwhitelistedPeer (peer : N.PeerId)
  | handshakeFailure (peer : N.PeerId)
  | unbanPeer (peer : N.PeerId)
  | isBanned (peer : N.PeerId)

def Node.handle (cfg : Config N) (s : Node N) :
    Event N → Node N × List (Output N)
  | .connectionEstablished peer nowMs => s.connectionEstablished cfg peer nowMs
  | .connectionClosed peer => (s.connectionClosed peer, [])
  | .request peer request env => s.handleRequest cfg peer request env
  | .response peer response env => (s.handleResponse cfg peer response env, [])
  | .otherMessage => (s.checkExpiredHandshakes, [])
  | .gossip propagationSource data => s.handleGossip propagationSource data
  | .identify peer protocols => (s.identifyReceived cfg peer protocols, [])
  | .updatePeer peer info => (s.withPeers (s.peerManager.updatePeer peer info), [])
  | .removePeer peer => (s.withPeers (s.peerManager.removePeer peer), [])
  | .allowedKeys order keys => (s.withPeers (s.peerManager.updateAllowedKeys order keys), [])
  | .banPeer peer duration => (s.withPeers (s.peerManager.banPeer s.clock peer duration), [])
  | .nonwhitelistedPeer peer =>
    (s.withPeers (s.peerManager.handleNonwhitelistedPeer s.clock peer), [])
  | .handshakeFailure peer =>
    (s.withPeers (s.peerManager.handleHandshakeFailure s.clock peer), [])
  | .unbanPeer peer => (s.withPeers (s.peerManager.unbanPeer peer), [])
  | .isBanned peer => (s.withPeers (s.peerManager.isBanned s.clock peer).2, [])

def Node.elapse (s : Node N) (d : ℕ) : Node N := { s with clock := s.clock + d }

def Node.step (cfg : Config N) (s : Node N) (e : ℕ × Event N) : Node N :=
  ((s.elapse e.1).handle cfg e.2).1

inductive PeerAction (N : Network) where
  | keep
  | update (peer : N.PeerId) (info : PeerInfo)
  | remove (peer : N.PeerId)
  | disconnect (peer : N.PeerId)
  | link (peer : N.PeerId) (key : VerificationIdentifierKey N)
  | complete (peer : N.PeerId) (key : VerificationIdentifierKey N)
  | refuse (peer : N.PeerId)
  | fail (peer : N.PeerId)
  | ban (peer : N.PeerId) (duration : Option ℕ)
  | unban (peer : N.PeerId)
  | checkBan (peer : N.PeerId)
  | allow (order : KeyOrder N) (keys : AllowedKeys N)

def PeerAction.apply (now : ℤ) (m : PeerManager N) :
    PeerAction N → PeerManager N
  | .keep => m
  | .update peer info => m.updatePeer peer info
  | .remove peer => m.removePeer peer
  | .disconnect peer =>
    (if m.isPeerVerified peer then m.removePeer peer else m).removePeerIdFromVerificationIdKey peer
  | .link peer key => m.linkPeerIdToVerificationIdKey peer key
  | .complete peer key => (m.linkPeerIdToVerificationIdKey peer key).verifyPeer peer
  | .refuse peer => m.handleNonwhitelistedPeer now peer
  | .fail peer => m.handleHandshakeFailure now peer
  | .ban peer duration => m.banPeer now peer duration
  | .unban peer => m.unbanPeer peer
  | .checkBan peer => (m.isBanned now peer).2
  | .allow order keys => m.updateAllowedKeys order keys

namespace Node

variable (cfg : Config N)

variable (s : Node N) (peer : N.PeerId) (h : Handshake N) (env : MessageEnv)

def Accepted : Prop :=
  h.verificationIdKey ∈ s.peerManager.whitelistedKeys ∧
  cfg.verifyHandshake env.checkedAtMs h = .ok ()

def Answers : Prop :=
  (cfg.signHandshake peer ⟨cfg.localPeerId, env.answeredAtMs⟩).isSome = true ∧
  env.channelOpen = true

/-- What a handshake request comes to: a key that is not whitelisted gets its peer banned, a
valid handshake links the key, and completes once it is answered. -/
def requestAction : PeerAction N :=
  if s.peerManager.isKeyWhitelisted h.verificationIdKey then
    match cfg.verifyHandshake env.checkedAtMs h with
    | .error _ => .keep
    | .ok () =>
      if (cfg.signHandshake peer ⟨cfg.localPeerId, env.answeredAtMs⟩).isSome && env.channelOpen then
        .complete peer h.verificationIdKey
      else .link peer h.verificationIdKey
  else .refuse peer

def responseAction : PeerAction N :=
  if s.peerManager.isPeerVerified peer then .keep
  else if s.peerManager.isKeyWhitelisted h.verificationIdKey then
    match cfg.verifyHandshake env.checkedAtMs h with
    | .error (.panicked _) => .keep
    | .error (.err _) => .fail peer
    | .ok () => .complete peer h.verificationIdKey
  else .refuse peer

def action : Event N → PeerAction N
  | .connectionClosed peer => if s.connections peer = 1 then .disconnect peer else .keep
  | .request peer (.handshake h) env => s.requestAction cfg peer h env
  | .response peer (.handshake h) env => s.responseAction cfg peer h env
  | .identify peer protocols =>
    if cfg.blueprintProtocolName ∈ protocols then
      .update peer ((s.peerManager.getPeerInfo peer).getD .default)
    else .ban peer (some PeerManager.banPeerDuration)
  | .updatePeer peer info => .update peer info
  | .removePeer peer => .remove peer
  | .allowedKeys order keys => .allow order keys
  | .banPeer peer duration => .ban peer duration
  | .nonwhitelistedPeer peer => .refuse peer
  | .handshakeFailure peer => .fail peer
  | .unbanPeer peer => .unban peer
  | .isBanned peer => .checkBan peer
  | _ => .keep

variable (cfg : Config N) (s : Node N) (peer : N.PeerId)

@[simp] lemma peerManager_checkExpiredHandshakes :
    s.checkExpiredHandshakes.peerManager = s.peerManager := rfl

@[simp] lemma peerManager_withPeers (m : PeerManager N) : (s.withPeers m).peerManager = m := rfl

lemma peerManager_checkPeerRateLimit :
    (s.checkPeerRateLimit peer).2.peerManager = s.peerManager := by
  simp only [checkPeerRateLimit]
  split_ifs <;> rfl

section Limited

variable {α : Type} {f : Node N → α} (hf : ∀ s peer, f (s.checkPeerRateLimit peer).2 = f s)

include hf

lemma of_checkPeerRateLimit {s s' : Node N} {peer : N.PeerId} {b : Bool}
    (h : s.checkPeerRateLimit peer = (b, s')) : f s' = f s := by
  rw [← hf s peer, h]

lemma of_handleProtocolRequest (he : ∀ s : Node N, f s.checkExpiredHandshakes = f s) (pl : Bytes)
    (env : MessageEnv) : f (s.handleProtocolRequest cfg peer pl env).1 = f s := by
  unfold handleProtocolRequest
  split_ifs
  · rfl
  · split
    next s' hr => exact of_checkPeerRateLimit hf hr
    next s' hr =>
      split
      · exact of_checkPeerRateLimit hf hr
      · exact (he s').trans (of_checkPeerRateLimit hf hr)
  · rfl

lemma of_handleGossip (src : N.PeerId) (data : Bytes) : f (s.handleGossip src data).1 = f s := by
  unfold handleGossip
  split_ifs
  · split
    next s' hr => exact of_checkPeerRateLimit hf hr
    next s' hr => split <;> exact of_checkPeerRateLimit hf hr
  · rfl

end Limited

lemma handleHandshakeRequest_peerManager (h : Handshake N) (env : MessageEnv) :
    (s.handleHandshakeRequest cfg peer h env).1.peerManager
      = (s.requestAction cfg peer h env).apply s.clock s.peerManager := by
  unfold handleHandshakeRequest requestAction
  by_cases hw : s.peerManager.isKeyWhitelisted h.verificationIdKey
  · simp only [hw, if_true]
    rcases cfg.verifyHandshake env.checkedAtMs h with e | u
    · cases e <;> rfl
    rcases cfg.signHandshake peer ⟨cfg.localPeerId, env.answeredAtMs⟩ with _ | sig
    · rfl
    rcases env.channelOpen with _ | _
    · rfl
    -- the link is written before the answer and once more on completion
    simp [completeHandshake, PeerAction.apply, PeerManager.linkPeerIdToVerificationIdKey, Finmap.insert_insert]
  · simp only [hw, Bool.false_eq_true, if_false]
    rfl

lemma handleHandshakeResponse_peerManager (h : Handshake N) (env : MessageEnv) :
    (s.handleHandshakeResponse cfg peer h env).peerManager
      = (s.responseAction cfg peer h env).apply s.clock s.peerManager := by
  unfold handleHandshakeResponse responseAction
  by_cases hv : s.peerManager.isPeerVerified peer
  · simp only [hv, if_true]
    rfl
  by_cases hw : s.peerManager.isKeyWhitelisted h.verificationIdKey
  · simp only [hv, hw, Bool.false_eq_true, if_false, if_true]
    rcases cfg.verifyHandshake env.checkedAtMs h with e | u
    · cases e <;> rfl
    rfl
  · simp only [hv, hw, Bool.false_eq_true, if_false]
    rfl

lemma connectionEstablished_peerManager (nowMs : ℕ) :
    (s.connectionEstablished cfg peer nowMs).1.peerManager = s.peerManager := by
  simp only [connectionEstablished]
  split_ifs
  · split <;> rfl
  · rfl

lemma connectionClosed_peerManager : (s.connectionClosed peer).peerManager
      = (if s.connections peer = 1 then PeerAction.disconnect peer else .keep).apply s.clock
          s.peerManager := by
  unfold connectionClosed
  rcases hc : s.connections peer with _ | _ | n <;> rfl

/-- **The handlers refine the actions.** Handling an event does to the peer manager what its
action says, and nothing else. -/
theorem handle_peerManager (e : Event N) : (s.handle cfg e).1.peerManager
      = (s.action cfg e).apply s.clock s.peerManager := by
  cases e with
  | connectionEstablished peer nowMs => exact connectionEstablished_peerManager ..
  | connectionClosed peer => exact connectionClosed_peerManager s peer
  | request peer request env =>
    rcases request with h | ⟨_, payload, _⟩
    · exact handleHandshakeRequest_peerManager cfg s peer h env
    exact of_handleProtocolRequest cfg s peer peerManager_checkPeerRateLimit (fun _ => rfl) payload env
  | response peer response env =>
    cases response with
    | handshake h => exact handleHandshakeResponse_peerManager cfg s peer h env
    | success _ _ => rfl
    | error _ =>
      show (if s.peerManager.isPeerVerified peer then s.checkExpiredHandshakes else s).peerManager
        = s.peerManager
      split_ifs <;> rfl
  | gossip source data => exact of_handleGossip s peerManager_checkPeerRateLimit ..
  | identify peer protocols =>
    simp only [handle, identifyReceived, action, peerManager_withPeers]
    split_ifs <;> rfl
  | _ => rfl

def swarm (s : Node N) : (N.PeerId → ℕ) × ℤ := (s.connections, s.clock)

lemma swarm_checkPeerRateLimit : (s.checkPeerRateLimit peer).2.swarm = s.swarm := by
  simp only [checkPeerRateLimit]
  split_ifs <;> rfl

lemma swarm_handleRequest (req : InstanceMessageRequest N) (env : MessageEnv) :
    (s.handleRequest cfg peer req env).1.swarm = s.swarm := by
  cases req with
  | handshake h =>
    simp only [handleRequest, handleHandshakeRequest]
    split_ifs
    · split
      · rfl
      · rfl
      · split <;> rfl
    · split
      · rfl
      · rfl
      · split <;> rfl
    · rfl
  | protocol _ pl _ =>
    exact of_handleProtocolRequest cfg s peer swarm_checkPeerRateLimit (fun _ => rfl) pl env

lemma swarm_handleResponse (resp : InstanceMessageResponse N) (env : MessageEnv) :
    (s.handleResponse cfg peer resp env).swarm = s.swarm := by
  cases resp with
  | handshake h =>
    simp only [handleResponse, handleHandshakeResponse]
    split_ifs
    · rfl
    · split <;> rfl
    · rfl
  | success _ _ => rfl
  | error _ =>
    simp only [handleResponse]
    split_ifs <;> rfl

def connectionsAfter (s : Node N) : Event N → N.PeerId → ℕ
  | .connectionEstablished peer _ =>
    Function.update s.connections peer (s.connections peer + 1)
  | .connectionClosed peer => Function.update s.connections peer (s.connections peer - 1)
  | _ => s.connections

lemma swarm_handle (e : Event N) : (s.handle cfg e).1.swarm = (s.connectionsAfter e, s.clock) := by
  cases e with
  | connectionEstablished peer nowMs =>
    simp only [handle, connectionEstablished]
    split_ifs
    · split <;> rfl
    · rfl
  | connectionClosed peer =>
    simp only [handle, connectionClosed, connectionsAfter]
    rcases hc : s.connections peer with _ | _ | n
    · have hs : update s.connections peer 0 = s.connections := by
        rw [← hc, update_eq_self]
      rw [hs]
      rfl
    · rfl
    · rfl
  | request peer request env => exact swarm_handleRequest ..
  | response peer response env => exact swarm_handleResponse ..
  | gossip source data => exact of_handleGossip s swarm_checkPeerRateLimit ..
  | _ => rfl

end Node

end Gadget.Networking
