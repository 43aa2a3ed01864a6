import Gadget.Rust.Control
import Gadget.Rust.HashMap
import Gadget.Rust.Time

/-!
# Verification keys and the peer manager

A peer proves who it is by a signature that verifies under a `VerificationIdentifierKey`: an
EVM address, whose public key is recovered from the signature, or a public key of the
instance's own key type.

The manager has five tables with a life of their own: the active peers, the peers verified by a
handshake, the peer each verification key is linked to, the banned peers and the whitelist. Broadcast
events are left out, nothing here reads them.
-/

namespace Gadget.Networking

open Rust

structure KeyType where
  Public : Type
  Secret : Type
  Signature : Type
  decEqPublic : DecidableEq Public
  publicToBytes : Public → Bytes
  signatureToBytes : Signature → Bytes
  signatureFromBytes : Bytes → Except String Signature
  publicFromSecret : Secret → Public
  signWithSecret : Secret → Bytes → Except String Signature
  verify : Public → Bytes → Signature → Bool

attribute [instance] KeyType.decEqPublic

structure Secp256k1 where
  RecoveryId : Type
  Signature : Type
  parseRecoveryId : UInt8 → Option RecoveryId
  parseOverflowingSlice : Vector UInt8 64 → Option Signature
  recover : Vector UInt8 32 → Signature → RecoveryId → Option (Vector UInt8 65)
  parseCompressed : Vector UInt8 33 → Option (Vector UInt8 65)

structure MessageRouting (PeerId : Type) where
  messageId : ℕ
  roundId : ℕ
  sender : PeerId
  recipient : Option PeerId

structure ProtocolMessage (PeerId : Type) where
  protocol : String
  routing : MessageRouting PeerId
  payload : Bytes

structure Network where
  PeerId : Type
  decEqPeerId : DecidableEq PeerId
  peerIdToBytes : PeerId → Bytes
  keys : KeyType
  curve : Secp256k1
  keccak256 : Bytes → Vector UInt8 32
  /-- The codec's decoder, with the `Debug` text of its error. -/
  decodeProtocolMessage : Bytes → Except String (ProtocolMessage PeerId)

attribute [instance] Network.decEqPeerId

variable {N : Network}

abbrev Address := Vector UInt8 20

inductive EcdsaVerifyError where
  | badV
  | badRS
  | badSignature

def EcdsaVerifyError.toText : EcdsaVerifyError → String
  | .badV => "Bad V"
  | .badRS => "Bad RS"
  | .badSignature => "Bad Signature"

/-- A network whose keys are numbers, with nothing to recover. -/
abbrev plainNetwork : Network where
  PeerId := ℕ
  decEqPeerId := inferInstance
  peerIdToBytes p := [UInt8.ofNat p]
  keys :=
    { Public := ℕ
      Secret := ℕ
      Signature := Bytes
      decEqPublic := inferInstance
      publicToBytes := fun k => [UInt8.ofNat k]
      signatureToBytes := id
      signatureFromBytes := .ok
      publicFromSecret := id
      signWithSecret := fun k msg => .ok (UInt8.ofNat k :: msg)
      verify := fun k msg signature => signature == UInt8.ofNat k :: msg }
  curve :=
    { RecoveryId := Unit
      Signature := Unit
      parseRecoveryId := fun _ => none
      parseOverflowingSlice := fun _ => none
      recover := fun _ _ _ => none
      parseCompressed := fun _ => none }
  keccak256 _ := Vector.replicate 32 0
  decodeProtocolMessage _ := .error "UnexpectedEof"

def secp256k1EcdsaRecover (N : Network) (sig : Vector UInt8 65) (msg : Vector UInt8 32) :
    Except EcdsaVerifyError (Vector UInt8 64) :=
  let v := sig.get 64
  match N.curve.parseRecoveryId (if v > 26 then v - 27 else v) with
  | none => .error .badV
  | some rid =>
    match N.curve.parseOverflowingSlice (sig.take 64) with
    | none => .error .badRS
    | some s =>
      match N.curve.recover msg s rid with
      | none => .error .badSignature
      | some pubkey => .ok (pubkey.drop 1)

def getAddressFromPubkey (N : Network) (pubkey : Vector UInt8 64) : Address :=
  (N.keccak256 pubkey.toList).drop 12

/-- `let mut a = [0u8; n]; a[..bytes.len()].copy_from_slice(bytes)`: the bytes with zeros after
them, nothing when they do not fit (the slice panics). -/
def copyInto (n : ℕ) (bytes : Bytes) : Option (Vector UInt8 n) :=
  if h : bytes.length ≤ n then
    some ⟨(bytes ++ List.replicate (n - bytes.length) 0).toArray, by simp; omega⟩
  else none

def sliceEndPanic (len n : ℕ) : String :=
  "range end index " ++ toString len ++ " out of range for slice of length " ++ toString n

def getAddressFromCompressedPubkey (N : Network) (pubkey : Bytes) : Except String Address :=
  match copyInto 33 pubkey with
  | none => .error (sliceEndPanic pubkey.length 33)
  | some pk =>
    match N.curve.parseCompressed pk with
    | none => .error "called `Result::unwrap()` on an `Err` value"
    | some decompressed => .ok ((N.keccak256 (decompressed.drop 1).toList).drop 12)

inductive VerificationIdentifierKey (N : Network) where
  | evmAddress (address : Address)
  | instancePublicKey (key : N.keys.Public)
  deriving DecidableEq

def VerificationIdentifierKey.verify (key : VerificationIdentifierKey N) (msg signature : Bytes) :
    Outcome String Bool :=
  match key with
  | .evmAddress address =>
    match copyInto 65 signature with
    | none => .error (.panicked (sliceEndPanic signature.length 65))
    | some sig =>
      match secp256k1EcdsaRecover N sig (N.keccak256 msg) with
      | .error e => .error (.err e.toText)
      | .ok pubkey => .ok (getAddressFromPubkey N pubkey == address)
  | .instancePublicKey publicKey =>
    match N.keys.signatureFromBytes signature with
    | .error e => .error (.err e)
    | .ok signature => .ok (N.keys.verify publicKey msg signature)

inductive AllowedKeys (N : Network) where
  | evmAddresses (addresses : Finset Address)
  | instancePublicKeys (keys : Finset N.keys.Public)

structure KeyOrder (N : Network) where
  addresses : IterOrder Address
  publicKeys : IterOrder N.keys.Public

def AllowedKeys.intoIter (order : KeyOrder N) :
    AllowedKeys N → List (VerificationIdentifierKey N)
  | .evmAddresses addresses => (order.addresses.toList addresses).map .evmAddress
  | .instancePublicKeys keys => (order.publicKeys.toList keys).map .instancePublicKey

structure PeerInfo where
  failures : ℕ

def PeerInfo.default : PeerInfo := ⟨0⟩

structure PeerManager (N : Network) where
  peers : HashMap N.PeerId PeerInfo
  verifiedPeers : Finset N.PeerId
  verificationIdKeysToPeerIds : HashMap (VerificationIdentifierKey N) N.PeerId
  bannedPeers : HashMap N.PeerId (Option ℤ)
  whitelistedKeys : List (VerificationIdentifierKey N)

namespace PeerManager

def new (order : KeyOrder N) (allowedKeys : AllowedKeys N) : PeerManager N where
  peers := ∅
  verifiedPeers := ∅
  verificationIdKeysToPeerIds := ∅
  bannedPeers := ∅
  whitelistedKeys := allowedKeys.intoIter order

variable (m : PeerManager N)

def clearWhitelistedKeys : PeerManager N := { m with whitelistedKeys := [] }

def insertWhitelistedKeys (order : KeyOrder N) (keys : AllowedKeys N) : PeerManager N :=
  { m with whitelistedKeys := m.whitelistedKeys ++ keys.intoIter order }

def updateAllowedKeys (order : KeyOrder N) (keys : AllowedKeys N) : PeerManager N :=
  m.clearWhitelistedKeys.insertWhitelistedKeys order keys

variable (key : VerificationIdentifierKey N)

def isKeyWhitelisted : Bool :=
  m.whitelistedKeys.contains key

variable (peer : N.PeerId)

def updatePeer (info : PeerInfo) : PeerManager N :=
  { m with peers := m.peers.insert peer info }

def removePeer : PeerManager N :=
  { m with peers := m.peers.erase peer }

def getPeerInfo : Option PeerInfo := m.peers.lookup peer

def verifyPeer : PeerManager N :=
  { m with verifiedPeers := insert peer m.verifiedPeers }

def isPeerVerified : Bool := peer ∈ m.verifiedPeers

def banUntil (expiresAt : Option ℤ) : PeerManager N :=
  let m := m.removePeer peer
  { m with bannedPeers := m.bannedPeers.insert peer expiresAt }

variable (now : ℤ)

def banPeer (peer : N.PeerId) (duration : Option ℕ) : PeerManager N :=
  match duration with
  | none => m.banUntil peer none
  | some d =>
    match checkedAdd now d with
    | none => m
    | some expiry => m.banUntil peer (some expiry)

def fromSecs (s : ℕ) : ℕ := s * 10 ^ 9

def banPeerDuration : ℕ := fromSecs (60 * 60)

def banPeerWithDefaultDuration (peer : N.PeerId) : PeerManager N :=
  m.banPeer now peer (some banPeerDuration)

def handleNonwhitelistedPeer (peer : N.PeerId) : PeerManager N :=
  (m.removePeer peer).banPeer now peer none

def unbanPeer : PeerManager N :=
  { m with bannedPeers := m.bannedPeers.erase peer }

def isBanned (peer : N.PeerId) : Bool × PeerManager N :=
  match m.bannedPeers.lookup peer with
  | none => (false, m)
  | some none => (true, m)
  | some (some expiry) => if now ≥ expiry then (false, m.unbanPeer peer) else (true, m)

def linkPeerIdToVerificationIdKey (key : VerificationIdentifierKey N) : PeerManager N :=
  { m with verificationIdKeysToPeerIds := m.verificationIdKeysToPeerIds.insert key peer }

def removePeerIdFromVerificationIdKey : PeerManager N :=
  { m with
    verificationIdKeysToPeerIds :=
      HashMap.retain m.verificationIdKeysToPeerIds fun _ id => id != peer }

def getPeerIdFromVerificationIdKey : Option N.PeerId :=
  m.verificationIdKeysToPeerIds.lookup key

def getWhitelistIndexFromPeerId : Option ℕ :=
  m.whitelistedKeys.findIdx? fun k => m.getPeerIdFromVerificationIdKey k == some peer

def handleHandshakeFailure (peer : N.PeerId) : PeerManager N :=
  match m.getPeerInfo peer with
  | none => m
  | some info =>
    let info : PeerInfo := { info with failures := wrap32 (info.failures + 1) }
    let m := m.updatePeer peer info
    if info.failures ≥ 3 then m.banPeer now peer (some (fromSecs 300)) else m

/-- A whitelisted key leads to the peer. -/
def Resolvable : Prop :=
  ∃ key ∈ m.whitelistedKeys, m.verificationIdKeysToPeerIds.lookup key = some peer

def Banned (peer : N.PeerId) : Prop :=
  ∃ expiry, m.bannedPeers.lookup peer = some expiry ∧ ∀ t ∈ expiry, now < t

variable (m : PeerManager N) (now : ℤ) (peer : N.PeerId)

lemma isKeyWhitelisted_iff : m.isKeyWhitelisted key = true ↔ key ∈ m.whitelistedKeys :=
  List.contains_iff_mem

lemma isPeerVerified_iff : m.isPeerVerified peer = true ↔ peer ∈ m.verifiedPeers :=
  decide_eq_true_iff

lemma getWhitelistIndexFromPeerId_isSome :
    (m.getWhitelistIndexFromPeerId peer).isSome = true ↔ m.Resolvable peer := by
  rw [getWhitelistIndexFromPeerId, List.findIdx?_isSome, List.any_eq_true]
  simp only [beq_iff_eq]
  exact Iff.rfl

lemma isBanned_iff : (m.isBanned now peer).1 = true ↔ m.Banned now peer := by
  unfold isBanned Banned
  rcases m.bannedPeers.lookup peer with _ | exp
  · simp
  rcases exp with _ | t
  · simp
  -- the ban ends at the instant `t` itself
  by_cases ht : now ≥ t
  · simp [ht]
  · simp [ht, not_le.mp ht]

lemma banPeer_some (d : ℕ) : m.banPeer now peer (some d)
      = if now + d < instantBound then m.banUntil peer (some (now + d)) else m := by
  simp only [banPeer, checkedAdd]
  split_ifs <;> rfl

lemma banPeer_eq (d : Option ℕ) :
    m.banPeer now peer d = m ∨ ∃ expiry, m.banPeer now peer d = m.banUntil peer expiry := by
  rcases d with _ | d
  · exact .inr ⟨none, rfl⟩
  rw [banPeer_some]
  split_ifs
  · exact .inr ⟨_, rfl⟩
  · exact .inl rfl

@[simp] lemma verifiedPeers_banPeer (d : Option ℕ) :
    (m.banPeer now peer d).verifiedPeers = m.verifiedPeers := by
  obtain h | ⟨_, h⟩ := m.banPeer_eq now peer d
  · rw [h]
  · rw [h]
    rfl

lemma resolvable_banPeer (q : N.PeerId) (d : Option ℕ) :
    (m.banPeer now peer d).Resolvable q ↔ m.Resolvable q := by
  obtain h | ⟨_, h⟩ := m.banPeer_eq now peer d
  · rw [h]
  · rw [h]
    rfl

def Bites (now : ℤ) : Option ℕ → Prop
  | none => True
  | some d => 0 < d ∧ now + d < instantBound

lemma banned_banPeer_of_ne {peer q : N.PeerId} (hq : q ≠ peer) (d : Option ℕ) :
    (m.banPeer now peer d).Banned now q ↔ m.Banned now q := by
  obtain h | ⟨e, h⟩ := m.banPeer_eq now peer d
  · rw [h]
  · rw [h, Banned, Banned]
    show (∃ expiry, (m.bannedPeers.insert peer e).lookup q = some expiry ∧ _) ↔ _
    rw [Finmap.lookup_insert_of_ne _ hq]

lemma banned_banPeer_self {m : PeerManager N} {now : ℤ} {peer : N.PeerId}
    (hm : ¬ m.Banned now peer) (d : Option ℕ) :
    (m.banPeer now peer d).Banned now peer ↔ Bites now d := by
  have hu : ∀ e, (m.banUntil peer e).Banned now peer ↔ ∀ t ∈ e, now < t := by
    intro e
    show (∃ expiry, (m.bannedPeers.insert peer e).lookup peer = some expiry ∧ _) ↔ _
    simp
  rcases d with _ | d
  · exact (hu none).trans (by simp [Bites])
  rw [banPeer_some, Bites]
  by_cases hfit : now + d < instantBound
  · rw [if_pos hfit, hu]
    simp only [Option.mem_def, Option.some.injEq, forall_eq', hfit, and_true]
    omega
  · rw [if_neg hfit]
    simp [hm, hfit]

lemma Banned.mono {m : PeerManager N} {now now' : ℤ} {peer : N.PeerId}
    (h : m.Banned now' peer) (hle : now ≤ now') : m.Banned now peer := by
  obtain ⟨exp, hl, hexp⟩ := h
  exact ⟨exp, hl, fun t ht => lt_of_le_of_lt hle (hexp t ht)⟩

end PeerManager

end Gadget.Networking
