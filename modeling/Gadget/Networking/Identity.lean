import Gadget.Networking.Handshake

/-!
# Addresses in handshakes

A node that identifies itself by an EVM address derives it in two places. A request carries the hash
of the decompressed key, a response the hash of the key as it is encoded. The verifier compares
with the hash of the key that it recovers from the signature.
-/

namespace Gadget.Networking

open Rust

variable {N : Network}

def signerAddress (N : Network) (publicKey : Vector UInt8 65) : Address :=
  getAddressFromPubkey N (publicKey.drop 1)

/-- The signature, with zeros after it up to 65 bytes, recovers from the hash of the message to a key of the address. -/
def RecoversTo (N : Network) (msg signature : Bytes) (address : Address) : Prop :=
  ∃ sig pubkey, copyInto 65 signature = some sig ∧ secp256k1EcdsaRecover N sig (N.keccak256 msg) = .ok pubkey ∧
    getAddressFromPubkey N pubkey = address

lemma verify_evmAddress_iff {msg signature : Bytes} {address : Address} :
    (VerificationIdentifierKey.evmAddress address : VerificationIdentifierKey N).verify msg signature = .ok true ↔
      RecoversTo N msg signature address := by
  unfold VerificationIdentifierKey.verify RecoversTo
  cases copyInto 65 signature with
  | none => simp
  | some sig => cases hr : secp256k1EcdsaRecover N sig (N.keccak256 msg) <;> simp [hr]

namespace Config

/-- A node with EVM identities, and its key without compression. -/
structure HasKey (cfg : Config N) (publicKey : Vector UInt8 65) : Prop where
  usesAddress : cfg.useAddressForHandshakeVerification = true
  decompresses : ∃ compressed, copyInto 33 (N.keys.publicToBytes (N.keys.publicFromSecret cfg.instanceKeyPair)) =
    some compressed ∧ N.curve.parseCompressed compressed = some publicKey

/-- A handshake with another node, signed by this one. -/
def handshakeWith (cfg : Config N) (key : VerificationIdentifierKey N) (other : Config N) (sentMs : ℕ) :
    Option (Handshake N) :=
  let msg : HandshakeMessage N := ⟨cfg.localPeerId, sentMs⟩
  (cfg.signHandshake other.localPeerId msg).map fun signature => ⟨key, signature, msg⟩

/-- The addresses that the node claims are that of its key, its handshakes are accepted in time, and no other address is
accepted from it. -/
structure Identified (cfg : Config N) (publicKey : Vector UInt8 65) : Prop where
  request : cfg.requestKey = .ok (.evmAddress (signerAddress N publicKey))
  response : cfg.responseKey = .evmAddress (signerAddress N publicKey)
  completes : ∀ other sentMs nowMs h key, cfg.requestKey = .ok key ∨ cfg.responseKey = key →
    cfg.handshakeWith key other sentMs = some h → h.msg.isExpired nowMs HandshakeMessage.maxAge = false →
    other.verifyHandshake nowMs h = .ok ()
  rejects : ∀ other sentMs nowMs h address, cfg.handshakeWith (.evmAddress address) other sentMs = some h →
    other.verifyHandshake nowMs h = .ok () → address = signerAddress N publicKey

variable {cfg : Config N} {publicKey : Vector UInt8 65}

lemma verifyHandshake_iff {other : Config N} {nowMs : ℕ} {h : Handshake N} {address : Address}
    (hkey : h.verificationIdKey = .evmAddress address) :
    other.verifyHandshake nowMs h = .ok () ↔ h.msg.isExpired nowMs HandshakeMessage.maxAge = false ∧
      RecoversTo N (h.msg.toBytes other.localPeerId) (N.keys.signatureToBytes h.signature) address := by
  unfold Config.verifyHandshake
  rw [← verify_evmAddress_iff, ← hkey]
  clear hkey
  split
  · simp [*]
  · rename_i hexp
    simp only [Bool.not_eq_true] at hexp
    rw [hexp, and_iff_right rfl]
    split <;> simp [*]

lemma HasKey.requestKey (hr : cfg.HasKey publicKey) :
    cfg.requestKey = .ok (.evmAddress (signerAddress N publicKey)) := by
  obtain ⟨compressed, hc, hp⟩ := hr.decompresses
  unfold Config.requestKey getAddressFromCompressedPubkey
  rw [if_pos hr.usesAddress, hc]
  simp only [hp]
  rfl

/-- The signatures of the node's handshakes recover to its address. -/
def SignsRecoverably (cfg : Config N) (publicKey : Vector UInt8 65) : Prop :=
  ∀ (other : Config N) sentMs signature,
    cfg.signHandshake other.localPeerId ⟨cfg.localPeerId, sentMs⟩ = some signature →
    RecoversTo N ((⟨cfg.localPeerId, sentMs⟩ : HandshakeMessage N).toBytes other.localPeerId)
      (N.keys.signatureToBytes signature) (signerAddress N publicKey)

lemma recoversTo_inj {msg signature : Bytes} {address address' : Address} (h : RecoversTo N msg signature address)
    (h' : RecoversTo N msg signature address') : address = address' := by
  obtain ⟨sig, pubkey, hc, hr, rfl⟩ := h
  obtain ⟨_, _, hc', hr', rfl⟩ := h'
  cases hc.symm.trans hc'
  cases hr.symm.trans hr'
  rfl

variable (keccak256 : Bytes → Vector UInt8 32)

/-- Signatures are the hash of the message, by a hash of the key type, without a recovery id. The recovered key is that
of the signer if the verifier has the same hash. -/
abbrev evmNetwork (hash : Bytes → Vector UInt8 32) : Network :=
  { plainNetwork with
    keys :=
      { Public := Unit
        Secret := Unit
        Signature := Vector UInt8 32
        decEqPublic := inferInstance
        publicToBytes := fun _ => List.replicate 33 2
        signatureToBytes := fun signature => signature.toList ++ List.replicate 32 0
        signatureFromBytes := fun _ => .ok (Vector.replicate 32 0)
        publicFromSecret := id
        signWithSecret := fun _ msg => .ok (hash msg)
        verify := fun _ _ _ => true }
    curve :=
      { RecoveryId := Unit
        Signature := Vector UInt8 64
        parseRecoveryId := fun _ => some ()
        parseOverflowingSlice := some
        recover := fun msg signature _ =>
          some (Vector.replicate 65 (if msg.toList = signature.toList.take 32 then 4 else 5))
        parseCompressed := fun _ => some (Vector.replicate 65 4) }
    keccak256 := keccak256 }

abbrev evmConfig (hash : Bytes → Vector UInt8 32) (p : ℕ) : Config (evmNetwork keccak256 hash) :=
  ⟨p, (), true, "/blueprint/1.0.0"⟩

abbrev zeroHash (_ : Bytes) : Vector UInt8 32 := Vector.replicate 32 0

abbrev firstHash (bytes : Bytes) : Vector UInt8 32 := Vector.replicate 32 (bytes.headD 0)

end Config

/-! ## Keys and signatures out of a peer's bytes

The BN254 key type wraps points and scalars of arkworks, whose decoder answers with an error on
bytes that it does not accept. `from_bytes` unwraps that answer, and both `BytesEncoding` and `serde`
go through it. -/

open VerificationIdentifierKey

structure ArkType where
  T : Type
  deserializeCompressed : Bytes → Except String T

variable {N : Network} {Msg : Type} (A : ArkType) (bytes : Bytes)

def ArkType.Accepts : Prop := ∃ elt, A.deserializeCompressed bytes = .ok elt

/-- `from_bytes`, also as the wrapped types have it (`ArkBlsBn254Public` around `G2Affine`,
`ArkBlsBn254Secret` around `Fr`, `ArkBlsBn254Signature` around `G1Affine`). -/
def fromBytes : Outcome String A.T :=
  orPanic ((A.deserializeCompressed bytes).mapError ("called `Result::unwrap()` on an `Err` value: " ++ ·))

def deserialize (bytes : Except String Bytes) : Outcome String A.T := do fromBytes A (← orErr bytes)

/-- What bincode makes of a payload: the byte strings that it hands to the key type, in the order in
which it reads them until it is done or fails, and its own answer once they are taken. -/
structure Codec (A : ArkType) (Msg : Type) where
  fields : Bytes → List Bytes
  finish : Bytes → List A.T → Except String Msg

def decodeMessage {A : ArkType} (codec : Codec A Msg) (payload : Bytes) : Outcome String Msg := do
  let parts ← (codec.fields payload).mapM fun field => deserialize A (.ok field)
  orErr (codec.finish payload parts)

def VerificationIdentifierKey.verifyWith (fromBytes : Bytes → Outcome String N.keys.Signature)
    (key : VerificationIdentifierKey N) (msg signature : Bytes) : Outcome String Bool :=
  match key with
  | .evmAddress _ => key.verify msg signature
  | .instancePublicKey publicKey => return N.keys.verify publicKey msg (← fromBytes signature)

lemma noPanic_fromBytes_iff : NoPanic (fromBytes A bytes) ↔ A.Accepts bytes := by
  unfold fromBytes ArkType.Accepts
  rcases A.deserializeCompressed bytes with e | elt
  · exact iff_of_false id (by simp)
  exact iff_of_true trivial ⟨elt, rfl⟩

lemma noPanic_mapM_iff (fs : List Bytes) :
    NoPanic (fs.mapM fun field => deserialize A (.ok field)) ↔ ∀ field ∈ fs, A.Accepts field := by
  induction fs with
  | nil => exact iff_of_true trivial (by simp)
  | cons field fs ih =>
    rw [List.mapM_cons, List.forall_mem_cons, ← ih, ← noPanic_fromBytes_iff]
    show NoPanic (fromBytes A field >>= _) ↔ _
    unfold fromBytes
    rcases A.deserializeCompressed field with e | elt
    · exact iff_of_false id fun h => h.1
    refine Iff.trans ?_ (and_iff_right trivial).symm
    exact noPanic_bind (fs.mapM fun field => deserialize A (.ok field)) fun _ => trivial

lemma noPanic_verify_evmAddress_iff (addr : Address) (msg sig : Bytes) :
    NoPanic ((evmAddress addr : VerificationIdentifierKey N).verify msg sig) ↔ sig.length ≤ 65 := by
  unfold verify copyInto
  split_ifs with hf
  · dsimp only
    refine iff_of_true ?_ hf
    split <;> trivial
  · exact iff_of_false id hf

/-- **Peer input and panics.** The decoders of the BN254 types, and the decoding of an aggregation
message with them, answer exactly on bytes that arkworks accepts. The verification of a handshake
answers exactly on signatures of at most 65 bytes for an address, and for an instance key of that type
exactly on signatures that arkworks accepts. -/
theorem noPanic_peerInput_iff (codec : Codec A Msg) (bytes msg : Bytes) (address : Address)
    (publicKey : N.keys.Public) (wrap : A.T → N.keys.Signature) :
    (NoPanic (fromBytes A bytes) ↔ A.Accepts bytes) ∧
    (NoPanic (deserialize A (.ok bytes)) ↔ A.Accepts bytes) ∧
    (NoPanic (decodeMessage codec bytes) ↔ ∀ field ∈ codec.fields bytes, A.Accepts field) ∧
    (NoPanic ((VerificationIdentifierKey.evmAddress address).verifyWith (N := N)
        (fun b => wrap <$> fromBytes A b) msg bytes) ↔ bytes.length ≤ 65) ∧
    (NoPanic ((VerificationIdentifierKey.instancePublicKey publicKey).verifyWith (N := N)
        (fun b => wrap <$> fromBytes A b) msg bytes) ↔ A.Accepts bytes) := by
  have hd := noPanic_bind ((codec.fields bytes).mapM fun field => deserialize A (.ok field))
    fun parts => noPanic_orErr (codec.finish bytes parts)
  refine ⟨noPanic_fromBytes_iff A bytes, noPanic_fromBytes_iff A bytes,
    hd.trans (noPanic_mapM_iff A _), noPanic_verify_evmAddress_iff address msg bytes, ?_⟩
  rw [← noPanic_fromBytes_iff]
  show NoPanic (wrap <$> fromBytes A bytes >>= _) ↔ _
  rcases fromBytes A bytes with e | elt
  · cases e <;> exact Iff.rfl
  exact Iff.rfl

abbrev thirtyTwoBytes : ArkType :=
  ⟨Bytes, fun bytes => if bytes.length = 32 then .ok bytes else .error "UnexpectedEof"⟩

theorem short_and_long_bytes_panic :
    ¬ NoPanic (fromBytes thirtyTwoBytes []) ∧ ¬ NoPanic (deserialize thirtyTwoBytes (.ok [])) ∧
    ¬ NoPanic (decodeMessage ⟨fun payload => [payload], fun _ parts => .ok parts⟩ [] :
        Outcome String (List thirtyTwoBytes.T)) ∧
    ¬ NoPanic ((VerificationIdentifierKey.evmAddress (Vector.replicate 20 0)).verify (N := plainNetwork) []
        (List.replicate 66 0)) :=
  ⟨id, id, id, id⟩

end Gadget.Networking
