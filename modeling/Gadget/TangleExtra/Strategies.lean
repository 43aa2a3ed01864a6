import Gadget.AggSigGossip.ResultConsistency
import Gadget.AggregationSvc.Soundness
import Gadget.TangleExtra.TangleArg
import Mathlib.Algebra.Algebra.Bilinear
import Mathlib.Algebra.Field.ZMod

/-!
# Aggregates for the chain

The contract verifies an aggregate with `verify_tangle`, on `tangle_signing_message`. Three ways
lead to an aggregate. `AggregatingConsumer` signs that message with that algorithm. The strategies
of `AggregationStrategy`, over an aggregation service and over gossip, sign the historical message,
the second one its hash, with the other map to the curve.
-/

namespace Gadget.TangleExtra

open Rust AggregationSvc AggregationSvc.Service Lib.Program Option Except
open AggSigGossip (AggregatableSignature AggregationResult ProtocolConfig
  SignatureAggregationProtocol SignatureWeight)
open GossipPrimitives (Hashing)

/-- The curve: two groups over the scalars with a pairing that is zero at zero only, the generator
of the second group, the two maps of messages to points, and the compressed encodings. -/
structure Curve (F G₁ G₂ Gt : Type) [Field F] [AddCommGroup G₁] [AddCommGroup G₂]
    [AddCommGroup Gt] [Module F G₁] [Module F G₂] [Module F Gt] where
  pairing : G₁ →ₗ[F] G₂ →ₗ[F] Gt
  generator : G₂
  hashToCurve : Bytes → G₁
  hashToCurveTangle : Bytes → Option G₁
  encode₁ : G₁ → Bytes
  decode₁ : Bytes → Except String G₁
  encode₂ : G₂ → Bytes
  decode₂ : Bytes → Except String G₂
  nondegenerate : ∀ p q, pairing p q = 0 → p = 0 ∨ q = 0
  hashToCurve_ne_zero : ∀ message, hashToCurve message ≠ 0
  hashToCurveTangle_ne_zero : ∀ message, hashToCurveTangle message ≠ some 0
  decode₁_encode₁ : ∀ p, decode₁ (encode₁ p) = .ok p
  decode₂_encode₂ : ∀ p, decode₂ (encode₂ p) = .ok p

variable {F G₁ G₂ Gt : Type} [Field F] [AddCommGroup G₁] [AddCommGroup G₂] [AddCommGroup Gt]
  [Module F G₁] [Module F G₂] [Module F Gt] [DecidableEq G₁] [DecidableEq G₂] [DecidableEq Gt]

namespace Curve

section

variable (C : Curve F G₁ G₂ Gt)

omit [DecidableEq G₁] [DecidableEq G₂] [DecidableEq Gt] in
def sign (sk : F) (message : Bytes) : G₁ := sk • C.hashToCurve message

def verify (publicKey : G₂) (message : Bytes) (signature : G₁) : Bool :=
  C.pairing (C.hashToCurve message) publicKey = C.pairing signature C.generator

def signTangle (sk : F) (message : Bytes) : Except String G₁ := do
  let point ← okOr (C.hashToCurveTangle message)
    "Tangle hash-to-curve did not find a point within 256 attempts"
  if sk • point = 0 then
    throw "Tangle signatures and public keys must not be identity points"
  return sk • point

def verifyTangle (publicKey : G₂) (message : Bytes) (signature : G₁) : Bool :=
  if signature = 0 ∨ publicKey = 0 then false
  else
    match C.hashToCurveTangle message with
    | none => false
    | some point => C.pairing point publicKey = C.pairing signature C.generator

def aggregate (signatures : List G₁) (publicKeys : List G₂) : Except String (G₁ × G₂) :=
  if signatures = [] ∨ publicKeys = [] then
    .error "Invalid input: No signatures or public keys provided"
  else if signatures.length ≠ publicKeys.length then
    .error "Invalid input: Mismatched number of signatures and public keys"
  else .ok (signatures.foldl (· + ·) 0, publicKeys.foldl (· + ·) 0)

abbrev bn254 : Bn254 where
  Signature := G₁
  PublicKey := G₂
  serializeSignature p := .ok (C.encode₁ p)
  deserializeSignature := C.decode₁
  serializePublicKey p := .ok (C.encode₂ p)
  deserializePublicKey := C.decode₂
  verify := C.verify
  verifyTangle := C.verifyTangle
  aggregate := aggregate
  signature_roundTrip p := ⟨_, rfl, C.decode₁_encode₁ p⟩
  publicKey_roundTrip p := ⟨_, rfl, C.decode₂_encode₂ p⟩

abbrev arkBlsBn254 : AggregatableSignature where
  Secret := F
  Public := G₂
  Signature := G₁
  AggregatedSignature := G₁
  AggregatedPublic := G₂
  signWithSecret sk message := (.ok (C.sign sk message), sk)
  verify := C.verify
  aggregate := aggregate
  verifyAggregate message signature publicKey := .ok (C.verify publicKey message signature)

/-- The point of a message. -/
def point : Bn254SignatureScheme → Bytes → Option G₁
  | .arkworksSha256, message => some (C.hashToCurve message)
  | .tangleKeccak256, message => C.hashToCurveTangle message

end

variable {C : Curve F G₁ G₂ Gt} {scheme : Bn254SignatureScheme} {message : Bytes}

variable {pk : G₂} {sig p : G₁} {sigs : List G₁} {pks : List G₂}

omit [DecidableEq G₁] [DecidableEq G₂] [DecidableEq Gt] in
lemma point_ne_zero (h : C.point scheme message = some p) : p ≠ 0 := by
  rintro rfl
  rcases scheme with _ | _
  · exact C.hashToCurve_ne_zero message (some.inj h)
  exact C.hashToCurveTangle_ne_zero message h

lemma eq_of_verifyWith (h : C.bn254.verifyWith scheme pk message sig = true) :
    ∃ p, C.point scheme message = some p ∧ C.pairing p pk = C.pairing sig C.generator := by
  rcases scheme with _ | _
  · exact ⟨_, rfl, of_decide_eq_true h⟩
  have ht : C.verifyTangle pk message sig = true := h
  unfold verifyTangle at ht
  split at ht
  · cases ht
  split at ht
  · cases ht
  · rename_i p hp
    exact ⟨p, hp, of_decide_eq_true ht⟩

omit [DecidableEq G₁] [DecidableEq G₂] [DecidableEq Gt] in
lemma foldl_pairing (hs : C.pairing p pk = C.pairing sig C.generator)
    (h : List.Forall₂ (fun sig pk => C.pairing p pk = C.pairing sig C.generator) sigs pks) :
    C.pairing p (pks.foldl (· + ·) pk) = C.pairing (sigs.foldl (· + ·) sig) C.generator := by
  induction h generalizing sig pk with
  | nil => exact hs
  | cons hh _ ih =>
    apply ih
    rw [map_add, map_add, LinearMap.add_apply, hs, hh]

/-- An aggregate of verified signatures is on the point of the message. -/
lemma aggregate_pairing (hagg : aggregate sigs pks = .ok (sig, pk))
    (h : List.Forall₂ (fun sig pk => C.bn254.verifyWith scheme pk message sig = true) sigs pks) :
    ∃ p, C.point scheme message = some p ∧ C.pairing p pk = C.pairing sig C.generator := by
  unfold aggregate at hagg
  split at hagg
  · cases hagg
  rename_i hne
  split at hagg
  · cases hagg
  cases hagg
  -- the first signature shows that the message has a point
  obtain ⟨p, hp⟩ : ∃ p, C.point scheme message = some p := by
    rcases h with _ | ⟨hh, _⟩
    · exact absurd (.inl rfl) hne
    obtain ⟨p, hp, -⟩ := eq_of_verifyWith hh
    exact ⟨p, hp⟩
  refine ⟨p, hp, foldl_pairing (by simp) (h.imp fun sig pk hv => ?_)⟩
  obtain ⟨p', hp', heq⟩ := eq_of_verifyWith hv
  rw [hp] at hp'
  cases hp'
  exact heq

/-- An aggregate on a point passes on the messages of this point. -/
lemma verifyTangle_iff (hp : C.point scheme message = some p)
    (heq : C.pairing p pk = C.pairing sig C.generator) (tmsg : Bytes) :
    C.verifyTangle pk tmsg sig = true ↔
      pk ≠ 0 ∧ C.hashToCurveTangle tmsg = C.point scheme message := by
  rw [hp, verifyTangle]
  by_cases hpk : pk = 0
  · simp [hpk]
  have hsig : sig ≠ 0 := by
    rintro rfl
    rw [map_zero, LinearMap.zero_apply] at heq
    exact (C.nondegenerate p pk heq).elim (point_ne_zero hp) hpk
  rw [if_neg (not_or.mpr ⟨hsig, hpk⟩), ← heq]
  rcases C.hashToCurveTangle tmsg with _ | q
  · simp
  simp only [decide_eq_true_eq, some.injEq, ne_eq, hpk, not_false_eq_true, true_and]
  refine ⟨fun hpa => ?_, fun hqp => by rw [hqp]⟩
  have hz : C.pairing (q - p) pk = 0 := by
    rw [map_sub, LinearMap.sub_apply, hpa, sub_self]
  exact sub_eq_zero.mp ((C.nondegenerate _ _ hz).resolve_right hpk)

end Curve

/-- The job whose output is signed. -/
structure CallOutput where
  serviceId : ℕ
  callId : ℕ
  output : Bytes

/-- What the contract's message depends on besides the job. -/
structure Domain where
  chainId : ℕ
  tangleAddress : ℕ
  operators : ℕ → List ℕ
  keccak256 : Bytes → Bytes

variable (domain : Domain) (job : CallOutput)

/-- The historical message. -/
def Domain.createSigningMessage : Bytes :=
  toBeBytes 8 job.serviceId ++ toBeBytes 8 job.callId ++ domain.keccak256 job.output

/-- The exact message verified by the contract: seven words, of which the first is the offset of
the tag, and the tag. -/
def Domain.tangleSigningMessage : Bytes :=
  let operators := domain.operators job.serviceId
  abiWord (7 * 32) ++ abiWord domain.chainId ++ abiWord domain.tangleAddress ++
    abiWord job.serviceId ++ abiWord job.callId ++
    domain.keccak256 (abiWord 32 ++ abiWord operators.length ++ operators.flatMap abiWord) ++
    domain.keccak256 job.output ++ abiStringBody "TANGLE_BLS_AGG_v1".toList

/-- Who initializes the tasks of a service. -/
inductive Client where
  | strategy
  | consumer

/-- The message and the algorithm of a client. -/
def Client.context : Client → Bytes × Bn254SignatureScheme
  | .strategy => (domain.createSigningMessage job, .arkworksSha256)
  | .consumer => (domain.tangleSigningMessage job, .tangleKeccak256)

variable (client : Client)

def Client.Inits (domain : Domain) (a : InitArgs) : Prop :=
  (a.message, a.signatureScheme) = client.context domain ⟨a.serviceId, a.callId, a.output⟩

abbrev Client.Call (domain : Domain) :=
  { call : Service.Call // ∀ a, call = .init a → client.Inits domain a }

lemma Client.context_invariant {B : Bn254} (client : Client) (domain : Domain)
    (cfg : ServiceConfig) :
    CallInvariant cfg (client.Inits domain) fun ts : Tasks B => ts.WellFormed ∧
      ∀ id t, ts.lookup id = some t → (t.message, t.signatureScheme)
          = client.context domain ⟨t.serviceId, t.callId, t.output⟩ := by
  apply pointwise_invariant
  · intro a now t ha ht
    obtain ⟨e, rfl⟩ := TaskState.withMessageConfig_eq_some ht
    exact ha
  · intro t t' i sig pk now h _ hadd
    obtain ⟨-, -, -, rfl⟩ := TaskState.addSignature_eq_ok_iff.mp hadd
    exact h
  · intro t t' hs h
    rw [hs.data]
    exact h
  · exact fun t now h => h

noncomputable def Client.run (domain : Domain) (B : Bn254) (config : ServiceConfig)
    (events : List (Event (client.Call domain) StepEnv)) : Service B :=
  (events.foldl (System.step fun call => call.1.code B config) ⟨new, none⟩).state

/-- The contract verifies the aggregate. -/
def Curve.accepts (C : Curve F G₁ G₂ Gt) (domain : Domain) (r : AggregatedResultResponse) : Bool :=
  match C.decode₁ r.aggregatedSignature, C.decode₂ r.aggregatedPubkey with
  | .ok signature, .ok publicKey =>
    C.verifyTangle publicKey (domain.tangleSigningMessage ⟨r.serviceId, r.callId, r.output⟩)
      signature
  | _, _ => false

/-- A service that verifies on submission starts empty, one kind of client initializes its tasks, and anybody submits
signatures. An aggregated result, whenever it is read, is accepted exactly when its key is not zero and the message of
the client has the point of the message of the contract. For the consumer the two are the same message and the same map. -/
lemma Client.accepted_iff (C : Curve F G₁ G₂ Gt) (client : Client) (domain : Domain)
    (config : ServiceConfig) (hverify : config.verifyOnSubmit = true)
    (events : List (Event (client.Call domain) StepEnv)) (id : TaskId) (now : ℤ)
    {resp : AggregatedResultResponse}
    (hresp : (client.run domain C.bn254 config events).getAggregatedResult id now = some resp) :
    let job : CallOutput := ⟨resp.serviceId, resp.callId, resp.output⟩
    C.accepts domain resp = true ↔ C.decode₂ resp.aggregatedPubkey ≠ .ok 0 ∧
      C.hashToCurveTangle (domain.tangleSigningMessage job)
        = C.point (client.context domain job).2 (client.context domain job).1 := by
  have hv := System.invariant _ (I := fun s => s.tasks.Verified)
    (fun call s hs => (verified_invariant hverify).code call.1 s hs)
    (s := (new : Service C.bn254)) pointwise_new events
  have hc := System.invariant _ (I := fun s => s.tasks.WellFormed ∧ ∀ id t, _)
    (fun call s hs => (client.context_invariant (B := C.bn254) domain config).code call.2 s hs)
    (s := (new : Service C.bn254)) pointwise_new events
  obtain ⟨t, ht, -, -, sig, pk, hagg, hsig, hpk, hjob⟩ := getAggregatedResult_eq hresp
  obtain ⟨p, hp, heq⟩ := Curve.aggregate_pairing hagg (hv.2 id t ht).pairs
  intro job
  have hcl : client.context domain job = (t.message, t.signatureScheme) := by
    simp only [Prod.mk.injEq] at hjob
    rw [hc.2 id t ht, ← hjob.1, ← hjob.2.1, ← hjob.2.2]
  rw [Curve.accepts, ← ok.inj hsig, ← ok.inj hpk, C.decode₁_encode₁,
    C.decode₂_encode₂, hcl, ne_eq, ok.injEq]
  exact Curve.verifyTangle_iff hp heq _

noncomputable def Curve.three : Curve (ZMod 3) (ZMod 3) (ZMod 3) (ZMod 3) where
  pairing := LinearMap.mul (ZMod 3) (ZMod 3)
  generator := 1
  hashToCurve _ := 1
  hashToCurveTangle _ := some 2
  encode₁ p := [UInt8.ofNat p.val]
  decode₁ bytes := .ok (bytes.headD 0).toNat
  encode₂ p := [UInt8.ofNat p.val]
  decode₂ bytes := .ok (bytes.headD 0).toNat
  nondegenerate := by decide
  hashToCurve_ne_zero _ := by decide
  hashToCurveTangle_ne_zero _ := by decide
  decode₁_encode₁ := by decide
  decode₂_encode₂ := by decide

def Domain.plain : Domain := ⟨1, 1, fun _ => [], fun _ => []⟩

noncomputable def Client.signedRun (signature : ZMod 3) :
    List (Event (client.Call .plain) StepEnv) :=
  let context := client.context .plain ⟨1, 1, []⟩
  [.acquire ⟨.init ⟨1, 1, [], context.1, context.2, 1, ⟨.count 1, none, none⟩⟩, by
    intro a h
    cases h
    rfl⟩] ++ List.replicate 6 (.work calm) ++
  [.acquire ⟨.submit ⟨1, 1, 0, [], Curve.three.encode₁ signature, Curve.three.encode₂ 1⟩, by
    intro a h
    cases h⟩] ++ List.replicate 10 (.work calm)

noncomputable def Client.answer (signature : ZMod 3) : Option AggregatedResultResponse :=
  (client.run .plain Curve.three.bn254 .default (client.signedRun signature)).getAggregatedResult
    ⟨1, 1⟩ 0

/-- `aggregate_via_p2p`, from the result of the protocol on. -/
def aggregateViaP2p {PeerId : Type} [DecidableEq PeerId] (C : Curve F G₁ G₂ Gt) (job : CallOutput)
    (participantPublicKeys : HashMap PeerId G₂) (order : IterOrder PeerId)
    (result : AggregationResult C.arkBlsBn254 PeerId) : Except String AggregatedResultResponse := do
  let sortedPeers := order.toList participantPublicKeys.keys
  let signers := (sortedPeers.zipIdx.filter fun peer => peer.1 ∈ result.contributors).map Prod.snd
  let nonSigners :=
    (sortedPeers.zipIdx.filter fun peer => peer.1 ∉ result.contributors).map Prod.snd
  let signerPubkeys := (sortedPeers.filter (· ∈ result.contributors)).filterMap
    participantPublicKeys.lookup
  let aggregatedPubkey ← match signerPubkeys with
    | [publicKey] => pure publicKey
    | _ => do
      -- the sum of the signatures is not used
      let dummySigs := signerPubkeys.map fun _ => result.signature
      let aggregated ← Curve.aggregate dummySigs signerPubkeys
      pure aggregated.2
  return {
    serviceId := job.serviceId
    callId := job.callId
    output := job.output
    signerBitmap := signers.foldl (fun bitmap idx => bitmap ||| (1#256 <<< idx)) 0
    nonSignerIndices := nonSigners
    aggregatedSignature := C.encode₁ result.signature
    aggregatedPubkey := C.encode₂ aggregatedPubkey }

/-- The message that the operators sign over gossip. -/
def Domain.p2pMessage [Hashing] : Bytes := (Hashing.blake3_256 (domain.createSigningMessage job)).toList

noncomputable def gossipAnswer : Option AggregatedResultResponse :=
  let _ : Hashing := ⟨fun _ => Vector.replicate 32 0⟩
  let job : CallOutput := ⟨1, 1, []⟩
  let message := Domain.plain.p2pMessage job
  let keys : HashMap ℕ (ZMod 3) := HashMap.collect [(0, 1)]
  let protocol : SignatureAggregationProtocol Curve.three.arkBlsBn254 ℕ :=
    .new ⟨⟨0, (1 : ZMod 3), []⟩⟩ ⟨fun _ => 1, 1, 1⟩ keys
  let env : AggSigGossip.Env ℕ := ⟨0, .ok (), .ok (), .alone 0⟩
  ((protocol.signAndBroadcast message env).2.buildResult message env).toOption.join.bind fun r =>
    (aggregateViaP2p Curve.three job keys (.alone 0) r).toOption

end Gadget.TangleExtra
