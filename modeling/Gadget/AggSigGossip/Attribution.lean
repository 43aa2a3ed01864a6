import Gadget.AggSigGossip.Protocol

/-!
# Who counts as a signer

A share names its signer, but it is recorded for the peer that sent it. Every recorded
signer of a message has signed it exactly as long as each share that gets recorded comes
from a peer whose own signature on the message the node has also handled.
-/

namespace Gadget.AggSigGossip

open Rust GossipPrimitives Lib.Run SignatureAggregationProtocol

variable {S : AggregatableSignature} {PeerId : Type} [DecidableEq PeerId] [Hashing]

structure Delivery (S : AggregatableSignature) (PeerId : Type) where
  message : ProtocolMessage S PeerId
  env : Env PeerId

def SignedBy (keys : HashMap PeerId S.Public) (q : PeerId) (m : Bytes) (sig : S.Signature) : Prop :=
  ∃ pk, keys.lookup q = some pk ∧ S.verify pk m sig = true

structure History (S : AggregatableSignature) (PeerId : Type) where
  protocol : SignatureAggregationProtocol S PeerId
  own : Option (Bytes × S.Signature)
  handled : List (Delivery S PeerId)

namespace History

def start (config : ProtocolConfig S PeerId) (weightScheme : SignatureWeight PeerId)
    (keys : HashMap PeerId S.Public) (message : Bytes) (env : Env PeerId) :
    History S PeerId where
  protocol := ((SignatureAggregationProtocol.new config weightScheme keys).start message env).2
  own :=
    match (S.signWithSecret config.networkHandle.localSigningKey message).1 with
    | .ok sig => some (message, sig)
    | .error _ => none
  handled := []

variable (h : History S PeerId)

variable (d : Delivery S PeerId)

def step : History S PeerId where
  protocol := (h.protocol.handleMessage d.message d.env).2
  own := h.own
  handled := h.handled ++ [d]

def Carried (m : Bytes) (sig : S.Signature) : Prop :=
  ∃ d ∈ h.handled, ∃ signer, d.message.payload = .ok (.signatureShare signer sig m)

/-- The node has seen a signature of the peer on the message: on a handled share, or its own
when the peer is the node itself. -/
def Vouched (q : PeerId) (m : Bytes) : Prop :=
  (∃ sig, h.Carried m sig ∧ SignedBy h.protocol.participantPublicKeys q m sig) ∨
  (q = h.protocol.localPeerId ∧
    ∃ sig, h.own = some (m, sig) ∧ SignedBy h.protocol.participantPublicKeys q m sig)

/-- Each recorded signer of a message is vouched for on it. -/
def Attributed : Prop :=
  ∀ m, ∀ q ∈ h.protocol.signersOf m, h.Vouched q m

/-- The share that this call records, if it records one, comes from a peer vouched for on
its message once the call is handled. -/
def SenderVouched : Prop :=
  ∀ signer sig m, d.message.payload = .ok (.signatureShare signer sig m) →
    signer ∉ h.protocol.signersOf m →
    SignedBy h.protocol.participantPublicKeys signer m sig →
    (h.step d).Vouched d.message.routing.sender m

lemma step_frame :
    (h.step d).protocol.participantPublicKeys = h.protocol.participantPublicKeys ∧
    (h.step d).protocol.localPeerId = h.protocol.localPeerId := by
  unfold step handleMessage
  rcases d.message.payload with e | msg
  · exact ⟨rfl, rfl⟩
  cases msg with
  | signatureShare sg sig m =>
    rcases h.protocol.handleSignatureShare_cases d.message.routing.sender sg sig m d.env
      with ⟨-, hs⟩ | ⟨-, -, config, hl, hs⟩ | ⟨-, -, config, cache, hl, hs⟩ <;> dsimp only <;> rw [hs]
    · exact ⟨rfl, rfl⟩
    · exact ⟨rfl, hl⟩
    · exact ⟨rfl, hl⟩
  | maliciousReport op evd =>
    rcases h.protocol.handleMaliciousReport_cases op evd with hs | ⟨-, hs⟩ <;>
    · dsimp only
      rw [hs]
      exact ⟨rfl, rfl⟩
  | protocolComplete result =>
    rcases h.protocol.handleProtocolComplete_cases result d.env
      with ⟨-, hs⟩ | ⟨-, -, hs⟩ | ⟨-, -, hs⟩ <;>
    · dsimp only
      rw [hs]
      exact ⟨rfl, rfl⟩

lemma mem_signersOf_handleSignatureShare (p : SignatureAggregationProtocol S PeerId)
    (snd signer : PeerId) (sig : S.Signature) (m' : Bytes) (env : Env PeerId) (m : Bytes)
    (q : PeerId) :
    q ∈ (p.handleSignatureShare snd signer sig m' env).2.signersOf m ↔
      q ∈ p.signersOf m ∨ (q = snd ∧ m = m' ∧ signer ∉ p.signersOf m' ∧
        SignedBy p.participantPublicKeys signer m' sig) := by
  rcases p.handleSignatureShare_cases snd signer sig m' env
    with ⟨hse, hs⟩ | ⟨-, hv, config, -, hs⟩ | ⟨hnew, hv, config, cache, -, hs⟩
  · rw [hs]
    exact (or_iff_left fun h => h.2.2.1 hse).symm
  · have hnot : ¬ SignedBy p.participantPublicKeys signer m' sig := by
      intro hsig
      rw [(verifySignature_iff _ _ _ _).mpr hsig] at hv
      cases hv
    rw [hs]
    exact (or_iff_left fun h => hnot h.2.2.2).symm
  · have hsi : SignedBy p.participantPublicKeys signer m' sig := (verifySignature_iff _ _ _ _).mp hv
    have hmem : q ∈ (p.addSignature snd sig m').signersOf m
        ↔ q ∈ p.signersOf m ∨ (q = snd ∧ m = m') := p.mem_signersOf_addSignature _ q sig m' m
    rw [hs]
    refine hmem.trans (or_congr_right (and_congr_right fun _ => ?_))
    exact (and_iff_left ⟨hnew, hsi⟩).symm

lemma mem_signersOf_step (m : Bytes) (q : PeerId) :
    q ∈ (h.step d).protocol.signersOf m ↔ q ∈ h.protocol.signersOf m ∨
      (q = d.message.routing.sender ∧ ∃ sg sig, d.message.payload = .ok (.signatureShare sg sig m) ∧
        sg ∉ h.protocol.signersOf m ∧
        SignedBy h.protocol.participantPublicKeys sg m sig) := by
  unfold step handleMessage
  rcases hp : d.message.payload with e | msg
  · simp
  cases msg with
  | signatureShare sg sig m' =>
    refine (mem_signersOf_handleSignatureShare _ _ _ _ _ _ _ _).trans
      (or_congr_right (and_congr_right fun _ => ⟨?_, ?_⟩))
    · rintro ⟨rfl, hnew, hsi⟩
      exact ⟨sg, sig, rfl, hnew, hsi⟩
    · rintro ⟨sg', sig', heq, hnew, hsi⟩
      cases heq
      exact ⟨rfl, hnew, hsi⟩
  | maliciousReport op evd =>
    rcases h.protocol.handleMaliciousReport_cases op evd with hs | ⟨-, hs⟩ <;>
    · dsimp only
      rw [hs]
      simp [signersOf]
  | protocolComplete result =>
    rcases h.protocol.handleProtocolComplete_cases result d.env
      with ⟨-, hs⟩ | ⟨-, -, hs⟩ | ⟨-, -, hs⟩ <;>
    · dsimp only
      rw [hs]
      simp [signersOf]

lemma Vouched.step {h : History S PeerId} {q : PeerId} {m : Bytes} (hv : h.Vouched q m)
    (d : Delivery S PeerId) : (h.step d).Vouched q m := by
  obtain ⟨hk, hl⟩ := h.step_frame d
  unfold Vouched
  rw [hk, hl]
  rcases hv with ⟨sig, ⟨d', hd', hc⟩, hs⟩ | hown
  · exact .inl ⟨sig, ⟨d', List.mem_append_left _ hd', hc⟩, hs⟩
  · exact .inr hown

lemma attributed_step_iff {h : History S PeerId} (ha : h.Attributed)
    (d : Delivery S PeerId) : (h.step d).Attributed ↔ h.SenderVouched d := by
  constructor
  · intro ha' sg sig m hp hnew hsig
    refine ha' m _ ((h.mem_signersOf_step d m _).mpr (.inr ?_))
    exact ⟨rfl, sg, sig, hp, hnew, hsig⟩
  · intro hc m q hq
    rcases (h.mem_signersOf_step d m q).mp hq with hq | ⟨rfl, sg, sig, hp, hnew, hsig⟩
    · exact (ha m q hq).step d
    · exact hc sg sig m hp hnew hsig

section Start

variable (config : ProtocolConfig S PeerId) (weightScheme : SignatureWeight PeerId)
  (keys : HashMap PeerId S.Public) (message : Bytes) (env : Env PeerId)

def OwnSignatureVerifies : Prop :=
  ∀ sig, (S.signWithSecret config.networkHandle.localSigningKey message).1 = .ok sig →
    SignedBy keys config.networkHandle.localPeerId message sig

variable {config weightScheme keys message env} {h : History S PeerId}
  (hh : start config weightScheme keys message env = h)

include hh

omit [Hashing] in
lemma start_spec : h.protocol.participantPublicKeys = keys ∧
    h.protocol.localPeerId = config.networkHandle.localPeerId ∧
    ∀ m q, q ∈ h.protocol.signersOf m ↔
      q = config.networkHandle.localPeerId ∧ ∃ sig, h.own = some (m, sig) := by
  let opened : SignatureAggregationProtocol S PeerId :=
    { new config weightScheme keys with
      state := { AggregationState.new with
        localMessage := message
        round := .signatureCollection } }
  have he : ∀ m q, q ∉ opened.signersOf m := fun m q hq => by
    simp [signersOf, opened, AggregationState.new] at hq
  obtain ⟨cfg', hl, ⟨⟨e, hsig⟩, hs⟩ | ⟨sig, hsig, hs⟩⟩ := opened.signAndBroadcast_cases message env
  · have hp : h.protocol = { opened with config := cfg' } := hh ▸ hs
    have hown : h.own = none := by
      have hsig' : (S.signWithSecret config.networkHandle.localSigningKey message).1 = .error e :=
        hsig
      simp [← hh, start, hsig']
    rw [hp, hown]
    refine ⟨rfl, hl, fun m q => ⟨fun hq => absurd hq (he m q), ?_⟩⟩
    rintro ⟨-, sig, hsig⟩
    cases hsig
  · have hp : h.protocol
        = { opened.addSignature opened.localPeerId sig message with config := cfg' } := hh ▸ hs
    have hown : h.own = some (message, sig) := by
      have hsig' : (S.signWithSecret config.networkHandle.localSigningKey message).1 = .ok sig :=
        hsig
      simp [← hh, start, hsig']
    rw [hp, hown]
    refine ⟨rfl, hl, fun m q => ?_⟩
    have hmem : q ∈ (opened.addSignature opened.localPeerId sig message).signersOf m
        ↔ q ∈ opened.signersOf m ∨ (q = opened.localPeerId ∧ m = message) :=
      opened.mem_signersOf_addSignature _ q sig message m
    refine hmem.trans ⟨?_, ?_⟩
    · rintro (hq | ⟨rfl, rfl⟩)
      · exact absurd hq (he m q)
      · exact ⟨rfl, sig, rfl⟩
    · rintro ⟨rfl, sig', hsig'⟩
      cases hsig'
      exact .inr ⟨rfl, rfl⟩

omit [Hashing] in
lemma attributed_start_iff : h.Attributed ↔ OwnSignatureVerifies config keys message := by
  obtain ⟨hk, hl, hmem⟩ := start_spec hh
  have hown : ∀ m sig, h.own = some (m, sig) ↔ m = message ∧
      (S.signWithSecret config.networkHandle.localSigningKey message).1 = .ok sig := by
    intro m sig
    rw [← hh, start]
    rcases (S.signWithSecret config.networkHandle.localSigningKey message).1 with e | sig'
    · simp
    simp [eq_comm]
  constructor
  · intro ha sig hsig
    have hm : h.own = some (message, sig) := (hown _ _).mpr ⟨rfl, hsig⟩
    rcases ha message _ ((hmem _ _).mpr ⟨rfl, sig, hm⟩) with ⟨_, ⟨d, hd, -⟩, -⟩ | ⟨-, sig', hs', hv⟩
    · simp [← hh, start] at hd
    · rw [hm] at hs'
      cases hs'
      rwa [hk] at hv
  · intro hv m q hq
    obtain ⟨rfl, sig, hm⟩ := (hmem m q).mp hq
    obtain ⟨rfl, hsig⟩ := (hown m sig).mp hm
    refine .inr ⟨hl.symm, sig, hm, ?_⟩
    rw [hk]
    exact hv sig hsig

omit hh

variable (config weightScheme keys message env)

/-- **Attribution.** In every state of a run, every recorded signer is vouched for, exactly
when the node's own signature verifies under its registered key and every share that gets
recorded comes from a peer vouched for on its message. -/
theorem always_attributed_iff (ds : List (Delivery S PeerId)) :
    Always step Attributed (start config weightScheme keys message env) ds ↔
      OwnSignatureVerifies config keys message ∧
      Each step SenderVouched (start config weightScheme keys message env) ds := by
  by_cases hown : OwnSignatureVerifies config keys message
  · have hs : (start config weightScheme keys message env).Attributed :=
      (attributed_start_iff rfl).mpr hown
    have hst : ∀ (h : History S PeerId) d, True → h.Attributed →
        ((h.step d).Attributed ↔ h.SenderVouched d) :=
      fun h d _ ha => attributed_step_iff ha d
    rw [and_iff_right hown]
    exact always_iff_each (fun _ _ _ _ => trivial) hst trivial hs ds
  · constructor
    · intro h
      have hs : (start config weightScheme keys message env).Attributed := Always.head h
      exact absurd ((attributed_start_iff rfl).mp hs) hown
    · intro h
      exact absurd h.1 hown

end Start

def relayedShare : Delivery AggregatableSignature.transparent ℕ where
  message :=
    { routing := { messageId := 0, roundId := 0, sender := 2, recipient := none }
      payload := .ok (.signatureShare 1 (1 : ℕ) [7]) }
  env := Env.quiet

omit [Hashing] in
theorem relayer_counted_as_signer :
    letI : Hashing := ⟨fun _ => Vector.replicate 32 0⟩
    ¬ Always step Attributed
      (start ProtocolConfig.threePeers SignatureWeight.twoOfThree threeKeys [7] Env.quiet)
      [relayedShare] := by
  let _ : Hashing := ⟨fun _ => Vector.replicate 32 0⟩
  rintro ⟨-, h⟩
  have hmem : 2 ∈ ((start ProtocolConfig.threePeers SignatureWeight.twoOfThree threeKeys [7]
      Env.quiet).step relayedShare).protocol.signersOf [7] := by decide
  rcases h [7] 2 hmem with ⟨sig, ⟨d, hd, signer, hs⟩, pk, hpk, hsig⟩ | ⟨hl, -⟩
  · -- the only share handled carries the signature of peer `1`
    obtain rfl : d = relayedShare := by simpa [start, step] using hd
    cases hs
    have hkey : pk = (2 : ℕ) := Option.some.inj (hpk.symm.trans rfl)
    rw [hkey] at hsig
    exact absurd hsig (by decide)
  · exact absurd hl (by decide)

end History

end Gadget.AggSigGossip
