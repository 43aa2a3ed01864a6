import Gadget.AggSigGossip.Attribution

/-!
# Completion messages and records

A node that is not yet in the round `Completion` accepts a completion message exactly when
the aggregate it carries verifies against what the node knows of the contributors it names.
The weight of the contributors is not part of that test: `check_threshold` looks at the
node's own records, and outside of the round `Completion` its negative answer is no error.
-/

namespace Gadget.AggSigGossip

open Rust GossipPrimitives Lib.Run

variable {S : AggregatableSignature} {PeerId : Type} [DecidableEq PeerId] [Hashing]

inductive Event (S : AggregatableSignature) (PeerId : Type) where
  | start (message : Bytes) (env : Env PeerId)
  | message (msg : ProtocolMessage S PeerId) (env : Env PeerId)
  | timeout

namespace SignatureAggregationProtocol

variable (p : SignatureAggregationProtocol S PeerId)

def step :
    Event S PeerId → SignatureAggregationProtocol S PeerId
  | .start message env => (p.start message env).2
  | .message msg env => (p.handleMessage msg env).2
  | .timeout => p.timeout

def honestWeight (participants : Finset PeerId) : ℕ :=
  p.weightScheme.calculateWeight (participants \ p.state.malicious)

variable (e : Event S PeerId) (result : AggregationResult S PeerId)

def Completes : Prop :=
  (∃ msg env, e = .message msg env ∧ msg.payload = .ok (.protocolComplete result)) ∧
  p.state.round ≠ .completion ∧
  (p.step e).state.round = .completion ∧
  (p.step e).state.verifiedCompletion = some result

/-- A completion is accepted only with the threshold weight of honest contributors. -/
def CompletionSound : Prop :=
  ∀ result, p.Completes e result →
    p.weightScheme.thresholdWeight ≤ p.honestWeight result.contributors

def AggregateVerifies (env : Env PeerId) : Prop :=
  ∃ signatures publicKeys aggregatedSig aggregatedPub,
    p.collectSignaturesAndPublicKeys result.contributors env = .ok (signatures, publicKeys) ∧
    S.aggregate signatures publicKeys = .ok (aggregatedSig, aggregatedPub) ∧
    S.verifyAggregate result.message result.signature aggregatedPub = .ok true

/-- A completion whose aggregate verifies has that weight. -/
def CarriesThreshold : Prop :=
  ∀ msg env result, e = .message msg env → msg.payload = .ok (.protocolComplete result) →
    p.state.round ≠ .completion → p.AggregateVerifies result env →
    p.weightScheme.thresholdWeight ≤ p.honestWeight result.contributors

variable (p : SignatureAggregationProtocol S PeerId)

variable (e : Event S PeerId) (result : AggregationResult S PeerId)

omit [Hashing] in
lemma aggregateAndVerify_isSome_iff (env : Env PeerId) :
    (∃ r, p.aggregateAndVerify result.message result.contributors (some result.signature) env
      = .ok (some r)) ↔ p.AggregateVerifies result env := by
  unfold aggregateAndVerify AggregateVerifies
  rcases p.collectSignaturesAndPublicKeys result.contributors env with e | collected
  · simp
  obtain ⟨sigs, publicKeys⟩ := collected
  rcases hagg : S.aggregate sigs publicKeys with e | aggregated
  · simp [hagg]
  obtain ⟨asg, apk⟩ := aggregated
  rcases hver : S.verifyAggregate result.message result.signature apk with e | verified
  · simp [hagg, hver]
  cases verified <;> simp [hagg, hver]

omit [Hashing] in
lemma checkThreshold_of_not_completion (msg : Bytes) (h : p.state.round ≠ .completion) :
    ∃ contributors, p.checkThreshold msg = .ok contributors := by
  unfold checkThreshold
  rcases p.state.signaturesByMessage.lookup msg with _ | contributors
  · exact ⟨none, rfl⟩
  dsimp only
  split
  · exact ⟨none, rfl⟩
  · exact ⟨some contributors, rfl⟩

omit [Hashing] in
lemma verifyResult_eq_ok_iff (env : Env PeerId) (h : p.state.round ≠ .completion) :
    p.verifyResult result env = .ok () ↔ p.AggregateVerifies result env := by
  rw [← aggregateAndVerify_isSome_iff]
  obtain ⟨contribs, ht⟩ := p.checkThreshold_of_not_completion result.message h
  unfold verifyResult
  cases p.aggregateAndVerify result.message result.contributors (some result.signature) env with
  | error e => simp
  | ok r =>
    rcases r with _ | r
    · simp
    simp [ht]

lemma completes_iff :
    p.Completes e result ↔ ∃ msg env, e = .message msg env ∧
      msg.payload = .ok (.protocolComplete result) ∧ p.state.round ≠ .completion ∧
      p.AggregateVerifies result env := by
  constructor
  · rintro ⟨⟨msg, env, rfl, hp⟩, hr, ha, -⟩
    refine ⟨msg, env, rfl, hp, hr, ?_⟩
    rw [← p.verifyResult_eq_ok_iff result env hr]
    simp only [step, handleMessage, hp] at ha
    rcases p.handleProtocolComplete_cases result env with ⟨-, hs⟩ | ⟨-, -, hs⟩ | ⟨-, hv, -⟩
    · rw [hs] at ha
      exact absurd ha hr
    · rw [hs] at ha
      exact absurd ha hr
    · exact hv
  · rintro ⟨msg, env, rfl, hp, hr, hver⟩
    refine ⟨⟨msg, env, rfl, hp⟩, hr, ?_⟩
    have hok := (p.verifyResult_eq_ok_iff result env hr).mpr hver
    simp only [step, handleMessage, hp]
    rcases p.handleProtocolComplete_cases result env with ⟨hc, -⟩ | ⟨-, ⟨e, he⟩, -⟩ | ⟨-, -, hs⟩
    · exact absurd (of_decide_eq_true hc) hr
    · rw [hok] at he
      cases he
    · rw [hs]
      exact ⟨rfl, rfl⟩

lemma completionSound_iff_carriesThreshold : p.CompletionSound e ↔ p.CarriesThreshold e := by
  constructor
  · intro hs msg env result he hp hr hver
    exact hs result ((p.completes_iff e result).mpr ⟨msg, env, he, hp, hr, hver⟩)
  · intro hca result hc
    obtain ⟨msg, env, he, hp, hr, hver⟩ := (p.completes_iff e result).mp hc
    exact hca msg env result he hp hr hver

/-- **Completion.** Along any run of a fresh protocol, every accepted completion has the
threshold weight among its honest contributors exactly when every completion message that
arrives before the round `Completion` with an aggregate that verifies names such
contributors: no step of the node refuses one that does not. -/
theorem each_completionSound_iff (config : ProtocolConfig S PeerId)
    (weightScheme : SignatureWeight PeerId) (keys : HashMap PeerId S.Public)
    (es : List (Event S PeerId)) :
    Each step CompletionSound (new config weightScheme keys) es ↔
      Each step CarriesThreshold (new config weightScheme keys) es :=
  each_congr completionSound_iff_carriesThreshold _ es

def lightCompletion : Event AggregatableSignature.transparent ℕ :=
  .message
    { routing := { messageId := 0, roundId := 0, sender := 1, recipient := none }
      payload := .ok (.protocolComplete
        { message := [7]
          signature := ([0] : List ℕ)
          contributors := {0}
          totalWeight := none
          maliciousParticipants := ∅ }) }
    Env.quiet

omit [Hashing] in
/-- A node that has only signed itself completes on the announcement of a result of weight
one, where two are needed. -/
theorem light_completion_accepted :
    letI : Hashing := ⟨fun _ => Vector.replicate 32 0⟩
    ¬ Each step CompletionSound (new ProtocolConfig.threePeers SignatureWeight.twoOfThree threeKeys)
      [.start [7] Env.quiet, lightCompletion] := by
  let _ : Hashing := ⟨fun _ => Vector.replicate 32 0⟩
  rintro ⟨-, h, -⟩
  let started := (new ProtocolConfig.threePeers SignatureWeight.twoOfThree threeKeys).step
    (.start [7] Env.quiet)
  -- the own signature is the one part of the announced aggregate
  have hc : started.collectSignaturesAndPublicKeys {0} Env.quiet
      = .ok (([0] : List ℕ), ([0] : List ℕ)) := by
    have ho : Env.quiet.order.toList {0} = [0] := Finset.sort_singleton (· ≤ ·) 0
    unfold collectSignaturesAndPublicKeys
    rw [ho]
    rfl
  have hl := h _ ((started.completes_iff _ _).mpr
    ⟨_, _, rfl, rfl, by decide, _, _, _, _, hc, rfl, rfl⟩)
  exact absurd hl (by decide)

end SignatureAggregationProtocol

/-! ## What an event does to the records

A protocol object records who has signed which message, the signature it has seen last from each
peer, and who is malicious. An event adds one signature, marks one peer, or leaves the records as
they are. -/

structure Records (S : AggregatableSignature) (PeerId : Type) where
  signaturesByMessage : HashMap Bytes (Finset PeerId)
  seenSignatures : HashMap PeerId (S.Signature × Bytes)
  malicious : Finset PeerId

namespace Records

variable (r : Records S PeerId)

def signersOf (m : Bytes) : Finset PeerId :=
  (r.signaturesByMessage.lookup m).getD ∅

def add (q : PeerId) (sig : S.Signature) (m : Bytes) : Records S PeerId where
  signaturesByMessage := r.signaturesByMessage.insert m (insert q (r.signersOf m))
  seenSignatures := r.seenSignatures.insert q (sig, m)
  malicious := r.malicious

def mark (q : PeerId) : Records S PeerId :=
  { r with malicious := insert q r.malicious }

omit [Hashing]

lemma mem_signersOf_add (q q' : PeerId) (sig : S.Signature) (m m' : Bytes) :
    q' ∈ (r.add q sig m).signersOf m' ↔ q' ∈ r.signersOf m' ∨ (q' = q ∧ m' = m) := by
  unfold signersOf add
  rw [HashMap.lookup_insert_eq]
  by_cases hm : m' = m
  · subst hm
    simp [signersOf, or_comm]
  · simp [hm]

end Records

omit [DecidableEq PeerId] [Hashing] in
lemma AggregationState.tryTransitionTo_snd (s : AggregationState S PeerId)
    (newRound : ProtocolRound) :
    ∃ round, (s.tryTransitionTo newRound).2 = { s with round := round } := by
  unfold tryTransitionTo
  split_ifs
  · exact ⟨s.round, rfl⟩
  · exact ⟨newRound, rfl⟩
  · exact ⟨s.round, rfl⟩

omit [DecidableEq PeerId] [Hashing] in
lemma AggregationState.round_of_tryTransitionTo {s s' : AggregationState S PeerId}
    {changed : Bool} (h : s.tryTransitionTo .signatureCollection = (.ok changed, s')) :
    s.round ≠ .completion := by
  intro hr
  simp [tryTransitionTo, hr, isValidTransition] at h

namespace SignatureAggregationProtocol

variable (p : SignatureAggregationProtocol S PeerId)

def records : Records S PeerId where
  signaturesByMessage := p.state.signaturesByMessage
  seenSignatures := p.state.seenSignatures
  malicious := p.state.malicious

inductive Leaves (p : SignatureAggregationProtocol S PeerId) :
    Event S PeerId → Records S PeerId → Prop where
  | same (e : Event S PeerId) : Leaves p e p.records
  | signs (message : Bytes) (env : Env PeerId) (sig : S.Signature)
      (hround : p.state.round ≠ .completion)
      (hsign : (S.signWithSecret p.config.networkHandle.localSigningKey message).1 = .ok sig) :
      Leaves p (.start message env) (p.records.add p.localPeerId sig message)
  | accepts (msg : ProtocolMessage S PeerId) (env : Env PeerId) (signer : PeerId)
      (sig : S.Signature) (m : Bytes) (hshare : msg.payload = .ok (.signatureShare signer sig m))
      (hnew : signer ∉ p.signersOf m) (hsigned : SignedBy p.participantPublicKeys signer m sig) :
      Leaves p (.message msg env) (p.records.add msg.routing.sender sig m)
  | refuses (msg : ProtocolMessage S PeerId) (env : Env PeerId) (signer : PeerId)
      (sig : S.Signature) (m : Bytes) (hshare : msg.payload = .ok (.signatureShare signer sig m))
      (hnew : signer ∉ p.signersOf m) (hnot : ¬ SignedBy p.participantPublicKeys signer m sig) :
      Leaves p (.message msg env) (p.records.mark msg.routing.sender)
  | convicts (msg : ProtocolMessage S PeerId) (env : Env PeerId) (operator : PeerId)
      (evidence : MaliciousEvidence S)
      (hreport : msg.payload = .ok (.maliciousReport operator evidence))
      (hevidence : verifyMaliciousEvidence operator evidence p.participantPublicKeys = .ok true) :
      Leaves p (.message msg env) (p.records.mark operator)

omit [Hashing] in
lemma start_leaves (msg : Bytes) (env : Env PeerId) :
    p.Leaves (.start msg env) (p.start msg env).2.records ∧
      (p.start msg env).2.participantPublicKeys = p.participantPublicKeys := by
  let opened := { p with state := { p.state with localMessage := msg } }
  obtain ⟨round, hr⟩ := opened.state.tryTransitionTo_snd .signatureCollection
  rcases ht : opened.state.tryTransitionTo .signatureCollection with ⟨out, state⟩
  rw [ht] at hr
  have hsta : state = { opened.state with round := round } := hr
  subst hsta
  cases out with
  | error fault =>
    have hst : (p.start msg env).2
        = { opened with state := { opened.state with round := round } } := by
      simp only [start, opened] at ht ⊢
      rw [ht]
    rw [hst]
    exact ⟨.same _, rfl⟩
  | ok changed =>
    have hst : p.start msg env
        = signAndBroadcast { opened with state := { opened.state with round := round } } msg
          env := by
      simp only [start, opened] at ht ⊢
      rw [ht]
    obtain ⟨cfg, _, ⟨_, hs⟩ | ⟨sig, hsig, hs⟩⟩ :=
      signAndBroadcast_cases { opened with state := { opened.state with round := round } } msg
        env
    · rw [hst, hs]
      exact ⟨.same _, rfl⟩
    · have hr : opened.state.round ≠ .completion := AggregationState.round_of_tryTransitionTo ht
      rw [hst, hs]
      exact ⟨.signs msg env sig hr hsig, rfl⟩

lemma handleMessage_leaves (msg : ProtocolMessage S PeerId) (env : Env PeerId) :
    p.Leaves (.message msg env) (p.handleMessage msg env).2.records ∧
      (p.handleMessage msg env).2.participantPublicKeys = p.participantPublicKeys := by
  unfold handleMessage
  rcases hp : msg.payload with e | body
  · exact ⟨.same _, rfl⟩
  cases body with
  | signatureShare sg sig m =>
    rcases p.handleSignatureShare_cases msg.routing.sender sg sig m env
      with ⟨-, hs⟩ | ⟨hnew, hv, cfg, -, hs⟩ | ⟨hnew, hv, cfg, cache, -, hs⟩
    · rw [hs]
      exact ⟨.same _, rfl⟩
    · rw [hs]
      refine ⟨.refuses msg env sg sig m hp hnew ?_, rfl⟩
      intro hsi
      rw [(verifySignature_iff _ _ _ _).mpr hsi] at hv
      cases hv
    · rw [hs]
      exact ⟨.accepts msg env sg sig m hp hnew ((verifySignature_iff _ _ _ _).mp hv), rfl⟩
  | maliciousReport op evd =>
    rcases p.handleMaliciousReport_cases op evd with hs | ⟨hv, hs⟩
    · rw [hs]
      exact ⟨.same _, rfl⟩
    · rw [hs]
      exact ⟨.convicts msg env op evd hp hv, rfl⟩
  | protocolComplete result =>
    rcases p.handleProtocolComplete_cases result env with ⟨-, hs⟩ | ⟨-, -, hs⟩ | ⟨-, -, hs⟩
    all_goals
      rw [hs]
      exact ⟨.same _, rfl⟩

lemma step_leaves (e : Event S PeerId) :
    p.Leaves e (p.step e).records ∧ (p.step e).participantPublicKeys = p.participantPublicKeys := by
  cases e with
  | start message env => exact p.start_leaves message env
  | message msg env => exact p.handleMessage_leaves msg env
  | timeout =>
    obtain ⟨round, hr⟩ := p.state.tryTransitionTo_snd .completion
    have hs : p.step .timeout = { p with state := { p.state with round := round } } := by
      simp [step, timeout, hr]
    rw [hs]
    exact ⟨.same _, rfl⟩

end SignatureAggregationProtocol

end Gadget.AggSigGossip
