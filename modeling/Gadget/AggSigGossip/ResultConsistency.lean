import Gadget.AggSigGossip.Records

/-!
# Results of the aggregation

A result names contributors, carries an aggregate and states a weight. The three come from
different filters: the threshold is checked on the contributors that are not malicious, all of
them are named and weighed, and the aggregate is made of the signatures seen last from those that
are not malicious.
-/

namespace Gadget.AggSigGossip

open Rust GossipPrimitives Lib.Run List Option Finset

variable {S : AggregatableSignature} {PeerId : Type} [DecidableEq PeerId] [Hashing]

namespace SignatureAggregationProtocol

variable (p : SignatureAggregationProtocol S PeerId)

def buildResult (message : Bytes) (env : Env PeerId) :
    Except AggregationError (Option (AggregationResult S PeerId)) :=
  match p.checkThreshold message with
  | .error e => .error e
  | .ok none => .ok none
  | .ok (some contributors) => p.aggregateAndVerify message contributors none env

/-- The named contributors are not malicious; the aggregate is made of one signature on the
message and one key for each of them, and is the one that is returned, unless one was `given`; the
stated weight is theirs and reaches the threshold. -/
structure Consistent (p : SignatureAggregationProtocol S PeerId) (env : Env PeerId)
    (given : Option S.AggregatedSignature) (result : AggregationResult S PeerId) : Prop where
  honest : ∀ q ∈ result.contributors, q ∉ p.state.malicious
  aggregate : ∃ signatures publicKeys aggregatedSig aggregatedPub,
    p.collectSignaturesAndPublicKeys result.contributors env = .ok (signatures, publicKeys) ∧
    List.Forall₂ (fun q sig => SignedBy p.participantPublicKeys q result.message sig)
      (env.order.toList result.contributors) signatures ∧
    List.Forall₂ (fun q pk => p.participantPublicKeys.lookup q = some pk)
      (env.order.toList result.contributors) publicKeys ∧
    S.aggregate signatures publicKeys = .ok (aggregatedSig, aggregatedPub) ∧
    result.signature = given.getD aggregatedSig ∧
    S.verifyAggregate result.message result.signature aggregatedPub = .ok true
  weight : result.totalWeight = some (p.weightScheme.calculateWeight result.contributors)
  threshold : p.weightScheme.thresholdWeight ≤ p.weightScheme.calculateWeight result.contributors

def Covers (message : Bytes) (contributors : Finset PeerId) : Prop :=
  ∀ q ∈ contributors, q ∉ p.state.malicious ∧
    ∃ sig m, p.state.seenSignatures.lookup q = some (sig, m) ∧
      SignedBy p.participantPublicKeys q message sig

omit [DecidableEq PeerId] [Hashing] in
lemma forall₂_filterMap_iff {α β : Type} {R : α → β → Prop} {f : α → Option β} {l : List α} :
    List.Forall₂ R l (l.filterMap f) ↔ ∀ a ∈ l, ∃ b, f a = some b ∧ R a b := by
  induction l with
  | nil => simp
  | cons a l ih =>
    rw [List.forall_mem_cons, ← ih]
    cases hf : f a with
    | none =>
      rw [List.filterMap_cons_none hf]
      constructor
      · intro h
        have hl := h.length_eq
        have hle := List.length_filterMap_le f l
        rw [List.length_cons] at hl
        omega
      · rintro ⟨⟨b, hb, _⟩, _⟩
        cases hb
    | some b =>
      rw [List.filterMap_cons_some hf, List.forall₂_cons]
      simp

section Calls

variable {p : SignatureAggregationProtocol S PeerId} {message : Bytes}
  {contributors : Finset PeerId} {given : Option S.AggregatedSignature} {env : Env PeerId}
  {result : AggregationResult S PeerId}

omit [Hashing]

lemma aggregateAndVerify_eq_some
    (h : p.aggregateAndVerify message contributors given env = .ok (some result)) :
    result.message = message ∧ result.contributors = contributors ∧
    result.totalWeight = some (p.weightScheme.calculateWeight contributors) ∧
    ∃ sigs publicKeys asg apk,
      p.collectSignaturesAndPublicKeys contributors env = .ok (sigs, publicKeys) ∧
      S.aggregate sigs publicKeys = .ok (asg, apk) ∧
      result.signature = given.getD asg ∧
      S.verifyAggregate message result.signature apk = .ok true := by
  unfold aggregateAndVerify at h
  split at h
  · cases h
  next sigs publicKeys hc =>
  split at h
  · cases h
  next asg apk ha =>
  dsimp only at h
  split at h
  · next hv =>
    cases h
    exact ⟨rfl, rfl, rfl, sigs, publicKeys, asg, apk, hc, ha, rfl, hv⟩
  · cases h

lemma collect_eq_ok {sigs : List S.Signature} {publicKeys : List S.Public}
    (h : p.collectSignaturesAndPublicKeys contributors env = .ok (sigs, publicKeys))
    (hh : ∀ q ∈ contributors, q ∉ p.state.malicious) :
    sigs = (env.order.toList contributors).filterMap
      (fun q => (p.state.seenSignatures.lookup q).map Prod.fst) ∧
    publicKeys = (env.order.toList contributors).filterMap
      (fun q => p.participantPublicKeys.lookup q) := by
  have hids : ((env.order.toList contributors).filter fun q => q ∉ p.state.malicious)
      = env.order.toList contributors := by
    rw [filter_eq_self]
    intro q hq
    exact decide_eq_true (hh q ((env.order.mem contributors q).mp hq))
  simp only [collectSignaturesAndPublicKeys, hids] at h
  split_ifs at h
  cases h
  exact ⟨rfl, rfl⟩

lemma consistent_iff_covers
    (h : p.aggregateAndVerify message contributors given env = .ok (some result)) :
    p.Consistent env given result ↔ p.Covers message contributors ∧
      p.weightScheme.thresholdWeight ≤ p.weightScheme.calculateWeight contributors := by
  obtain ⟨rfl, rfl, hw, sigs, publicKeys, asg, apk, hcol,
    ha, hse, hv⟩ := aggregateAndVerify_eq_some h
  have hmem : ∀ q, q ∈ env.order.toList result.contributors ↔ q ∈ result.contributors :=
    fun q => env.order.mem result.contributors q
  constructor
  · intro hc
    refine ⟨?_, hc.threshold⟩
    obtain ⟨sigs', _, _, _, hc', hs, _⟩ := hc.aggregate
    rw [(collect_eq_ok hc' hc.honest).1, forall₂_filterMap_iff] at hs
    intro q hq
    obtain ⟨sig, hsn, hsig⟩ := hs q ((hmem q).mpr hq)
    obtain ⟨⟨sig', m⟩, hl, rfl⟩ := map_eq_some_iff.mp hsn
    exact ⟨hc.honest q hq, sig', m, hl, hsig⟩
  · rintro ⟨hco, ht⟩
    have hh : ∀ q ∈ result.contributors, q ∉ p.state.malicious := fun q hq => (hco q hq).1
    obtain ⟨hsi, hkeys⟩ := collect_eq_ok hcol hh
    refine ⟨hh, ⟨sigs, publicKeys, asg, apk, hcol, ?_, ?_, ha, hse, hv⟩, hw, ht⟩
    · rw [hsi, forall₂_filterMap_iff]
      intro q hq
      obtain ⟨_, sig, m, hl, hs⟩ := hco q ((hmem q).mp hq)
      exact ⟨sig, by rw [hl, map_some], hs⟩
    · rw [hkeys, forall₂_filterMap_iff]
      intro q hq
      obtain ⟨_, _, _, _, pk, hpk, _⟩ := hco q ((hmem q).mp hq)
      exact ⟨pk, hpk, hpk⟩

lemma buildResult_eq_some (h : p.buildResult message env = .ok (some result)) :
    p.weightScheme.thresholdWeight ≤ p.weightScheme.calculateWeight
          ((p.signersOf message).filter fun q => q ∉ p.state.malicious) ∧
      p.aggregateAndVerify message (p.signersOf message) none env = .ok (some result) := by
  unfold buildResult checkThreshold at h
  rcases hl : p.state.signaturesByMessage.lookup message with _ | signers
  · rw [hl] at h
    cases h
  have hs : p.signersOf message = signers := by
    rw [signersOf, hl, getD_some]
  rw [hl] at h
  dsimp only at h
  rw [hs]
  by_cases hw : p.weightScheme.calculateWeight
      (signers.filter fun q => q ∉ p.state.malicious) < p.weightScheme.thresholdWeight
  · rw [if_pos hw] at h
    by_cases hr : p.state.round = .completion
    · rw [if_pos hr] at h
      cases h
    · rw [if_neg hr] at h
      cases h
  · rw [if_neg hw] at h
    exact ⟨not_lt.mp hw, h⟩

lemma buildResult_consistent_iff (h : p.buildResult message env = .ok (some result)) :
    p.Consistent env none result ↔ p.Covers message (p.signersOf message) := by
  obtain ⟨ht, ha⟩ := buildResult_eq_some h
  rw [consistent_iff_covers ha, and_iff_left_iff_imp]
  intro hc
  -- no signer is filtered out before the threshold is checked
  rwa [filter_true_of_mem fun q hq => (hc q hq).1] at ht

end Calls

def Clean : Prop :=
  ∀ m, ∀ q ∈ p.records.signersOf m, q ∉ p.records.malicious ∧
    ∃ sig, p.records.seenSignatures.lookup q = some (sig, m) ∧
      SignedBy p.participantPublicKeys q m sig

def MayRecord (q : PeerId) (sig : S.Signature) (m : Bytes) : Prop :=
  SignedBy p.participantPublicKeys q m sig ∧ q ∉ p.records.malicious ∧
    ∀ m', q ∈ p.records.signersOf m' → m' = m

def Unrecorded (q : PeerId) : Prop :=
  ∀ m, q ∉ p.records.signersOf m

structure CleanStep (p : SignatureAggregationProtocol S PeerId) (e : Event S PeerId) : Prop where
  signs : ∀ message env sig, e = .start message env → p.state.round ≠ .completion →
    (S.signWithSecret p.config.networkHandle.localSigningKey message).1 = .ok sig →
    p.MayRecord p.localPeerId sig message
  accepts : ∀ msg env signer sig m, e = .message msg env →
    msg.payload = .ok (.signatureShare signer sig m) → signer ∉ p.signersOf m →
    SignedBy p.participantPublicKeys signer m sig → p.MayRecord msg.routing.sender sig m
  refuses : ∀ msg env signer sig m, e = .message msg env →
    msg.payload = .ok (.signatureShare signer sig m) → signer ∉ p.signersOf m →
    ¬ SignedBy p.participantPublicKeys signer m sig → p.Unrecorded msg.routing.sender
  convicts : ∀ msg env operator evidence, e = .message msg env →
    msg.payload = .ok (.maliciousReport operator evidence) →
    verifyMaliciousEvidence operator evidence p.participantPublicKeys = .ok true →
    p.Unrecorded operator

section CleanRecords

variable {p p' : SignatureAggregationProtocol S PeerId} (hclean : p.Clean)
  (hkeys : p'.participantPublicKeys = p.participantPublicKeys)

omit [Hashing]

include hclean hkeys

lemma clean_of_add {q : PeerId} {sig : S.Signature} {m : Bytes} (hmay : p.MayRecord q sig m)
    (hr : p'.records = p.records.add q sig m) : p'.Clean := by
  obtain ⟨hs, hh, ho⟩ := hmay
  intro m' q' hq'
  rw [hr, Records.mem_signersOf_add] at hq'
  rw [hr, hkeys, Records.add, HashMap.lookup_insert_eq]
  by_cases hp : q' = q
  · -- the signer itself: all that is recorded for it is this message
    subst hp
    have hm : m' = m := by
      obtain hold | ⟨_, hm⟩ := hq'
      · exact ho m' hold
      · exact hm
    subst hm
    exact ⟨hh, sig, if_pos rfl, hs⟩
  · obtain hold | ⟨hq, _⟩ := hq'
    · rw [if_neg hp]
      exact hclean m' q' hold
    · exact absurd hq hp

lemma clean_of_mark {q : PeerId} (hu : p.Unrecorded q)
    (hr : p'.records = p.records.mark q) : p'.Clean := by
  intro m q' hq'
  rw [hr] at hq' ⊢
  rw [hkeys]
  obtain ⟨hh, hs⟩ := hclean m q' hq'
  refine ⟨?_, hs⟩
  intro hm
  obtain rfl | hold := mem_insert.mp hm
  · exact hu m hq'
  · exact hh hold

end CleanRecords

variable {p : SignatureAggregationProtocol S PeerId}

lemma clean_step {e : Event S PeerId} (hclean : p.Clean) (hs : p.CleanStep e) :
    (p.step e).Clean := by
  obtain ⟨hl, hkeys⟩ := p.step_leaves e
  generalize ha : (p.step e).records = after at hl
  cases hl with
  | same e =>
    intro m q hq
    rw [ha] at hq ⊢
    rw [hkeys]
    exact hclean m q hq
  | signs message env sig hro hsn =>
    exact clean_of_add hclean hkeys (hs.signs message env sig rfl hro hsn) ha
  | accepts msg env sg sig m hsh hnew hsi =>
    exact clean_of_add hclean hkeys (hs.accepts msg env sg sig m rfl hsh hnew hsi) ha
  | refuses msg env sg sig m hsh hnew hnot =>
    exact clean_of_mark hclean hkeys (hs.refuses msg env sg sig m rfl hsh hnew hnot) ha
  | convicts msg env op evd hr he =>
    exact clean_of_mark hclean hkeys (hs.convicts msg env op evd rfl hr he) ha

def ResultsConsistent (p : SignatureAggregationProtocol S PeerId) : Prop :=
  (∀ message env result, p.buildResult message env = .ok (some result) →
    p.Consistent env none result) ∧
  (∀ message contributors given env result, contributors ⊆ p.signersOf message →
    p.weightScheme.thresholdWeight ≤ p.weightScheme.calculateWeight contributors →
    p.aggregateAndVerify message contributors given env = .ok (some result) →
    p.Consistent env given result)

omit [Hashing] in
lemma Clean.covers (h : p.Clean) {message : Bytes} {contributors : Finset PeerId}
    (hsub : contributors ⊆ p.signersOf message) : p.Covers message contributors := by
  intro q hq
  obtain ⟨hh, sig, hse, hs⟩ := h message q (hsub hq)
  exact ⟨hh, sig, message, hse, hs⟩

omit [Hashing] in
lemma Clean.resultsConsistent (h : p.Clean) : p.ResultsConsistent := by
  constructor
  · intro message env result hb
    exact (buildResult_consistent_iff hb).mpr (h.covers (Finset.Subset.refl _))
  · intro message contributors given env result hsub ht ha
    exact (consistent_iff_covers ha).mpr ⟨h.covers hsub, ht⟩

/-- **Consistency of results.** In any state, a result is consistent exactly when no contributor is
malicious and the signature seen last from each is its own on the message; for
`aggregate_and_verify`, also the weight must reach the threshold, which only `build_result` checks.
In a run whose steps are all clean, every state gives consistent results only. -/
theorem results_consistent :
    (∀ (p : SignatureAggregationProtocol S PeerId) message contributors given env result,
      p.aggregateAndVerify message contributors given env = .ok (some result) →
      (p.Consistent env given result ↔ p.Covers message contributors ∧
        p.weightScheme.thresholdWeight ≤ p.weightScheme.calculateWeight contributors)) ∧
    (∀ (p : SignatureAggregationProtocol S PeerId) message env result,
      p.buildResult message env = .ok (some result) →
      (p.Consistent env none result ↔ p.Covers message (p.signersOf message))) ∧
    (∀ (config : ProtocolConfig S PeerId) weightScheme keys es,
      Each step CleanStep (new config weightScheme keys) es →
      Always step ResultsConsistent (new config weightScheme keys) es) := by
  refine ⟨?_, ?_, ?_⟩
  · intro p message contributors given env result h
    exact consistent_iff_covers h
  · intro p message env result h
    exact buildResult_consistent_iff h
  · intro config weightScheme keys es hes
    have hnew : (new config weightScheme keys).Clean := by
      intro m q hq
      simp [records, Records.signersOf, new, AggregationState.new] at hq
    have hs : ∀ (p : SignatureAggregationProtocol S PeerId) (e : Event S PeerId),
        p.Clean → p.CleanStep e → (p.step e).Clean := fun p e => clean_step
    have hr : ∀ p : SignatureAggregationProtocol S PeerId, p.Clean → p.ResultsConsistent :=
      fun p => Clean.resultsConsistent
    exact always_of_each hs hr hnew hes

noncomputable def threeOrder : IterOrder ℕ where
  toList s := if s ⊆ {0, 1, 2} then [0, 1, 2].filter (· ∈ s) else s.toList
  nodup s := by
    split
    · exact List.Nodup.filter _ (by decide)
    · exact s.nodup_toList
  mem s a := by
    split
    · next hsub =>
      rw [List.mem_filter, decide_eq_true_eq, and_iff_right_iff_imp]
      intro ha
      simpa using hsub ha
    · exact Finset.mem_toList

abbrev shareOf (q : ℕ) : Event AggregatableSignature.transparent ℕ :=
  .message
    { routing := { messageId := 0, roundId := 0, sender := q, recipient := none }
      payload := .ok (.signatureShare q (q : ℕ) [7]) }
    Env.quiet

abbrev reportOne : Event AggregatableSignature.transparent ℕ :=
  .message
    { routing := { messageId := 0, roundId := 0, sender := 2, recipient := none }
      payload := .ok (.maliciousReport 1 (.invalidSignature (5 : ℕ) [9])) }
    Env.quiet

omit [Hashing] in
/-- Peers `1` and `2` have sent their shares, then peer `1` is reported. The result that is built
names peer `1` and counts its weight, though it is malicious and its signature is not part of the
aggregate. -/
theorem malicious_contributor_named :
    letI : Hashing := ⟨fun _ => Vector.replicate 32 0⟩
    ¬ Always step ResultsConsistent
      (new ProtocolConfig.threePeers SignatureWeight.twoOfThree threeKeys)
      [.start [7] Env.quiet, shareOf 1, shareOf 2, reportOne] := by
  let _ : Hashing := ⟨fun _ => Vector.replicate 32 0⟩
  rintro ⟨-, -, -, -, hl, -⟩
  let env : Env ℕ := { Env.quiet with order := threeOrder }
  let reported := [shareOf 1, shareOf 2, reportOne].foldl step
    ((new ProtocolConfig.threePeers SignatureWeight.twoOfThree threeKeys).step
      (.start [7] Env.quiet))
  have hbu : (reported.buildResult [7] env).toOption.join.isSome = true := by decide +kernel
  obtain ⟨result, hr⟩ := isSome_iff_exists.mp hbu
  have hb : reported.buildResult [7] env = .ok (some result) :=
    toOption_eq_some.mp (join_eq_some_iff.mp hr)
  have hm : 1 ∈ reported.state.malicious := by decide
  have hs : 1 ∈ reported.signersOf [7] := by decide
  obtain ⟨-, hc, -⟩ := aggregateAndVerify_eq_some (buildResult_eq_some hb).2
  rw [← hc] at hs
  exact (hl [7] env result hb).honest 1 hs hm

end SignatureAggregationProtocol

end Gadget.AggSigGossip
