import Gadget.AggSigGossip.Records

/-!
# Signers of two messages

A peer that signs two different messages has equivocated, and the protocol has a check for it.
The evidence that the check returns is dropped: the peer is not marked, and its weight goes on
counting wherever a signature was recorded for it. So a peer that has equivocated is held to
account only if it was marked before for another reason and if nothing is recorded for it.
-/

namespace Gadget.AggSigGossip

open Rust GossipPrimitives Lib.Run List

variable {S : AggregatableSignature} {PeerId : Type} [DecidableEq PeerId] [Hashing]

abbrev Share (S : AggregatableSignature) (PeerId : Type) := PeerId × S.Signature × Bytes

def Event.share : Event S PeerId → List (Share S PeerId)
  | .message msg _ =>
    match msg.payload with
    | .ok (.signatureShare signer sig m) => [(signer, sig, m)]
    | _ => []
  | _ => []

structure Observed (S : AggregatableSignature) (PeerId : Type) where
  protocol : SignatureAggregationProtocol S PeerId
  shares : List (Share S PeerId)

namespace Observed

def new (config : ProtocolConfig S PeerId) (weightScheme : SignatureWeight PeerId)
    (keys : HashMap PeerId S.Public) : Observed S PeerId :=
  ⟨SignatureAggregationProtocol.new config weightScheme keys, []⟩

variable (o : Observed S PeerId)

def step (e : Event S PeerId) : Observed S PeerId :=
  ⟨o.protocol.step e, o.shares ++ e.share⟩

def HasSigned (s : PeerId) (m : Bytes) : Prop :=
  ∃ sig, (s, sig, m) ∈ o.shares ∧ SignedBy o.protocol.participantPublicKeys s m sig

/-- The peer has signed two messages. -/
def Equivocates (s : PeerId) : Prop :=
  ∃ m m', m ≠ m' ∧ o.HasSigned s m ∧ o.HasSigned s m'

/-- The weight of the peer is added for some message: `get_highest_weight_message`,
`aggregate_and_verify` and `check_threshold` add the weights of the recorded signers, the last one
without the malicious. -/
def Counted (s : PeerId) : Prop := ∃ m, s ∈ o.protocol.records.signersOf m

/-- Equivocators are marked malicious and not counted. -/
def Accountable : Prop :=
  ∀ s, o.Equivocates s → s ∈ o.protocol.records.malicious ∧ ¬ o.Counted s

end Observed

namespace SignatureAggregationProtocol

inductive Files (p : SignatureAggregationProtocol S PeerId) : Event S PeerId → PeerId → Prop where
  | share (msg : ProtocolMessage S PeerId) (env : Env PeerId) (signer : PeerId)
      (sig : S.Signature) (m : Bytes) (hshare : msg.payload = .ok (.signatureShare signer sig m))
      (hnew : signer ∉ p.signersOf m) (hsigned : SignedBy p.participantPublicKeys signer m sig) :
      Files p (.message msg env) msg.routing.sender
  | own (message : Bytes) (env : Env PeerId) (sig : S.Signature)
      (hround : p.state.round ≠ .completion)
      (hsign : (S.signWithSecret p.config.networkHandle.localSigningKey message).1 = .ok sig) :
      Files p (.start message env) p.localPeerId

variable {p : SignatureAggregationProtocol S PeerId}

omit [Hashing] in
lemma start_records {message : Bytes} {env : Env PeerId} {sig : S.Signature}
    (hr : p.state.round ≠ .completion)
    (hsi : (S.signWithSecret p.config.networkHandle.localSigningKey message).1 = .ok sig) :
    (p.start message env).2.records = p.records.add p.localPeerId sig message := by
  let opened := { p with state := { p.state with
    localMessage := message
    round := .signatureCollection } }
  have ht : ∃ changed, AggregationState.tryTransitionTo
      { p.state with localMessage := message } .signatureCollection
        = (.ok changed, opened.state) := by
    rcases hc : p.state.round with _ | _ | _
    · exact ⟨true, by simp [AggregationState.tryTransitionTo, hc,
        AggregationState.isValidTransition, opened]⟩
    · exact ⟨false, by simp [AggregationState.tryTransitionTo, hc, opened]⟩
    · exact absurd hc hr
  obtain ⟨changed, ht⟩ := ht
  have hst : p.start message env = opened.signAndBroadcast message env := by
    simp only [start, ht]
    rfl
  have ho : (S.signWithSecret opened.config.networkHandle.localSigningKey message).1
      = .ok sig := hsi
  obtain ⟨cfg, -, ⟨⟨e, he⟩, -⟩ | ⟨sig', hsig', hs⟩⟩ := opened.signAndBroadcast_cases message env
  · rw [ho] at he
    cases he
  rw [ho] at hsig'
  cases hsig'
  rw [hst, hs]
  rfl

lemma Files.mem_signersOf {e : Event S PeerId} {q : PeerId} (h : p.Files e q) :
    ∃ m, q ∈ (p.step e).records.signersOf m := by
  cases h with
  | share msg env sg sig m hsh hnew hsi =>
    refine ⟨m, ?_⟩
    have hst : p.step (.message msg env)
        = (p.handleSignatureShare msg.routing.sender sg sig m env).2 := by
      simp [step, handleMessage, hsh]
    rw [hst]
    rcases p.handleSignatureShare_cases msg.routing.sender sg sig m env
      with ⟨hse, -⟩ | ⟨-, hv, -⟩ | ⟨-, -, cfg, cache, -, hs⟩
    · exact absurd hse hnew
    · rw [(verifySignature_iff _ _ _ _).mpr hsi] at hv
      cases hv
    · rw [hs]
      exact (p.records.mem_signersOf_add _ _ sig m m).mpr (.inr ⟨rfl, rfl⟩)
  | own message env sig hr hsn =>
    refine ⟨message, ?_⟩
    have hst : p.step (.start message env) = (p.start message env).2 := rfl
    rw [hst, start_records hr hsn]
    exact (p.records.mem_signersOf_add _ _ sig message message).mpr (.inr ⟨rfl, rfl⟩)

lemma mem_signersOf_step_iff (p : SignatureAggregationProtocol S PeerId) (e : Event S PeerId)
    (q : PeerId) :
    (∃ m, q ∈ (p.step e).records.signersOf m) ↔ (∃ m, q ∈ p.records.signersOf m) ∨ p.Files e q := by
  constructor
  · rintro ⟨m, hq⟩
    have hl := (p.step_leaves e).1
    generalize (p.step e).records = after at hl hq
    cases hl with
    | same | refuses | convicts => exact .inl ⟨m, hq⟩
    | signs message env sig hr hsn =>
      rcases (Records.mem_signersOf_add _ _ _ _ _ _).mp hq with hold | ⟨rfl, -⟩
      · exact .inl ⟨m, hold⟩
      · exact .inr (.own message env sig hr hsn)
    | accepts msg env sg sig m' hs hnew hsi =>
      rcases (Records.mem_signersOf_add _ _ _ _ _ _).mp hq with hold | ⟨rfl, -⟩
      · exact .inl ⟨m, hold⟩
      · exact .inr (.share msg env sg sig m' hs hnew hsi)
  · rintro (⟨m, hq⟩ | hf)
    · refine ⟨m, ?_⟩
      have hl := (p.step_leaves e).1
      generalize (p.step e).records = after at hl
      cases hl with
      | same | refuses | convicts => exact hq
      | signs | accepts =>
        exact (Records.mem_signersOf_add _ _ _ _ _ _).mpr (.inl hq)
    · exact hf.mem_signersOf

lemma malicious_step (p : SignatureAggregationProtocol S PeerId) (e : Event S PeerId) :
    p.records.malicious ⊆ (p.step e).records.malicious := by
  have hl := (p.step_leaves e).1
  generalize (p.step e).records = after at hl
  cases hl with
  | same | signs | accepts => exact Finset.Subset.refl _
  | refuses | convicts => exact Finset.subset_insert _ _

/-- **Nothing is taken back.** In every run the keys stay as they are, and whoever is malicious or has
signed a message stays recorded. -/
theorem records_grow (p : SignatureAggregationProtocol S PeerId) (es : List (Event S PeerId)) :
    let p' := es.foldl step p
    p'.participantPublicKeys = p.participantPublicKeys ∧
      p.records.malicious ⊆ p'.records.malicious ∧
      ∀ m, p.records.signersOf m ⊆ p'.records.signersOf m := by
  induction es generalizing p with
  | nil => exact ⟨rfl, subset_rfl, fun _ => subset_rfl⟩
  | cons e es ih =>
    obtain ⟨hk, hm, hs⟩ := ih (p.step e)
    obtain ⟨hl, hke⟩ := p.step_leaves e
    refine ⟨hk.trans hke, (p.malicious_step e).trans hm, fun m => .trans ?_ (hs m)⟩
    generalize (p.step e).records = after at hl
    cases hl with
    | same | refuses | convicts => exact subset_rfl
    | signs | accepts =>
      exact fun q hq => (Records.mem_signersOf_add _ _ _ _ _ _).mpr (.inl hq)

lemma malicious_step_of_signed {e : Event S PeerId} {s : PeerId} {sig : S.Signature} {m : Bytes}
    (hs : (s, sig, m) ∈ e.share) (hsi : SignedBy p.participantPublicKeys s m sig) :
    (p.step e).records.malicious = p.records.malicious := by
  have hl := (p.step_leaves e).1
  generalize (p.step e).records = after at hl
  cases hl with
  | same | signs | accepts => rfl
  | refuses msg env sg sig' m' hp hnew hnot =>
    simp only [Event.share, hp, mem_singleton, Prod.mk.injEq] at hs
    obtain ⟨rfl, rfl, rfl⟩ := hs
    exact absurd hsi hnot
  | convicts msg env op evd hr he =>
    simp only [Event.share, hr, not_mem_nil] at hs

end SignatureAggregationProtocol

namespace Observed

/-- An event keeps the account of equivocations: the signer of a share that equivocates with it was
malicious before and counts nowhere, and no signature is recorded for a peer that has equivocated. -/
structure KeepsAccount (o : Observed S PeerId) (e : Event S PeerId) : Prop where
  convicted : ∀ s sig m, (s, sig, m) ∈ e.share →
    SignedBy o.protocol.participantPublicKeys s m sig → (∃ m', m ≠ m' ∧ o.HasSigned s m') →
    s ∈ o.protocol.records.malicious ∧ ¬ o.Counted s
  unfiled : ∀ q, o.protocol.Files e q → ¬ (o.step e).Equivocates q

lemma hasSigned_step (o : Observed S PeerId) (e : Event S PeerId) (s : PeerId) (m : Bytes) :
    (o.step e).HasSigned s m ↔ o.HasSigned s m ∨
      ∃ sig, (s, sig, m) ∈ e.share ∧ SignedBy o.protocol.participantPublicKeys s m sig := by
  have hk := (o.protocol.step_leaves e).2
  simp only [HasSigned, step, hk, mem_append]
  constructor
  · rintro ⟨sig, hold | hnew, hs⟩
    · exact .inl ⟨sig, hold, hs⟩
    · exact .inr ⟨sig, hnew, hs⟩
  · rintro (⟨sig, hold, hs⟩ | ⟨sig, hnew, hs⟩)
    · exact ⟨sig, .inl hold, hs⟩
    · exact ⟨sig, .inr hnew, hs⟩

omit [DecidableEq PeerId] [Hashing] in
lemma share_unique {e : Event S PeerId} {x y : Share S PeerId} (hx : x ∈ e.share)
    (hy : y ∈ e.share) : x = y := by
  cases e with
  | start | timeout => cases hx
  | message msg env =>
    rcases hp : msg.payload with err | body
    · simp only [Event.share, hp, not_mem_nil] at hx
    cases body with
    | signatureShare sg sig m =>
      simp only [Event.share, hp, mem_singleton] at hx hy
      rw [hx, hy]
    | maliciousReport | protocolComplete =>
      simp only [Event.share, hp, not_mem_nil] at hx

lemma equivocates_step (o : Observed S PeerId) (e : Event S PeerId) (s : PeerId) :
    (o.step e).Equivocates s ↔ o.Equivocates s ∨ ∃ sig m, (s, sig, m) ∈ e.share ∧
      SignedBy o.protocol.participantPublicKeys s m sig ∧ ∃ m', m ≠ m' ∧ o.HasSigned s m' := by
  simp only [Equivocates, hasSigned_step]
  constructor
  · rintro ⟨m, m', hne, hm | ⟨sig, hs, hsi⟩, hm' | ⟨sig', hs', hsi'⟩⟩
    · exact .inl ⟨m, m', hne, hm, hm'⟩
    · exact .inr ⟨sig', m', hs', hsi', m, hne.symm, hm⟩
    · exact .inr ⟨sig, m, hs, hsi, m', hne, hm'⟩
    · -- both would be the share of this event
      cases share_unique hs hs'
      exact absurd rfl hne
  · rintro (⟨m, m', hne, hm, hm'⟩ | ⟨sig, m, hs, hsi, m', hne, hm'⟩)
    · exact ⟨m, m', hne, .inl hm, .inl hm'⟩
    · exact ⟨m, m', hne, .inr ⟨sig, hs, hsi⟩, .inl hm'⟩

lemma accountable_step_iff {o : Observed S PeerId} (h : o.Accountable) (e : Event S PeerId) :
    (o.step e).Accountable ↔ o.KeepsAccount e := by
  have hc : ∀ s, (o.step e).Counted s ↔ o.Counted s ∨ o.protocol.Files e s :=
    o.protocol.mem_signersOf_step_iff e
  constructor
  · intro h'
    refine ⟨?_, ?_⟩
    · intro s sig m hsh hsi ho
      obtain ⟨hm, hnot⟩ := h' s ((o.equivocates_step e s).mpr (.inr ⟨sig, m, hsh, hsi, ho⟩))
      refine ⟨?_, fun hold => hnot ((hc s).mpr (.inl hold))⟩
      have hsa := SignatureAggregationProtocol.malicious_step_of_signed hsh hsi
      exact hsa ▸ hm
    · intro q hf he
      exact (h' q he).2 ((hc q).mpr (.inr hf))
  · intro hk s hs
    have hb : s ∈ o.protocol.records.malicious ∧ ¬ o.Counted s := by
      rcases (o.equivocates_step e s).mp hs with hold | ⟨sig, m, hsh, hsi, ho⟩
      · exact h s hold
      · exact hk.convicted s sig m hsh hsi ho
    refine ⟨o.protocol.malicious_step e hb.1, ?_⟩
    intro hco
    rcases (hc s).mp hco with hold | hf
    · exact hb.2 hold
    · exact hk.unfiled s hf hs

/-- **Equivocation.** In every state of a run of a node, whoever has signed two messages is malicious
and counts nowhere, exactly when every share with which its signer equivocates names one that was
marked malicious before and is recorded nowhere, and no signature is recorded for a peer that has
equivocated. -/
theorem always_accountable_iff (config : ProtocolConfig S PeerId)
    (weightScheme : SignatureWeight PeerId) (keys : HashMap PeerId S.Public)
    (es : List (Event S PeerId)) :
    Always step Accountable (new config weightScheme keys) es ↔
      Each step KeepsAccount (new config weightScheme keys) es := by
  have hs : ∀ (o : Observed S PeerId) (e : Event S PeerId), True → o.Accountable →
      ((o.step e).Accountable ↔ o.KeepsAccount e) :=
    fun o e _ h => accountable_step_iff h e
  refine always_iff_each (fun _ _ _ _ => trivial) hs trivial ?_ es
  rintro s ⟨m, m', -, ⟨sig, hsig, -⟩, -⟩
  cases hsig

abbrev ownShare (m : Bytes) : Event AggregatableSignature.transparent ℕ :=
  .message
    { routing := { messageId := 0, roundId := 0, sender := 1, recipient := none }
      payload := .ok (.signatureShare 1 (1 : ℕ) m) }
    Env.quiet

omit [Hashing] in
/-- Peer `1` signs two messages. It is not marked, and its weight counts for both. -/
theorem equivocator_unmarked :
    letI : Hashing := ⟨fun _ => Vector.replicate 32 0⟩
    ¬ Always step Accountable (new ProtocolConfig.threePeers SignatureWeight.twoOfThree threeKeys)
      [ownShare [7], ownShare [8]] := by
  let _ : Hashing := ⟨fun _ => Vector.replicate 32 0⟩
  rintro ⟨-, -, h⟩
  have hkey : SignedBy threeKeys 1 [7] (1 : ℕ) ∧ SignedBy threeKeys 1 [8] (1 : ℕ) :=
    ⟨⟨(1 : ℕ), rfl, rfl⟩, ⟨(1 : ℕ), rfl, rfl⟩⟩
  have he : (((new ProtocolConfig.threePeers SignatureWeight.twoOfThree threeKeys).step
      (ownShare [7])).step (ownShare [8])).Equivocates 1 := by
    refine ⟨[7], [8], by decide, ⟨(1 : ℕ), ?_, hkey.1⟩, ⟨(1 : ℕ), ?_, hkey.2⟩⟩
    · exact mem_cons_self
    · exact mem_cons_of_mem _ mem_cons_self
  have hu : 1 ∉ (((new ProtocolConfig.threePeers SignatureWeight.twoOfThree threeKeys).step
      (ownShare [7])).step (ownShare [8])).protocol.records.malicious := by decide
  exact hu (h 1 he).1

end Observed

end Gadget.AggSigGossip
