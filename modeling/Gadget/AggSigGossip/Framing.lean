import Gadget.AggSigGossip.Records

/-!
# Who can be made malicious

A peer is marked when it sends a share that does not verify, or when a report against it carries
evidence that holds. Evidence of an invalid signature is a signature that does not verify under
the key of the accused. It does not have to come from the accused, so anybody can make it up.
-/

namespace Gadget.AggSigGossip

open Rust GossipPrimitives Lib.Run Except Finset

variable {S : AggregatableSignature} {PeerId : Type} [DecidableEq PeerId] [Hashing]

inductive Event.Carries : Event S PeerId → S.Signature → Bytes → Prop where
  | share (msg : ProtocolMessage S PeerId) (env : Env PeerId) (signer : PeerId)
      (sig : S.Signature) (m : Bytes) (h : msg.payload = .ok (.signatureShare signer sig m)) :
      Carries (.message msg env) sig m
  | invalid (msg : ProtocolMessage S PeerId) (env : Env PeerId) (operator : PeerId)
      (sig : S.Signature) (m : Bytes)
      (h : msg.payload = .ok (.maliciousReport operator (.invalidSignature sig m))) :
      Carries (.message msg env) sig m
  | first (msg : ProtocolMessage S PeerId) (env : Env PeerId) (operator : PeerId)
      (sig sig' : S.Signature) (m m' : Bytes)
      (h : msg.payload = .ok (.maliciousReport operator (.equivocation sig sig' m m'))) :
      Carries (.message msg env) sig m
  | second (msg : ProtocolMessage S PeerId) (env : Env PeerId) (operator : PeerId)
      (sig sig' : S.Signature) (m m' : Bytes)
      (h : msg.payload = .ok (.maliciousReport operator (.equivocation sig' sig m' m))) :
      Carries (.message msg env) sig m

namespace SignatureAggregationProtocol

/-- The peer `q` has only signed the message `only`, and every share that it sends verifies for
the signer it names. -/
structure HonestPeer (q : PeerId) (only : Bytes) (p : SignatureAggregationProtocol S PeerId)
    (e : Event S PeerId) : Prop where
  signsOnce : ∀ sig m, e.Carries sig m → SignedBy p.participantPublicKeys q m sig → m = only
  relays : ∀ msg env signer sig m, e = .message msg env →
    msg.payload = .ok (.signatureShare signer sig m) → msg.routing.sender = q →
    SignedBy p.participantPublicKeys signer m sig

def NoFalseReport (q : PeerId) (p : SignatureAggregationProtocol S PeerId) (e : Event S PeerId) :
    Prop :=
  ∀ msg env sig m, e = .message msg env →
    msg.payload = .ok (.maliciousReport q (.invalidSignature sig m)) →
    ∀ pk, p.participantPublicKeys.lookup q = some pk → S.verify pk m sig = true

variable {q : PeerId} {p : SignatureAggregationProtocol S PeerId}

omit [Hashing] in
lemma verifyMaliciousEvidence_eq_true {evd : MaliciousEvidence S} {keys : HashMap PeerId S.Public}
    (h : verifyMaliciousEvidence q evd keys = .ok true) :
    (∃ pk sig m, keys.lookup q = some pk ∧ evd = .invalidSignature sig m ∧
      S.verify pk m sig = false) ∨
    (∃ sig sig' m m', evd = .equivocation sig sig' m m' ∧ m ≠ m' ∧
      SignedBy keys q m sig ∧ SignedBy keys q m' sig') := by
  unfold verifyMaliciousEvidence at h
  rcases hkey : keys.lookup q with _ | pk
  · rw [hkey] at h
    cases h
  rw [hkey] at h
  rcases evd with ⟨sig, m⟩ | ⟨sig, sig', m, m'⟩
  · simp only [ok.injEq, Bool.not_eq_true'] at h
    exact .inl ⟨pk, sig, m, rfl, rfl, h⟩
  by_cases hs : m = m'
  · simp only [hs, if_true, ok.injEq] at h
    cases h
  · simp only [hs, if_false, ok.injEq, Bool.and_eq_true] at h
    exact .inr ⟨sig, sig', m, m', rfl, hs, ⟨pk, hkey, h.1⟩, ⟨pk, hkey, h.2⟩⟩

lemma mem_malicious_of_falseReport {msg : ProtocolMessage S PeerId} {env : Env PeerId}
    {sig : S.Signature} {m : Bytes} {pk : S.Public}
    (hr : msg.payload = .ok (.maliciousReport q (.invalidSignature sig m)))
    (hkey : p.participantPublicKeys.lookup q = some pk) (hnot : S.verify pk m sig = false) :
    q ∈ (p.step (.message msg env)).records.malicious := by
  have he : verifyMaliciousEvidence q (.invalidSignature sig m) p.participantPublicKeys
      = .ok true := by
    simp [verifyMaliciousEvidence, hkey, hnot]
  simp only [step, handleMessage, hr, handleMaliciousReport, he]
  exact mem_insert_self q _

lemma unmarked_step_iff {only : Bytes} {e : Event S PeerId} (hh : p.HonestPeer q only e)
    (hq : q ∉ p.records.malicious) : q ∉ (p.step e).records.malicious ↔ p.NoFalseReport q e := by
  constructor
  · rintro hnot msg env sig m rfl hr pk hkey
    by_contra hv
    exact hnot (mem_malicious_of_falseReport hr hkey (Bool.eq_false_of_not_eq_true hv))
  · intro hf
    have hl := (p.step_leaves e).1
    generalize (p.step e).records = after at hl
    cases hl with
    | same | signs | accepts => exact hq
    | refuses msg env sg sig m hs hnew hnot =>
      intro hma
      obtain hse | hold := mem_insert.mp hma
      · exact hnot (hh.relays msg env sg sig m rfl hs hse.symm)
      · exact hq hold
    | convicts msg env op evd hr he =>
      intro hma
      obtain rfl | hold := mem_insert.mp hma
      · obtain ⟨pk, sig, m, hkey, rfl, hv⟩ | ⟨sig, sig', m, m', rfl, hne, hsig, hsig'⟩ :=
          verifyMaliciousEvidence_eq_true he
        · rw [hf msg env sig m rfl hr pk hkey] at hv
          cases hv
        -- two messages would have been signed
        have hm := hh.signsOnce sig m (.first msg env q sig sig' m m' hr) hsig
        have hm' := hh.signsOnce sig' m' (.second msg env q sig' sig m' m hr) hsig'
        exact hne (hm.trans hm'.symm)
      · exact hq hold

abbrev falseReport : Event AggregatableSignature.transparent ℕ :=
  .message
    { routing := { messageId := 0, roundId := 0, sender := 2, recipient := none }
      payload := .ok (.maliciousReport 1 (.invalidSignature (5 : ℕ) [9])) }
    Env.quiet

abbrev honestShare : Event AggregatableSignature.transparent ℕ :=
  .message
    { routing := { messageId := 0, roundId := 0, sender := 1, recipient := none }
      payload := .ok (.signatureShare 1 (1 : ℕ) [7]) }
    Env.quiet

end SignatureAggregationProtocol

end Gadget.AggSigGossip
