import Gadget.X402.CallerIdentity
import Gadget.X402.Mpp

/-!
# The map of verified payers

The payer of a settled request goes through a map that all requests share, under the id of its
challenge. The id is a function of the job, the token and the second of the expiry, so that two
clients can hold the same one. A request finds its own payer as long as no other request with its
challenge is between its settlement and its turn at the map, and no sweep comes a minute after its
settlement.
-/

namespace Gadget.X402

open Rust Lib.Run HashMap List

variable {D : Deps} {P : PayDeps D} {M : MppDeps D} {gateway : X402Gateway D}

/-- A settled request for a job that only its payer may call was enqueued with its own payer as the
caller, and did not fail for want of a payer. -/
def MppRecord.Attributed (gateway : X402Gateway D) (r : MppRecord D) : Prop :=
  needsPayer gateway r.serviceId r.jobIndex = true →
    (∀ v ∈ r.enqueued, v.caller = some r.payer) ∧ r.answer ≠ missingPayer

def MppAdmitted.Needs (gateway : X402Gateway D) (a : MppAdmitted M) : Prop :=
  needsPayer gateway a.request.serviceId a.request.jobIndex = true

namespace MppState

def PayersOwn (gateway : X402Gateway D) (s : MppState M) : Prop :=
  ∀ r ∈ s.answered, r.Attributed gateway

def Waits (s : MppState M) (id : ℕ) (a : MppAdmitted M) (payer : D.Address) (at' : ℤ) : Prop :=
  s.handlers.lookup id = some (.settled a payer at')

/-- No request is settled while another one with its challenge waits for its payer, and no sweep
comes a minute or more after the settlement of a request that waits. -/
def Exclusive (gateway : X402Gateway D) (s : MppState M) : MppEvent D → Prop
  | .settled id answer _ => ∀ a payer, s.handlers.lookup id = some (.settling a payer) →
      settleResult answer = .ok () → ∀ id' a' payer' at', s.Waits id' a' payer' at' →
        a.Needs gateway ∨ a'.Needs gateway → a'.challengeId ≠ a.challengeId
  | .sweep now => ∀ id a payer at', s.Waits id a payer at' → a.Needs gateway →
      now - at' < payerCacheTtl
  | _ => True

structure Own (gateway : X402Gateway D) (s : MppState M) : Prop where
  apart : ∀ id id' a a' payer payer' t t', s.Waits id a payer t → s.Waits id' a' payer' t' →
    a.Needs gateway → a'.challengeId = a.challengeId → id' = id
  cached : ∀ id a payer t, s.Waits id a payer t → a.Needs gateway →
    s.verifiedPayers.lookup a.challengeId = some ⟨payer, t⟩
  taken : ∀ id a payer settledPayer, s.handlers.lookup id = some (.drained a payer settledPayer) →
    a.Needs gateway → settledPayer = some payer
  answered : s.PayersOwn gateway

lemma own_start (paid : PaidState D) : (start paid : MppState M).Own gateway where
  apart id id' a a' payer payer' t t' h := by simp [start, Waits] at h
  cached id a payer t h := by simp [start, Waits] at h
  taken id a payer settledPayer h := by simp [start] at h
  answered r hr := by simp [start] at hr

end MppState

def MppHandler.Early : MppHandler M → Prop
  | .verifying _ => True
  | .settling _ _ => True
  | _ => False

namespace MppState

variable {s : MppState M}

lemma Own.of_early {s' : MppState M} (hs : s.Own gateway)
    (hc : s'.verifiedPayers = s.verifiedPayers) (ha : s'.answered = s.answered)
    (hh : ∀ id h, s'.handlers.lookup id = some h → ¬ h.Early → s.handlers.lookup id = some h) :
    s'.Own gateway where
  apart id id' a a' payer payer' t t' h h' :=
    hs.apart id id' a a' payer payer' t t' (hh id _ h nofun) (hh id' _ h' nofun)
  cached id a payer t h := by
    rw [hc]
    exact hs.cached id a payer t (hh id _ h nofun)
  taken id a payer settledPayer h := hs.taken id a payer settledPayer (hh id _ h nofun)
  answered := by
    unfold PayersOwn
    rw [ha]
    exact hs.answered

variable (hs : s.Own gateway)

include hs

lemma Own.insert_early (id : ℕ) {h : MppHandler M} (he : h.Early) :
    { s with handlers := s.handlers.insert id h }.Own gateway := by
  refine hs.of_early rfl rfl fun id' h' hl hla => ?_
  rcases lookup_insert_cases hl with ⟨-, rfl⟩ | hl
  · exact absurd he hla
  · exact hl

lemma Own.erase (id : ℕ) : { s with handlers := s.handlers.erase id }.Own gateway := by
  refine hs.of_early rfl rfl fun id' h' hl _ => ?_
  rw [lookup_erase_eq] at hl
  split at hl
  · cases hl
  · exact hl

lemma Own.settled (id : ℕ) (a : MppAdmitted M) (payer : D.Address) (now : ℤ)
    (hf : ∀ id' a' payer' t', s.Waits id' a' payer' t' → a.Needs gateway ∨ a'.Needs gateway →
      a'.challengeId ≠ a.challengeId) :
    { s with
      verifiedPayers := s.verifiedPayers.insert a.challengeId ⟨payer, now⟩
      handlers := s.handlers.insert id (.settled a payer now) }.Own gateway := by
  refine ⟨?_, ?_, ?_, hs.answered⟩
  · intro id₁ id₂ a₁ a₂ payer₁ payer₂ t₁ t₂ h₁ h₂ hn heq
    simp only [Waits, lookup_insert_eq] at h₁ h₂
    split at h₁
    · rename_i hid₁
      cases h₁
      split at h₂
      · rename_i hid₂
        rw [hid₂, hid₁]
      · exact absurd heq (hf id₂ a₂ payer₂ t₂ h₂ (.inl hn))
    · split at h₂
      · cases h₂
        exact absurd heq.symm (hf id₁ a₁ payer₁ t₁ h₁ (.inr hn))
      · exact hs.apart id₁ id₂ a₁ a₂ payer₁ payer₂ t₁ t₂ h₁ h₂ hn heq
  · intro id₁ a₁ payer₁ t₁ h₁ hn
    simp only [Waits, lookup_insert_eq] at h₁ ⊢
    split at h₁
    · cases h₁
      simp
    · rw [if_neg (hf id₁ a₁ payer₁ t₁ h₁ (.inr hn))]
      exact hs.cached id₁ a₁ payer₁ t₁ h₁ hn
  · intro id₁ a₁ payer₁ settledPayer h₁
    rcases lookup_insert_cases h₁ with ⟨-, ⟨⟩⟩ | h₁
    exact hs.taken id₁ a₁ payer₁ settledPayer h₁

lemma Own.drain {id : ℕ} {a : MppAdmitted M} {payer : D.Address} {t : ℤ} (hw : s.Waits id a payer t) :
    (s.drain gateway id a payer).Own gateway := by
  -- no other handler that needs its payer waits for what is taken
  have hc : ∀ id₁ a₁ payer₁ t₁, id₁ ≠ id → s.Waits id₁ a₁ payer₁ t₁ → a₁.Needs gateway →
      (s.verifiedPayers.erase a.challengeId).lookup a₁.challengeId = some ⟨payer₁, t₁⟩ := by
    intro id₁ a₁ payer₁ t₁ hne h₁ hn
    have hch : a₁.challengeId ≠ a.challengeId := fun heq =>
      hne (hs.apart id₁ id a₁ a payer₁ payer t₁ t h₁ hw hn heq.symm).symm
    rw [lookup_erase_eq, if_neg hch]
    exact hs.cached id₁ a₁ payer₁ t₁ h₁ hn
  have hown : a.Needs gateway →
      (s.verifiedPayers.lookup a.challengeId).map (·.payer) = some payer := by
    intro hn
    rw [hs.cached id a payer t hw hn]
    rfl
  unfold MppState.drain
  rw [if_neg (by rintro ⟨hn, hno⟩; rw [hown hn] at hno; cases hno)]
  refine ⟨?_, ?_, ?_, hs.answered⟩
  · intro id₁ id₂ a₁ a₂ payer₁ payer₂ t₁ t₂ h₁ h₂
    simp only [Waits, lookup_insert_eq] at h₁ h₂
    split at h₁
    · cases h₁
    · split at h₂
      · cases h₂
      · exact hs.apart id₁ id₂ a₁ a₂ payer₁ payer₂ t₁ t₂ h₁ h₂
  · intro id₁ a₁ payer₁ t₁ h₁
    simp only [Waits, lookup_insert_eq] at h₁
    split at h₁
    · cases h₁
    · rename_i hne
      exact hc id₁ a₁ payer₁ t₁ hne h₁
  · intro id₁ a₁ payer₁ settledPayer h₁ hn
    rcases lookup_insert_cases h₁ with ⟨-, ⟨⟩⟩ | h₁
    · exact hown hn
    · exact hs.taken id₁ a₁ payer₁ settledPayer h₁ hn

lemma Own.answer (paid : PaidState D) (id : ℕ) (a : MppAdmitted M) (payer : D.Address)
    (reply : MppAnswer) (enqueued : List (VerifiedPayment D))
    (hnew : a.Needs gateway → (∀ v ∈ enqueued, v.caller = some payer) ∧ reply ≠ missingPayer) :
    ({ s with paid := paid }.answer id a payer reply enqueued).Own gateway := by
  have he : { s with handlers := s.handlers.erase id }.Own gateway := hs.erase id
  refine ⟨he.apart, he.cached, he.taken, ?_⟩
  intro r hr
  obtain rfl | hr := mem_cons.mp hr
  · exact hnew
  · exact hs.answered r hr

lemma Own.sweep (now : ℤ)
    (hf : ∀ id a payer t, s.Waits id a payer t → a.Needs gateway → now - t < payerCacheTtl) :
    { s with
      verifiedPayers := retain s.verifiedPayers fun _ entry =>
        decide (now - entry.insertedAt < payerCacheTtl) }.Own gateway := by
  refine ⟨hs.apart, ?_, hs.taken, hs.answered⟩
  intro id a payer t h hn
  rw [lookup_retain_eq_some]
  exact ⟨hs.cached id a payer t h hn, decide_eq_true (hf id a payer t h hn)⟩

end MppState

lemma admitCaller_of_payer (aenv : AuthEnv D) (seen : SeenNonces) {serviceId job : ℕ}
    (hn : needsPayer gateway serviceId job = true) (body : Bytes) (headers : HeaderMap)
    (payer : D.Address) (proto : PaymentProtocol) {wei : ℕ} {caller : Option D.Address}
    (h : (admitCaller P aenv gateway seen serviceId job body headers (some payer)
      proto).1 = .ok (wei, caller)) : caller = some payer := by
  obtain ⟨hm, ha⟩ := of_decide_eq_true hn
  unfold admitCaller authorizeRestrictedJobWithPayer attributedCaller at h
  rcases hp : gateway.jobPricing.lookup (serviceId, job) with _ | price
  · simp [hp] at h
  simp only [hp, hm, ha] at h
  rcases hch : checkPermitted P aenv (resolveJobPolicy gateway serviceId job) serviceId
      payer with r | c
  · simp [hch] at h
  have hc : c = payer := (checkPermitted_eq_ok.mp hch).2
  simp only [hch, Except.ok.injEq, Prod.mk.injEq] at h
  rw [← h.2, hc]

lemma enqueued_of_payer (aenv : AuthEnv D) (env : EnqueueEnv) (s : PaidState D)
    {serviceId job : ℕ} (hn : needsPayer gateway serviceId job = true) (body : Bytes)
    (headers : HeaderMap) (attr : PaymentAttribution D) {payer : D.Address}
    (hp : attr.settledPayer = some payer) (proto : PaymentProtocol) :
    ∀ v ∈ (handlePaidJobInner P aenv env gateway s serviceId job body headers attr
      proto).2.queue.drop s.queue.length, v.caller = some payer := by
  unfold handlePaidJobInner
  rw [hp]
  rcases ha : admitCaller P aenv gateway s.seen serviceId job body headers (some payer)
      proto with ⟨result, seen⟩
  rcases result with r | admitted
  · simp
  obtain ⟨wei, caller⟩ := admitted
  have hc : caller = some payer :=
    admitCaller_of_payer (P := P) aenv s.seen hn body headers payer proto (congrArg Prod.fst ha)
  obtain ⟨sent, hs⟩ := queue_enqueuePaid (P := P) env gateway s serviceId job body wei
  obtain ⟨new, hq, hnew⟩ := hs seen attr caller
  simp only [hq, drop_left]
  intro v hv
  have hmem : v.caller ∈ new.map (·.caller) := mem_map_of_mem hv
  rw [hnew] at hmem
  split at hmem
  · rw [mem_singleton.mp hmem, hc]
  · cases hmem

namespace MppState

lemma Own.finish {s : MppState M} (hs : s.Own gateway) {id : ℕ} {a : MppAdmitted M}
    {payer : D.Address} {settledPayer : Option D.Address}
    (hd : s.handlers.lookup id = some (.drained a payer settledPayer)) (aenv : AuthEnv D)
    (env : EnqueueEnv) :
    (s.finish P gateway id a payer settledPayer aenv env).Own gateway := by
  refine hs.answer _ id a payer _ _ fun hn => ⟨?_, ?_⟩
  · exact enqueued_of_payer aenv env s.paid hn a.request.body a.request.headers _
      (hs.taken id a payer settledPayer hd hn) .mpp
  · intro hm
    split at hm <;> cases hm

lemma Own.step {s : MppState M} (hs : s.Own gateway) (e : MppEvent D)
    (he : s.Exclusive gateway e) : (s.step P gateway e).Own gateway := by
  cases e with
  | arrive id req clk =>
    simp only [MppState.step]
    split
    · exact hs.insert_early id trivial
    · exact hs
  | verified id answer =>
    simp only [MppState.step]
    split
    · split
      · exact hs.insert_early id trivial
      · exact hs.erase id
    · exact hs
  | settled id answer now =>
    simp only [MppState.step]
    split
    · rename_i a payer hse
      split
      · rename_i hok
        exact hs.settled id a payer now (he a payer hse hok)
      · exact hs.erase id
    · exact hs
  | drain id =>
    simp only [MppState.step]
    split
    · rename_i hw
      exact hs.drain hw
    · exact hs
  | finish id aenv env =>
    simp only [MppState.step]
    split
    · rename_i hd
      exact hs.finish hd aenv env
    · exact hs
  | drop id => exact hs.erase id
  | sweep now => exact hs.sweep now he

/-- **Payers of settled requests.** In every run of the handlers in which no request is settled
while another one with its challenge waits for its payer, and no sweep is late, each request for a
job that only its payer may call is enqueued with its own payer, and none fails for want of one. -/
theorem always_payersOwn (P : PayDeps D) (gateway : X402Gateway D) (paid : PaidState D)
    (es : List (MppEvent D))
    (h : Each (step P gateway) (Exclusive gateway) (start paid : MppState M) es) :
    Always (step P gateway) (PayersOwn gateway) (start paid : MppState M) es :=
  always_of_each (J := Own gateway) (fun _ e hs he => hs.step e he) (fun _ hs => hs.answered)
    (own_start paid) h

abbrev plainMppDeps : MppDeps wholeDeps where
  Json := MppMethodDetails
  decodeMethodDetails details := .ok details
  encodeMethodDetails details := details
  encodeRequest request := .ok request.amount
  challengeHmac _ _ _ _ request expires := request ++ expires
  encodable _ := true
  rfc3339 time := .ok (Nat.toDigits 10 time.toNat)
  Credential := List Char
  extractPaymentScheme text := some text
  parseAuthorization text := .ok text
  challengeId credential := credential
  decodeRequest credential :=
    .ok ⟨credential.take 10, zeroAddress, some zeroAddress, none,
      some ⟨dollarToken.network, [], [], none, 6, 1, 0⟩⟩
  x402Payload _ := .ok []
  checkCredential _ credential request :=
    if credential.take 10 = request.amount then .ok request
    else .error ⟨"challenge id mismatch", some .credentialMismatch⟩
  decodeBase64Url _ := .ok []
  Payment := Unit
  parsePayment _ := .ok ()
  parseU256 text := parseU64 text
  parseChain network := some ("8453", some network)
  encodeVerify _ _ := .ok ()
  encodeSettle _ _ := .ok ()

def plainMpp : MppConfig := ⟨[], [], 300⟩

def mppGateway : X402Gateway wholeDeps :=
  { PaidRun.restrictedGateway with
    config := { PaidRun.restrictedGateway.config with mpp := some plainMpp } }

def sharedChallenge : List Char := ['3', '2', '0', '0', '0', '0', '0', '0', '0', '0', '4', '0', '0']

def sharedRequest : MppRequest :=
  ⟨1, 0, (∅ : HeaderMap).set headerAuthorization (sharedChallenge.map asciiByte), []⟩

def payRun (id : ℕ) (payer : List Char) : List (MppEvent wholeDeps) :=
  [.arrive id sharedRequest 100, .verified id (.valid payer), .settled id (.success "") 0]

def callRun (id : ℕ) : List (MppEvent wholeDeps) :=
  [.drain id, .finish id ⟨0, 0, fun _ _ _ _ => .ok true⟩ ⟨0, 0, 0⟩]

def unpaid : PaidState wholeDeps := ⟨∅, ∅, 1, [], false⟩

theorem always_payersOwn_alone :
    Each (step plainPayDeps mppGateway) (Exclusive mppGateway) (start unpaid : MppState plainMppDeps)
      (payRun 0 zeroAddress ++ callRun 0) ∧
    Always (step plainPayDeps mppGateway) (PayersOwn mppGateway)
      (start unpaid : MppState plainMppDeps) (payRun 0 zeroAddress ++ callRun 0) := by
  have he : Each (step plainPayDeps mppGateway) (Exclusive mppGateway)
      (start unpaid : MppState plainMppDeps) (payRun 0 zeroAddress ++ callRun 0) := by
    refine ⟨trivial, trivial, ?_, trivial, trivial, trivial⟩
    intro a payer _ _ id' a' payer' t' hw
    -- the only handler is the one that is being settled
    obtain ⟨b, hh⟩ : ∃ b, (((payRun 0 zeroAddress).take 2).foldl (step plainPayDeps mppGateway)
        (start unpaid : MppState plainMppDeps)).handlers
          = ((∅ : HashMap ℕ (MppHandler plainMppDeps)).insert 0 (.verifying b)).insert 0
              (.settling b zeroAddress) := ⟨_, rfl⟩
    have hl : (((∅ : HashMap ℕ (MppHandler plainMppDeps)).insert 0 (.verifying b)).insert 0
        (.settling b zeroAddress)).lookup id' = some (.settled a' payer' t') := by
      rw [← hh]
      exact hw
    simp only [lookup_insert_eq, Finmap.lookup_empty] at hl
    split at hl <;> cases hl
  exact ⟨he, always_payersOwn plainPayDeps mppGateway unpaid _ he⟩

/-- Two clients ask for the job in second 100 and get the same challenge. Both pay. The first one is
enqueued with the payer of the second, and the second fails for want of a payer. -/
theorem shared_challenge_swaps_payers :
    buildChallenge plainMppDeps plainMpp dollarToken 1 0 (10 ^ 18) 100
      = .ok (sharedChallenge, ['4', '0', '0']) ∧
    ((payRun 0 zeroAddress ++ payRun 1 PaidRun.otherAddress ++ callRun 0 ++ callRun 1).foldl
      (step plainPayDeps mppGateway) (start unpaid : MppState plainMppDeps)).answered.map
        (fun r => (r.serviceId, r.jobIndex, r.payer, r.answer, r.enqueued.map (·.caller)))
      = [(1, 0, PaidRun.otherAddress, missingPayer, []),
        (1, 0, zeroAddress, .accepted ⟨1, []⟩, [some PaidRun.otherAddress])] ∧
    ¬ Always (step plainPayDeps mppGateway) (PayersOwn mppGateway)
      (start unpaid : MppState plainMppDeps)
      (payRun 0 zeroAddress ++ payRun 1 PaidRun.otherAddress ++ callRun 0 ++ callRun 1) := by
  refine ⟨rfl, rfl, fun h => ?_⟩
  obtain ⟨r, hr, hm⟩ : ∃ r, r ∈ ((payRun 0 zeroAddress ++ payRun 1 PaidRun.otherAddress
      ++ callRun 0 ++ callRun 1).foldl (step plainPayDeps mppGateway)
        (start unpaid : MppState plainMppDeps)).answered ∧
      r = ⟨1, 0, PaidRun.otherAddress, missingPayer, []⟩ := ⟨_, mem_cons_self, rfl⟩
  have ha := h.last r hr
  rw [hm] at ha
  exact (ha rfl).2 rfl

end MppState

end Gadget.X402
