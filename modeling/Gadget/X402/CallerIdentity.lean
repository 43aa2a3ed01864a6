import Gadget.X402.DelegatedReplay

/-!
# The caller of a job that is paid for by its caller

Under the policy `PayerIsCaller` the caller of a job should be the payer of its payment. On the
x402 route the payer is read from the header `X-Payment-Response` of the request, which the
client sets. Two requests for one settled payment are treated alike exactly when what this
header says makes no difference.
-/

namespace Gadget.X402

open Rust PolicyRejection Option Except

variable {D : Deps} (P : PayDeps D)

def claimedPayer (headers : HeaderMap) : Option (Option D.Address) :=
  (parseSettlementDetails P headers).map (·.payer)

variable (env : AuthEnv D)

def payerVerdict (policy : JobPolicyConfig D) (serviceId : ℕ) :
    Option (Option D.Address) → Except PolicyRejection D.Address
  | none =>
    .error (.badRequest "missing_settlement_context"
      "X-Payment-Response settlement context is required")
  | some none =>
    .error (.badRequest "missing_settled_payer"
      "settled payer is required for auth_mode=payer_is_caller")
  | some (some payer) => checkPermitted P env policy serviceId payer

lemma authorize_payerIsCaller (seen : SeenNonces)
    {policy : JobPolicyConfig D} (ha : policy.authMode = .payerIsCaller) (serviceId job : ℕ)
    (body : Bytes) (headers : HeaderMap) :
    authorizeRestrictedJobWithPayer P env seen policy serviceId job body headers
        ((parseSettlementDetails P headers).bind (·.payer)) .x402 true
      = (payerVerdict P env policy serviceId (claimedPayer P headers), seen) := by
  unfold authorizeRestrictedJobWithPayer attributedCaller claimedPayer
  rw [ha]
  rcases hset : parseSettlementDetails P headers with _ | settlement
  · rfl
  rcases hp : settlement.payer with _ | payer <;> simp [payerVerdict, hp]

def Consults (policy : JobPolicyConfig D) (url : D.Url) (contract : D.Address) : Prop :=
  policy.tangleRpcUrl = some url ∧ policy.tangleContract.bind D.parseAddress = some contract

/-- The contract answers that the caller is permitted. -/
def Permitted (policy : JobPolicyConfig D) (serviceId : ℕ) (caller : D.Address) : Prop :=
  ∃ url contract, Consults policy url contract ∧
    env.isPermittedCaller url contract serviceId caller = .ok true

def SameFailure (policy : JobPolicyConfig D) (serviceId : ℕ) (caller caller' : D.Address) : Prop :=
  ∀ url contract, Consults policy url contract →
    ∃ e, env.isPermittedCaller url contract serviceId caller = .error e ∧
      env.isPermittedCaller url contract serviceId caller' = .error e

variable {P}

lemma checkPermitted_of_not_consults {policy : JobPolicyConfig D}
    (h : ¬ ∃ url ctr, Consults policy url ctr) (serviceId : ℕ) :
    ∃ r : PolicyRejection, r.status = 503 ∧
      ∀ caller, checkPermitted P env policy serviceId caller = .error r := by
  unfold checkPermitted
  rcases hurl : policy.tangleRpcUrl with _ | url
  · exact ⟨_, rfl, fun _ => rfl⟩
  rcases hraw : policy.tangleContract with _ | raw
  · exact ⟨_, rfl, fun _ => rfl⟩
  rcases hc : D.parseAddress raw with _ | ctr
  · refine ⟨.serviceUnavailable "invalid_policy"
      "restricted_paid policy has invalid tangle_contract", rfl, fun _ => ?_⟩
    simp [okOr, hc, bind, Except.bind]
  exact absurd ⟨url, ctr, hurl, by rw [hraw]; exact hc⟩ h

lemma checkPermitted_of_consults {policy : JobPolicyConfig D} {url : D.Url}
    {ctr : D.Address} (h : Consults policy url ctr) (serviceId : ℕ)
    (caller : D.Address) :
    checkPermitted P env policy serviceId caller =
      match env.isPermittedCaller url ctr serviceId caller with
      | .error e =>
        .error (.serviceUnavailable "permission_check_failed"
          ("eth_call isPermittedCaller failed: " ++ e))
      | .ok false =>
        .error (.denied "caller_not_permitted"
          ("caller " ++ P.display caller ++ " is not permitted for service_id="
            ++ toString serviceId ++ " via on-chain policy"))
      | .ok true => .ok caller := by
  obtain ⟨hurl, hc⟩ := h
  obtain ⟨raw, hraw, hp⟩ := bind_eq_some_iff.mp hc
  unfold checkPermitted
  rw [hurl, hraw]
  simp only [okOr, hp, bind, Except.bind]
  rcases env.isPermittedCaller url ctr serviceId caller with e | permitted
  · rfl
  rcases permitted with _ | _ <;> rfl

variable {env : AuthEnv D} {serviceId : ℕ} {a b : D.Address} {c : Option (Option D.Address)}

lemma checkPermitted_eq_ok {policy : JobPolicyConfig D} {caller c : D.Address} :
    checkPermitted P env policy serviceId caller = .ok c ↔
      Permitted env policy serviceId caller ∧ c = caller := by
  by_cases h : ∃ url ctr, Consults policy url ctr
  · obtain ⟨url, ctr, hc⟩ := h
    have hp : Permitted env policy serviceId caller ↔
        env.isPermittedCaller url ctr serviceId caller = .ok true := by
      constructor
      · rintro ⟨url', contract', hc', h⟩
        obtain rfl : url = url' := some.inj (hc.1.symm.trans hc'.1)
        obtain rfl : ctr = contract' := some.inj (hc.2.symm.trans hc'.2)
        exact h
      · exact fun h => ⟨url, ctr, hc, h⟩
    rw [checkPermitted_of_consults env hc, hp]
    rcases env.isPermittedCaller url ctr serviceId caller with e | permitted
    · simp
    rcases permitted with _ | _
    · simp
    simp [eq_comm]
  · obtain ⟨r, -, hr⟩ := checkPermitted_of_not_consults (P := P) env h serviceId
    rw [hr caller]
    constructor
    · intro hok
      cases hok
    · rintro ⟨⟨url, ctr, hc, -⟩, -⟩
      exact absurd ⟨url, ctr, hc⟩ h

lemma display_between {before after : String}
    (h : before ++ (P.display a ++ after) = before ++ (P.display b ++ after)) : a = b := by
  apply P.display_injective
  apply String.toList_injective
  simpa using congrArg String.toList h

lemma sameFailure_iff {policy : JobPolicyConfig D} {url : D.Url} {ctr : D.Address}
    (hc : Consults policy url ctr) :
    SameFailure env policy serviceId a b ↔
      ∃ e, env.isPermittedCaller url ctr serviceId a = .error e ∧
        env.isPermittedCaller url ctr serviceId b = .error e := by
  constructor
  · intro h
    exact h url ctr hc
  · intro h url' contract' hc'
    obtain rfl : url = url' := some.inj (hc.1.symm.trans hc'.1)
    obtain rfl : ctr = contract' := some.inj (hc.2.symm.trans hc'.2)
    exact h

lemma checkPermitted_eq_iff {policy : JobPolicyConfig D} :
    checkPermitted P env policy serviceId a = checkPermitted P env policy serviceId b ↔
      a = b ∨ SameFailure env policy serviceId a b := by
  by_cases h : ∃ url ctr, Consults policy url ctr
  · obtain ⟨url, ctr, hc⟩ := h
    rw [sameFailure_iff hc, checkPermitted_of_consults env hc, checkPermitted_of_consults env hc]
    constructor
    · -- the status tells a failed call, a refusal and an admission apart
      intro heq
      cases ha : env.isPermittedCaller url ctr serviceId a with
      | error e =>
        rcases hb : env.isPermittedCaller url ctr serviceId b with e' | permitted
        · simp [ha, hb, serviceUnavailable] at heq
          exact .inr ⟨e, rfl, by rw [heq]⟩
        rcases permitted with _ | _
        · simp [ha, hb, serviceUnavailable, denied] at heq
        simp [ha, hb] at heq
      | ok permitted =>
        cases permitted with
        | false =>
          rcases hb : env.isPermittedCaller url ctr serviceId b with e' | permitted'
          · simp [ha, hb, serviceUnavailable, denied] at heq
          rcases permitted' with _ | _
          · simp only [ha, hb, denied, error.injEq,
              mk.injEq, true_and, String.append_assoc] at heq
            exact .inl (display_between heq)
          simp [ha, hb] at heq
        | true =>
          rcases hb : env.isPermittedCaller url ctr serviceId b with e' | permitted'
          · simp [ha, hb] at heq
          rcases permitted' with _ | _
          · simp [ha, hb] at heq
          simp only [ha, hb, ok.injEq] at heq
          exact .inl heq
    · rintro (rfl | ⟨e, ha, hb⟩)
      · rfl
      · rw [ha, hb]
  · obtain ⟨r, -, hr⟩ := checkPermitted_of_not_consults (P := P) env h serviceId
    rw [hr a, hr b]
    exact iff_of_true rfl (.inr fun url ctr hc => absurd ⟨url, ctr, hc⟩ h)

def SameClaim (env : AuthEnv D) (policy : JobPolicyConfig D) (serviceId : ℕ)
    (c c' : Option (Option D.Address)) : Prop :=
  c = c' ∨ ∃ a b, c = some (some a) ∧ c' = some (some b) ∧ SameFailure env policy serviceId a b

lemma checkPermitted_status (env : AuthEnv D) (policy : JobPolicyConfig D) (serviceId : ℕ)
    (caller : D.Address) {r : PolicyRejection}
    (h : checkPermitted P env policy serviceId caller = .error r) : r.status ≠ 400 := by
  by_cases hc : ∃ url ctr, Consults policy url ctr
  · obtain ⟨url, ctr, hc⟩ := hc
    rw [checkPermitted_of_consults env hc] at h
    split at h
    · cases h
      simp [serviceUnavailable]
    · cases h
      simp [denied]
    · cases h
  · obtain ⟨r', hs, hr'⟩ := checkPermitted_of_not_consults (P := P) env hc serviceId
    rw [hr' caller] at h
    cases h
    omega

lemma payerVerdict_ne_of_unnamed (env : AuthEnv D) (policy : JobPolicyConfig D) (serviceId : ℕ)
    (hc : ∀ a, c ≠ some (some a)) (b : D.Address) :
    payerVerdict P env policy serviceId c ≠ checkPermitted P env policy serviceId b := by
  intro h
  obtain ⟨r, hr, hs⟩ : ∃ r, payerVerdict P env policy serviceId c = .error r ∧ r.status = 400 := by
    match c, hc with
    | none, _ => exact ⟨_, rfl, rfl⟩
    | some none, _ => exact ⟨_, rfl, rfl⟩
    | some (some a), hc => exact absurd rfl (hc a)
  exact checkPermitted_status env policy serviceId b (h.symm.trans hr) hs

lemma payerVerdict_eq_iff {policy : JobPolicyConfig D} {c' : Option (Option D.Address)} :
    payerVerdict P env policy serviceId c = payerVerdict P env policy serviceId c' ↔
      SameClaim env policy serviceId c c' := by
  constructor
  · intro h
    match c, c' with
    | none, none | some none, some none => exact .inl rfl
    | none, some none | some none, none => simp [payerVerdict, badRequest] at h
    | none, some (some b) | some none, some (some b) =>
      exact absurd h (payerVerdict_ne_of_unnamed env policy serviceId (by simp) b)
    | some (some a), none | some (some a), some none =>
      exact absurd h.symm (payerVerdict_ne_of_unnamed env policy serviceId (by simp) a)
    | some (some a), some (some b) =>
      obtain rfl | hfail := checkPermitted_eq_iff.mp h
      · exact .inl rfl
      · exact .inr ⟨a, b, rfl, rfl, hfail⟩
  · rintro (rfl | ⟨a, b, rfl, rfl, hfail⟩)
    · rfl
    · exact checkPermitted_eq_iff.mpr (.inr hfail)

lemma payerVerdict_eq_ok {policy : JobPolicyConfig D} :
    payerVerdict P env policy serviceId c = .ok a ↔
      c = some (some a) ∧ Permitted env policy serviceId a := by
  match c with
  | none => simp [payerVerdict]
  | some none => simp [payerVerdict]
  | some (some b) =>
    rw [payerVerdict, checkPermitted_eq_ok]
    constructor
    · rintro ⟨h, rfl⟩
      exact ⟨rfl, h⟩
    · rintro ⟨⟨⟩, h⟩
      exact ⟨h, rfl⟩

structure PayerIsCallerJob (gateway : X402Gateway D) where
  serviceId : ℕ
  jobIndex : ℕ
  restricted : (resolveJobPolicy gateway serviceId jobIndex).invocationMode = .restrictedPaid
  payerIsCaller : (resolveJobPolicy gateway serviceId jobIndex).authMode = .payerIsCaller

structure PaidRun {D : Deps} (gateway : X402Gateway D) where
  authEnv : AuthEnv D
  env : EnqueueEnv
  state : PaidState D
  job : PayerIsCallerJob gateway
  body : Bytes

namespace PaidRun

variable {gateway : X402Gateway D} (run : PaidRun gateway)

def policy : JobPolicyConfig D := resolveJobPolicy gateway run.job.serviceId run.job.jobIndex

variable (P) (headers : HeaderMap)

def authorisation : Except PolicyRejection (ℕ × Option D.Address) :=
  (admitCaller P run.authEnv gateway run.state.seen run.job.serviceId run.job.jobIndex run.body
    headers (extractPaymentAttribution P headers gateway.config).settledPayer .x402).1

def queue : List (VerifiedPayment D) :=
  (handleJobRequest P run.authEnv run.env gateway run.state run.job.serviceId run.job.jobIndex
    headers run.body).2.queue

def enqueued : List (VerifiedPayment D) :=
  (run.queue P headers).drop run.state.queue.length

structure SameCaller (payer : D.Address) (headers headers' : HeaderMap) : Prop where
  authorisation : run.authorisation P headers = run.authorisation P headers'
  admitted : ∀ price caller, run.authorisation P headers = .ok (price, caller) → caller = some payer
  enqueued : (run.enqueued P headers).map (·.caller) = (run.enqueued P headers').map (·.caller)
  caller : ∀ v ∈ run.enqueued P headers, v.caller = some payer

def ClaimsAgree (payer : D.Address) (headers headers' : HeaderMap) : Prop :=
  gateway.jobPricing.lookup (run.job.serviceId, run.job.jobIndex) = none ∨
    SameClaim run.authEnv run.policy run.job.serviceId (claimedPayer P headers)
      (claimedPayer P headers') ∧
    ∀ a, claimedPayer P headers = some (some a) →
      Permitted run.authEnv run.policy run.job.serviceId a → a = payer

variable {P}

lemma authorisation_of_priced {wei : ℕ}
    (hp : gateway.jobPricing.lookup (run.job.serviceId, run.job.jobIndex) = some wei)
    (headers : HeaderMap) :
    run.authorisation P headers =
      (payerVerdict P run.authEnv run.policy run.job.serviceId (claimedPayer P headers)).map
        fun caller => (wei, some caller) := by
  have ha := authorize_payerIsCaller P run.authEnv run.state.seen run.job.payerIsCaller
    run.job.serviceId run.job.jobIndex run.body headers
  rw [authorisation, admitCaller, settledPayer_extractPaymentAttribution, hp]
  simp only [run.job.restricted, ha]
  rw [show resolveJobPolicy gateway run.job.serviceId run.job.jobIndex = run.policy from rfl]
  cases payerVerdict P run.authEnv run.policy run.job.serviceId (claimedPayer P headers) with
  | error | ok => rfl

lemma authorisation_of_unpriced
    (hp : gateway.jobPricing.lookup (run.job.serviceId, run.job.jobIndex) = none)
    (headers : HeaderMap) :
    run.authorisation P headers =
      .error ⟨404, "job_not_found", "job not found: service_id=" ++ toString run.job.serviceId
        ++ " job_index=" ++ toString run.job.jobIndex⟩ := by
  rw [authorisation, admitCaller, hp]

lemma authorisation_iff (payer : D.Address) (headers headers' : HeaderMap) :
    (run.authorisation P headers = run.authorisation P headers' ∧
      ∀ price caller, run.authorisation P headers = .ok (price, caller) → caller = some payer) ↔
    run.ClaimsAgree P payer headers headers' := by
  unfold ClaimsAgree
  rcases hpr : gateway.jobPricing.lookup (run.job.serviceId, run.job.jobIndex) with _ | wei
  · rw [run.authorisation_of_unpriced hpr, run.authorisation_of_unpriced hpr]
    exact iff_of_true ⟨rfl, nofun⟩ (.inl rfl)
  rw [run.authorisation_of_priced hpr, run.authorisation_of_priced hpr]
  simp only [reduceCtorEq, false_or]
  refine and_congr ?_ ?_
  · rw [← payerVerdict_eq_iff (P := P)]
    exact exceptMap_inj fun a b h => by simpa using h
  · simp only [exceptMap_eq_ok, payerVerdict_eq_ok]
    constructor
    · intro h a hc hp
      exact some.inj (h wei (some a) ⟨a, ⟨hc, hp⟩, rfl⟩)
    · rintro h price caller ⟨a, ⟨hc, hp⟩, heq⟩
      cases heq
      rw [h a hc hp]

end PaidRun

lemma queue_enqueuePaid (env : EnqueueEnv) (gateway : X402Gateway D) (s : PaidState D)
    (serviceId job : ℕ) (body : Bytes) (wei : ℕ) :
    ∃ sent : Bool, ∀ seen attr caller, ∃ new,
      (enqueuePaid P env gateway { s with seen := seen } serviceId job body attr wei
        caller).2.queue = s.queue ++ new ∧ new.map (·.caller) = if sent then [caller] else [] := by
  rcases hins : insertDynamic P env s.quotes gateway.config.quoteTtlSecs serviceId job
      wei with msg | inserted
  · exact ⟨false, fun _ _ _ => ⟨[], by simp [enqueuePaid, hins], rfl⟩⟩
  obtain ⟨digest, quotes⟩ := inserted
  rcases hc : consumeQuote env quotes digest with _ | quotes'
  · exact ⟨false, fun _ _ _ => ⟨[], by simp [enqueuePaid, hins, hc], rfl⟩⟩
  cases hcl : s.closed with
  | true =>
    exact ⟨false, fun _ _ _ => ⟨[], by simp [enqueuePaid, hins, hc], rfl⟩⟩
  | false =>
    refine ⟨true, fun _ attr caller => ?_⟩
    let metadata := resolvedPaymentMetadata gateway.config attr
    refine ⟨[⟨serviceId, job, body, digest, metadata.1, metadata.2, s.callIdCounter,
      caller⟩], ?_, rfl⟩
    simp [enqueuePaid, hins, hc, metadata]

namespace PaidRun

variable {gateway : X402Gateway D} (run : PaidRun gateway)

lemma enqueued_eq : ∃ sent : ℕ → Bool, ∀ headers, (run.enqueued P headers).map (·.caller) =
      match run.authorisation P headers with
      | .error _ => []
      | .ok (wei, caller) => if sent wei then [caller] else [] := by
  choose sent hs using queue_enqueuePaid (P := P) run.env gateway run.state run.job.serviceId
    run.job.jobIndex run.body
  refine ⟨sent, fun headers => ?_⟩
  unfold enqueued queue handleJobRequest handlePaidJobInner authorisation
  rcases ha : admitCaller P run.authEnv gateway run.state.seen run.job.serviceId
      run.job.jobIndex run.body headers
      (extractPaymentAttribution P headers gateway.config).settledPayer .x402 with ⟨result, seen⟩
  rcases result with r | admitted
  · simp
  obtain ⟨wei, caller⟩ := admitted
  obtain ⟨new, hq, hnew⟩ := hs wei seen (extractPaymentAttribution P headers gateway.config) caller
  simp [hq, hnew]

/-- **Who calls a job that its payer calls.** Two requests for one settled payment that differ in
their headers only are authorised alike and enqueued with the payer as their caller, exactly when
what the headers claim about the settlement makes no difference and names no permitted caller but
the payer. -/
theorem sameCaller_iff (payer : D.Address) (headers headers' : HeaderMap) :
    run.SameCaller P payer headers headers' ↔ run.ClaimsAgree P payer headers headers' := by
  rw [← run.authorisation_iff payer headers headers']
  obtain ⟨sent, hse⟩ := run.enqueued_eq (P := P)
  constructor
  · exact fun h => ⟨h.authorisation, h.admitted⟩
  · rintro ⟨hau, ha⟩
    refine ⟨hau, ha, by rw [hse, hse, hau], ?_⟩
    intro v hv
    have hmem : v.caller ∈ (run.enqueued P headers).map (·.caller) := List.mem_map_of_mem hv
    rw [hse] at hmem
    rcases hr : run.authorisation P headers with r | admitted
    · simp [hr] at hmem
    obtain ⟨priceWei, caller⟩ := admitted
    rw [hr] at hmem
    have hc : caller = some payer := ha priceWei caller hr
    rcases hs : sent priceWei with _ | _
    · simp [hs] at hmem
    simp only [hs, if_true, List.mem_singleton] at hmem
    rw [hmem, hc]

def otherAddress : List Char := '0' :: 'x' :: List.replicate 39 '0' ++ ['1']

def restrictedGateway : X402Gateway wholeDeps where
  config := ⟨(), 300, [dollarToken], .publicPaid, [], none⟩
  jobPricing := (∅ : JobPricing).insert (1, 0) (10 ^ 18)
  jobPolicies := (∅ : HashMap (ℕ × ℕ) (JobPolicyConfig wholeDeps)).insert (1, 0)
    ⟨1, 0, .restrictedPaid, .payerIsCaller, some (), some zeroAddress⟩

def restrictedRun : PaidRun restrictedGateway where
  authEnv := ⟨0, 0, fun _ _ _ _ => .ok true⟩
  env := ⟨0, 0, 0⟩
  state := ⟨∅, ∅, 1, [], false⟩
  job := ⟨1, 0, rfl, rfl⟩
  body := []

def settlementHeaders (payer : List Char) : HeaderMap :=
  (∅ : HeaderMap).set headerSettlement (payer.map asciiByte)

/-- For a payment of the zero address, a request whose header names another address is enqueued
with that address as its caller. -/
theorem forged_settlement_changes_caller :
    restrictedRun.authorisation plainPayDeps (settlementHeaders zeroAddress)
      = .ok (10 ^ 18, some zeroAddress) ∧
    restrictedRun.authorisation plainPayDeps (settlementHeaders otherAddress)
      = .ok (10 ^ 18, some otherAddress) ∧
    (restrictedRun.enqueued plainPayDeps (settlementHeaders otherAddress)).map (·.caller)
      = [some otherAddress] ∧
    ¬ restrictedRun.SameCaller plainPayDeps zeroAddress (settlementHeaders zeroAddress)
      (settlementHeaders otherAddress) := by
  have hh : restrictedRun.authorisation plainPayDeps (settlementHeaders zeroAddress)
      = .ok (10 ^ 18, some zeroAddress) := by decide +kernel
  have hf : restrictedRun.authorisation plainPayDeps (settlementHeaders otherAddress)
      = .ok (10 ^ 18, some otherAddress) := rfl
  refine ⟨hh, hf, rfl, fun h => ?_⟩
  have heq := h.authorisation
  rw [hh, hf] at heq
  exact absurd heq (by decide)

end PaidRun

end Gadget.X402
