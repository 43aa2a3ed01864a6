import Gadget.X402.PaidJob
import Gadget.X402.PaymentGate

/-!
# The second ingress

Requests that pay with the authentication scheme of HTTP: a request without a credential is
answered with one challenge per accepted token; a request with a credential is checked, its
payment is verified and settled by the facilitator, and then handled like any other paid job.
-/

namespace Gadget.X402

open Rust

variable {D : Deps}

structure MppMethodDetails where
  network : List Char
  scheme : List Char
  transferMethod : List Char
  extra : Option (List Char × List Char)
  decimals : ℕ
  serviceId : ℕ
  jobIndex : ℕ

structure ChargeRequest (J : Type) where
  amount : List Char
  currency : List Char
  recipient : Option (List Char)
  description : Option String
  methodDetails : Option J

inductive ErrorCode where
  | expired
  | invalidAmount
  | insufficientBalance
  | credentialMismatch
  | invalidCredential
  | invalidPayload
  | invalidRecipient
  | invalidSignature
  | chainIdMismatch
  | networkError
  | transactionFailed

structure VerificationError where
  message : String
  code : Option ErrorCode

structure PaymentRequirements (D : Deps) where
  network : List Char
  maxAmountRequired : ℕ
  resource : String
  description : String
  payTo : D.Address
  maxTimeoutSeconds : ℕ
  asset : D.Address
  extra : Option (List Char × List Char)

structure MppDeps (D : Deps) where
  Json : Type
  decodeMethodDetails : Json → Except String MppMethodDetails
  encodeMethodDetails : MppMethodDetails → Json
  encodeRequest : ChargeRequest Json → Except String (List Char)
  /-- The id of a challenge: the HMAC under the secret of the realm, method, intent, request and
  expiry. -/
  challengeHmac : List Char → List Char → List Char → List Char → List Char → List Char → List Char
  encodable : List Char → Bool
  rfc3339 : ℤ → Except String (List Char)
  Credential : Type
  extractPaymentScheme : List Char → Option (List Char)
  parseAuthorization : List Char → Except String Credential
  challengeId : Credential → List Char
  decodeRequest : Credential → Except String (ChargeRequest Json)
  /-- The field `x402_payload` of the credential's payload. -/
  x402Payload : Credential → Except String (List Char)
  /-- The checks of `verify_credential_with_expected_request` before the charge method is
  called: HMAC, expiry at a time of the clock, and the expected request. -/
  checkCredential : ℤ → Credential → ChargeRequest Json →
    Except VerificationError (ChargeRequest Json)
  decodeBase64Url : List Char → Except String Bytes
  Payment : Type
  parsePayment : Bytes → Except String Payment
  parseU256 : List Char → Option ℕ
  parseChain : List Char → Option (String × Option (List Char))
  encodeVerify : Payment → PaymentRequirements D → Except String Unit
  encodeSettle : Payment → PaymentRequirements D → Except String Unit

variable (M : MppDeps D)

def methodName : List Char := "blueprintevm".toList

def chargeIntent : List Char := "charge".toList

def AcceptedToken.eip3009Extra (t : AcceptedToken D) : Option (List Char × List Char) :=
  if t.transferMethod = "eip3009".toList then
    some (t.eip3009Name.getD "USD Coin".toList, t.eip3009Version.getD ['2'])
  else none

def buildChargeRequest (amount : List Char) (token : AcceptedToken D)
    (details : MppMethodDetails) : ChargeRequest M.Json where
  amount := amount
  currency := token.asset
  recipient := some token.payTo
  description := some ("Tangle blueprint job service_id=" ++ toString details.serviceId
    ++ " job_index=" ++ toString details.jobIndex)
  methodDetails := some (M.encodeMethodDetails details)

def X402Error.display : X402Error → String
  | .config text => "x402 config error: " ++ text
  | .priceConversion text => "price conversion error: " ++ text
  | .mpp text => "mpp error: " ++ text

def buildChallenge (mpp : MppConfig) (token : AcceptedToken D) (serviceId jobIndex priceWei : ℕ)
    (clock : ℤ) : Outcome String (List Char × List Char) := do
  let amount ←
    (match token.convertWeiToAmount priceWei with
    | .ok amount => .ok amount
    | .error (.err e) => .error (.err e.display)
    | .error (.panicked message) => .error (.panicked message))
  let _ ← orErr (okOr (D.parseAddress token.asset)
    ("invalid asset address " ++ String.ofList token.asset))
  let _ ← orErr (okOr (D.parseAddress token.payTo)
    ("invalid pay_to address " ++ String.ofList token.payTo))
  let details : MppMethodDetails :=
    { network := token.network
      scheme := "exact".toList
      transferMethod := token.transferMethod
      extra := token.eip3009Extra
      decimals := token.decimals
      serviceId := serviceId
      jobIndex := jobIndex }
  let request ← orErr (M.encodeRequest (buildChargeRequest M amount token details))
  -- only whole seconds of the clock are left in the expiry
  let expires ← orErr (M.rfc3339 (clock + mpp.challengeTtlSecs))
  return (M.challengeHmac mpp.secretKey mpp.realm methodName chargeIntent request expires, expires)

inductive MppAnswer where
  | problem (status : ℕ) (code detail : String)
  | challenges (ids : List (List Char))
  | rejected (rejection : PolicyRejection)
  | accepted (receipt : EnqueuedReceipt)
  | panicked (message : String)

def issueChallengeResponse (mpp : MppConfig) (tokens : List (AcceptedToken D))
    (serviceId jobIndex priceWei : ℕ) (clock : ℤ) : MppAnswer :=
  if tokens = [] then .problem 503 "verification-failed" "no accepted tokens configured"
  else
    match tokens.mapM fun t => match buildChallenge M mpp t serviceId jobIndex priceWei clock with
      | .ok (id, _) => Except.ok (some id)
      | .error (.err _) => .ok none
      | .error (.panicked message) => .error message with
    | .error message => .panicked message
    | .ok challenges =>
      let ids := challenges.filterMap id
      if ids = [] then
        .problem 500 "verification-failed" "no accepted tokens could be encoded into MPP challenges"
      else if ids.filter M.encodable = [] then
        .problem 500 "verification-failed"
          "no MPP challenges could be encoded as WWW-Authenticate headers"
      else .challenges ids

def verificationProblem (e : VerificationError) : MppAnswer :=
  match e.code with
  | some .expired => .problem 402 "payment-expired" e.message
  | some .invalidAmount => .problem 402 "payment-insufficient" e.message
  | some .insufficientBalance => .problem 402 "payment-insufficient" e.message
  | some .credentialMismatch => .problem 400 "malformed-credential" e.message
  | some .invalidCredential => .problem 400 "malformed-credential" e.message
  | some .invalidPayload => .problem 400 "malformed-credential" e.message
  | some .chainIdMismatch => .problem 400 "method-unsupported" e.message
  | _ => .problem 402 "verification-failed" e.message

def verificationError (code : ErrorCode) (message : String) : VerificationError :=
  ⟨message, some code⟩

variable (gateway : X402Gateway D) (tokens : List (AcceptedToken D))

def findToken (network asset : List Char) : Option (AcceptedToken D) :=
  tokens.find? fun t => decide (t.network = network) && eqIgnoreAsciiCase t.asset asset

def prepareCharge (credential : M.Credential) (request : ChargeRequest M.Json) :
    Except VerificationError (M.Payment × PaymentRequirements D) := do
  let x402Payload ← (M.x402Payload credential).mapError fun e =>
    verificationError .invalidPayload ("invalid blueprintevm credential payload: " ++ e)
  let json ← okOr request.methodDetails (verificationError .invalidPayload
    "ChargeRequest.methodDetails is required for the blueprintevm method")
  let details ← (M.decodeMethodDetails json).mapError fun e =>
    verificationError .invalidPayload ("invalid blueprintevm methodDetails: " ++ e)
  let token ← okOr (findToken tokens details.network request.currency)
    (verificationError .invalidRecipient ("no accepted token matches network="
      ++ String.ofList details.network ++ " asset=" ++ String.ofList request.currency))
  let recipient ← okOr request.recipient
    (verificationError .invalidRecipient "ChargeRequest.recipient is required")
  rejectIf (eqIgnoreAsciiCase recipient token.payTo = false)
    (verificationError .invalidRecipient ("recipient " ++ String.ofList recipient
      ++ " does not match operator pay_to " ++ String.ofList token.payTo ++ " for "
      ++ String.ofList token.symbol))
  let bytes ← (M.decodeBase64Url x402Payload).mapError fun e =>
    verificationError .invalidPayload ("x402_payload is not valid base64url: " ++ e)
  let payment ← (M.parsePayment bytes).mapError fun e =>
    verificationError .invalidPayload ("x402_payload is not a valid v1 PaymentPayload: " ++ e)
  let asset ← okOr (D.parseAddress token.asset)
    (verificationError .invalidPayload ("invalid asset address " ++ String.ofList token.asset))
  let payTo ← okOr (D.parseAddress token.payTo)
    (verificationError .invalidPayload ("invalid pay_to address " ++ String.ofList token.payTo))
  let amount ← okOr (M.parseU256 request.amount)
    (verificationError .invalidAmount ("invalid base-unit amount "
      ++ String.ofList request.amount))
  let (reference, name) ← okOr (M.parseChain token.network)
    (verificationError .chainIdMismatch ("invalid CAIP-2 network " ++ String.ofList token.network))
  let network ← okOr name
    (verificationError .chainIdMismatch ("no x402-types network name registered for "
      ++ String.ofList token.network ++ " (chain id " ++ reference ++ ")"))
  let job := toString details.serviceId
  let requirements : PaymentRequirements D :=
    { network := network
      maxAmountRequired := amount
      resource := "blueprint://x402/jobs/" ++ job ++ "/" ++ toString details.jobIndex
      description := "Tangle blueprint job service_id=" ++ job ++ " job_index="
        ++ toString details.jobIndex
      payTo := payTo
      maxTimeoutSeconds := 300
      asset := asset
      extra := token.eip3009Extra }
  let () ← (M.encodeVerify payment requirements).mapError fun e =>
    verificationError .invalidPayload ("failed to encode x402 VerifyRequest: " ++ e)
  return (payment, requirements)

structure MppRequest where
  serviceId : ℕ
  jobIndex : ℕ
  headers : HeaderMap
  body : Bytes

structure MppAdmitted (M : MppDeps D) where
  request : MppRequest
  challengeId : List Char
  token : AcceptedToken D
  payment : M.Payment
  requirements : PaymentRequirements D

def headerAuthorization : List Char :=
  "Authorization".toList

def admitMpp (request : MppRequest) (clock : ℤ) :
    Except MppAnswer (MppAdmitted M) := do
  let mpp ← okOr gateway.config.mpp
    (.problem 404 "verification-failed" "MPP ingress is not enabled")
  let priceWei ← okOr (gateway.jobPricing.lookup (request.serviceId, request.jobIndex))
    (.problem 404 "verification-failed" "job not found")
  rejectIf ((resolveJobPolicy gateway request.serviceId request.jobIndex).invocationMode = .disabled)
    (.problem 403 "verification-failed" "x402 disabled for this job")
  let credentialText ← okOr
    ((headerString request.headers headerAuthorization).bind M.extractPaymentScheme)
    (issueChallengeResponse M mpp gateway.config.acceptedTokens request.serviceId request.jobIndex
      priceWei clock)
  let credential ← (M.parseAuthorization credentialText).mapError fun e =>
    .problem 400 "malformed-credential" ("invalid Authorization: Payment header: " ++ e)
  let echo ← (M.decodeRequest credential).mapError fun e =>
    .problem 400 "malformed-credential" ("credential challenge request decode failed: " ++ e)
  let json ← okOr echo.methodDetails
    (.problem 400 "malformed-credential" "credential is missing methodDetails")
  let details ← (M.decodeMethodDetails json).mapError fun e =>
    .problem 400 "malformed-credential" ("credential methodDetails decode failed: " ++ e)
  rejectIf (details.serviceId ≠ request.serviceId ∨ details.jobIndex ≠ request.jobIndex)
    (.problem 403 "verification-failed" ("credential is bound to service_id="
      ++ toString details.serviceId ++ " job_index=" ++ toString details.jobIndex
      ++ ", not this route"))
  let token ← okOr (findToken gateway.config.acceptedTokens details.network echo.currency)
    (.problem 400 "method-unsupported" ("no accepted token matches network="
      ++ String.ofList details.network ++ " asset=" ++ String.ofList echo.currency))
  let amount ←
    (match token.convertWeiToAmount priceWei with
    | .ok amount => .ok amount
    | .error (.err e) =>
      .error (.problem 500 "verification-failed" ("price conversion failed: " ++ e.display))
    | .error (.panicked message) => .error (.panicked message))
  let charge ← (M.checkCredential clock credential
    (buildChargeRequest M amount token details)).mapError verificationProblem
  let (payment, requirements) ←
    (prepareCharge M gateway.config.acceptedTokens credential charge).mapError verificationProblem
  return ⟨request, M.challengeId credential, token, payment, requirements⟩

inductive VerifyAnswer where
  | networkError (text : String)
  | undecodable (text : String)
  | valid (payer : List Char)
  | invalid (reason : String)

inductive SettleAnswer where
  | networkError (text : String)
  | undecodable (text : String)
  | success (transaction : String)
  | error (reason : String)

def verifiedPayer : VerifyAnswer → Except VerificationError D.Address
  | .networkError text => .error (verificationError .networkError text)
  | .undecodable text =>
    .error (verificationError .invalidPayload ("failed to decode VerifyResponse: " ++ text))
  | .valid payer => okOr (D.parseAddress payer)
      (verificationError .invalidPayload ("facilitator returned non-address payer "
        ++ String.ofList payer))
  | .invalid reason =>
    .error (verificationError .invalidSignature ("facilitator rejected payment: " ++ reason))

def settleResult : SettleAnswer → Except VerificationError Unit
  | .networkError text => .error (verificationError .networkError text)
  | .undecodable text =>
    .error (verificationError .invalidPayload ("failed to decode SettleResponse: " ++ text))
  | .success _ => .ok ()
  | .error reason => .error (verificationError .transactionFailed reason)

structure PayerCacheEntry (D : Deps) where
  payer : D.Address
  insertedAt : ℤ

abbrev VerifiedPayerCache (D : Deps) := HashMap (List Char) (PayerCacheEntry D)

def payerCacheTtl : ℤ := 60 * 10 ^ 9

inductive MppHandler (M : MppDeps D) where
  | verifying (a : MppAdmitted M)
  | settling (a : MppAdmitted M) (payer : D.Address)
  | settled (a : MppAdmitted M) (payer : D.Address) (settledAt : ℤ)
  | drained (a : MppAdmitted M) (payer : D.Address) (settledPayer : Option D.Address)

structure MppRecord (D : Deps) where
  serviceId : ℕ
  jobIndex : ℕ
  payer : D.Address
  answer : MppAnswer
  enqueued : List (VerifiedPayment D)

structure MppState (M : MppDeps D) where
  verifiedPayers : VerifiedPayerCache D
  paid : PaidState D
  handlers : HashMap ℕ (MppHandler M)
  answered : List (MppRecord D)

inductive MppEvent (D : Deps) where
  | arrive (id : ℕ) (request : MppRequest) (clock : ℤ)
  | verified (id : ℕ) (answer : VerifyAnswer)
  | settled (id : ℕ) (answer : SettleAnswer) (now : ℤ)
  | drain (id : ℕ)
  | finish (id : ℕ) (authEnv : AuthEnv D) (env : EnqueueEnv)
  | drop (id : ℕ)
  | sweep (now : ℤ)

def needsPayer (serviceId jobIndex : ℕ) : Bool :=
  let policy := resolveJobPolicy gateway serviceId jobIndex
  decide (policy.invocationMode = .restrictedPaid ∧ policy.authMode = .payerIsCaller)

def missingPayer : MppAnswer :=
  .problem 500 "verification-failed"
    "facilitator did not return a verified payer for payer_is_caller policy"

namespace MppState

variable {M}

def start (paid : PaidState D) : MppState M := ⟨∅, paid, ∅, []⟩

def answer (s : MppState M) (id : ℕ) (a : MppAdmitted M) (payer : D.Address) (answer : MppAnswer)
    (enqueued : List (VerifiedPayment D)) : MppState M :=
  { s with
    handlers := s.handlers.erase id
    answered := ⟨a.request.serviceId, a.request.jobIndex, payer, answer, enqueued⟩ :: s.answered }

def drain (gateway : X402Gateway D) (s : MppState M) (id : ℕ) (a : MppAdmitted M)
    (payer : D.Address) : MppState M :=
  let settledPayer := (s.verifiedPayers.lookup a.challengeId).map (·.payer)
  let s := { s with verifiedPayers := s.verifiedPayers.erase a.challengeId }
  if needsPayer gateway a.request.serviceId a.request.jobIndex ∧ settledPayer = none then
    s.answer id a payer missingPayer []
  else { s with handlers := s.handlers.insert id (.drained a payer settledPayer) }

def finish (P : PayDeps D) (gateway : X402Gateway D) (s : MppState M) (id : ℕ)
    (a : MppAdmitted M) (payer : D.Address) (settledPayer : Option D.Address)
    (authEnv : AuthEnv D) (env : EnqueueEnv) : MppState M :=
  let attribution : PaymentAttribution D := ⟨some a.token.network, some a.token.symbol, settledPayer⟩
  let (result, paid) := handlePaidJobInner P authEnv env gateway s.paid a.request.serviceId
    a.request.jobIndex a.request.body a.request.headers attribution .mpp
  let answer : MppAnswer :=
    match result with
    | .ok receipt => .accepted receipt
    | .error (.err rejection) => .rejected rejection
    | .error (.panicked message) => .panicked message
  { s with paid := paid }.answer id a payer answer (paid.queue.drop s.paid.queue.length)

def step (P : PayDeps D) (gateway : X402Gateway D) (s : MppState M) : MppEvent D → MppState M
  | .arrive id request clock =>
    match s.handlers.lookup id, admitMpp M gateway request clock with
    | none, .ok a => { s with handlers := s.handlers.insert id (.verifying a) }
    | _, _ => s
  | .verified id answer =>
    match s.handlers.lookup id with
    | some (.verifying a) =>
      match verifiedPayer answer, M.encodeSettle a.payment a.requirements with
      | .ok payer, .ok () => { s with handlers := s.handlers.insert id (.settling a payer) }
      | _, _ => { s with handlers := s.handlers.erase id }
    | _ => s
  | .settled id answer now =>
    match s.handlers.lookup id with
    | some (.settling a payer) =>
      match settleResult answer with
      | .ok () =>
        { s with
          verifiedPayers := s.verifiedPayers.insert a.challengeId ⟨payer, now⟩
          handlers := s.handlers.insert id (.settled a payer now) }
      | .error _ => { s with handlers := s.handlers.erase id }
    | _ => s
  | .drain id =>
    match s.handlers.lookup id with
    | some (.settled a payer _) => s.drain gateway id a payer
    | _ => s
  | .finish id authEnv env =>
    match s.handlers.lookup id with
    | some (.drained a payer settledPayer) => s.finish P gateway id a payer settledPayer authEnv env
    | _ => s
  | .drop id => { s with handlers := s.handlers.erase id }
  | .sweep now =>
    { s with
      verifiedPayers := HashMap.retain s.verifiedPayers fun _ entry =>
        decide (now - entry.insertedAt < payerCacheTtl) }

end MppState

/-! ## Payments for disabled jobs

The policy of a job is read in two places. The second ingress reads it before it issues a
challenge. The x402 route reads it in the handler, which runs after the middleware has settled the
payment, and the price tags that the middleware works with do not depend on the policy at all. -/

open Option

def X402Gateway.Disabled (gateway : X402Gateway D) (job : ℕ × ℕ) : Prop :=
  (resolveJobPolicy gateway job.1 job.2).invocationMode = .disabled

/-- The middleware of the x402 route has a price tag to offer: the client is asked for a payment,
and one that comes with the request is settled before the handler runs. -/
def X402Gateway.AsksPayment (gateway : X402Gateway D) (path : Bytes) : Prop :=
  ∃ tags, buildEvmPriceTags gateway.config gateway.jobPricing path = .ok tags ∧ tags ≠ []

def MppAsksPayment {M : MppDeps D} : Except MppAnswer (MppAdmitted M) → Prop
  | .ok _ => True
  | .error (.challenges _) => True
  | .error _ => False

variable {gw : X402Gateway D} {job : ℕ × ℕ}

lemma X402Gateway.asksPayment_iff {ord : IterOrder (ℕ × ℕ)} {cfg : X402Config D}
    {jobPricing : JobPricing} (hnew : X402Gateway.new ord cfg jobPricing = .ok gw) {path : Bytes}
    (hse : servedJob path = some job) :
    gw.AsksPayment path ↔ (jobPricing.lookup job).isSome ∧ PlainJobPath path := by
  obtain ⟨hc, hpr, _⟩ := new_ok hnew
  constructor
  · rintro ⟨tags, ht, hne⟩
    rw [hc, hpr] at ht
    have hp : PlainJobPath path := by
      by_contra hnot
      obtain ⟨serviceId, jobIndex, hr, _⟩ := servedJob_eq_some hse
      rw [buildEvmPriceTags_of_not_plain hr hnot] at ht
      cases ht
      exact hne rfl
    refine ⟨?_, hp⟩
    rw [isSome_iff_ne_none]
    intro hu
    obtain ⟨serviceId, jobIndex, hr, hs, hj⟩ := servedJob_of_plain hse hp
    rw [buildEvmPriceTags_of_unpriced hr hs hj hu] at ht
    cases ht
    exact hne rfl
  · rintro ⟨hpri, hp⟩
    obtain ⟨wei, hpe⟩ := isSome_iff_exists.mp hpri
    exact (charges_of_plain hnew hse hpe hp).tags_ne_nil hnew

lemma handlePaidJobInner_disabled {P : PayDeps D} {aenv : AuthEnv D} {env : EnqueueEnv}
    (hd : gw.Disabled job) (s : PaidState D) (body : Bytes) (headers : HeaderMap)
    (attr : PaymentAttribution D) (proto : PaymentProtocol) :
    ∃ rejection, handlePaidJobInner P aenv env gw s job.1 job.2 body headers attr proto
        = (.error (.err rejection), s) := by
  unfold X402Gateway.Disabled at hd
  simp only [handlePaidJobInner, admitCaller, hd]
  rcases gw.jobPricing.lookup (job.1, job.2) with _ | wei <;> exact ⟨_, rfl⟩

lemma admitMpp_disabled {M : MppDeps D} {req : MppRequest}
    (hd : gw.Disabled (req.serviceId, req.jobIndex)) (clk : ℤ) :
    ∃ status detail,
      admitMpp M gw req clk = .error (.problem status "verification-failed" detail) := by
  unfold X402Gateway.Disabled at hd
  simp only [admitMpp, hd]
  rcases gw.config.mpp with _ | mpp
  · exact ⟨_, _, rfl⟩
  rcases gw.jobPricing.lookup (req.serviceId, req.jobIndex) with _ | wei <;>
    exact ⟨_, _, rfl⟩

/-- **When a disabled job is free.** On the x402 route, a request for a disabled job is asked for
no payment exactly when the job has no price or the path escapes the price lookup; a request that
was paid for is refused all the same. On the second ingress no payment is ever asked for. -/
theorem X402Gateway.disabled_uncharged_iff {order : IterOrder (ℕ × ℕ)} {config : X402Config D}
    {jobPricing : JobPricing} {gateway : X402Gateway D}
    (hnew : X402Gateway.new order config jobPricing = .ok gateway) {job : ℕ × ℕ}
    (hdisabled : gateway.Disabled job) :
    (∀ path, servedJob path = some job →
      (¬ gateway.AsksPayment path ↔ jobPricing.lookup job = none ∨ ¬ PlainJobPath path)) ∧
    (∀ (P : PayDeps D) authEnv env s headers body,
      ∃ rejection, handleJobRequest P authEnv env gateway s job.1 job.2 headers body
        = (.error (.err rejection), s)) ∧
    (∀ (M : MppDeps D) (request : MppRequest) (clock : ℤ),
      (request.serviceId, request.jobIndex) = job →
        ¬ MppAsksPayment (admitMpp M gateway request clock)) := by
  refine ⟨?_, ?_, ?_⟩
  · intro path hs
    rw [asksPayment_iff hnew hs, not_and_or, not_isSome_iff_eq_none]
  · intro P authEnv env s headers body
    exact handlePaidJobInner_disabled hdisabled s body headers _ _
  · rintro M request clock rfl
    obtain ⟨status, detail, ha⟩ := admitMpp_disabled hdisabled clock
    rw [ha]
    exact id

def disabledGateway : X402Gateway wholeDeps where
  config := { dollarGateway.config with defaultInvocationMode := .disabled }
  jobPricing := dollarGateway.jobPricing
  jobPolicies := ∅

lemma disabledGateway_new :
    X402Gateway.new (IterOrder.alone (1, 0)) disabledGateway.config disabledGateway.jobPricing
      = .ok disabledGateway := by
  rfl

theorem X402Gateway.disabled_unpriced_uncharged :
    disabledGateway.Disabled (2, 0) ∧ servedJob (jobPath ['2']) = some (2, 0) ∧
    ¬ disabledGateway.AsksPayment (jobPath ['2']) := by
  have hs : servedJob (jobPath ['2']) = some (2, 0) := rfl
  have hd : disabledGateway.Disabled (2, 0) := rfl
  have hu : disabledGateway.jobPricing.lookup (2, 0) = none := rfl
  obtain ⟨hiff, _⟩ := disabled_uncharged_iff disabledGateway_new hd
  exact ⟨hd, hs, (hiff (jobPath ['2']) hs).mpr (.inl hu)⟩

/-- One native unit is asked for job 0 of service 1, and the handler that runs after the payment
refuses the request: the job is disabled. -/
theorem X402Gateway.disabled_job_charged :
    X402Gateway.new (IterOrder.alone (1, 0)) disabledGateway.config disabledGateway.jobPricing
      = .ok disabledGateway ∧
    servedJob (jobPath ['1']) = some (1, 0) ∧
    disabledGateway.Disabled (1, 0) ∧
    disabledGateway.AsksPayment (jobPath ['1']) := by
  have hs : servedJob (jobPath ['1']) = some (1, 0) := rfl
  refine ⟨disabledGateway_new, hs, rfl, ?_⟩
  refine ⟨[⟨zeroAddress, 8453, zeroAddress, 6, dollarToken.assetTransferMethod, 3200000000⟩],
    rfl, by simp⟩

end Gadget.X402
