import Gadget.Core.Job
import Gadget.Rust.Time
import Gadget.Rust.Utf8
import Gadget.X402.Gateway

/-!
# Paid jobs

What the gateway reads from the headers of a paid request: the settlement that the request says was
made for it, and the network and token of its payment. Then what happens to it once its payment has been
verified and settled: the policy of the job, the caller it is attributed to, the quote it consumes, and
the entry in the queue of the runner, which gets it as a job call whose metadata says where it came from.
The service and the call number are stored under the names that the calls of the chain use.
-/

namespace Gadget.X402

open Rust

inductive SettleResponse where
  | success (payer : List Char) (network : List Char)
  | error (network : List Char)

structure PayDeps (D : Deps) where
  addressEq : DecidableEq D.Address
  /-- `{}` of an address. -/
  display : D.Address → String
  display_injective : Function.Injective display
  /-- `{:#x}` of an address. -/
  lowerHex : D.Address → List Char
  base64Decode : Bytes → Option Bytes
  parseSettleResponse : Bytes → Option SettleResponse
  Json : Type
  parseJson : Bytes → Option Json
  member : Json → List Char → Option Json
  asStr : Json → Option (List Char)
  Signature : Type
  parseSignature : List Char → Option Signature
  /-- `recover_address_from_msg`. -/
  recover : Signature → List Char → Option D.Address
  keccak256 : Bytes → Bytes

variable {D : Deps} (P : PayDeps D)

def headerCaller : List Char :=
  "X-TANGLE-CALLER".toList

def headerCallerSig : List Char := headerCaller ++ "-SIG".toList

def headerCallerNonce : List Char := headerCaller ++ "-NONCE".toList

def headerCallerExpiry : List Char := headerCaller ++ "-EXPIRY".toList

def headerSettlement : List Char :=
  "X-Payment-Response".toList

def headerPaymentV1 : List Char := "X-PAYMENT".toList

def headerPaymentV2 : List Char :=
  "Payment-Signature".toList

structure SettlementDetails (D : Deps) where
  payer : Option D.Address
  network : Option (List Char)

variable (headers : HeaderMap)

def parseSettlementDetails : Option (SettlementDetails D) :=
  match ((headers.get headerSettlement).bind P.base64Decode).bind P.parseSettleResponse with
  | none => none
  | some (.success payer network) => some ⟨D.parseAddress payer, some network⟩
  | some (.error network) => some ⟨none, some network⟩

structure PaymentAttribution (D : Deps) where
  network : Option (List Char)
  token : Option (List Char)
  settledPayer : Option D.Address

def decodeBase64JsonHeader (name : List Char) : Option P.Json :=
  ((headers.get name).bind P.base64Decode).bind P.parseJson

def paymentText (json : P.Json) (name : List Char) : Option (List Char) :=
  ((P.member json name).bind P.asStr).or
    (((P.member json "accepted".toList).bind fun a => P.member a name).bind
      P.asStr)

def scanPayments (headers : HeaderMap) :
    List (List Char) → Option (List Char) → Option (List Char) × Option (List Char)
  | [], network => (network, none)
  | name :: names, network =>
    match decodeBase64JsonHeader P headers name with
    | none => scanPayments headers names network
    | some json =>
      let network := network.or (paymentText P json "network".toList)
      match paymentText P json "asset".toList with
      | some asset => (network, some asset)
      | none => scanPayments headers names network

variable (config : X402Config D)

def resolveTokenLabel (network asset : Option (List Char)) : Option (List Char) :=
  match network, asset with
  | some network, some asset =>
    match config.acceptedTokens.find? fun t =>
        decide (t.network = network ∧ toAsciiLowercase t.asset = toAsciiLowercase asset) with
    | some t => some t.symbol
    | none => some asset
  | none, some asset => some asset
  | _, none => none

def extractPaymentAttribution : PaymentAttribution D :=
  let settlement := parseSettlementDetails P headers
  let (network, asset) :=
    scanPayments P headers [headerPaymentV1, headerPaymentV2] (settlement.bind (·.network))
  { network := network
    token := resolveTokenLabel config network asset
    settledPayer := settlement.bind (·.payer) }

def resolvedPaymentMetadata (attribution : PaymentAttribution D) : List Char × List Char :=
  match attribution.network, attribution.token with
  | some network, some token => (network, token)
  | _, _ =>
    match config.acceptedTokens with
    | [t] => (t.network, t.symbol)
    | tokens => ([','].intercalate (tokens.map (·.network)), "MULTI".toList)

lemma settledPayer_extractPaymentAttribution (cfg : X402Config D) :
    (extractPaymentAttribution P headers cfg).settledPayer =
      (parseSettlementDetails P headers).bind (·.payer) := rfl

structure PolicyRejection where
  status : ℕ
  code : String
  detail : String
  deriving DecidableEq

namespace PolicyRejection

variable (code detail : String)

def denied : PolicyRejection := ⟨403, code, detail⟩

def badRequest : PolicyRejection := ⟨400, code, detail⟩

def serviceUnavailable : PolicyRejection := ⟨503, code, detail⟩

def conflict : PolicyRejection := ⟨409, code, detail⟩

def clockError : PolicyRejection :=
  serviceUnavailable "clock_error" "clock error: second time provided was later than self"

end PolicyRejection

def unixTimestampSecs (clock : ℤ) : Except PolicyRejection ℕ :=
  if clock < 0 then .error .clockError else .ok clock.toNat

structure DelegatedAssertion (D : Deps) where
  caller : D.Address
  nonce : List Char
  expiry : ℕ

def delegatedAuthPayload (serviceId jobIndex : ℕ) (body : Bytes) (nonce : List Char)
    (expiry : ℕ) : List Char :=
  "x402-authorize:".toList
    ++ Nat.toDigits 10 serviceId ++ [':'] ++ Nat.toDigits 10 jobIndex ++ [':']
    ++ hexEncode (P.keccak256 body) ++ [':'] ++ nonce ++ [':'] ++ Nat.toDigits 10 expiry

def verifyDelegatedSignature (clock : ℤ) (serviceId jobIndex : ℕ) (body : Bytes)
    (headers : HeaderMap) : Except PolicyRejection (DelegatedAssertion D) := do
  let callerRaw ← okOr (headerString headers headerCaller)
    (.badRequest "missing_caller" "X-TANGLE-CALLER header is required for delegated signature auth")
  let caller ← okOr (D.parseAddress callerRaw)
    (.badRequest "invalid_caller" "invalid X-TANGLE-CALLER")
  let nonce ← okOr (headerString headers headerCallerNonce)
    (.badRequest "missing_signature_nonce"
      "X-TANGLE-CALLER-NONCE header is required for delegated signature auth")
  rejectIf (trim nonce = [] ∨ byteLen nonce > 128)
    (.badRequest "invalid_signature_nonce"
      "X-TANGLE-CALLER-NONCE must be non-empty and <= 128 chars")
  let sigRaw ← okOr (headerString headers headerCallerSig)
    (.badRequest "missing_signature"
      "X-TANGLE-CALLER-SIG header is required for delegated signature auth")
  let signature ← okOr (P.parseSignature sigRaw)
    (.badRequest "invalid_signature"
      "invalid X-TANGLE-CALLER-SIG; expected 65-byte hex signature")
  let expiryRaw ← okOr (headerString headers headerCallerExpiry)
    (.badRequest "missing_signature_expiry"
      "X-TANGLE-CALLER-EXPIRY header is required for delegated signature auth")
  let expiry ← okOr (parseU64 expiryRaw)
    (.badRequest "invalid_signature_expiry" "X-TANGLE-CALLER-EXPIRY must be a unix timestamp")
  let now ← unixTimestampSecs clock
  -- the last second of the validity is still accepted
  rejectIf (now > expiry) (.denied "signature_expired" "delegated signature has expired")
  let recovered ← okOr
    (P.recover signature (delegatedAuthPayload P serviceId jobIndex body nonce expiry))
    (.badRequest "invalid_signature_recovery" "failed to recover signer from delegated signature")
  letI := P.addressEq
  rejectIf (recovered ≠ caller)
    (.denied "signature_mismatch" "delegated signature does not match X-TANGLE-CALLER")
  return ⟨caller, nonce, expiry⟩

abbrev SeenNonces := HashMap (List Char) ℕ

def nonceKey (serviceId jobIndex : ℕ) (caller : D.Address) (nonce : List Char) : List Char :=
  P.lowerHex caller ++ [':'] ++ Nat.toDigits 10 serviceId ++ [':'] ++ Nat.toDigits 10 jobIndex
    ++ [':'] ++ nonce

def sweepNonces (seen : SeenNonces) (now : ℕ) : SeenNonces :=
  HashMap.retain seen fun _ storedExpiry => decide (storedExpiry > now)

def reserveLocked (seen : SeenNonces) (now : ℕ) (key : List Char) (expiry : ℕ) :
    Except PolicyRejection Unit × SeenNonces :=
  if ((sweepNonces seen now).lookup key).isSome then
    (.error (.conflict "signature_replay"
      "delegated signature nonce already used for this job scope"), sweepNonces seen now)
  else (.ok (), (sweepNonces seen now).insert key expiry)

inductive PaymentProtocol where
  | x402
  | mpp
  deriving DecidableEq

def PaymentProtocol.asStr : PaymentProtocol → String
  | .x402 => "x402"
  | .mpp => "mpp"

def resolveJobPolicy (gateway : X402Gateway D) (serviceId jobIndex : ℕ) : JobPolicyConfig D :=
  (gateway.jobPolicies.lookup (serviceId, jobIndex)).getD
    { serviceId := serviceId
      jobIndex := jobIndex
      invocationMode := gateway.config.defaultInvocationMode
      authMode := .paymentOnly
      tangleRpcUrl := none
      tangleContract := none }

structure AuthEnv (D : Deps) where
  verifyClock : ℤ
  reserveClock : ℤ
  /-- `isPermittedCaller` of a contract behind a URL, or the error of the call. -/
  isPermittedCaller : D.Url → D.Address → ℕ → D.Address → Except String Bool

variable (env : AuthEnv D)

def attributedCaller (seen : SeenNonces) (policy : JobPolicyConfig D)
    (serviceId jobIndex : ℕ) (body : Bytes) (headers : HeaderMap)
    (payerOverride : Option D.Address) (protocol : PaymentProtocol) (enforceReplayGuard : Bool) :
    Except PolicyRejection D.Address × SeenNonces :=
  match policy.authMode with
  | .payerIsCaller =>
    match payerOverride with
    | some payer => (.ok payer, seen)
    | none =>
      if protocol ≠ .x402 then
        (.error (.serviceUnavailable "missing_settled_payer"
          (protocol.asStr ++ " payer_is_caller requires a verified payer override; refusing to "
            ++ "read X-Payment-Response from a non-x402 request")), seen)
      else
        match parseSettlementDetails P headers with
        | none =>
          (.error (.badRequest "missing_settlement_context"
            "X-Payment-Response settlement context is required"), seen)
        | some settlement =>
          match settlement.payer with
          | none =>
            (.error (.badRequest "missing_settled_payer"
              "settled payer is required for auth_mode=payer_is_caller"), seen)
          | some payer => (.ok payer, seen)
  | .delegatedCallerSignature =>
    match verifyDelegatedSignature P env.verifyClock serviceId jobIndex body headers with
    | .error e => (.error e, seen)
    | .ok assertion =>
      if enforceReplayGuard then
        match unixTimestampSecs env.reserveClock with
        | .error e => (.error e, seen)
        | .ok now =>
          match reserveLocked seen now
              (nonceKey P serviceId jobIndex assertion.caller assertion.nonce)
              assertion.expiry with
          | (.error e, seen) => (.error e, seen)
          | (.ok (), seen) => (.ok assertion.caller, seen)
      else (.ok assertion.caller, seen)
  | .paymentOnly =>
    (.error (.serviceUnavailable "invalid_policy"
      "restricted_paid cannot use auth_mode=payment_only"), seen)

def checkPermitted (policy : JobPolicyConfig D) (serviceId : ℕ)
    (caller : D.Address) : Except PolicyRejection D.Address := do
  let rpcUrl ← okOr policy.tangleRpcUrl
    (.serviceUnavailable "invalid_policy" "restricted_paid policy missing tangle_rpc_url")
  let raw ← okOr policy.tangleContract
    (.serviceUnavailable "invalid_policy" "restricted_paid policy missing tangle_contract")
  let contract ← okOr (D.parseAddress raw)
    (.serviceUnavailable "invalid_policy" "restricted_paid policy has invalid tangle_contract")
  match env.isPermittedCaller rpcUrl contract serviceId caller with
  | .error e =>
    .error (.serviceUnavailable "permission_check_failed"
      ("eth_call isPermittedCaller failed: " ++ e))
  | .ok permitted =>
    rejectIf (permitted = false)
      (.denied "caller_not_permitted"
        ("caller " ++ P.display caller ++ " is not permitted for service_id="
          ++ toString serviceId ++ " via on-chain policy"))
    return caller

def authorizeRestrictedJobWithPayer (seen : SeenNonces)
    (policy : JobPolicyConfig D) (serviceId jobIndex : ℕ) (body : Bytes) (headers : HeaderMap)
    (payerOverride : Option D.Address) (protocol : PaymentProtocol) (enforceReplayGuard : Bool) :
    Except PolicyRejection D.Address × SeenNonces :=
  match attributedCaller P env seen policy serviceId jobIndex body headers payerOverride protocol
      enforceReplayGuard with
  | (.error e, seen) => (.error e, seen)
  | (.ok caller, seen) => (checkPermitted P env policy serviceId caller, seen)

structure QuoteEntry where
  serviceId : ℕ
  jobIndex : ℕ
  priceWei : ℕ
  expiresAt : ℤ
  consumed : Bool

abbrev QuoteRegistry := HashMap Bytes QuoteEntry

structure EnqueueEnv where
  insertedAt : ℤ
  timestampNanos : ℕ
  consumedAt : ℤ

variable (env : EnqueueEnv)

def insertDynamic (quotes : QuoteRegistry) (ttlSecs serviceId jobIndex
    priceWei : ℕ) : Except String (Bytes × QuoteRegistry) :=
  match checkedAdd env.insertedAt (ttlSecs * 10 ^ 9) with
  | none => .error "overflow when adding duration to instant"
  | some expiresAt =>
    let digest := P.keccak256 (toBeBytes 8 serviceId ++ toBeBytes 4 jobIndex
      ++ toBeBytes 32 priceWei ++ toBeBytes 16 env.timestampNanos)
    .ok (digest, quotes.insert digest ⟨serviceId, jobIndex, priceWei, expiresAt, false⟩)

def consumeQuote (quotes : QuoteRegistry) (digest : Bytes) : Option QuoteRegistry :=
  match quotes.lookup digest with
  | none => none
  | some entry =>
    if entry.expiresAt < env.consumedAt ∨ entry.consumed then none
    else some (quotes.insert digest { entry with consumed := true })

structure VerifiedPayment (D : Deps) where
  serviceId : ℕ
  jobIndex : ℕ
  jobArgs : Bytes
  quoteDigest : Bytes
  paymentNetwork : List Char
  paymentToken : List Char
  callId : ℕ
  caller : Option D.Address

structure PaidState (D : Deps) where
  seen : SeenNonces
  quotes : QuoteRegistry
  callIdCounter : ℕ
  queue : List (VerifiedPayment D)
  closed : Bool

structure EnqueuedReceipt where
  callId : ℕ
  quoteDigestHex : List Char

def admitCaller (env : AuthEnv D) (gateway : X402Gateway D) (seen : SeenNonces)
    (serviceId jobIndex : ℕ) (body : Bytes) (headers : HeaderMap)
    (settledPayer : Option D.Address) (protocol : PaymentProtocol) :
    Except PolicyRejection (ℕ × Option D.Address) × SeenNonces :=
  match gateway.jobPricing.lookup (serviceId, jobIndex) with
  | none =>
    (.error ⟨404, "job_not_found", "job not found: service_id=" ++ toString serviceId
      ++ " job_index=" ++ toString jobIndex⟩, seen)
  | some priceWei =>
    let policy := resolveJobPolicy gateway serviceId jobIndex
    match policy.invocationMode with
    | .disabled =>
      (.error (.denied "x402_disabled" "job is not enabled for x402 invocation"), seen)
    | .publicPaid => (.ok (priceWei, none), seen)
    | .restrictedPaid =>
      match authorizeRestrictedJobWithPayer P env seen policy serviceId jobIndex body headers
          settledPayer protocol true with
      | (.error rejection, seen) => (.error rejection, seen)
      | (.ok caller, seen) => (.ok (priceWei, some caller), seen)

def enqueuePaid (gateway : X402Gateway D) (s : PaidState D)
    (serviceId jobIndex : ℕ) (body : Bytes) (attribution : PaymentAttribution D) (priceWei : ℕ)
    (caller : Option D.Address) : Outcome PolicyRejection EnqueuedReceipt × PaidState D :=
  match insertDynamic P env s.quotes gateway.config.quoteTtlSecs serviceId jobIndex priceWei with
  | .error message => (.error (.panicked message), s)
  | .ok (digest, quotes) =>
    match consumeQuote env quotes digest with
    | none =>
      (.error (.err (.conflict "quote_conflict" "quote already consumed or expired")),
        { s with quotes := quotes })
    | some quotes =>
      let (network, token) := resolvedPaymentMetadata gateway.config attribution
      let callId := s.callIdCounter
      let s := { s with quotes := quotes, callIdCounter := wrap64 (callId + 1) }
      if s.closed then
        (.error (.err (.serviceUnavailable "shutting_down" "service shutting down")), s)
      else
        let payment : VerifiedPayment D :=
          ⟨serviceId, jobIndex, body, digest, network, token, callId, caller⟩
        (.ok ⟨callId, hexEncode digest⟩, { s with queue := s.queue ++ [payment] })

def handlePaidJobInner (authEnv : AuthEnv D) (env : EnqueueEnv) (gateway : X402Gateway D)
    (s : PaidState D) (serviceId jobIndex : ℕ) (body : Bytes) (headers : HeaderMap)
    (attribution : PaymentAttribution D) (protocol : PaymentProtocol) :
    Outcome PolicyRejection EnqueuedReceipt × PaidState D :=
  match admitCaller P authEnv gateway s.seen serviceId jobIndex body headers
      attribution.settledPayer protocol with
  | (.error rejection, seen) => (.error (.err rejection), { s with seen := seen })
  | (.ok (priceWei, caller), seen) =>
    enqueuePaid P env gateway { s with seen := seen } serviceId jobIndex body attribution priceWei
      caller

def handleJobRequest (authEnv : AuthEnv D) (env : EnqueueEnv) (gateway : X402Gateway D)
    (s : PaidState D) (serviceId jobIndex : ℕ) (headers : HeaderMap) (body : Bytes) :
    Outcome PolicyRejection EnqueuedReceipt × PaidState D :=
  handlePaidJobInner P authEnv env gateway s serviceId jobIndex body headers
    (extractPaymentAttribution P headers gateway.config) .x402

open Gadget.Core

def originKey : List Char := "X-X402-ORIGIN".toList

def quoteDigestKey : List Char := "X-X402-QUOTE-DIGEST".toList

def paymentNetworkKey : List Char := "X-X402-PAYMENT-NETWORK".toList

def paymentTokenKey : List Char := "X-X402-PAYMENT-TOKEN".toList

def serviceIdKey : List Char := "X-TANGLE-SERVICE-ID".toList

def callIdKey : List Char := "X-TANGLE-CALL-ID".toList

def callerKey : List Char := "X-TANGLE-CALLER".toList

def VerifiedPayment.intoJobCall (asSlice : D.Address → Bytes) (p : VerifiedPayment D) : JobCall :=
  let metadata := ((((((∅ : MetadataMap).insert originKey (utf8 "x402".toList)).insert
    quoteDigestKey p.quoteDigest).insert
    paymentNetworkKey (utf8 p.paymentNetwork)).insert
    paymentTokenKey (utf8 p.paymentToken)).insert
    serviceIdKey (MetadataValue.ofU64 (UInt64.ofNat p.serviceId))).insert
    callIdKey (MetadataValue.ofU64 (UInt64.ofNat p.callId))
  { jobId := JobId.ofU64 (UInt64.ofNat p.jobIndex)
    metadata :=
      match p.caller with
      | some caller => metadata.insert callerKey (asSlice caller)
      | none => metadata
    body := p.jobArgs }

end Gadget.X402
