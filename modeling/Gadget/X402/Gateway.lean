import Gadget.Rust.HeaderMap
import Gadget.Rust.Int

/-!
# The payment gateway and its configuration

Which tokens an operator accepts, how a price in wei becomes an amount of a token, which jobs
are exposed, and the checks a configuration passes before a gateway is built from it. Then how it is
built, which job a request is served as, and what the payment middleware is told to ask for it. The
first is decided by the framework from the decoded segments of the path, the second by
`buildEvmPriceTags` from its bytes.
-/

namespace Gadget.X402

open Rust

structure Deps where
  Decimal : Type
  fromStrExact : List Char → Except String Decimal
  ofNat : ℕ → Decimal
  add : Decimal → Decimal → Except String Decimal
  mul : Decimal → Decimal → Except String Decimal
  div : Decimal → Decimal → Except String Decimal
  floor : Decimal → Decimal
  /-- `x <= Decimal::ZERO`. -/
  leZero : Decimal → Bool
  toText : Decimal → List Char
  Address : Type
  parseAddress : List Char → Option Address
  Url : Type
  /-- `FacilitatorClient::try_new`, with the text of its error. -/
  tryNewFacilitator : Url → Except String Unit

variable {D : Deps}

inductive X402Error where
  | config (text : String)
  | priceConversion (text : String)
  | mpp (text : String)
  deriving DecidableEq

structure AcceptedToken (D : Deps) where
  network : List Char
  asset : List Char
  symbol : List Char
  decimals : ℕ
  payTo : List Char
  ratePerNativeUnit : D.Decimal
  markupBps : ℕ
  transferMethod : List Char
  eip3009Name : Option (List Char)
  eip3009Version : Option (List Char)

def eip155 : List Char := ['e', 'i', 'p', '1', '5', '5', ':']

def parseU64 (text : List Char) : Option ℕ := parseUnsigned u64Max (text.map Char.toNat)

namespace AcceptedToken

variable (t : AcceptedToken D)

def convertWeiToAmount (weiPrice : ℕ) : Outcome X402Error (List Char) := do
  let weiDecimal ←
    (match D.fromStrExact (Nat.toDigits 10 weiPrice) with
    | .ok d => .ok d
    | .error e => .error (.err (.priceConversion ("wei to decimal: " ++ e))))
  let nativeAmount ← orPanic (D.div weiDecimal (D.ofNat (10 ^ 18)))
  let tokenAmount ← orPanic (D.mul nativeAmount t.ratePerNativeUnit)
  let markup ← orPanic (D.div (D.ofNat t.markupBps) (D.ofNat 10000))
  let markupMultiplier ← orPanic (D.add (D.ofNat 1) markup)
  let finalAmount ← orPanic (D.mul tokenAmount markupMultiplier)
  -- from 20 decimals on the power does not fit into a `u64`
  let smallestUnits ← orPanic (D.mul finalAmount (D.ofNat (wrap64 (10 ^ t.decimals))))
  return D.toText (D.floor smallestUnits)

def chainId : Option ℕ :=
  (List.isPrefixOf? eip155 t.network).bind parseU64

def validate : Except X402Error Unit :=
  let symbol := String.ofList t.symbol
  let network := String.ofList t.network
  let at_ := "token " ++ symbol ++ " on " ++ network ++ ": "
  match List.isPrefixOf? eip155 t.network with
  | none =>
    .error (.config ("token " ++ symbol ++ ": network must start with 'eip155:', got '" ++ network
      ++ "'"))
  | some chain =>
    if (parseU64 chain).isNone then
      .error (.config ("token " ++ symbol ++ ": invalid chain ID in network '" ++ network ++ "': '"
        ++ String.ofList chain ++ "' is not a valid u64"))
    else if (D.parseAddress t.asset).isNone then
      .error (.config (at_ ++ "invalid asset address '" ++ String.ofList t.asset ++ "'"))
    else if (D.parseAddress t.payTo).isNone then
      .error (.config (at_ ++ "invalid pay_to address '" ++ String.ofList t.payTo ++ "'"))
    else if D.leZero t.ratePerNativeUnit then
      .error (.config (at_ ++ "rate_per_native_unit must be positive, got "
        ++ String.ofList (D.toText t.ratePerNativeUnit)))
    else .ok ()

lemma validate_ok {t : AcceptedToken D} (h : t.validate = .ok ()) :
    ∃ chain id asset payTo, List.isPrefixOf? eip155 t.network = some chain ∧
      parseU64 chain = some id ∧ D.parseAddress t.asset = some asset ∧
      D.parseAddress t.payTo = some payTo := by
  simp only [validate] at h
  split at h
  · cases h
  next chain hc =>
  split_ifs at h with h1 h2 h3 h4
  rw [Option.isNone_iff_eq_none, ← ne_eq, Option.ne_none_iff_exists'] at h1 h2 h3
  obtain ⟨id, hid⟩ := h1
  obtain ⟨asset, ha⟩ := h2
  obtain ⟨payTo, hpay⟩ := h3
  exact ⟨chain, id, asset, payTo, hc, hid, ha, hpay⟩

end AcceptedToken

inductive X402InvocationMode where
  | disabled
  | publicPaid
  | restrictedPaid
  deriving DecidableEq

inductive X402CallerAuthMode where
  | payerIsCaller
  | delegatedCallerSignature
  | paymentOnly
  deriving DecidableEq

structure JobPolicyConfig (D : Deps) where
  serviceId : ℕ
  jobIndex : ℕ
  invocationMode : X402InvocationMode
  authMode : X402CallerAuthMode
  tangleRpcUrl : Option D.Url
  tangleContract : Option (List Char)

def JobPolicyConfig.validate (p : JobPolicyConfig D) : Except X402Error Unit :=
  let who := "restricted_paid policy for service_id=" ++ toString p.serviceId ++ " job_index="
    ++ toString p.jobIndex
  if p.invocationMode ≠ .restrictedPaid then .ok ()
  else if p.authMode = .paymentOnly then
    .error (.config (who ++ " cannot use auth_mode=payment_only"))
  else if p.tangleRpcUrl.isNone then .error (.config (who ++ " requires tangle_rpc_url"))
  else
    match p.tangleContract with
    | none => .error (.config (who ++ " requires tangle_contract"))
    | some contract =>
      if (D.parseAddress contract).isNone then
        .error (.config (who ++ " has invalid tangle_contract='" ++ String.ofList contract ++ "'"))
      else .ok ()

def validatePolicies : Finset (ℕ × ℕ) → List (JobPolicyConfig D) → Except X402Error Unit
  | _, [] => .ok ()
  | seen, p :: ps =>
    if (p.serviceId, p.jobIndex) ∈ seen then
      .error (.config ("duplicate job policy for service_id=" ++ toString p.serviceId
        ++ " job_index=" ++ toString p.jobIndex))
    else
      match p.validate with
      | .error e => .error e
      | .ok () => validatePolicies (insert (p.serviceId, p.jobIndex) seen) ps

structure MppConfig where
  realm : List Char
  secretKey : List Char
  challengeTtlSecs : ℕ

def byteLen (text : List Char) : ℕ := (text.map Char.utf8Size).sum

def isAsciiHexdigit (c : Char) : Bool := (hexValue c).isSome

def repeated (n : ℕ) (text : List Char) : List Char := (List.replicate n text).flatten

def mppForbiddenSecrets : List (List Char) :=
  let counting := ['0', '1', '2', '3', '4', '5', '6', '7', '8', '9', 'a', 'b', 'c', 'd', 'e', 'f']
  [repeated 4 counting, repeated 2 counting, repeated 8 ['d', 'e', 'a', 'd', 'b', 'e', 'e', 'f'],
    repeated 8 ['c', 'a', 'f', 'e', 'b', 'a', 'b', 'e']]

def mppMinUniqueBytes : ℕ := 16

def MppConfig.validate (mpp : MppConfig) (quoteTtlSecs : ℕ) : Except X402Error Unit :=
  let secret := toAsciiLowercase (trim mpp.secretKey)
  let uniqueByteCount := secret.dedup.length
  if trim mpp.realm = [] then .error (.config "mpp.realm must not be empty")
  else if mpp.realm.any isControl then
    .error (.config "mpp.realm must not contain control characters (CR, LF, NUL, etc.)")
  else if byteLen secret < 32 then
    .error (.config ("mpp.secret_key must be at least 32 bytes after trim (got "
      ++ toString (byteLen secret) ++ ")"))
  else if !secret.all isAsciiHexdigit then
    .error (.config "mpp.secret_key must be lowercase hex (generate with `openssl rand -hex 32`)")
  else if byteLen secret < 64 then
    .error (.config ("mpp.secret_key must be at least 64 hex characters (32 bytes); got "
      ++ toString (byteLen secret)))
  else if secret ∈ mppForbiddenSecrets then
    .error (.config ("mpp.secret_key matches a known example/demo value; generate a fresh key with "
      ++ "`openssl rand -hex 32` before going to production"))
  else if uniqueByteCount < mppMinUniqueBytes then
    .error (.config ("mpp.secret_key has insufficient entropy: only " ++ toString uniqueByteCount
      ++ " distinct bytes (need ≥ " ++ toString mppMinUniqueBytes
      ++ "). Generate with `openssl rand -hex 32`."))
  else if mpp.challengeTtlSecs = 0 then .error (.config "mpp.challenge_ttl_secs must be > 0")
  else if mpp.challengeTtlSecs > quoteTtlSecs then
    .error (.config ("mpp.challenge_ttl_secs (" ++ toString mpp.challengeTtlSecs
      ++ ") must be <= quote_ttl_secs (" ++ toString quoteTtlSecs
      ++ ") so MPP challenges expire before their backing quotes"))
  else .ok ()

structure X402Config (D : Deps) where
  facilitatorUrl : D.Url
  quoteTtlSecs : ℕ
  acceptedTokens : List (AcceptedToken D)
  defaultInvocationMode : X402InvocationMode
  jobPolicies : List (JobPolicyConfig D)
  mpp : Option MppConfig

def X402Config.validate (config : X402Config D) : Except X402Error Unit := do
  config.acceptedTokens.forM AcceptedToken.validate
  validatePolicies ∅ config.jobPolicies
  match config.mpp with
  | none => .ok ()
  | some mpp => mpp.validate config.quoteTtlSecs

lemma X402Config.validate_tokens {cfg : X402Config D} (h : cfg.validate = .ok ()) :
    ∀ t ∈ cfg.acceptedTokens, t.validate = .ok () := by
  obtain ⟨⟨⟩, ht, _⟩ := bind_eq_ok.mp h
  exact forM_eq_ok.mp ht

abbrev JobPricing := HashMap (ℕ × ℕ) ℕ

structure X402Gateway (D : Deps) where
  config : X402Config D
  jobPricing : JobPricing
  jobPolicies : HashMap (ℕ × ℕ) (JobPolicyConfig D)

def checkAmount (job : ℕ × ℕ) (priceWei : ℕ) (token : AcceptedToken D) :
    Outcome X402Error Unit := do
  let amount ← token.convertWeiToAmount priceWei
  if (parseU64 amount).isNone then
    .error (.err (.config ("price-tag amount overflow for service_id=" ++ toString job.1
      ++ " job_index=" ++ toString job.2 ++ " token=" ++ String.ofList token.symbol ++ " network="
      ++ String.ofList token.network ++ " amount=" ++ String.ofList amount ++ " (must fit u64)")))
  else .ok ()

variable (order : IterOrder (ℕ × ℕ)) (t : AcceptedToken D) (config : X402Config D)
  (jobPricing : JobPricing)

def validatePriceTagAmountBounds : Outcome X402Error Unit :=
  (order.entries jobPricing).forM fun e => config.acceptedTokens.forM (checkAmount e.1 e.2)

def mppGatewayState : Except X402Error Unit :=
  match config.mpp with
  | none => .ok ()
  | some _ =>
    match D.tryNewFacilitator config.facilitatorUrl with
    | .error e => .error (.mpp ("failed to construct facilitator client: " ++ e))
    | .ok () => .ok ()

def X402Gateway.new : Outcome X402Error (X402Gateway D) := do
  orErr config.validate
  if config.acceptedTokens = [] then
    .error (.err (.config "at least one accepted_token must be configured"))
  else
    validatePriceTagAmountBounds order config jobPricing
    orErr (mppGatewayState config)
    return {
      config := config
      jobPricing := jobPricing
      jobPolicies :=
        HashMap.collect (config.jobPolicies.map fun p => ((p.serviceId, p.jobIndex), p)) }

def matchJobRoute (path : Bytes) : Option (Bytes × Bytes) :=
  match pathSegments path with
  | [root, x402, jobs, serviceId, jobIndex] =>
    if root = [] ∧ x402 = ['x', '4', '0', '2'].map asciiByte ∧
        jobs = ['j', 'o', 'b', 's'].map asciiByte ∧ serviceId ≠ [] ∧ jobIndex ≠ [] then
      some (serviceId, jobIndex)
    else none
  | _ => none

def servedJob (path : Bytes) : Option (ℕ × ℕ) :=
  match matchJobRoute path with
  | none => none
  | some (serviceId, jobIndex) =>
    match parseSegment u64Max (percentDecode serviceId),
        parseSegment u32Max (percentDecode jobIndex) with
    | some s, some j => some (s, j)
    | _, _ => none

inductive AssetTransferMethod where
  | eip3009 (name version : List Char)
  | permit2

structure PriceTag (D : Deps) where
  payTo : D.Address
  chainReference : ℕ
  asset : D.Address
  decimals : ℕ
  transferMethod : AssetTransferMethod
  amount : ℕ

def AcceptedToken.assetTransferMethod : AssetTransferMethod :=
  if t.transferMethod = ['e', 'i', 'p', '3', '0', '0', '9'] then
    .eip3009 (t.eip3009Name.getD ['U', 'S', 'D', ' ', 'C', 'o', 'i', 'n'])
      (t.eip3009Version.getD ['2'])
  else .permit2

def AcceptedToken.priceTag (priceWei : ℕ) : Except String (Option (PriceTag D)) :=
  match t.convertWeiToAmount priceWei with
  | .error (.panicked message) => .error message
  | .error (.err _) => .ok none
  | .ok amountStr =>
    match t.chainId, D.parseAddress t.asset, D.parseAddress t.payTo, parseU64 amountStr with
    | some chainId, some address, some payTo, some amount =>
      .ok (some ⟨payTo, chainId, address, t.decimals, t.assetTransferMethod, amount⟩)
    | _, _, _, _ => .ok none

def buildEvmPriceTags (path : Bytes) : Except String (List (PriceTag D)) :=
  let segments := pathSegments path
  -- every way out of the lookup is an empty list, which asks for no payment
  match segments[3]?.bind (parseSegment u64Max) with
  | none => .ok []
  | some serviceId =>
    match segments[4]?.bind (parseSegment u32Max) with
    | none => .ok []
    | some jobIndex =>
      match jobPricing.lookup (serviceId, jobIndex) with
      | none => .ok []
      | some priceWei => do
        let tags ← (config.acceptedTokens.filter fun t => eip155.isPrefixOf t.network).mapM
          fun t => t.priceTag priceWei
        return tags.filterMap id

end Gadget.X402
