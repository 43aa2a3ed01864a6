import Gadget.Auth.Exchange
import Gadget.Lib.ReplayGuard
import Gadget.X402.Gateway

/-!
# OAuth assertions

`POST /v1/oauth/token` exchanges a signed assertion for an access token. An assertion is to be used
once: `verify` looks its `jti` up in a column family and then, in a second operation, stores its
expiry there. The family is keyed by the `jti` alone, and what is stored refuses only assertions
that do not expire later.
-/

namespace Gadget.Auth

open Rust Lib.Run Lib.ReplayGuard Guard Except
structure ServiceOAuthPolicy where
  allowedIssuers : List (List Char)
  requiredAudiences : List (List Char)
  publicKeysPem : List (List Char)
  allowedScopes : Option (List (List Char))
  maxAccessTokenTtlSecs : ℕ
  maxAssertionTtlSecs : ℕ
  deriving DecidableEq

structure AssertionClaims where
  iss : List Char
  sub : List Char
  aud : Option (List Char)
  iat : Option ℕ
  exp : Option ℕ
  jti : Option (List Char)
  scope : Option (List Char)
  deriving DecidableEq

structure VerifiedAssertion where
  issuer : List Char
  subject : List Char
  audience : Option (List Char)
  scopes : Option (List (List Char))

inductive VerificationError where
  | invalidRequest (message : String)
  | invalidGrant (message : String)
  | policyViolation (message : String)
  | notConfigured

inductive Algorithm where
  | rs256
  | es256
  | other
  deriving DecidableEq

structure Decoding where
  algorithm : Algorithm
  audiences : Option (List (List Char))
  key : Bytes

structure OAuthDeps where
  /-- `jsonwebtoken::decode_header`. -/
  decodeHeader : List Char → Except String Algorithm
  /-- `pem::parse`: the tag and the contents. -/
  parsePem : List Char → Option (List Char × Bytes)
  /-- `jsonwebtoken::decode`, at a time. -/
  decode : List Char → Decoding → ℕ → Except String AssertionClaims

variable (D : AuthDeps) (J : OAuthDeps)

def decodingKey (algorithm : Algorithm) (pem : List Char) : Option Bytes :=
  (J.parsePem (trim pem)).bind fun block =>
    let accepted :=
      match algorithm with
      | .rs256 => block.1 == "PUBLIC KEY".toList || block.1 == "RSA PUBLIC KEY".toList
      | .es256 => block.1 == "PUBLIC KEY".toList
      | .other => false
    if accepted then some block.2 else none

def decodeWithKeys (jwt : List Char) (algorithm : Algorithm) (audiences : Option (List (List Char)))
    (now : ℕ) : List (List Char) → Option String → Except (Option String) AssertionClaims
  | [], lastErr => .error lastErr
  | pem :: pems, lastErr =>
    match decodingKey J algorithm pem with
    | none => decodeWithKeys jwt algorithm audiences now pems lastErr
    | some key =>
      match J.decode jwt ⟨algorithm, audiences, key⟩ now with
      | .ok claims => .ok claims
      | .error e => decodeWithKeys jwt algorithm audiences now pems (some e)

def skew : ℕ := 60

def graceEnd (exp : ℕ) : ℕ := (exp + skew) % 2 ^ 64

variable (jwt : List Char)

variable (policies : Policies) (policy : ServiceOAuthPolicy) (request : OAuthRequest) (now : ℕ)
  (read : Except Unit Unit) (store : JtiStore) (written : Except Unit Unit)

def decodeAssertion :
    Except VerificationError AssertionClaims := do
  rejectIf (policy.allowedIssuers = []) (.policyViolation "no issuers configured")
  let algorithm ←
    match J.decodeHeader jwt with
    | .ok algorithm => .ok algorithm
    | .error e => .error (.invalidRequest ("invalid jwt header: " ++ e))
  rejectIf (algorithm = .other) (.invalidRequest "unsupported alg")
  rejectIf (policy.publicKeysPem = []) .notConfigured
  let audiences := if policy.requiredAudiences = [] then none else some policy.requiredAudiences
  match decodeWithKeys J jwt algorithm audiences now policy.publicKeysPem none with
  | .ok claims => .ok claims
  | .error e =>
    .error (.invalidGrant ("signature verification failed: " ++ e.getD "unknown"))

def checkAssertion :
    Except VerificationError (AssertionClaims × List Char × ℕ) := do
  let claims ← decodeAssertion J jwt policy now
  rejectIf (policy.allowedIssuers.contains claims.iss = false) (.invalidGrant "issuer not allowed")
  let iat := claims.iat.getD 0
  let exp := claims.exp.getD 0
  rejectIf (now + skew < iat) (.invalidGrant "token used before issued (iat)")
  rejectIf (graceEnd exp ≤ now) (.invalidGrant "token expired")
  rejectIf (iat < exp ∧ policy.maxAssertionTtlSecs < exp - iat)
    (.invalidGrant "assertion TTL exceeds policy")
  let jti ← okOr claims.jti (.invalidRequest "missing jti")
  return (claims, jti, exp)

abbrev JtiStore := HashMap (List Char) ℕ

def isReplayed (jti : List Char) (exp : ℕ) (read : Except Unit Unit) :
    Except VerificationError Bool :=
  match read with
  | .error () => .error (.invalidRequest "replay read error")
  | .ok () => .ok ((store.lookup jti).any fun stored => decide (exp ≤ stored))

def rememberJti (jti : List Char) (exp : ℕ) (written : Except Unit Unit) :
    Except VerificationError JtiStore :=
  match written with
  | .error () => .error (.invalidRequest "replay write error")
  | .ok () => .ok (store.insert jti exp)

def wordsOf (text : List Char) : List (List Char) :=
  (text.splitOn ' ').filter (· ≠ [])

def AssertionClaims.verified (claims : AssertionClaims) : VerifiedAssertion where
  issuer := claims.iss
  subject := claims.sub
  audience := claims.aud
  scopes := (claims.scope.map wordsOf).filter (· ≠ [])

def verifyBefore : Except VerificationError (AssertionClaims × List Char × ℕ) := do
  let checked ← checkAssertion J jwt policy now
  let replayed ← isReplayed store checked.2.1 checked.2.2 read
  rejectIf (replayed = true) (.invalidGrant "assertion replayed")
  return checked

def verify (store : JtiStore) : Except VerificationError (VerifiedAssertion × JtiStore) := do
  let checked ← verifyBefore J jwt policy now read store
  let store ← rememberJti store checked.2.1 checked.2.2 written
  return (checked.1.verified, store)

structure OAuthError where
  status : ℕ
  error : String
  description : String

def VerificationError.answer : VerificationError → OAuthError
  | .notConfigured => ⟨400, "invalid_grant", "JWT bearer assertion verification not configured"⟩
  | .policyViolation message => ⟨400, "invalid_request", message⟩
  | .invalidGrant message => ⟨400, "invalid_grant", message⟩
  | .invalidRequest message => ⟨400, "invalid_request", message⟩

def orAnswer {α : Type} : Except VerificationError α → Except OAuthError α
  | .ok a => .ok a
  | .error e => .error e.answer

def parseServiceId (text : List Char) : Option ServiceId :=
  match text.splitOn ':' with
  | [main] => (parseU64 main).map (⟨·, 0⟩)
  | [main, sub] => (parseU64 main).bind fun m => (parseU64 sub).map (⟨m, ·⟩)
  | _ => none

structure OAuthRequest where
  grantType : Option (List Char)
  assertion : Option (List Char)
  serviceId : Option (List Char)

def acceptRequest (policies : ServiceId → Except Unit (Option ServiceOAuthPolicy))
    (request : OAuthRequest) : Except OAuthError (List Char × ServiceId × ServiceOAuthPolicy) := do
  rejectIf (request.grantType ≠ some "urn:ietf:params:oauth:grant-type:jwt-bearer".toList)
    ⟨400, "unsupported_grant_type", "grant_type must be JWT bearer"⟩
  let assertion ← okOr (request.assertion.filter (· ≠ []))
    ⟨400, "invalid_request", "missing assertion"⟩
  let serviceId ← okOr (request.serviceId.bind parseServiceId)
    ⟨428, "invalid_request", "Missing X-Service-Id header"⟩
  match policies serviceId with
  | .error () => .error ⟨500, "server_error", "Failed to load service policy"⟩
  | .ok none => .error ⟨400, "invalid_request", "OAuth not enabled for this service"⟩
  | .ok (some policy) => .ok (assertion, serviceId, policy)

def grantedScopes (requested allowed : Option (List (List Char))) : Option (List (List Char)) :=
  match requested, allowed with
  | some requested, some allowed =>
    let lower := fun scope : List Char => scope.map Char.toLower
    let kept := (requested.map lower).filter fun scope => (allowed.map lower).contains scope
    let set := (∅ : BTreeMap).insertMany (kept.map fun scope => (scope, []))
    if set.isEmpty then none else some set.keys
  | _, _ => none

def tokenFor (serviceId : ServiceId) (policy : ServiceOAuthPolicy) (verified : VerifiedAssertion)
    (now : ℕ) (jti : List Char) : Except OAuthError TokenExchangeResponse := do
  let headers := (∅ : BTreeMap).insert "x-tenant-id".toList (hashUserId D verified.subject)
  let validated ←
    match validateHeaders D headers with
    | .ok validated => .ok validated
    | .error e => .error ⟨400, "invalid_request", "Header validation failed: " ++ e.display⟩
  let own := processHeadersWithPiiProtection D validated
  let ttl := max policy.maxAccessTokenTtlSecs 60
  match generateToken D serviceId "oauth".toList own["x-tenant-id".toList]? own (some ttl)
      (grantedScopes verified.scopes policy.allowedScopes) now jti with
  | .ok token => .ok (TokenExchangeResponse.new token (now + ttl) now)
  | .error _ => .error ⟨500, "server_error", "Failed to generate access token"⟩

structure Assertion where
  serviceId : ServiceId
  policy : ServiceOAuthPolicy
  claims : AssertionClaims
  jti : List Char
  exp : ℕ
  now : ℕ
  deriving DecidableEq

abbrev Policies := ServiceId → Except Unit (Option ServiceOAuthPolicy)

def assertionOf :
    Except OAuthError Assertion := do
  let accepted ← acceptRequest policies request
  let checked ← orAnswer (checkAssertion J accepted.1 accepted.2.2 now)
  return ⟨accepted.2.1, accepted.2.2, checked.1, checked.2.1, checked.2.2, now⟩

lemma orAnswer_eq_ok {α : Type} {x : Except VerificationError α} {a : α} :
    orAnswer x = .ok a ↔ x = .ok a := by
  rcases x with e | b <;> simp [orAnswer]

def oauthToken (tokenJti : List Char) (store : JtiStore) :
    Except OAuthError TokenExchangeResponse × JtiStore :=
  match acceptRequest policies request with
  | .error e => (.error e, store)
  | .ok (jwt, serviceId, policy) =>
    match verify J jwt policy now read written store with
    | .error e => (.error e.answer, store)
    | .ok (verified, store) => (tokenFor D serviceId policy verified now tokenJti, store)

structure OAuthRun where
  store : JtiStore
  passed : List Assertion
  remembered : List Assertion
  tokens : List Assertion
  refused : List (Assertion × Option Assertion)

inductive OAuthEvent where
  | receive (policies : Policies) (request : OAuthRequest) (now : ℕ) (read : Except Unit Unit)
  | finish (assertion : Assertion) (written : Except Unit Unit) (now : ℕ) (tokenJti : List Char)

namespace OAuthRun

def start : OAuthRun := ⟨∅, [], [], [], []⟩

variable (run : OAuthRun)

def lastRemembered (jti : List Char) : Option Assertion :=
  run.remembered.find? fun b => b.jti = jti

variable (assertion : Assertion) (written : Except Unit Unit)

def lookup (read : Except Unit Unit) : OAuthRun :=
  match isReplayed run.store assertion.jti assertion.exp read with
  | .error _ => run
  | .ok true =>
    { run with refused := (assertion, run.lastRemembered assertion.jti) :: run.refused }
  | .ok false => { run with passed := assertion :: run.passed }

def finish (now : ℕ) (tokenJti : List Char) : OAuthRun :=
  let passed := run.passed.erase assertion
  match rememberJti run.store assertion.jti assertion.exp written with
  | .error _ => { run with passed }
  | .ok store =>
    let remembered := assertion :: run.remembered
    match tokenFor D assertion.serviceId assertion.policy assertion.claims.verified now tokenJti with
    | .error _ => { run with store, passed, remembered }
    | .ok _ => { run with store, passed, remembered, tokens := assertion :: run.tokens }

def step : OAuthEvent → OAuthRun
  | .receive policies request now read =>
    match assertionOf J policies request now with
    | .error _ => run
    | .ok assertion => run.lookup assertion read
  | .finish assertion written now tokenJti =>
    if assertion ∈ run.passed then run.finish D assertion written now tokenJti else run

def Reuses (earlier later : Assertion) : Prop :=
  earlier.claims.iss = later.claims.iss ∧ earlier.jti = later.jti ∧ later.now < graceEnd earlier.exp

def SameParties (b a : Assertion) : Prop :=
  b.claims.iss = a.claims.iss ∧ b.serviceId = a.serviceId

/-- What is claimed: an issuer's `jti` gets one token while it is valid, and an assertion is refused
because of another one of its own issuer and service only. -/
structure SingleUse (run : OAuthRun) : Prop where
  once : run.tokens.Pairwise fun later earlier => ¬ Reuses earlier later
  undisturbed : ∀ a b, (a, some b) ∈ run.refused → SameParties b a

def rules : Rules Assertion (List Char) where
  key := Assertion.jti
  mark := Assertion.exp
  clash := Reuses
  akin := SameParties

def view : Guard Assertion (List Char) where
  marks := fun jti => run.store.lookup jti
  waiting := run.passed
  marked := run.remembered
  granted := run.tokens
  refused := run.refused

def endingOf (now : ℕ) (tokenJti : List Char) : Ending :=
  match written with
  | .error () => .unwritten
  | .ok () =>
    match tokenFor D assertion.serviceId assertion.policy assertion.claims.verified now tokenJti with
    | .error _ => .ungranted
    | .ok _ => .granted

def act : OAuthEvent → Event Assertion
  | .receive policies request now read =>
    match assertionOf J policies request now, read with
    | .ok assertion, .ok () => .check assertion
    | _, _ => .skip
  | .finish assertion written now tokenJti =>
    .settle assertion (endingOf D assertion written now tokenJti)

def Kept (event : OAuthEvent) : Prop := run.view.Kept rules (act D J event)

def Alone (event : OAuthEvent) : Prop := run.view.Alone rules (act D J event)

variable {D J}

lemma view_lookup (asn : Assertion) :
    (run.lookup asn (.ok ())).view = run.view.step rules (.check asn) := by
  have hr : run.view.Refuses rules asn ↔
      ((run.store.lookup asn.jti).any fun stored => decide (asn.exp ≤ stored)) = true := by
    simp [Guard.Refuses, view, rules, Option.any_eq_true]
  rw [Guard.step, lookup, isReplayed]
  by_cases h : run.view.Refuses rules asn
  · rw [if_pos h, hr.mp h]
    rfl
  · have hf := Bool.eq_false_iff.mpr fun ht => h (hr.mpr ht)
    rw [if_neg h, hf]
    rfl

lemma view_finish (asn : Assertion) (written : Except Unit Unit) (now : ℕ) (tokenJti : List Char) :
    (run.finish D asn written now tokenJti).view
      = run.view.settle rules asn (endingOf D asn written now tokenJti) := by
  have hm : (fun jti => (run.store.insert asn.jti asn.exp).lookup jti)
      = Function.update (fun jti => run.store.lookup jti) asn.jti (some asn.exp) := by
    funext jti
    rw [HashMap.lookup_insert_eq, Function.update_apply]
  unfold finish endingOf
  rcases written with u | u
  · rfl
  simp only [rememberJti]
  cases tokenFor D asn.serviceId asn.policy asn.claims.verified now tokenJti with
  | error | ok => simp [view, settle, put, rules, hm]

lemma view_step (ev : OAuthEvent) : (run.step D J ev).view = run.view.step rules (act D J ev) := by
  cases ev with
  | receive policies req now read =>
    simp only [step, act]
    rcases assertionOf J policies req now with e | asn
    · rfl
    rcases read with u | u
    · rfl
    exact view_lookup run asn
  | finish asn written now tokenJti =>
    simp only [step, act, Guard.step]
    by_cases hp : asn ∈ run.passed
    · rw [if_pos hp, if_pos (show asn ∈ run.view.waiting from hp)]
      exact view_finish run asn written now tokenJti
    · rw [if_neg hp, if_neg (show asn ∉ run.view.waiting from hp)]

/-- A request that no other disturbs is `oauthToken`. -/
theorem step_step_eq_oauthToken {policies : Policies} {req : OAuthRequest} {now : ℕ}
    {asn : Assertion} (h : assertionOf J policies req now = .ok asn)
    (run : OAuthRun) (hnew : asn ∉ run.passed) (read written : Except Unit Unit)
    (tokenJti : List Char) :
    let after := (run.step D J (.receive policies req now read)).step D J
      (.finish asn written now tokenJti)
    let answer := oauthToken D J policies req now read written tokenJti run.store
    after.store = answer.2 ∧
      after.tokens = if answer.1.toBool then asn :: run.tokens else run.tokens := by
  have ha := h
  obtain ⟨⟨jwt, serviceId, policy⟩, hac, h⟩ := bind_eq_ok.mp h
  obtain ⟨⟨claims, jti, exp⟩, hc, h⟩ := bind_eq_ok.mp h
  cases h
  have hch := orAnswer_eq_ok.mp hc
  have hv : verify J jwt policy now read written run.store = do
      let replayed ← isReplayed run.store jti exp read
      rejectIf (replayed = true) (.invalidGrant "assertion replayed")
      let store ← rememberJti run.store jti exp written
      return (claims.verified, store) := by
    rw [verify, verifyBefore, hch, ok_bind]
    rcases isReplayed run.store jti exp read with e | replayed
    · rfl
    rcases replayed with _ | _ <;> rfl
  simp only [step, ha, oauthToken, hac, lookup, hv]
  rcases isReplayed run.store jti exp read with e | replayed
  · simp [hnew, Except.toBool, bind, Except.bind]
  cases replayed with
  | true => simp [hnew, Except.toBool, bind, Except.bind, rejectIf]
  | false =>
    simp only [finish, List.mem_cons_self, if_true]
    rcases rememberJti run.store jti exp written with e | store
    · simp [Except.toBool, bind, Except.bind, rejectIf]
    rcases ht : tokenFor D serviceId policy claims.verified now tokenJti with e | tok <;>
      simp [ht, Except.toBool, bind, Except.bind, rejectIf, pure, Except.pure]

/-- **Single use of assertions.** Requests arrive in any order and interleave between their lookups
and their writes. Every issuer's `jti` gets at most one token while it is valid, and no assertion is
refused because of another issuer's or service's, exactly when every step keeps to it. In particular
this holds when assertions with one `jti` are handled one at a time, come from one issuer for one
service, and later ones do not expire later. -/
theorem always_oneToken_iff (D : AuthDeps) (J : OAuthDeps) (events : List OAuthEvent) :
    (Always (step D J) SingleUse start events ↔ Each (step D J) (Kept D J) start events) ∧
    (Each (step D J) (Alone D J) start events → Always (step D J) SingleUse start events) := by
  have hs : view start = empty := by
    simp [view, start, empty]
  have hg : Always (step D J) SingleUse start events ↔
      Always (Guard.step rules) (Guard.Good rules) empty (events.map (act D J)) := by
    have hsa : ∀ run : OAuthRun, True → (run.SingleUse ↔ run.view.Good rules) :=
      fun run _ => ⟨fun h => ⟨h.once, h.undisturbed⟩, fun h => ⟨h.granted, h.refused⟩⟩
    rw [always_congr (fun _ _ _ => trivial) hsa trivial, always_iff_of_simulation view_step, hs]
  have hk : Each (step D J) (Kept D J) start events ↔
      Each (Guard.step rules) (Guard.Kept rules) empty (events.map (act D J)) := by
    exact each_iff_of_simulation view_step start events
  have ha : Each (step D J) (Alone D J) start events ↔
      Each (Guard.step rules) (Guard.Alone rules) empty (events.map (act D J)) := by
    exact each_iff_of_simulation view_step start events
  have he := always_good_iff (R := rules) apart_empty.recorded good_empty (events.map (act D J))
  have hkey : ∀ a b, rules.clash a b → rules.key a = rules.key b := fun _ _ h => h.2.1
  rw [hg, hk, ha]
  exact ⟨he, fun h => he.mpr (each_kept hkey apart_empty h)⟩

abbrev namedOAuthDeps : OAuthDeps where
  decodeHeader _ := .ok .rs256
  parsePem _ := some ("PUBLIC KEY".toList, [1])
  decode jwt _ _ :=
    let issuer := if jwt = ['b'] then "second".toList else "first".toList
    .ok ⟨issuer, "user".toList, none, some 0, some (if jwt = ['c'] then 200 else 100),
      some "7".toList, none⟩

def bothIssuers : ServiceOAuthPolicy := ⟨["first".toList, "second".toList], [], [[]], none, 60, 600⟩

def samePolicies : Policies := fun _ => .ok (some bothIssuers)

def requestWith (jwt : List Char) : OAuthEvent :=
  .receive samePolicies
    ⟨some "urn:ietf:params:oauth:grant-type:jwt-bearer".toList, some jwt, some "1".toList⟩ 10 (.ok ())

def assertionNamed (issuer : String) (exp : ℕ) : Assertion where
  serviceId := ⟨1, 0⟩
  policy := bothIssuers
  claims := ⟨issuer.toList, "user".toList, none, some 0, some exp, some "7".toList, none⟩
  jti := "7".toList
  exp := exp
  now := 10

def completionOf (assertion : Assertion) : OAuthEvent := .finish assertion (.ok ()) 10 []

def namelessHeaders : BTreeMap := (∅ : BTreeMap).insert "x-tenant-id".toList []

abbrev oauthDeps : AuthDeps :=
  sealingDeps (AccessTokenClaims.new plainAuthDeps ⟨1, 0⟩ "oauth".toList 60 (some []) namelessHeaders
    none 10 [])

def firstAssertion : Assertion := assertionNamed "first" 100

def strangersAssertion : Assertion := assertionNamed "second" 100

def renewedAssertion : Assertion := assertionNamed "first" 200

def afterSteps (events : List OAuthEvent) : OAuthRun :=
  events.foldl (step oauthDeps namedOAuthDeps) start

theorem first_request_alone :
    ((start.step oauthDeps namedOAuthDeps (requestWith ['a'])).step oauthDeps namedOAuthDeps
      (completionOf firstAssertion)).tokens = [firstAssertion] :=
  (step_step_eq_oauthToken rfl start nofun _ _ _).2.trans (by decide +kernel)

/-- An assertion that is looked up twice before it is stored gets two tokens, and so does an
issuer's `jti` in an assertion that expires later. Another issuer's assertion with the `jti` is
refused. -/
theorem jti_gets_two_tokens :
    (afterSteps [requestWith ['a'], requestWith ['a'], completionOf firstAssertion,
      completionOf firstAssertion]).tokens = [firstAssertion, firstAssertion] ∧
    Reuses firstAssertion firstAssertion ∧
    (afterSteps [requestWith ['a'], completionOf firstAssertion, requestWith ['c'],
      completionOf renewedAssertion]).tokens = [renewedAssertion, firstAssertion] ∧
    Reuses firstAssertion renewedAssertion ∧
    (afterSteps [requestWith ['a'], completionOf firstAssertion, requestWith ['b']]).refused
      = [(strangersAssertion, some firstAssertion)] ∧
    ¬ SameParties firstAssertion strangersAssertion := by
  refine ⟨by decide +kernel, ?_, by decide +kernel, ?_, by decide +kernel, ?_⟩
  · exact ⟨rfl, rfl, by decide⟩
  · exact ⟨rfl, rfl, by decide⟩
  · exact fun h => absurd h.1 (by decide)

end OAuthRun

end Gadget.Auth
