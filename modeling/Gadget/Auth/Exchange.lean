import Gadget.Auth.IdentityHeaders

/-!
# Token exchange

`auth_exchange` gives an access token for an API key. The token stands for the key's default
headers with those of the request over them, and for a lifetime that the request may choose. A
token should not carry more authority than its key: no other scopes, no tenant that is not bound
to the key, no later expiration. Nothing in the endpoint compares the request with the key, and
the tenant is looked up under a name that headers do not have after their validation.
-/

namespace Gadget.Auth

open Rust List

variable (D : AuthDeps)

structure TokenExchangeRequest where
  additionalHeaders : BTreeMap
  ttlSeconds : Option ℕ

structure TokenExchangeResponse where
  accessToken : List Char
  tokenType : String
  expiresAt : ℕ
  expiresIn : ℕ
  deriving DecidableEq

def TokenExchangeResponse.new (accessToken : List Char) (expiresAt now : ℕ) :
    TokenExchangeResponse := ⟨accessToken, "Bearer", expiresAt, expiresAt - now⟩

structure ExchangeError where
  status : StatusCode
  error : String
  message : String
  deriving DecidableEq

def defaultTtl : ℕ := 15 * 60

def generateToken (serviceId : ServiceId) (keyId : List Char) (tenantId : Option (List Char))
    (additionalHeaders : BTreeMap) (ttl : Option ℕ) (scopes : Option (List (List Char))) (now : ℕ)
    (jti : List Char) : Except PasetoError (List Char) :=
  D.sealClaims (AccessTokenClaims.new D serviceId keyId (ttl.getD defaultTtl) tenantId
    additionalHeaders scopes now jti)

def exchangeCredential (headers : HeaderMap) : Except ExchangeError (List Char) := do
  let value ← okOr (headers.get "Authorization".toList) ⟨.unauthorized,
    "missing_authorization_header", "Authorization header with Bearer API key is required"⟩
  let text ← okOr (headerText value) ⟨.badRequest, "invalid_authorization_header",
    "Authorization header is not valid UTF-8"⟩
  okOr (stripStart "Bearer ".toList text) ⟨.badRequest, "invalid_authorization_header",
    "Authorization header must use Bearer scheme with API key"⟩

def exchangeKey (apiKey : List Char) (db : Db) (now : ℕ) : Except ExchangeError ApiKeyModel := do
  let parts ← okOr (splitOnce '.' apiKey) ⟨.badRequest, "invalid_api_key_format",
    "API key must have format ak_xxxxx.yyyyy"⟩
  let model ← okOr (ApiKeyModel.findByKeyId parts.1 db) ⟨.unauthorized, "invalid_api_key",
    "API key not found"⟩
  rejectIf (model.validatesKey D apiKey = false) ⟨.unauthorized, "invalid_api_key",
    "API key validation failed"⟩
  rejectIf (model.isExpired now = true) ⟨.unauthorized, "expired_api_key", "API key has expired"⟩
  rejectIf (model.isEnabled = false) ⟨.unauthorized, "disabled_api_key", "API key is disabled"⟩
  return model

variable (model : ApiKeyModel)

def mergedHeaders (payload : TokenExchangeRequest) : BTreeMap :=
  model.getDefaultHeaders D ∪ payload.additionalHeaders

def issueToken (payload : TokenExchangeRequest) (now : ℕ) (jti : List Char) :
    Except ExchangeError TokenExchangeResponse :=
  match validateHeaders D (mergedHeaders D model payload) with
  | .error e => .error ⟨.badRequest, "invalid_headers", "Header validation failed: " ++ e.display⟩
  | .ok validated =>
    let headers := processHeadersWithPiiProtection D validated
    match generateToken D model.service model.keyId headers["X-Tenant-Id".toList]? headers
        payload.ttlSeconds none now jti with
    | .error _ => .error ⟨.internalServerError, "token_generation_failed",
        "Failed to generate access token"⟩
    | .ok token =>
      .ok (.new token ((now + payload.ttlSeconds.getD defaultTtl) % 2 ^ 64) now)

def authExchange (headers : HeaderMap) (payload : TokenExchangeRequest) (now : ℕ) (jti : List Char)
    (db : Db) : Except ExchangeError TokenExchangeResponse × Db :=
  match exchangeCredential headers >>= fun apiKey => exchangeKey D apiKey db now with
  | .error e => (.error e, db)
  | .ok model => (issueToken D model payload now jti, model.updateLastUsed now db)

def scopeWords (text : List Char) : List (List Char) :=
  ((text.splitOn ' ').filter (· ≠ [])).map lowerName

def headerScopes (value : Bytes) : List (List Char) := ((headerText value).map scopeWords).getD []

def scopeNames : List (List Char) := ["x-scope".toList, "x-scopes".toList]

def recordedScopes (name : List Char) : List (List Char) :=
  (model.getDefaultHeaders D).toList.flatMap fun e =>
    if D.toLowercase e.1 = name then scopeWords e.2 else []

variable (key : ApiKeyModel)

/-- The forwarded scopes are among the recorded ones. -/
def ScopesContained (headers : HeaderMap) : Prop :=
  ∀ name ∈ scopeNames, ∀ value ∈ headers.valuesOf name, ∀ scope ∈ headerScopes value,
    scope ∈ recordedScopes D key name

variable (claims : AccessTokenClaims)

/-- The forwarded tenant is the one that the token is bound to. -/
def TenantBound (headers : HeaderMap) : Prop :=
  ∀ value ∈ headers.valuesOf "x-tenant-id".toList, ∃ tenantId, D.headerValue tenantId = some value ∧
    claims.tenantId = some tenantId ∧
    claims.tenantBinding = some (AccessTokenClaims.bindTenant D key.keyId tenantId)

def ForwardedFor (token : List Char) (forwarded : Forwarded) : Prop :=
  ∃ request db now, bearer request.headers = some token ∧
    (unifiedProxy D request db now).1 = .ok forwarded

def AsksRecordedScopes (payload : TokenExchangeRequest) : Prop :=
  ∀ name ∈ scopeNames, ∀ value,
    (lowercaseNames D (mergedHeaders D key payload))[name]? = some value →
      ∀ bytes, D.headerValue value = some bytes →
        ∀ scope ∈ headerScopes bytes, scope ∈ recordedScopes D key name

def Tenantless (payload : TokenExchangeRequest) : Prop :=
  ∀ name ∈ mergedHeaders D key payload, D.toLowercase name ≠ "x-tenant-id".toList

variable {D}

lemma exchangeKey_eq_ok {apiKey : List Char} {db : Db} {now : ℕ} {model : ApiKeyModel} :
    exchangeKey D apiKey db now = .ok model ↔ findValidKey D apiKey db now = .ok model := by
  simp [exchangeKey, findValidKey, okOr_bind_eq_ok, unit_bind_eq_ok, rejectIf_eq_ok, pure,
    Except.pure]

variable {name : List Char} {forwarded : Forwarded}

lemma toLowercase_of_isValidHeaderName (h : isValidHeaderName name = true) :
    D.toLowercase name = lowerName name := by
  rw [isValidHeaderName, Bool.and_eq_true, all_eq_true] at h
  apply toLowercase_of_ascii
  intro c hc
  have hch := h.2 c hc
  simp only [Bool.or_eq_true, beq_iff_eq] at hch
  obtain (hch | rfl) | rfl := hch
  · exact (toNat_of_isAlphanum hch).2.trans_lt (by decide)
  · decide
  · decide

lemma lowerName_of_validateHeaders {headers vld : BTreeMap}
    (h : validateHeaders D headers = .ok vld) {val : List Char}
    (hn : vld[name]? = some val) : lowerName name = name := by
  obtain ⟨hall, -, rfl⟩ := validateHeaders_eq_ok.mp h
  rw [getElem?_lowercaseNames, findSomeRev?_eq_findSome?_reverse] at hn
  obtain ⟨e, he, hs⟩ := exists_of_findSome?_eq_some hn
  have hc := hall e.1 e.2 (Std.ExtTreeMap.mem_toList_iff_getElem?_eq_some.mp (mem_reverse.mp he))
  have hl : D.toLowercase e.1 = lowerName e.1 :=
    toLowercase_of_isValidHeaderName (checkHeader_eq_ok.mp hc).2.2.2.1
  split_ifs at hs with heq
  rw [← heq, hl, lowerName_lowerName]

lemma injected_of_lowerName {isGrpc : Bool} {own : BTreeMap}
    (hl : ∀ name val, own[name]? = some val → lowerName name = name) (name : List Char) :
    injected D isGrpc own name
      = own[name]?.bind fun val => (injectedHeader D isGrpc name val).map Prod.snd := by
  -- an entry that is set under the name has that name
  have hen : ∀ e ∈ own.toList, ∀ p, injectedHeader D isGrpc e.1 e.2 = some p → p.1 = name →
      own[name]? = some e.2 ∧ e.1 = name := by
    intro e he p hp hn
    have hown := Std.ExtTreeMap.mem_toList_iff_getElem?_eq_some.mp he
    have hs := (headerName_eq_some.mp (injectedHeader_eq_some hp).1).2
    rw [hl e.1 e.2 hown, hn] at hs
    rw [hs] at hown
    exact ⟨hown, hs⟩
  have hno : (∀ val, own[name]? = some val → injectedHeader D isGrpc name val = none) →
      injected D isGrpc own name = none := by
    intro hall
    rw [injected, findSomeRev?_eq_findSome?_reverse, findSome?_eq_none_iff]
    intro e he
    rcases hp : injectedHeader D isGrpc e.1 e.2 with _ | p
    · rfl
    have hne : p.1 ≠ name := by
      intro hn
      obtain ⟨hown, hsa⟩ := hen e (mem_reverse.mp he) p hp hn
      rw [hsa, hall e.2 hown] at hp
      cases hp
    simp [hne]
  rcases hown : own[name]? with _ | val
  · exact hno fun val h => by rw [hown] at h; cases h
  rcases hp : injectedHeader D isGrpc name val with _ | p
  · rw [Option.bind_some, hp]
    exact hno fun val' h => by rw [hown] at h; cases h; exact hp
  have hs := (headerName_eq_some.mp (injectedHeader_eq_some hp).1).2
  rw [hl name val hown] at hs
  rw [Option.bind_some, hp, Option.map_some]
  exact injected_of_getElem? hown (by rw [hp, hs])

def authorityNames : List (List Char) := "x-tenant-id".toList :: scopeNames

section

variable (h : name ∈ authorityNames)

include h

lemma isAuthorityName_of_mem : IsAuthorityName name := by
  simp only [authorityNames, scopeNames, mem_cons, not_mem_nil, or_false] at h
  obtain rfl | rfl | rfl := h
  · exact ⟨by decide, .inr (.inl (by decide))⟩
  · exact ⟨by decide, .inr (.inr (.inl rfl))⟩
  · exact ⟨by decide, .inr (.inr (.inr rfl))⟩

lemma injectedHeader_of_mem (isGrpc : Bool) (value : List Char) :
    (injectedHeader D isGrpc name value).map Prod.snd = D.headerValue value := by
  have hn := isAuthorityName_of_mem h
  have hl : D.toLowercase name = name := toLowercase_of_headerName hn.1
  have hna : ∀ n ∈ authorityNames, n ∉ forbiddenNames ∧ "-bin".toList.isSuffixOf n = false ∧
      (tenantStart.isPrefixOf n || n == "x-scope".toList || n == "x-scopes".toList) = true := by
    decide
  obtain ⟨hf, hb, ha⟩ := hna name h
  have hf' : isForbiddenHeader D name = false := by
    rw [isForbiddenHeader, hl, ← Bool.not_eq_true, contains_iff_mem]
    exact hf
  have hb' : isBinaryName D name = false := by rw [isBinaryName, hl, hb]
  have ha' : (!isAuthHeader D name || isGrpc && isGrpcRequiredHeader D name ||
      tenantStart.isPrefixOf (D.toLowercase name) || D.toLowercase name == "x-scope".toList ||
      D.toLowercase name == "x-scopes".toList || isGrpc && isProxyInjectedHeaderAllowed D name)
        = true := by
    rw [hl]
    simp only [Bool.or_eq_true] at ha ⊢
    tauto
  rw [injectedHeader, hf', if_neg Bool.false_ne_true, if_pos ha', hn.1, hb']
  rcases hv : D.headerValue value with _ | bs
  · rfl
  have hli : ¬ ('\r' ∈ value ∨ '\n' ∈ value) := not_mem_line_of_headerValue hv
  simp [hli]

lemma getElem?_addCertificate_of_mem (clientCert : Option ClientCertInfo) (additional : BTreeMap) :
    (addCertificate clientCert additional)[name]? = additional[name]? := by
  rcases clientCert with _ | cert
  · rfl
  simp only [authorityNames, scopeNames, mem_cons, not_mem_nil, or_false] at h
  simp only [addCertificate, Std.ExtTreeMap.getElem?_insert]
  obtain rfl | rfl | rfl := h <;> rfl

end

lemma lowerName_of_addCertificate {additional : BTreeMap}
    (hl : ∀ name val, additional[name]? = some val → lowerName name = name)
    (clientCert : Option ClientCertInfo) (name val : List Char)
    (h : (addCertificate clientCert additional)[name]? = some val) : lowerName name = name := by
  rcases clientCert with _ | cert
  · exact hl name val h
  simp only [addCertificate, Std.ExtTreeMap.getElem?_insert, Std.LawfulEqCmp.compare_eq_iff_eq] at h
  split_ifs at h with hm hse hi hs
  · rw [← hm]
    decide
  · rw [← hse]
    decide
  · rw [← hi]
    decide
  · rw [← hs]
    decide
  · exact hl name val h

variable {tok : List Char} {payload : TokenExchangeRequest}

lemma ownHeaders_of_token {req : ProxyRequest} {db : Db} {now : ℕ} {claims : AccessTokenClaims}
    (hs : accessTokenStart.isPrefixOf tok = true) (ho : D.openToken tok = .ok claims)
    (hsc : claims.scopes = none) (hb : bearer req.headers = some tok)
    (h : (unifiedProxy D req db now).1 = .ok forwarded) :
    ownHeaders D req db now = addCertificate req.clientCert claims.additionalHeaders := by
  obtain ⟨accepted, ha⟩ := accepted_of_unifiedProxy h
  have hpa : AuthToken.parse tok = .error .invalidFormat := by
    rw [AuthToken.parse, if_pos hs]
  have hp : handlePasetoToken D tok now = .ok accepted := by
    simpa only [extractAndValidateAuth, hb, validateAuth, hpa, hs, if_true] using ha
  rw [ownHeaders, ha]
  unfold handlePasetoToken at hp
  rcases hv : validateToken D tok now with e | opened
  · rw [hv] at hp
    cases hp
  have hsa := openToken_of_validateToken D hv
  rw [ho] at hsa
  cases hsa
  rw [hv] at hp
  cases hp
  simp [AccessTokenClaims.upstreamHeaders, hsc]

lemma valuesOf_of_token {claims : AccessTokenClaims} (hst : accessTokenStart.isPrefixOf tok = true)
    (ho : D.openToken tok = .ok claims) (hs : claims.scopes = none)
    (hl : ∀ name value, claims.additionalHeaders[name]? = some value → lowerName name = name)
    (h : ForwardedFor D tok forwarded) (hn : name ∈ authorityNames) :
    forwarded.headers.valuesOf name
      = (claims.additionalHeaders[name]?.bind D.headerValue).toList := by
  obtain ⟨req, db, now, hb, hf⟩ := h
  rw [valuesOf_of_isAuthorityName hf rfl (isAuthorityName_of_mem hn),
    ownHeaders_of_token hst ho hs hb hf,
    injected_of_lowerName (lowerName_of_addCertificate hl req.clientCert),
    getElem?_addCertificate_of_mem hn]
  simp [injectedHeader_of_mem hn]

def exchangedClaims (D : AuthDeps) (model : ApiKeyModel) (payload : TokenExchangeRequest) (now : ℕ)
    (jti : List Char) : AccessTokenClaims :=
  AccessTokenClaims.new D model.service model.keyId (payload.ttlSeconds.getD defaultTtl) none
    (processHeadersWithPiiProtection D (lowercaseNames D (mergedHeaders D model payload))) none now
    jti

lemma getElem?_processHeaders_eq_some {headers : BTreeMap} {val : List Char}
    (h : (processHeadersWithPiiProtection D headers)[name]? = some val) :
    ∃ value', headers[name]? = some value' := by
  rw [getElem?_processHeaders, Option.map_eq_some_iff] at h
  obtain ⟨value', hv', -⟩ := h
  exact ⟨value', hv'⟩

lemma issueToken_eq_ok {model : ApiKeyModel} {now : ℕ} {jti : List Char}
    {resp : TokenExchangeResponse} (h : issueToken D model payload now jti = .ok resp) :
    validateHeaders D (mergedHeaders D model payload)
        = .ok (lowercaseNames D (mergedHeaders D model payload)) ∧
      D.sealClaims (exchangedClaims D model payload now jti) = .ok resp.accessToken := by
  unfold issueToken at h
  rcases hv : validateHeaders D (mergedHeaders D model payload) with e | validated
  · rw [hv] at h
    cases h
  obtain rfl : lowercaseNames D (mergedHeaders D model payload) = validated :=
    (validateHeaders_eq_ok.mp hv).2.2
  have ht : (processHeadersWithPiiProtection D
      (lowercaseNames D (mergedHeaders D model payload)))["X-Tenant-Id".toList]? = none := by
    refine Option.eq_none_iff_forall_ne_some.mpr fun val hl => ?_
    obtain ⟨val', hv'⟩ := getElem?_processHeaders_eq_some hl
    exact absurd (lowerName_of_validateHeaders hv hv') (by decide)
  simp only [hv, ht, generateToken] at h
  refine ⟨rfl, ?_⟩
  split at h
  · cases h
  · rename_i tok hs
    cases h
    exact hs

lemma isSome_hexValue_protectValue (val : List Char) :
    ∀ c ∈ protectValue D "x-tenant-id".toList val, (hexValue c).isSome = true := by
  have hh : ∀ c ∈ hashUserId D val, (hexValue c).isSome = true :=
    fun c hc => isSome_hexValue_of_mem hc
  rw [protectValue, if_neg (by decide), if_pos rfl]
  split_ifs with hm hd
  · exact hh
  · exact all_eq_true.mp hd.2
  · exact hh

lemma headerValue_protectValue (val : List Char) :
    D.headerValue (protectValue D "x-tenant-id".toList val)
      = some ((protectValue D "x-tenant-id".toList val).map asciiByte) :=
  D.headerValue_visible _ fun c hc =>
    visible_of_isSome_hexValue (isSome_hexValue_protectValue val c hc)

lemma protectValue_of_mem_scopeNames (h : name ∈ scopeNames) (value : List Char) :
    protectValue D name value = value := by
  have hn : ∀ n ∈ scopeNames, n ≠ "x-user-id".toList ∧ n ≠ "x-user-email".toList ∧
      n ≠ "x-customer-email".toList ∧ n ≠ "x-tenant-id".toList := by decide
  obtain ⟨hid, hm, hc, ht⟩ := hn name h
  rw [protectValue, if_neg (by simp only [hid, hm, hc, or_self, not_false_eq_true]), if_neg ht]

lemma tenantless_iff {key : ApiKeyModel} :
    Tenantless D key payload ↔
      (lowercaseNames D (mergedHeaders D key payload))["x-tenant-id".toList]? = none := by
  rw [getElem?_lowercaseNames, findSomeRev?_eq_findSome?_reverse, findSome?_eq_none_iff]
  constructor
  · intro h e he
    have hmem := Std.ExtTreeMap.mem_toList_iff_getElem?_eq_some.mp (mem_reverse.mp he)
    exact if_neg (h e.1 (Std.ExtTreeMap.mem_iff_isSome_getElem?.mpr (by rw [hmem]; rfl)))
  · intro h name hna heq
    obtain ⟨val, hv⟩ := Option.isSome_iff_exists.mp (Std.ExtTreeMap.mem_iff_isSome_getElem?.mp hna)
    have hn := h (name, val)
      (mem_reverse.mpr (Std.ExtTreeMap.mem_toList_iff_getElem?_eq_some.mpr hv))
    rw [if_pos heq] at hn
    cases hn

section Issued

variable {model : ApiKeyModel} {payload : TokenExchangeRequest} {now : ℕ} {jti : List Char}
  {resp : TokenExchangeResponse}

variable (h : issueToken D model payload now jti = .ok resp)
  (hf : ForwardedFor D resp.accessToken forwarded)

include h hf

lemma valuesOf_of_issueToken (hn : name ∈ authorityNames) :
    forwarded.headers.valuesOf name
      = (((lowercaseNames D (mergedHeaders D model payload))[name]?.map (protectValue D name)).bind
          D.headerValue).toList := by
  obtain ⟨hv, hs⟩ := issueToken_eq_ok h
  have hlo : ∀ name val, (exchangedClaims D model payload now jti).additionalHeaders[name]?
      = some val → lowerName name = name := by
    intro name val hl
    obtain ⟨val', hv'⟩ := getElem?_processHeaders_eq_some hl
    exact lowerName_of_validateHeaders hv hv'
  rw [valuesOf_of_token (D.sealClaims_start _ _ hs) (D.openToken_sealClaims _ _ hs) rfl hlo
    hf hn, exchangedClaims, AccessTokenClaims.new, getElem?_processHeaders]

lemma scopesContained_iff :
    ScopesContained D model forwarded.headers ↔ AsksRecordedScopes D model payload := by
  have hva : ∀ name ∈ scopeNames, forwarded.headers.valuesOf name
      = ((lowercaseNames D (mergedHeaders D model payload))[name]?.bind D.headerValue).toList := by
    intro name hn
    rw [valuesOf_of_issueToken h hf (mem_cons_of_mem _ hn)]
    simp [funext (protectValue_of_mem_scopeNames (D := D) hn), Option.map_id']
  constructor
  · intro hc name hn val hv bs hb
    apply hc name hn
    rw [hva name hn, hv, Option.bind_some, hb]
    exact mem_singleton_self bs
  · intro ha name hn bs hb
    rw [hva name hn, Option.mem_toList, Option.bind_eq_some_iff] at hb
    obtain ⟨val, hv, hb⟩ := hb
    exact ha name hn val hv bs hb

lemma tenantBound_iff :
    TenantBound D model (exchangedClaims D model payload now jti) forwarded.headers ↔
      Tenantless D model payload := by
  have hmem : "x-tenant-id".toList ∈ authorityNames := mem_cons_self
  rw [tenantless_iff, TenantBound, valuesOf_of_issueToken h hf hmem]
  rcases (lowercaseNames D (mergedHeaders D model payload))["x-tenant-id".toList]? with _ | val
  · simp
  simp only [Option.map_some, Option.bind_some, headerValue_protectValue, Option.toList_some,
    mem_singleton, forall_eq, reduceCtorEq, iff_false]
  rintro ⟨tenantId, -, ht, -⟩
  cases ht

end Issued

/-- **Authority of exchanged tokens.** A token that was issued for a key carries no more authority
than the key exactly when its lifetime (its end is a `u64`) is over by the time the key's is and, if
anything is ever forwarded for the token, the request asks for recorded scopes only and neither the
key nor the request names a tenant. -/
theorem exchange_authority_iff (D : AuthDeps) (headers : HeaderMap) (payload : TokenExchangeRequest)
    (now : ℕ) (jti : List Char) (db : Db) (key : ApiKeyModel) (response : TokenExchangeResponse)
    (claims : AccessTokenClaims)
    (hkey : (exchangeCredential headers >>= fun apiKey => exchangeKey D apiKey db now) = .ok key)
    (hissued : (authExchange D headers payload now jti db).1 = .ok response)
    (hclaims : D.openToken response.accessToken = .ok claims) :
    ((∀ forwarded, ForwardedFor D response.accessToken forwarded →
        ScopesContained D key forwarded.headers ∧ TenantBound D key claims forwarded.headers) ∧
      claims.expiresAt ≤ key.expiresAt) ↔
    (((∃ forwarded, ForwardedFor D response.accessToken forwarded) →
        AsksRecordedScopes D key payload ∧ Tenantless D key payload) ∧
      (now + payload.ttlSeconds.getD defaultTtl) % 2 ^ 64 ≤ key.expiresAt) := by
  rw [authExchange, hkey] at hissued
  have ho := D.openToken_sealClaims _ _ (issueToken_eq_ok hissued).2
  rw [hclaims] at ho
  cases ho
  apply and_congr_left'
  constructor
  · rintro hall ⟨forwarded, hf⟩
    obtain ⟨hs, ht⟩ := hall forwarded hf
    exact ⟨(scopesContained_iff hissued hf).mp hs, (tenantBound_iff hissued hf).mp ht⟩
  · intro ha forwarded hf
    obtain ⟨hs, ht⟩ := ha ⟨forwarded, hf⟩
    exact ⟨(scopesContained_iff hissued hf).mpr hs, (tenantBound_iff hissued hf).mpr ht⟩

def tokenText : List Char := accessTokenStart ++ ['t']

abbrev sealingDeps : AuthDeps :=
  { plainAuthDeps with
    sealClaims := fun c => if c = claims then .ok tokenText else .error (.encryptionError "other")
    openToken := fun t => if t = tokenText then .ok claims else .error (.decryptionError "other")
    openToken_sealClaims := by
      intro c token h
      split_ifs at h with hc
      cases h
      rw [if_pos rfl, hc]
    sealClaims_start := by
      intro c token h
      split_ifs at h with hc
      cases h
      decide }

def plainKey : ApiKeyModel := ⟨1, ['k'], [], 1, 0, 0, 0, 1000, true, [], []⟩

def oneKeyDb : Db where
  services := (∅ : HashMap ServiceId ServiceModel).insert ⟨1, 0⟩ ⟨[], [], [], none⟩
  tokens := ∅
  apiKeys := (∅ : HashMap (List Char) ApiKeyModel).insert ['k'] plainKey
  apiKeysById := (∅ : HashMap ℕ (List Char)).insert 1 ['k']
  sequence := 1

def credentialHeaders (credential : List Char) : HeaderMap :=
  (∅ : HeaderMap).set "authorization".toList (("Bearer ".toList ++ credential).map asciiByte)

def modestPayload : TokenExchangeRequest := ⟨∅, none⟩

def greedyPayload : TokenExchangeRequest where
  additionalHeaders := ((∅ : BTreeMap).insert "x-tenant-id".toList (List.replicate 32 'a')).insert
    "x-scopes".toList "admin".toList
  ttlSeconds := some 1000000

abbrev exchangeDeps (payload : TokenExchangeRequest) : AuthDeps :=
  sealingDeps (exchangedClaims plainAuthDeps plainKey payload 0 [])

theorem exchange_authority_iff_modest :
    (∀ forwarded, ForwardedFor (exchangeDeps modestPayload) tokenText forwarded →
      ScopesContained (exchangeDeps modestPayload) plainKey forwarded.headers ∧
      TenantBound (exchangeDeps modestPayload) plainKey
        (exchangedClaims plainAuthDeps plainKey modestPayload 0 []) forwarded.headers) ∧
      (exchangedClaims plainAuthDeps plainKey modestPayload 0 []).expiresAt ≤ 1000 := by
  refine (exchange_authority_iff (exchangeDeps modestPayload) (credentialHeaders "k.s".toList)
    modestPayload 0 [] oneKeyDb plainKey ⟨tokenText, "Bearer", 900, 900⟩ _ rfl (by decide +kernel)
    rfl).mpr ⟨fun _ => ⟨?_, ?_⟩, by decide⟩
  · intro name hn value hv
    have hno : ∀ n ∈ scopeNames, (lowercaseNames (exchangeDeps modestPayload)
        (mergedHeaders (exchangeDeps modestPayload) plainKey modestPayload))[n]? = none := by decide
    rw [hno name hn] at hv
    cases hv
  · rw [tenantless_iff]
    decide

/-- For the key without default headers the upstream receives the other tenant and the scope
`admin`. The claims of the token name no tenant, and end long after the key. -/
theorem greedy_exchange_exceeds_key :
    (authExchange (exchangeDeps greedyPayload) (credentialHeaders "k.s".toList) greedyPayload 0 []
      oneKeyDb).1 = .ok ⟨tokenText, "Bearer", 1000000, 1000000⟩ ∧
    ((unifiedProxy (exchangeDeps greedyPayload) (tokenRequest (credentialHeaders tokenText)) oneKeyDb
      1).1.map fun f =>
        (f.headers.valuesOf "x-tenant-id".toList, f.headers.valuesOf "x-scopes".toList))
      = .ok ([(List.replicate 32 'a').map asciiByte], ["admin".toList.map asciiByte]) ∧
    plainKey.getDefaultHeaders (exchangeDeps greedyPayload) = ∅ ∧
    ((exchangeDeps greedyPayload).openToken tokenText).map (fun claims =>
      (claims.tenantId, claims.tenantBinding, claims.expiresAt)) = .ok (none, none, 1000000) ∧
    plainKey.expiresAt = 1000 := by
  have hi : issueToken (exchangeDeps greedyPayload) plainKey greedyPayload 0 []
      = .ok ⟨tokenText, "Bearer", 1000000, 1000000⟩ := by decide +kernel
  obtain ⟨forwarded, hp⟩ : ∃ forwarded, (unifiedProxy (exchangeDeps greedyPayload)
      (tokenRequest (credentialHeaders tokenText)) oneKeyDb 1).1 = .ok forwarded := ⟨_, rfl⟩
  have hf : ForwardedFor (exchangeDeps greedyPayload) tokenText forwarded :=
    ⟨_, _, _, by decide +kernel, hp⟩
  refine ⟨hi, ?_, rfl, rfl, rfl⟩
  rw [hp, Except.map, valuesOf_of_issueToken hi hf (by decide),
    valuesOf_of_issueToken hi hf (by decide)]
  decide +kernel

end Gadget.Auth
