import Gadget.Auth.Proxy

/-!
# Identity headers

Upstreams trust the headers that tell them on whose behalf a request comes: `authorization`,
`x-tenant-*`, `x-scope`, `x-scopes`, `x-client-cert-*` and `x-auth-method`. They should depend on
the credential and the verified certificate only. `sanitize_request_headers` removes the first four
kinds from what a client sends, but not the last two. `Unforged` says exactly when two requests
with one credential and one certificate nevertheless present the same identity.
-/

namespace Gadget.Auth

open Rust List

variable {D : AuthDeps}

def IsAuthorityName (name : List Char) : Prop :=
  headerName name = some name ∧
    (name = "authorization".toList ∨ tenantStart <+: name ∨ name = "x-scope".toList ∨
      name = "x-scopes".toList)

def IsCertName (name : List Char) : Prop :=
  headerName name = some name ∧ ("x-client-cert-".toList <+: name ∨ name = "x-auth-method".toList)

def SameIdentity (headers headers' : HeaderMap) : Prop :=
  ∀ name, IsAuthorityName name ∨ IsCertName name → headers.valuesOf name = headers'.valuesOf name

def certFields : List (List Char × (ClientCertInfo → List Char)) :=
  [("x-client-cert-subject".toList, ClientCertInfo.subject),
    ("x-client-cert-issuer".toList, ClientCertInfo.issuer),
    ("x-client-cert-serial".toList, ClientCertInfo.serial)]

def mtlsValue : Bytes := "mtls".toList.map asciiByte

/-- The fields that are presented are those of the verified certificate, and only with one does a
request count as authenticated by `mtls`. -/
structure CertTrue (D : AuthDeps) (clientCert : Option ClientCertInfo) (headers : HeaderMap) :
    Prop where
  fields : ∀ field ∈ certFields, ∀ value ∈ headers.valuesOf field.1,
    ∃ cert, clientCert = some cert ∧ D.headerValue (field.2 cert) = some value
  method : mtlsValue ∈ headers.valuesOf "x-auth-method".toList → clientCert ≠ none

variable {text name value : List Char} {isGrpc : Bool} {bytes : Bytes}
  {field : List Char × (ClientCertInfo → List Char)} {request : ProxyRequest} {db : Db}
  {forwarded : Forwarded} {now now' : ℕ} {accepted accepted' : ServiceId × BTreeMap}

lemma toLowercase_of_ascii (h : ∀ c ∈ text, c.toNat < 128) :
    D.toLowercase text = lowerName text := by
  have ha : text.all (·.toNat < 128) = true := by
    rw [all_eq_true]
    exact fun c hc => decide_eq_true (h c hc)
  rw [AuthDeps.toLowercase, if_pos ha]
  rfl

lemma toLowercase_of_headerName (h : headerName text = some name) : D.toLowercase text = name := by
  obtain ⟨⟨-, -, ht⟩, hl⟩ := headerName_eq_some.mp h
  rw [← hl]
  exact toLowercase_of_ascii fun c hc => toNat_lt_of_isTokenChar (all_eq_true.mp ht c hc)

lemma lowerName_of_headerName (h : headerName text = some name) : lowerName name = name := by
  rw [← (headerName_eq_some.mp h).2, lowerName_lowerName]

lemma isAuthHeader_iff (h : headerName name = some name) :
    isAuthHeader D name = true ↔ IsAuthorityName name := by
  simp [isAuthHeader, toLowercase_of_headerName h, IsAuthorityName, h, isPrefixOf_iff_prefix,
    or_assoc]

lemma not_isAuthorityName_of_isCertName (h : IsCertName name) : ¬ IsAuthorityName name := by
  rintro ⟨-, ha⟩
  obtain ⟨-, hc | rfl⟩ := h
  · obtain rfl | ht | rfl | rfl := ha
    · exact absurd hc (by decide)
    · have hl : tenantStart.length ≤ "x-client-cert-".toList.length := by decide
      exact absurd (prefix_of_prefix_length_le ht hc hl) (by decide)
    · exact absurd hc (by decide)
    · exact absurd hc (by decide)
  · exact absurd ha (by decide)

lemma isSanitized_of_isAuthorityName (h : IsAuthorityName name) (isGrpc : Bool) :
    isSanitized D isGrpc name = true := by
  have hr : isGrpcRequiredHeader D name = false := by
    rw [isGrpcRequiredHeader, toLowercase_of_headerName h.1, ← Bool.not_eq_true, contains_iff_mem]
    have hn : ∀ n ∈ grpcRequiredNames, ¬ (n = "authorization".toList ∨ tenantStart <+: n ∨
        n = "x-scope".toList ∨ n = "x-scopes".toList) := by decide
    exact fun hmem => hn name hmem h.2
  rw [isSanitized, (isAuthHeader_iff h.1).mpr h, hr, Bool.and_false]
  rfl

lemma isSanitized_of_isCertName (h : IsCertName name) (isGrpc : Bool) :
    isSanitized D isGrpc name = false := by
  have ha : isAuthHeader D name = false := by
    rw [← Bool.not_eq_true, isAuthHeader_iff h.1]
    exact not_isAuthorityName_of_isCertName h
  have hf : isForbiddenHeader D name = false := by
    rw [isForbiddenHeader, toLowercase_of_headerName h.1, ← Bool.not_eq_true, contains_iff_mem]
    have hn : ∀ n ∈ forbiddenNames, ¬ ("x-client-cert-".toList <+: n ∨
        n = "x-auth-method".toList) := by decide
    exact fun hmem => hn name hmem h.2
  rw [isSanitized, ha, hf]
  rfl

lemma injectedHeader_eq_some {stored : List Char}
    (h : injectedHeader D isGrpc name value = some (stored, bytes)) :
    headerName name = some stored ∧ D.headerValue value = some bytes := by
  unfold injectedHeader at h
  split at h
  · cases h
  split at h
  · split at h
    · rename_i stored' bs' hn hv
      split at h
      · cases h
      split at h
      · cases h
      · cases h
        exact ⟨hn, hv⟩
    · cases h
  · cases h

lemma not_mem_line_of_headerValue (h : D.headerValue value = some bytes) :
    ¬ ('\r' ∈ value ∨ '\n' ∈ value) := by
  intro hl
  rw [D.headerValue_line value hl] at h
  cases h

def injected (D : AuthDeps) (isGrpc : Bool) (own : BTreeMap) (name : List Char) : Option Bytes :=
  own.toList.findSomeRev? fun e =>
    (injectedHeader D isGrpc e.1 e.2).bind fun p => if p.1 = name then some p.2 else none

variable (headers : HeaderMap)

lemma valuesOf_applyAdditionalHeaders (own : BTreeMap) (isGrpc : Bool) (name : List Char) :
    (applyAdditionalHeaders D headers own isGrpc).valuesOf name
      = (injected D isGrpc own name).elim (headers.valuesOf name) ([·]) := by
  unfold applyAdditionalHeaders injected
  generalize own.toList = entries
  induction entries generalizing headers with
  | nil => rfl
  | cons e entries ih =>
    rw [foldl_cons, ih, findSomeRev?]
    cases hr : entries.findSomeRev? fun e =>
        (injectedHeader D isGrpc e.1 e.2).bind fun p => if p.1 = name then some p.2 else none with
    | some value => rfl
    | none =>
      rcases he : injectedHeader D isGrpc e.1 e.2 with _ | p
      · rfl
      obtain ⟨stored, bytes⟩ := p
      have hs : lowerName stored = stored := lowerName_of_headerName (injectedHeader_eq_some he).1
      simp only [HeaderMap.valuesOf_set, hs, Option.bind_some]
      by_cases heq : stored = name
      · simp [heq]
      · simp [heq, Ne.symm heq]

lemma injected_of_getElem? {own : BTreeMap} (hown : own[name]? = some value)
    (hv : injectedHeader D isGrpc name value = some (name, bytes)) :
    injected D isGrpc own name = some bytes := by
  obtain ⟨before, after, hli⟩ :=
    append_of_mem (Std.ExtTreeMap.mem_toList_iff_getElem?_eq_some.mpr hown)
  have ho := Std.ExtTreeMap.ordered_keys_toList (t := own)
  rw [hli, pairwise_append, pairwise_cons] at ho
  have ha : after.reverse.findSome? (fun e => (injectedHeader D isGrpc e.1 e.2).bind fun p =>
      if p.1 = name then some p.2 else none) = none := by
    rw [findSome?_eq_none_iff]
    intro e he
    rcases hi : injectedHeader D isGrpc e.1 e.2 with _ | p
    · rfl
    have hn : p.1 ≠ name := by
      rintro rfl
      have hlo := (headerName_eq_some.mp (injectedHeader_eq_some hi).1).2
      have hl := ho.2.1.1 e (mem_reverse.mp he)
      rw [← hlo] at hl
      exact compare_lowerName e.1 hl
    simp [hn]
  rw [injected, hli, findSomeRev?_eq_findSome?_reverse, reverse_append,
    reverse_cons, findSome?_append, findSome?_append, ha]
  simp [hv]

lemma isCertName_of_mem_certFields (h : field ∈ certFields) : IsCertName field.1 := by
  simp only [certFields, mem_cons, not_mem_nil, or_false] at h
  obtain rfl | rfl | rfl := h <;> exact ⟨by decide, .inl (by decide)⟩

lemma isBinaryName_of_mem_certFields (h : field ∈ certFields) : isBinaryName D field.1 = false := by
  rw [isBinaryName, toLowercase_of_headerName (isCertName_of_mem_certFields h).1]
  simp only [certFields, mem_cons, not_mem_nil, or_false] at h
  obtain rfl | rfl | rfl := h <;> decide

lemma getElem?_addCertificate (cert : ClientCertInfo) (additional : BTreeMap)
    (h : field ∈ certFields) :
    (addCertificate (some cert) additional)[field.1]? = some (field.2 cert) := by
  simp only [certFields, mem_cons, not_mem_nil, or_false] at h
  simp only [addCertificate, Std.ExtTreeMap.getElem?_insert]
  obtain rfl | rfl | rfl := h <;> rfl

lemma injectedHeader_of_isCertName (hn : IsCertName name)
    (hb : isBinaryName D name = false) (hv : D.headerValue value = some bytes) :
    injectedHeader D isGrpc name value = some (name, bytes) := by
  have hs : isSanitized D false name = false := isSanitized_of_isCertName hn false
  have hl : ¬ ('\r' ∈ value ∨ '\n' ∈ value) := not_mem_line_of_headerValue hv
  obtain ⟨ha, hf⟩ : isAuthHeader D name = false ∧ isForbiddenHeader D name = false := by
    simpa [isSanitized] using hs
  simp [injectedHeader, ha, hf, hn.1, hv, hb, hl]

lemma injected_certField {cert : ClientCertInfo} {additional : BTreeMap} (h : field ∈ certFields)
    (hv : D.headerValue (field.2 cert) = some bytes) (isGrpc : Bool) :
    injected D isGrpc (addCertificate (some cert) additional) field.1 = some bytes :=
  injected_of_getElem? (getElem?_addCertificate cert additional h)
    (injectedHeader_of_isCertName (isCertName_of_mem_certFields h)
      (isBinaryName_of_mem_certFields h) hv)

def ownHeaders (D : AuthDeps) (request : ProxyRequest) (db : Db) (now : ℕ) : BTreeMap :=
  addCertificate request.clientCert
    (match (extractAndValidateAuth D request.headers db now).1 with
    | .ok (_, additional) => additional
    | .error _ => ∅)

lemma forward_headers {serviceId : ServiceId} {additional : BTreeMap}
    (h : forward D isGrpc request serviceId additional db = .ok forwarded) :
    forwarded.headers = applyAdditionalHeaders D (sanitizeRequestHeaders D request.headers isGrpc)
      (addCertificate request.clientCert additional) isGrpc := by
  obtain ⟨service, -, h⟩ := bind_eq_ok.mp h
  obtain ⟨-, h⟩ := unit_bind_eq_ok.mp h
  obtain ⟨upstream, -, h⟩ := bind_eq_ok.mp h
  obtain ⟨target, -, h⟩ := bind_eq_ok.mp h
  cases h
  rfl

lemma extractAndValidateAuth_db (db : Db) (now : ℕ) :
    (extractAndValidateAuth D headers db now).2 = db ∨
      ∃ apiKey model, findValidKey D apiKey db now = .ok model ∧
        (extractAndValidateAuth D headers db now).2 = model.updateLastUsed now db := by
  unfold extractAndValidateAuth validateAuth
  split
  · exact .inl rfl
  split
  · exact .inl rfl
  · rename_i apiKey _
    unfold handleApiKey
    rcases hf : findValidKey D apiKey db now with e | model
    · exact .inl rfl
    exact .inr ⟨apiKey, model, hf, rfl⟩
  · split <;> exact .inl rfl

lemma unifiedProxy_db (request : ProxyRequest) (db : Db) (now : ℕ) :
    (unifiedProxy D request db now).2 = (extractAndValidateAuth D request.headers db now).2 := by
  have hp : ∀ isGrpc, (proxyWithMtls D isGrpc request db now).2
      = (extractAndValidateAuth D request.headers db now).2 := by
    intro isGrpc
    unfold proxyWithMtls
    split
    · rename_i h
      rw [h]
    · rename_i h
      rw [h]
  unfold unifiedProxy
  split
  · exact hp true
  · exact hp false

section

variable (h : (unifiedProxy D request db now).1 = .ok forwarded)

include h

lemma proxyWithMtls_of_unifiedProxy :
    (proxyWithMtls D (isGrpcRequest D request) request db now).1 = .ok forwarded := by
  unfold unifiedProxy at h
  split at h
  · rename_i hg
    rw [hg]
    exact h
  · rename_i hg
    rw [Bool.not_eq_true] at hg
    rw [hg]
    exact h

lemma accepted_of_unifiedProxy :
    ∃ accepted, (extractAndValidateAuth D request.headers db now).1 = .ok accepted := by
  have hp := proxyWithMtls_of_unifiedProxy h
  unfold proxyWithMtls at hp
  rcases ha : extractAndValidateAuth D request.headers db now with ⟨result, db'⟩
  rw [ha] at hp
  rcases result with e | accepted
  · cases hp
  exact ⟨accepted, rfl⟩

variable {own : BTreeMap} (ho : ownHeaders D request db now = own)

include ho

lemma valuesOf_unifiedProxy (name : List Char) :
    forwarded.headers.valuesOf name = (injected D (isGrpcRequest D request) own name).elim
      (if isSanitized D (isGrpcRequest D request) name then [] else request.headers.valuesOf name)
      ([·]) := by
  have hp := proxyWithMtls_of_unifiedProxy h
  subst ho
  unfold proxyWithMtls at hp
  unfold ownHeaders
  rcases ha : extractAndValidateAuth D request.headers db now with ⟨result, db'⟩
  rw [ha] at hp
  rcases result with e | accepted
  · cases hp
  rw [forward_headers hp, valuesOf_applyAdditionalHeaders, sanitizeRequestHeaders,
    HeaderMap.valuesOf_removeWhere]

end

lemma findValidKey_eq_ok {apiKey : List Char} {model : ApiKeyModel} :
    findValidKey D apiKey db now = .ok model ↔
      ∃ parts, splitOnce '.' apiKey = some parts ∧ db.apiKeys.lookup parts.1 = some model ∧
        model.validatesKey D apiKey = true ∧ model.isExpired now = false ∧
        model.isEnabled = true := by
  simp only [findValidKey, okOr_bind_eq_ok, unit_bind_eq_ok, rejectIf_eq_ok, Bool.not_eq_false,
    Bool.not_eq_true, ApiKeyModel.findByKeyId, pure, Except.pure, Except.ok.injEq]
  constructor
  · rintro ⟨parts, hp, found, hf, hv, he, hen, rfl⟩
    exact ⟨parts, hp, hf, hv, he, hen⟩
  · rintro ⟨parts, hp, hf, hv, he, hen⟩
    exact ⟨parts, hp, model, hf, hv, he, hen, rfl⟩

lemma handleLegacyToken_unique {tok : ApiToken} (h : handleLegacyToken D tok db now = .ok accepted)
    (h' : handleLegacyToken D tok db now' = .ok accepted') : accepted = accepted' := by
  unfold handleLegacyToken at h h'
  rcases hm : db.tokens.lookup tok.id with _ | model
  · rw [hm] at h
    cases h
  simp only [hm] at h h'
  split at h
  · split at h'
    · cases h
      cases h'
      rfl
    · cases h'
  · cases h

lemma handleApiKey_unique {apiKey : List Char} (h : (handleApiKey D apiKey db now).1 = .ok accepted)
    (h' : (handleApiKey D apiKey db now').1 = .ok accepted') : accepted = accepted' := by
  unfold handleApiKey at h h'
  rcases hf : findValidKey D apiKey db now with e | model
  · rw [hf] at h
    cases h
  rcases hf' : findValidKey D apiKey db now' with e | model'
  · rw [hf'] at h'
    cases h'
  rw [hf] at h
  rw [hf'] at h'
  obtain ⟨parts, hp, hm, -⟩ := findValidKey_eq_ok.mp hf
  obtain ⟨parts', hp', hm', -⟩ := findValidKey_eq_ok.mp hf'
  rw [hp] at hp'
  cases hp'
  rw [hm] at hm'
  cases hm'
  cases h
  cases h'
  rfl

lemma handlePasetoToken_unique {tok : List Char} (h : handlePasetoToken D tok now = .ok accepted)
    (h' : handlePasetoToken D tok now' = .ok accepted') : accepted = accepted' := by
  unfold handlePasetoToken at h h'
  rcases hv : validateToken D tok now with e | claims
  · rw [hv] at h
    cases h
  rcases hv' : validateToken D tok now' with e | claims'
  · rw [hv'] at h'
    cases h'
  have ho := openToken_of_validateToken D hv
  rw [openToken_of_validateToken D hv'] at ho
  cases ho
  rw [hv] at h
  rw [hv'] at h'
  cases h
  cases h'
  rfl

lemma validateAuth_unique {credential : Option (List Char)}
    (h : (validateAuth D credential db now).1 = .ok accepted)
    (h' : (validateAuth D credential db now').1 = .ok accepted') : accepted = accepted' := by
  unfold validateAuth at h h'
  rcases credential with _ | tok
  · cases h
  cases hp : AuthToken.parse tok with
  | error e =>
    simp only [hp] at h h'
    split at h
    · rename_i ha
      rw [if_pos ha] at h'
      exact handlePasetoToken_unique h h'
    · cases h
  | ok parsed =>
    simp only [hp] at h h'
    rcases parsed with legacy | apiKey
    · exact handleLegacyToken_unique h h'
    exact handleApiKey_unique h h'

lemma ownHeaders_eq {request' : ProxyRequest} {fwd' : Forwarded}
    (hb : bearer request.headers = bearer request'.headers)
    (hc : request.clientCert = request'.clientCert)
    (h : (unifiedProxy D request db now).1 = .ok forwarded)
    (h' : (unifiedProxy D request' db now').1 = .ok fwd') :
    ownHeaders D request' db now' = ownHeaders D request db now := by
  obtain ⟨accepted, ha⟩ := accepted_of_unifiedProxy h
  obtain ⟨accepted', ha'⟩ := accepted_of_unifiedProxy h'
  have hs : accepted' = accepted := by
    unfold extractAndValidateAuth at ha ha'
    rw [← hb] at ha'
    exact validateAuth_unique ha' ha
  simp [ownHeaders, ha, ha', hs, hc]

def Silent (D : AuthDeps) (own : BTreeMap) (request : ProxyRequest) (name : List Char) : Prop :=
  injected D (isGrpcRequest D request) own name = none ∧ request.headers.valuesOf name = []

def Unclaimed (D : AuthDeps) (own : BTreeMap) (request : ProxyRequest) : Prop :=
  match injected D (isGrpcRequest D request) own "x-auth-method".toList with
  | some value => value ≠ mtlsValue
  | none => mtlsValue ∉ request.headers.valuesOf "x-auth-method".toList

section

variable {own : BTreeMap} (h : (unifiedProxy D request db now).1 = .ok forwarded)
  (ho : ownHeaders D request db now = own)

include h ho

lemma valuesOf_of_isAuthorityName (hn : IsAuthorityName name) :
    forwarded.headers.valuesOf name = (injected D (isGrpcRequest D request) own name).toList := by
  rw [valuesOf_unifiedProxy h ho, isSanitized_of_isAuthorityName hn, if_pos rfl]
  rcases injected D (isGrpcRequest D request) own name with _ | value <;> rfl

lemma valuesOf_of_isCertName (hn : IsCertName name) :
    forwarded.headers.valuesOf name = (injected D (isGrpcRequest D request) own name).elim
      (request.headers.valuesOf name) ([·]) := by
  rw [valuesOf_unifiedProxy h ho, isSanitized_of_isCertName hn, if_neg Bool.false_ne_true]

lemma fieldTrue_iff (hf : field ∈ certFields) :
    (∀ value ∈ forwarded.headers.valuesOf field.1,
      ∃ cert, request.clientCert = some cert ∧ D.headerValue (field.2 cert) = some value) ↔
      (∃ cert, request.clientCert = some cert ∧ D.headerValue (field.2 cert) ≠ none) ∨
        Silent D own request field.1 := by
  rw [valuesOf_of_isCertName h ho (isCertName_of_mem_certFields hf)]
  constructor
  · intro ht
    by_contra hnot
    obtain ⟨hn, hs⟩ := not_or.mp hnot
    apply hs
    cases hi : injected D (isGrpcRequest D request) own field.1 with
    | some value =>
      rw [hi] at ht
      obtain ⟨cert, hc, hv⟩ := ht value (mem_singleton_self value)
      exact absurd ⟨cert, hc, by rw [hv]; simp⟩ hn
    | none =>
      refine ⟨hi, eq_nil_iff_forall_not_mem.mpr fun value hmem => ?_⟩
      rw [hi] at ht
      obtain ⟨cert, hc, hv⟩ := ht value hmem
      exact hn ⟨cert, hc, by rw [hv]; simp⟩
  · rintro (⟨cert, hc, hva⟩ | ⟨hi, hse⟩) value hmem
    · obtain ⟨bytes, hb⟩ := Option.ne_none_iff_exists'.mp hva
      have hown : injected D (isGrpcRequest D request) own field.1 = some bytes := by
        rw [← ho, ownHeaders, hc]
        exact injected_certField hf hb _
      rw [hown] at hmem
      cases mem_singleton.mp hmem
      exact ⟨cert, hc, hb⟩
    · rw [hi] at hmem
      simp only [Option.elim_none, hse, not_mem_nil] at hmem

lemma unclaimed_iff :
    Unclaimed D own request ↔ mtlsValue ∉ forwarded.headers.valuesOf "x-auth-method".toList := by
  rw [valuesOf_of_isCertName h ho ⟨by decide, .inr rfl⟩, Unclaimed]
  rcases injected D (isGrpcRequest D request) own "x-auth-method".toList with _ | value
  · exact Iff.rfl
  rw [Option.elim_some, mem_singleton]
  exact ne_comm

lemma certTrue_iff :
    CertTrue D request.clientCert forwarded.headers ↔ (∀ field ∈ certFields,
        (∃ cert, request.clientCert = some cert ∧ D.headerValue (field.2 cert) ≠ none) ∨
          Silent D own request field.1) ∧
      (request.clientCert = none → Unclaimed D own request) := by
  rw [unclaimed_iff h ho]
  constructor
  · intro ht
    exact ⟨fun field hf => (fieldTrue_iff h ho hf).mp (ht.fields field hf),
      fun hn hmem => ht.method hmem hn⟩
  · rintro ⟨hall, hc⟩
    exact ⟨fun field hf => (fieldTrue_iff h ho hf).mpr (hall field hf), fun hmem hn => hc hn hmem⟩

end

/-- What the clients send makes no difference to the identity that the upstreams receive, and
nothing untrue about a certificate is presented. -/
structure Unforged (D : AuthDeps) (own : BTreeMap) (request request' : ProxyRequest) : Prop where
  /-- The proxy sets the same authority for both; it can differ when one is a gRPC request, whose
  binary metadata are checked. -/
  authority : ∀ name, IsAuthorityName name →
    injected D (isGrpcRequest D request) own name = injected D (isGrpcRequest D request') own name
  passed : ∀ name, IsCertName name → match injected D (isGrpcRequest D request) own name,
      injected D (isGrpcRequest D request') own name with
    | none, none => request.headers.valuesOf name = request'.headers.valuesOf name
    | some value, some value' => value = value'
    | some value, none => request'.headers.valuesOf name = [value]
    | none, some value' => request.headers.valuesOf name = [value']
  fields : ∀ field ∈ certFields,
    (∃ cert, request.clientCert = some cert ∧ D.headerValue (field.2 cert) ≠ none) ∨
      Silent D own request field.1 ∧ Silent D own request' field.1
  method : request.clientCert = none → Unclaimed D own request ∧ Unclaimed D own request'

section TwoRequests

variable {request request' : ProxyRequest} {db : Db} {now now' : ℕ} {forwarded fwd' : Forwarded}
  (h : (unifiedProxy D request db now).1 = .ok forwarded)
  (h' : (unifiedProxy D request' db now').1 = .ok fwd')
  {own : BTreeMap} (ho : ownHeaders D request db now = own)
  (ho' : ownHeaders D request' db now' = own)

include h h' ho ho'

lemma sameAuthority_iff (hn : IsAuthorityName name) :
    forwarded.headers.valuesOf name = fwd'.headers.valuesOf name ↔
      injected D (isGrpcRequest D request) own name = injected D (isGrpcRequest D request') own name := by
  rw [valuesOf_of_isAuthorityName h ho hn, valuesOf_of_isAuthorityName h' ho' hn]
  cases injected D (isGrpcRequest D request) own name <;>
    cases injected D (isGrpcRequest D request') own name <;> simp

lemma samePassed_iff (hn : IsCertName name) :
    forwarded.headers.valuesOf name = fwd'.headers.valuesOf name ↔
      match injected D (isGrpcRequest D request) own name,
        injected D (isGrpcRequest D request') own name with
      | none, none => request.headers.valuesOf name = request'.headers.valuesOf name
      | some value, some val' => value = val'
      | some value, none => request'.headers.valuesOf name = [value]
      | none, some val' => request.headers.valuesOf name = [val'] := by
  rw [valuesOf_of_isCertName h ho hn, valuesOf_of_isCertName h' ho' hn]
  rcases injected D (isGrpcRequest D request) own name with _ | value
  · rcases injected D (isGrpcRequest D request') own name with _ | val' <;> rfl
  rcases injected D (isGrpcRequest D request') own name with _ | val'
  · exact eq_comm
  simp

end TwoRequests

/-- **Identity headers.** Two requests with one accepted credential and one certificate present the
same identity, and nothing untrue about a certificate, exactly when neither the clients nor the
credential say anything about certificates that the proxy does not overwrite, and the kinds of the
requests make no difference. -/
theorem identity_unforged_iff (D : AuthDeps) (db : Db) (now now' : ℕ)
    (request request' : ProxyRequest) (forwarded forwarded' : Forwarded)
    (hbearer : bearer request.headers = bearer request'.headers)
    (hcert : request.clientCert = request'.clientCert)
    (h : (unifiedProxy D request db now).1 = .ok forwarded)
    (h' : (unifiedProxy D request' db now').1 = .ok forwarded') :
    (SameIdentity forwarded.headers forwarded'.headers ∧
      CertTrue D request.clientCert forwarded.headers ∧
      CertTrue D request'.clientCert forwarded'.headers) ↔
        Unforged D (ownHeaders D request db now) request request' := by
  have hown := ownHeaders_eq hbearer hcert h h'
  rw [certTrue_iff h rfl, certTrue_iff h' hown, ← hcert]
  constructor
  · rintro ⟨hs, ⟨hfi, hm⟩, hf', hm'⟩
    refine ⟨fun name hname => ?_, fun name hname => ?_, fun field hf => ?_,
      fun hn => ⟨hm hn, hm' hn⟩⟩
    · exact (sameAuthority_iff h h' rfl hown hname).mp (hs name (.inl hname))
    · exact (samePassed_iff h h' rfl hown hname).mp (hs name (.inr hname))
    obtain hv | hsilent := hfi field hf
    · exact .inl hv
    · obtain hv | hsilent' := hf' field hf
      · exact .inl hv
      · exact .inr ⟨hsilent, hsilent'⟩
  · intro hu
    refine ⟨fun name hname => ?_, ⟨fun field hf => ?_, fun hn => (hu.method hn).1⟩,
      fun field hf => ?_, fun hn => (hu.method hn).2⟩
    · obtain hname | hname := hname
      · exact (sameAuthority_iff h h' rfl hown hname).mpr (hu.authority name hname)
      · exact (samePassed_iff h h' rfl hown hname).mpr (hu.passed name hname)
    · exact (hu.fields field hf).imp_right And.left
    · exact (hu.fields field hf).imp_right And.right

def oneTokenDb : Db where
  services := (∅ : HashMap ServiceId ServiceModel).insert ⟨1, 0⟩ ⟨[], [], [], none⟩
  tokens := (∅ : HashMap ℕ ApiTokenModel).insert 1 ⟨1, [], 1, 0, 0, true, []⟩
  apiKeys := ∅
  apiKeysById := ∅
  sequence := 0

def tokenHeaders : HeaderMap :=
  (∅ : HeaderMap).set "authorization".toList ("Bearer 1|t".toList.map asciiByte)

def tokenRequest : ProxyRequest := ⟨headers, false, none, "/".toList⟩

def scopeHeaders : HeaderMap := tokenHeaders.set "x-scopes".toList ("admin".toList.map asciiByte)

def forgedHeaders : HeaderMap :=
  (tokenHeaders.set "x-client-cert-subject".toList ("CN=admin".toList.map asciiByte)).set
    "x-auth-method".toList mtlsValue

def forwardedOf : Forwarded where
  serviceId := ⟨1, 0⟩
  isGrpc := false
  target := "/".toList
  headers := applyAdditionalHeaders plainAuthDeps
    (sanitizeRequestHeaders plainAuthDeps headers false) ∅ false

theorem identity_unforged_iff_scope :
    (SameIdentity (forwardedOf tokenHeaders).headers (forwardedOf scopeHeaders).headers ∧
      CertTrue plainAuthDeps none (forwardedOf tokenHeaders).headers ∧
      CertTrue plainAuthDeps none (forwardedOf scopeHeaders).headers) ↔ Unforged plainAuthDeps
          (ownHeaders plainAuthDeps (tokenRequest tokenHeaders) oneTokenDb 0)
          (tokenRequest tokenHeaders) (tokenRequest scopeHeaders) :=
  identity_unforged_iff plainAuthDeps oneTokenDb 0 1 (tokenRequest tokenHeaders)
    (tokenRequest scopeHeaders) (forwardedOf tokenHeaders) (forwardedOf scopeHeaders)
    (by decide +kernel) rfl rfl rfl

/-- Of two clients with one credential and no certificate, the upstream of one receives the subject
of a certificate and the method `mtls`, as that client has sent them. -/
theorem forged_certificate_reaches_upstream : bearer tokenHeaders = bearer forgedHeaders ∧
    ((unifiedProxy plainAuthDeps (tokenRequest tokenHeaders) oneTokenDb 0).1.map fun f =>
      (f.headers.valuesOf "x-client-cert-subject".toList,
        f.headers.valuesOf "x-auth-method".toList)) = .ok ([], []) ∧
    ((unifiedProxy plainAuthDeps (tokenRequest forgedHeaders) oneTokenDb 0).1.map fun f =>
      (f.headers.valuesOf "x-client-cert-subject".toList,
        f.headers.valuesOf "x-auth-method".toList))
      = .ok (["CN=admin".toList.map asciiByte], [mtlsValue]) ∧
    (tokenRequest tokenHeaders).clientCert = none ∧ (tokenRequest forgedHeaders).clientCert = none := by
  refine ⟨by decide +kernel, by decide +kernel, by decide +kernel, rfl, rfl⟩

end Gadget.Auth
