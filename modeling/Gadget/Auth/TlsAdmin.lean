import Gadget.Auth.IdentityHeaders
import Gadget.Lib.Run

/-!
# TLS profiles and client certificates

`PUT /v1/admin/services/{service_id}/tls-profile` replaces the TLS profile of a service, and
`POST /v1/auth/certificates` issues a client certificate under the authority of a service. Neither
handler reads a credential. The proxy asks for a client certificate where the profile of the service
requires it.
-/

namespace Gadget.Auth

open Rust Lib.Run List Except Finmap

structure TlsRecord where
  tlsEnabled : Bool
  requireClientMtls : Bool
  encryptedServerCert : Bytes
  encryptedServerKey : Bytes
  encryptedClientCaBundle : Bytes
  clientCertTtlHours : ℕ
  sni : Option (List Char)
  subjectAltNameTemplate : Option (List Char)
  allowedDnsNames : List (List Char)

structure ServiceRecord where
  apiKeyPrefix : List Char
  owners : List ServiceOwnerModel
  upstreamUrl : List Char
  tlsProfile : Option TlsRecord

def ServiceRecord.toModel (service : ServiceRecord) : ServiceModel where
  apiKeyPrefix := service.apiKeyPrefix
  owners := service.owners
  upstreamUrl := service.upstreamUrl
  tlsProfile := service.tlsProfile.map fun profile => ⟨profile.requireClientMtls⟩

structure CertificateAuthority where
  caCertPem : List Char
  caKeyPem : List Char
  deriving DecidableEq

structure ClientCertificate where
  certificatePem : List Char
  privateKeyPem : List Char
  caBundlePem : List Char
  serial : List Char
  expiresAt : ℕ
  revocationUrl : Option (List Char)

structure CreateTlsProfileRequest where
  requireClientMtls : Bool
  clientCertTtlHours : ℕ
  subjectAltNameTemplate : Option (List Char)
  allowedDnsNames : Option (List (List Char))

structure IssueCertificateRequest where
  serviceId : ℕ
  commonName : List Char
  subjectAltNames : List (List Char)
  ttlHours : ℕ

structure TlsProfileResponse where
  tlsEnabled : Bool
  requireClientMtls : Bool
  clientCertTtlHours : ℕ
  caCertificatePem : List Char
  subjectAltNameTemplate : Option (List Char)
  allowedDnsNames : List (List Char)

structure TlsDeps where
  /-- `CertificateAuthority::new`. -/
  newAuthority : Bytes → Except String CertificateAuthority
  sealBundle : Bytes → CertificateAuthority → Except String Bytes
  openBundle : Bytes → Except String CertificateAuthority
  /-- `TlsEnvelope::encrypt`. -/
  encrypt : Bytes → List Char → Except String Bytes
  /-- `generate_server_certificate`. -/
  serverCertificate : Bytes → CertificateAuthority → ServiceId → List (List Char) →
    Except String (List Char × List Char)
  /-- `generate_client_certificate`, at a time. -/
  clientCertificate : Bytes → CertificateAuthority → List Char → List (List Char) → ℕ → ℕ →
    Except String ClientCertificate
  /-- `WebPkiClientVerifier` with the roots of an authority's bundle, for a certificate at a time. -/
  accepts : CertificateAuthority → List Char → ℕ → Bool
  openBundle_sealBundle : ∀ random ca bundle, sealBundle random ca = .ok bundle →
    bundle ≠ [] ∧ openBundle bundle = .ok ca
  /-- A certificate is accepted under the authority that issued it, at the time of issue: it is valid
  from then on. -/
  accepts_own : ∀ random ca name names ttl now cert,
    clientCertificate random ca name names ttl now = .ok cert →
      accepts ca cert.certificatePem now = true
  accepts_other : ∀ random ca ca' name names ttl now cert time,
    clientCertificate random ca name names ttl now = .ok cert →
      accepts ca' cert.certificatePem time = true → ca' = ca

variable (D : AuthDeps) (T : TlsDeps)

structure AdminEnv where
  random : ℕ → Bytes
  saved : Except String Unit
  activated : Except String Unit
  now : ℕ

abbrev Services := HashMap ServiceId ServiceRecord

def orInternal {α : Type} : Except String α → Except StatusCode α
  | .ok a => .ok a
  | .error _ => .error .internalServerError

variable (serviceId : ServiceId)

section

variable (payload : CreateTlsProfileRequest) (existing : Option TlsRecord)

def allowlistToStore : List (List Char) :=
  (payload.allowedDnsNames.or (existing.map TlsRecord.allowedDnsNames)).getD []

def serverDnsNames : List (List Char) :=
  let names :=
    match payload.allowedDnsNames with
    | some list => if list = [] then none else some list
    | none =>
      match existing with
      | some profile =>
        if profile.allowedDnsNames ≠ [] then some profile.allowedDnsNames
        else profile.sni.map ([·])
      | none => none
  names.getD ["localhost".toList]

def authorityFor (bundle random : Bytes) : Except StatusCode CertificateAuthority :=
  if bundle ≠ [] then orInternal (T.openBundle bundle) else orInternal (T.newAuthority random)

def updatedProfile (payload : CreateTlsProfileRequest)
    (random : ℕ → Bytes) (existing : Option TlsRecord) :
    Except StatusCode (CertificateAuthority × TlsRecord) := do
  let names := serverDnsNames payload existing
  let ca ← authorityFor T ((existing.map TlsRecord.encryptedClientCaBundle).getD []) (random 0)
  let bundle ← orInternal (T.sealBundle (random 1) ca)
  let server ← orInternal (T.serverCertificate (random 2) ca serviceId names)
  let cert ← orInternal (T.encrypt (random 3) server.1)
  let key ← orInternal (T.encrypt (random 4) server.2)
  return (ca, {
    tlsEnabled := true
    requireClientMtls := payload.requireClientMtls
    encryptedServerCert := cert
    encryptedServerKey := key
    encryptedClientCaBundle := bundle
    clientCertTtlHours := payload.clientCertTtlHours
    sni := names.head?
    subjectAltNameTemplate :=
      payload.subjectAltNameTemplate.or (existing.bind TlsRecord.subjectAltNameTemplate)
    allowedDnsNames := allowlistToStore payload existing })

def updateTlsProfile (payload : CreateTlsProfileRequest) (env : AdminEnv)
    (services : Services) : Except StatusCode TlsProfileResponse × Services :=
  match services.lookup serviceId with
  | none => (.error .notFound, services)
  | some service =>
    match updatedProfile T serviceId payload env.random service.tlsProfile with
    | .error e => (.error e, services)
    | .ok (ca, profile) =>
      match env.saved with
      | .error _ => (.error .internalServerError, services)
      | .ok () =>
        let services := services.insert serviceId { service with tlsProfile := some profile }
        match env.activated with
        | .error _ => (.error .internalServerError, services)
        | .ok () =>
          (.ok ⟨true, payload.requireClientMtls, payload.clientCertTtlHours, ca.caCertPem,
            profile.subjectAltNameTemplate, profile.allowedDnsNames⟩, services)

def dnsCandidate (san : List Char) : Option (List Char) :=
  match stripStart "DNS:".toList san with
  | some rest => some rest
  | none =>
    if "URI:".toList.isPrefixOf san || san.tails.any "://".toList.isPrefixOf then none else some san

end

section

variable (payload : IssueCertificateRequest)

def validateCertificateRequest (profile : TlsRecord) : Bool :=
  profile.requireClientMtls && decide (payload.ttlHours ≤ profile.clientCertTtlHours) &&
    (profile.allowedDnsNames.isEmpty ||
      payload.subjectAltNames.all fun san => (dnsCandidate san).all profile.allowedDnsNames.contains)

def issuingAuthority (service : ServiceRecord) (profile : TlsRecord)
    (env : AdminEnv) (services : Services) : Except StatusCode CertificateAuthority × Services :=
  if profile.encryptedClientCaBundle ≠ [] then
    (orInternal (T.openBundle profile.encryptedClientCaBundle), services)
  else
    match T.newAuthority (env.random 0) with
    | .error _ => (.error .internalServerError, services)
    | .ok ca =>
      match T.sealBundle (env.random 1) ca with
      | .error _ => (.error .internalServerError, services)
      | .ok bundle =>
        match env.saved with
        | .error _ => (.error .internalServerError, services)
        | .ok () =>
          let services := services.insert serviceId
            { service with tlsProfile := some { profile with encryptedClientCaBundle := bundle } }
          match env.activated with
          | .error _ => (.error .internalServerError, services)
          | .ok () => (.ok ca, services)

def IssueCertificateRequest.target : ServiceId :=
  ⟨payload.serviceId, 0⟩

variable (env : AdminEnv) (services : Services)

def certificateUnder (ca : CertificateAuthority) :
    Except StatusCode (CertificateAuthority × ClientCertificate) := do
  let cert ← orInternal (T.clientCertificate (env.random 2) ca payload.commonName
    payload.subjectAltNames payload.ttlHours env.now)
  let url := "/v1/auth/certificates/".toList ++ cert.serial ++ "/revoke".toList
  return (ca, { cert with revocationUrl := cert.revocationUrl.or (some url) })

def signCertificate : Except StatusCode (CertificateAuthority × ClientCertificate) × Services :=
  match services.lookup payload.target with
  | none => (.error .notFound, services)
  | some service =>
    match service.tlsProfile with
    | none => (.error .badRequest, services)
    | some profile =>
      if validateCertificateRequest payload profile then
        let result := issuingAuthority T payload.target service profile env services
        (result.1 >>= certificateUnder T payload env, result.2)
      else (.error .badRequest, services)

def issueCertificate : Except StatusCode ClientCertificate × Services :=
  let result := signCertificate T payload env services
  (result.1.map Prod.snd, result.2)

end

section

variable (services : Services)

def Requires (serviceId : ServiceId) : Prop :=
  ∃ service profile, services.lookup serviceId = some service ∧
    service.tlsProfile = some profile ∧ profile.requireClientMtls = true

def authorityOf (serviceId : ServiceId) : Option CertificateAuthority :=
  ((services.lookup serviceId).bind ServiceRecord.tlsProfile).bind fun profile =>
    if profile.encryptedClientCaBundle ≠ [] then
      (T.openBundle profile.encryptedClientCaBundle).toOption
    else none

def Unaccepted (held : List ClientCertificate) (serviceId : ServiceId) : Prop :=
  ∀ ca, authorityOf T services serviceId = some ca →
    ∀ cert ∈ held, ∀ time, T.accepts ca cert.certificatePem time = false

structure PublicRoutes where
  services : Services
  base : Db
  held : List ClientCertificate

inductive PublicRequest where
  | updateTlsProfile (serviceId : ServiceId) (payload : CreateTlsProfileRequest) (env : AdminEnv)
  | issueCertificate (payload : IssueCertificateRequest) (env : AdminEnv)
  | proxied (request : ProxyRequest) (now : ℕ)

end

namespace PublicRoutes

def db (state : PublicRoutes) : Db :=
  { state.base with services := state.services.filterMap fun _ service => some service.toModel }

def issued (answer : Except StatusCode ClientCertificate) : List ClientCertificate :=
  answer.toOption.toList

def step (state : PublicRoutes) : PublicRequest → PublicRoutes
  | .updateTlsProfile serviceId payload env =>
    { state with services := (updateTlsProfile T serviceId payload env state.services).2 }
  | .issueCertificate payload env =>
    let result := issueCertificate T payload env state.services
    { state with services := result.2, held := issued result.1 ++ state.held }
  | .proxied request now => { state with base := (unifiedProxy D request state.db now).2 }

/-- What is claimed of a service: no request without a client certificate is forwarded to it, and
none of the certificates handed out is accepted for it. -/
structure Guarded (serviceId : ServiceId) (state : PublicRoutes) : Prop where
  gated : ∀ request now forwarded, (unifiedProxy D request state.db now).1 = .ok forwarded →
    forwarded.serviceId = serviceId → request.clientCert ≠ none
  unaccepted : Unaccepted T state.services state.held serviceId

structure Secure (serviceId : ServiceId) (state : PublicRoutes) : Prop where
  requires : Requires state.services serviceId
  unaccepted : Unaccepted T state.services state.held serviceId

def Stores (services : Services) (serviceId : ServiceId) (payload : CreateTlsProfileRequest)
    (env : AdminEnv) : Prop :=
  ∃ service ca profile, services.lookup serviceId = some service ∧
    updatedProfile T serviceId payload env.random service.tlsProfile = .ok (ca, profile) ∧
    env.saved = .ok ()

def Spares (serviceId : ServiceId) (services : Services) : PublicRequest → Prop
  | .updateTlsProfile target payload env =>
    target = serviceId → Stores T services target payload env → payload.requireClientMtls = true
  | .issueCertificate payload env =>
    ∀ ca cert, (signCertificate T payload env services).1 = .ok (ca, cert) →
      payload.target ≠ serviceId ∧ authorityOf T services serviceId ≠ some ca
  | .proxied _ _ => True

structure Kept (serviceId : ServiceId) (state : PublicRoutes) (request : PublicRequest) : Prop where
  spares : Spares T serviceId state.services request
  fresh : authorityOf T (state.step D T request).services serviceId
      ≠ authorityOf T state.services serviceId →
    Unaccepted T (state.step D T request).services state.held serviceId

end PublicRoutes

variable {D T}

lemma orInternal_eq_ok {α : Type} {x : Except String α} {a : α} :
    orInternal x = .ok a ↔ x = .ok a := by
  rcases x with e | b <;> simp [orInternal]

lemma updateTlsProfile_cases (payload : CreateTlsProfileRequest)
    (env : AdminEnv) (services : Services) :
    (¬ PublicRoutes.Stores T services serviceId payload env ∧
      (updateTlsProfile T serviceId payload env services).2 = services) ∨
    ∃ service ca prof, services.lookup serviceId = some service ∧
      updatedProfile T serviceId payload env.random service.tlsProfile = .ok (ca, prof) ∧
      env.saved = .ok () ∧
      (updateTlsProfile T serviceId payload env services).2
        = services.insert serviceId { service with tlsProfile := some prof } := by
  unfold updateTlsProfile PublicRoutes.Stores
  rcases hl : services.lookup serviceId with _ | service
  · exact .inl ⟨by simp, rfl⟩
  cases hp : updatedProfile T serviceId payload env.random service.tlsProfile with
  | error e =>
    refine .inl ⟨?_, by simp only [hp]⟩
    rintro ⟨svc', ca, prof, hs, hok, -⟩
    cases hs
    rw [hp] at hok
    cases hok
  | ok stored =>
    obtain ⟨ca, prof⟩ := stored
    rcases hsa : env.saved with e | u
    · exact .inl ⟨by simp, by simp only [hp]⟩
    refine .inr ⟨service, ca, prof, rfl, hp, rfl, ?_⟩
    simp only [hp]
    rcases env.activated with e | u <;> rfl

variable {serviceId : ServiceId} {ca : CertificateAuthority} {env : AdminEnv}
  {services svcs' : Services} {payload : IssueCertificateRequest} {cert : ClientCertificate}

lemma requireClientMtls_of_updatedProfile {payload : CreateTlsProfileRequest} {random : ℕ → Bytes}
    {existing : Option TlsRecord} {prof : TlsRecord}
    (h : updatedProfile T serviceId payload random existing = .ok (ca, prof)) :
    prof.requireClientMtls = payload.requireClientMtls := by
  obtain ⟨authority, -, h⟩ := bind_eq_ok.mp h
  obtain ⟨bundle, -, h⟩ := bind_eq_ok.mp h
  obtain ⟨srv, -, h⟩ := bind_eq_ok.mp h
  obtain ⟨cert, -, h⟩ := bind_eq_ok.mp h
  obtain ⟨key, -, h⟩ := bind_eq_ok.mp h
  cases h
  rfl

lemma issuingAuthority_cases (serviceId : ServiceId) (service : ServiceRecord)
    (profile : TlsRecord) (env : AdminEnv) (services : Services) :
    (issuingAuthority T serviceId service profile env services).2 = services ∨
    ∃ bundle, (issuingAuthority T serviceId service profile env services).2
      = services.insert serviceId
        { service with tlsProfile := some { profile with encryptedClientCaBundle := bundle } } := by
  unfold issuingAuthority
  split
  · exact .inl rfl
  split
  · exact .inl rfl
  split
  · exact .inl rfl
  rename_i bundle _
  split
  · exact .inl rfl
  · right
    refine ⟨bundle, ?_⟩
    rcases env.activated with e | u <;> rfl

lemma authorityOf_of_issuingAuthority {service : ServiceRecord} {prof : TlsRecord}
    (hse : services.lookup serviceId = some service)
    (hp : service.tlsProfile = some prof)
    (h : issuingAuthority T serviceId service prof env services = (.ok ca, svcs')) :
    authorityOf T svcs' serviceId = some ca := by
  unfold issuingAuthority at h
  by_cases hb : prof.encryptedClientCaBundle ≠ []
  · rw [if_pos hb] at h
    obtain ⟨ho, rfl⟩ := Prod.mk.inj h
    simp [authorityOf, hse, hp, hb, orInternal_eq_ok.mp ho, Except.toOption]
  rw [if_neg hb] at h
  rcases hnew : T.newAuthority (env.random 0) with e | created
  · simp [hnew] at h
  rcases hs : T.sealBundle (env.random 1) created with e | bundle
  · simp [hnew, hs] at h
  obtain ⟨hn, ho⟩ := T.openBundle_sealBundle _ _ _ hs
  rcases hsa : env.saved with e | u
  · simp [hnew, hs, hsa] at h
  rcases ha : env.activated with e | u
  · simp [hnew, hs, hsa, ha] at h
  simp only [hnew, hs, hsa, ha] at h
  obtain ⟨hca, rfl⟩ := Prod.mk.inj h
  cases hca
  simp [authorityOf, hn, ho, Except.toOption]

lemma signCertificate_cases (payload : IssueCertificateRequest) (env : AdminEnv)
    (services : Services) :
    (signCertificate T payload env services).2 = services ∨
    ∃ service profile bundle, services.lookup payload.target = some service ∧
      service.tlsProfile = some profile ∧ profile.requireClientMtls = true ∧
      (signCertificate T payload env services).2 = services.insert payload.target
        { service with tlsProfile := some { profile with encryptedClientCaBundle := bundle } } := by
  rcases hs : services.lookup payload.target with _ | service
  · simp [signCertificate, hs]
  rcases hp : service.tlsProfile with _ | profile
  · simp [signCertificate, hs, hp]
  by_cases hv : validateCertificateRequest payload profile = true
  · have hr : profile.requireClientMtls = true := by
      simp only [validateCertificateRequest, Bool.and_eq_true] at hv
      exact hv.1.1
    have hse : (signCertificate T payload env services).2
        = (issuingAuthority T payload.target service profile env services).2 := by
      simp [signCertificate, hs, hp, hv]
    rw [hse]
    obtain hsa | ⟨bundle, hst⟩ :=
      issuingAuthority_cases (T := T) payload.target service profile env services
    · exact .inl hsa
    · exact .inr ⟨service, profile, bundle, rfl, hp, hr, hst⟩
  · simp [signCertificate, hs, hp, hv]

lemma signCertificate_eq_ok (h : (signCertificate T payload env services).1 = .ok (ca, cert)) :
    authorityOf T (signCertificate T payload env services).2 payload.target = some ca ∧
      T.accepts ca cert.certificatePem env.now = true ∧
      ∀ ca' time, T.accepts ca' cert.certificatePem time = true → ca' = ca := by
  rcases hs : services.lookup payload.target with _ | service
  · simp [signCertificate, hs] at h
  rcases hp : service.tlsProfile with _ | prof
  · simp [signCertificate, hs, hp] at h
  by_cases hv : validateCertificateRequest payload prof = true
  · simp only [signCertificate, hs, hp, hv, if_true] at h ⊢
    obtain ⟨sg, hsi, hc⟩ := bind_eq_ok.mp h
    obtain ⟨made, hm, hc⟩ := bind_eq_ok.mp hc
    cases hc
    have hg := orInternal_eq_ok.mp hm
    have hown : T.accepts ca made.certificatePem env.now = true := T.accepts_own _ _ _ _ _ _ _ hg
    have ho : ∀ ca' time, T.accepts ca' made.certificatePem time = true → ca' = ca :=
      fun ca' time ha => T.accepts_other _ _ _ _ _ _ _ _ _ hg ha
    exact ⟨authorityOf_of_issuingAuthority hs hp (Prod.ext hsi rfl), hown, ho⟩
  · simp [signCertificate, hs, hp, hv] at h

lemma lookup_signCertificate_of_ne (env : AdminEnv) (services : Services)
    (h : payload.target ≠ serviceId) :
    (signCertificate T payload env services).2.lookup serviceId = services.lookup serviceId := by
  obtain hsa | ⟨service, prof, bundle, -, -, -, hs⟩ :=
    signCertificate_cases (T := T) payload env services
  · rw [hsa]
  · rw [hs, lookup_insert_of_ne _ (Ne.symm h)]

lemma requires_signCertificate (h : Requires services serviceId) :
    Requires (signCertificate T payload env services).2 serviceId := by
  obtain hsa | ⟨service, prof, bundle, hse, hp, hr, hs⟩ :=
    signCertificate_cases (T := T) payload env services
  · rw [hsa]
    exact h
  rw [hs]
  by_cases ht : serviceId = payload.target
  · subst ht
    exact ⟨_, _, lookup_insert _, rfl, hr⟩
  · obtain ⟨svc', prof', hl, hre⟩ := h
    exact ⟨svc', prof', by rw [lookup_insert_of_ne _ ht, hl], hre⟩

lemma requires_updateTlsProfile_iff {target : ServiceId} {payload : CreateTlsProfileRequest}
    (h : Requires services serviceId) :
    Requires (updateTlsProfile T target payload env services).2 serviceId ↔
      (target = serviceId → PublicRoutes.Stores T services target payload env →
        payload.requireClientMtls = true) := by
  obtain ⟨hnot, hse⟩ | ⟨service, ca, prof, hs, hp, hsa, hst⟩ :=
    updateTlsProfile_cases (T := T) target payload env services
  · rw [hse]
    exact ⟨fun _ _ hsto => absurd hsto hnot, fun _ => h⟩
  rw [hst]
  have hr := requireClientMtls_of_updatedProfile hp
  by_cases ht : target = serviceId
  · subst ht
    constructor
    · rintro ⟨svc', prof', hl, hp', hre⟩ - -
      rw [lookup_insert] at hl
      cases hl
      cases hp'
      rw [← hr]
      exact hre
    · intro hk
      have hpa := hk rfl ⟨service, ca, prof, hs, hp, hsa⟩
      exact ⟨_, _, lookup_insert _, rfl, hr.trans hpa⟩
  · obtain ⟨svc', prof', hl, hrt⟩ := h
    refine ⟨fun _ heq => absurd heq ht, fun _ => ⟨svc', prof', ?_, hrt⟩⟩
    rw [lookup_insert_of_ne _ (Ne.symm ht), hl]

lemma authorityOf_congr (h : svcs'.lookup serviceId = services.lookup serviceId) :
    authorityOf T svcs' serviceId = authorityOf T services serviceId := by
  rw [authorityOf, authorityOf, h]

lemma unaccepted_congr {held : List ClientCertificate}
    (h : authorityOf T svcs' serviceId = authorityOf T services serviceId) :
    Unaccepted T svcs' held serviceId ↔ Unaccepted T services held serviceId := by
  rw [Unaccepted, Unaccepted, h]

lemma services_extractAndValidateAuth (headers : HeaderMap) (db : Db) (now : ℕ) :
    (extractAndValidateAuth D headers db now).2.services = db.services := by
  obtain hs | ⟨apiKey, model, -, hu⟩ := extractAndValidateAuth_db (D := D) headers db now
  · rw [hs]
  · rw [hu, ApiKeyModel.updateLastUsed, ApiKeyModel.save]
    split <;> rfl

lemma clientCert_ne_none_of_unifiedProxy {req : ProxyRequest} {db : Db} {now : ℕ}
    {fwd : Forwarded} (h : (unifiedProxy D req db now).1 = .ok fwd)
    (hre : ∀ service, db.services.lookup fwd.serviceId = some service →
      service.tlsProfile.any TlsProfile.requireClientMtls = true) :
    req.clientCert ≠ none := by
  have hp := proxyWithMtls_of_unifiedProxy h
  have hs : (extractAndValidateAuth D req.headers db now).2.services = db.services :=
    services_extractAndValidateAuth req.headers db now
  unfold proxyWithMtls at hp
  rcases ha : extractAndValidateAuth D req.headers db now with ⟨result, db'⟩
  rw [ha] at hp hs
  rcases result with e | acc
  · cases hp
  obtain ⟨service, hl, hr⟩ := bind_eq_ok.mp hp
  obtain ⟨u, hg, hr⟩ := bind_eq_ok.mp hr
  obtain ⟨upstream, -, hr⟩ := bind_eq_ok.mp hr
  obtain ⟨target, -, hr⟩ := bind_eq_ok.mp hr
  cases hr
  have hse : db.services.lookup acc.1 = some service := by
    rw [← hs]
    exact okOr_eq_ok.mp hl
  intro hn
  exact rejectIf_eq_ok.mp hg ⟨hre service hse, hn⟩

namespace PublicRoutes

lemma Secure.guarded {state : PublicRoutes} (h : Secure T serviceId state) :
    Guarded D T serviceId state := by
  refine ⟨?_, h.unaccepted⟩
  rintro req now fwd hf rfl
  obtain ⟨service, prof, hs, hp, hr⟩ := h.requires
  refine clientCert_ne_none_of_unifiedProxy hf fun model hm => ?_
  rw [db, HashMap.lookup_filterMap, hs] at hm
  cases hm
  simp [ServiceRecord.toModel, hp, hr]

lemma mem_held_step_issueCertificate {st : PublicRoutes} :
    cert ∈ (st.step D T (.issueCertificate payload env)).held ↔
      (∃ ca, (signCertificate T payload env st.services).1 = .ok (ca, cert)) ∨ cert ∈ st.held := by
  show cert ∈ issued (issueCertificate T payload env st.services).1 ++ st.held ↔ _
  rw [mem_append, issueCertificate, issued]
  rcases (signCertificate T payload env st.services).1 with e | signed
  · simp [Except.map, Except.toOption]
  obtain ⟨ca, cert'⟩ := signed
  simp [Except.map, Except.toOption, eq_comm]

lemma unaccepted_services_iff {held : List ClientCertificate}
    (h : Unaccepted T services held serviceId) :
    Unaccepted T svcs' held serviceId ↔
      (authorityOf T svcs' serviceId ≠ authorityOf T services serviceId →
        Unaccepted T svcs' held serviceId) := by
  constructor
  · exact fun ha _ => ha
  · intro hf
    by_cases hs : authorityOf T svcs' serviceId = authorityOf T services serviceId
    · exact (unaccepted_congr hs).mpr h
    · exact hf hs

lemma unaccepted_signed_iff (h : (signCertificate T payload env services).1 = .ok (ca, cert)) :
    Unaccepted T (signCertificate T payload env services).2 [cert] serviceId ↔
      payload.target ≠ serviceId ∧ authorityOf T services serviceId ≠ some ca := by
  obtain ⟨hau, hown, ho⟩ := signCertificate_eq_ok h
  by_cases ht : payload.target = serviceId
  · subst ht
    refine ⟨fun hn => ?_, fun hne => absurd rfl hne.1⟩
    have ha := hn ca hau cert (mem_singleton_self cert) env.now
    rw [hown] at ha
    cases ha
  · rw [unaccepted_congr (authorityOf_congr (lookup_signCertificate_of_ne env services ht))]
    constructor
    · refine fun hn => ⟨ht, fun hs => ?_⟩
      have ha := hn ca hs cert (mem_singleton_self cert) env.now
      rw [hown] at ha
      cases ha
    · rintro ⟨-, hne⟩ ca' hca' cert' hc' time
      rw [mem_singleton.mp hc', ← Bool.not_eq_true]
      intro ha
      rw [ho ca' time ha] at hca'
      exact hne hca'

lemma secure_step_iff (serviceId : ServiceId) (state : PublicRoutes) (request : PublicRequest)
    (h : Secure T serviceId state) :
    Secure T serviceId (state.step D T request) ↔ Kept D T serviceId state request := by
  have hf : Unaccepted T (state.step D T request).services state.held serviceId ↔ _ :=
    unaccepted_services_iff h.unaccepted
  cases request with
  | updateTlsProfile target payload env =>
    have hr : Requires (updateTlsProfile T target payload env state.services).2 serviceId ↔ _ :=
      requires_updateTlsProfile_iff h.requires
    exact ⟨fun ha => ⟨hr.mp ha.requires, hf.mp ha.unaccepted⟩,
      fun hk => ⟨hr.mpr hk.spares, hf.mpr hk.fresh⟩⟩
  | issueCertificate payload env =>
    constructor
    · intro ha
      refine ⟨fun ca cert hs => (unaccepted_signed_iff hs).mp ?_, hf.mp ?_⟩
      · intro ca' hca' cert' hc'
        rw [mem_singleton.mp hc']
        exact ha.unaccepted ca' hca' cert (mem_held_step_issueCertificate.mpr (.inl ⟨ca, hs⟩))
      · exact fun ca hca cert hc => ha.unaccepted ca hca cert
          (mem_held_step_issueCertificate.mpr (.inr hc))
    · intro hk
      refine ⟨requires_signCertificate h.requires, fun ca hca cert hc => ?_⟩
      obtain ⟨sg, hs⟩ | hheld := mem_held_step_issueCertificate.mp hc
      · exact (unaccepted_signed_iff hs).mpr (hk.spares sg cert hs) ca hca cert
          (mem_singleton_self cert)
      · exact hf.mpr hk.fresh ca hca cert hheld
  | proxied request now =>
    exact ⟨fun _ => ⟨trivial, fun hne => absurd rfl hne⟩, fun _ => ⟨h.requires, h.unaccepted⟩⟩

def soleAuthority : CertificateAuthority := ⟨"ca".toList, "key".toList⟩

abbrev soleTlsDeps : TlsDeps where
  newAuthority _ := .ok soleAuthority
  sealBundle _ ca := if ca = soleAuthority then .ok [1] else .error ""
  openBundle bundle := if bundle = [1] then .ok soleAuthority else .error ""
  encrypt _ _ := .ok [2]
  serverCertificate _ _ _ _ := .ok ([], [])
  clientCertificate _ ca _ _ ttl now :=
    if ca = soleAuthority then
      .ok ⟨"cert".toList, [], ca.caCertPem, "1".toList, now + 3600 * ttl, none⟩
    else .error ""
  accepts ca _ _ := decide (ca = soleAuthority)
  openBundle_sealBundle random ca bundle h := by
    split at h
    · rename_i hca
      cases h
      exact ⟨List.cons_ne_nil 1 [], by rw [hca, if_pos rfl]⟩
    · cases h
  accepts_own random ca name names ttl now cert h := by
    split at h
    · rename_i hca
      exact decide_eq_true hca
    · cases h
  accepts_other random ca ca' name names ttl now cert time h haccepts := by
    split at h
    · rename_i hca
      rw [hca]
      exact of_decide_eq_true haccepts
    · cases h

def mtlsProfile : TlsRecord := ⟨true, true, [2], [2], [1], 24, none, none, []⟩

def mtlsServices : Services := (∅ : Services).insert ⟨1, 0⟩ ⟨[], [], [], some mtlsProfile⟩

def calmEnv : AdminEnv := ⟨fun _ => [], .ok (), .ok (), 0⟩

def mtlsStart : PublicRoutes := ⟨mtlsServices, oneTokenDb, []⟩

def optionalMtls : CreateTlsProfileRequest := ⟨false, 24, none, none⟩

def anyCertificate : IssueCertificateRequest := ⟨1, "anyone".toList, [], 1⟩

lemma requires_mtlsServices : Requires mtlsServices ⟨1, 0⟩ :=
  ⟨_, mtlsProfile, Finmap.lookup_insert _, rfl, rfl⟩

end PublicRoutes

/-! ## Names in client certificates

`validate_certificate_request` compares the DNS names of a request with the allowlist of the profile.
`client_certificate_params` reads every name again: what starts with neither `DNS:` nor `URI:` becomes
a DNS name, also where the validation took it for a URI. -/

inductive SanType where
  | dnsName (name : List Char)
  | uri (name : List Char)
  deriving DecidableEq

inductive SanError where
  | invalidDns (value : List Char)
  | invalidUri (value : List Char)
  deriving DecidableEq

section

variable (payload : IssueCertificateRequest) (value : List Char) (profile : TlsRecord)

/-- What `Ia5String` accepts. -/
def isIa5String : Bool := value.all (·.toNat < 128)

def tryDnsName : Except SanError SanType :=
  if isIa5String value then .ok (.dnsName value) else .error (.invalidDns value)

def tryUriName : Except SanError SanType :=
  if isIa5String value then .ok (.uri value) else .error (.invalidUri value)

/-- The name that `client_certificate_params` makes of an entry. -/
def sanType (san : List Char) : Except SanError SanType :=
  match stripStart "DNS:".toList san with
  | some rest => tryDnsName rest
  | none =>
    match stripStart "URI:".toList san with
    | some rest => tryUriName rest
    | none => tryDnsName san

/-- The subject alternative names of `client_certificate_params`. -/
def certificateNames : List (List Char) → Except SanError (List SanType)
  | [] => .ok []
  | san :: sans => do
    let name ← sanType san
    return name :: (← certificateNames sans)

/-- The DNS names of the certificate are allowed, and none of them was exempted as a URI. -/
def NamesConfined : Prop :=
  ∀ names, certificateNames payload.subjectAltNames = .ok names →
    (∀ name, .dnsName name ∈ names → name ∈ profile.allowedDnsNames) ∧
      ∀ san ∈ payload.subjectAltNames, dnsCandidate san = none →
        ∀ name, sanType san ≠ .ok (.dnsName name)

lemma exists_of_mem_certificateNames {sans : List (List Char)} {names : List SanType} {name : SanType}
    (h : certificateNames sans = .ok names) (hn : name ∈ names) :
    ∃ san ∈ sans, sanType san = .ok name := by
  induction sans generalizing names with
  | nil =>
    cases h
    cases hn
  | cons san sans ih =>
    obtain ⟨first, hf, h⟩ := bind_eq_ok.mp h
    obtain ⟨rest, hr, heq⟩ := bind_eq_ok.mp h
    cases heq
    rcases mem_cons.mp hn with rfl | hm
    · exact ⟨san, mem_cons_self, hf⟩
    obtain ⟨san', hs, heq⟩ := ih hr hm
    exact ⟨san', mem_cons_of_mem san hs, heq⟩

lemma dnsCandidate_of_sanType {san name : List Char} (h : sanType san = .ok (.dnsName name))
    (huri : dnsCandidate san = none → "URI:".toList.isPrefixOf san = true) :
    dnsCandidate san = some name := by
  have htry : ∀ value, tryDnsName value = .ok (.dnsName name) → value = name := by
    intro value hv
    unfold tryDnsName at hv
    split at hv <;> cases hv
    rfl
  -- both read the entry in the same order, and differ only in what they do without a mark in front
  unfold sanType at h
  unfold dnsCandidate at huri ⊢
  cases hd : stripStart "DNS:".toList san with
  | some rest =>
    rw [hd] at h
    rw [htry rest h]
  | none =>
    rw [hd] at h huri
    cases hu : stripStart "URI:".toList san with
    | some rest =>
      simp only [hu, tryUriName] at h
      split at h <;> cases h
    | none =>
      rw [hu] at h
      obtain rfl := htry san h
      have hp : "URI:".toList.isPrefixOf san = false := by
        rw [← isSome_isPrefixOf?_eq_isPrefixOf]
        exact congrArg Option.isSome hu
      by_contra hne
      have hnone := huri (by simpa using hne)
      rw [hp] at hnone
      cases hnone

/-- Exactly the entries of ASCII characters have a form in the certificate: the marks are such characters. -/
lemma sanType_eq_ok_iff {san : List Char} : (∃ name, sanType san = .ok name) ↔ isIa5String san = true := by
  have hmark {mark rest : List Char} (h : stripStart mark san = some rest) (hm : isIa5String mark = true) :
      isIa5String rest = isIa5String san := by
    rw [isPrefixOf?_eq_some_iff_append_eq.mp h |>.symm]
    simp only [isIa5String, all_append] at hm ⊢
    rw [hm, Bool.true_and]
  have hform (value : List Char) (name : SanType) (e : SanError) :
      (∃ n, (if isIa5String value then .ok name else .error e : Except SanError SanType) = .ok n) ↔
        isIa5String value = true := by
    cases isIa5String value <;> simp
  unfold sanType
  cases hd : stripStart "DNS:".toList san with
  | some rest =>
    rw [← hmark hd (by decide)]
    exact hform rest _ _
  | none =>
    cases hu : stripStart "URI:".toList san with
    | some rest =>
      rw [← hmark hu (by decide)]
      exact hform rest _ _
    | none => exact hform san _ _

lemma certificateNames_eq_ok_iff {sans : List (List Char)} :
    (∃ names, certificateNames sans = .ok names) ↔ ∀ san ∈ sans, isIa5String san = true := by
  induction sans with
  | nil => simp [certificateNames]
  | cons san sans ih =>
    rw [forall_mem_cons, ← ih, ← sanType_eq_ok_iff]
    constructor
    · rintro ⟨names, h⟩
      obtain ⟨first, hf, h⟩ := bind_eq_ok.mp h
      obtain ⟨rest, hr, -⟩ := bind_eq_ok.mp h
      exact ⟨⟨first, hf⟩, rest, hr⟩
    · rintro ⟨⟨first, hf⟩, rest, hr⟩
      exact ⟨first :: rest, bind_eq_ok.mpr ⟨first, hf, bind_eq_ok.mpr ⟨rest, hr, rfl⟩⟩⟩

/-- An exempted entry without a mark becomes a DNS name, where it has a form at all. -/
lemma sanType_of_exempted {san : List Char} (h : dnsCandidate san = none) (hia5 : isIa5String san = true)
    (hu : "URI:".toList.isPrefixOf san = false) : sanType san = .ok (.dnsName san) := by
  have hu' : stripStart "URI:".toList san = none := by
    rw [← isSome_isPrefixOf?_eq_isPrefixOf] at hu
    exact Option.isSome_eq_false_iff.mp hu |> Option.isNone_iff_eq_none.mp
  unfold dnsCandidate at h
  cases hd : stripStart "DNS:".toList san with
  | some rest =>
    rw [hd] at h
    cases h
  | none => simp only [sanType, hd, hu', tryDnsName, hia5, if_true]

/-- **Certificate names.** Under a profile with an allowlist an accepted request leads to allowed DNS names
only, exactly when what the validation takes for a URI starts with `URI:`, or when an entry that is not
ASCII keeps the certificate from being made. -/
theorem certificateNames_confined_iff (hallow : profile.allowedDnsNames ≠ [])
    (hvalid : validateCertificateRequest payload profile = true) : NamesConfined payload profile ↔
      ((∀ san ∈ payload.subjectAltNames, isIa5String san = true) →
        ∀ san ∈ payload.subjectAltNames, dnsCandidate san = none →
          "URI:".toList.isPrefixOf san = true) := by
  constructor
  · intro h hia5 san hs hnone
    obtain ⟨names, hnames⟩ := certificateNames_eq_ok_iff.mpr hia5
    by_contra hu
    rw [Bool.not_eq_true] at hu
    exact (h names hnames).2 san hs hnone san (sanType_of_exempted hnone (hia5 san hs) hu)
  · intro h names hnames
    have huri := h (certificateNames_eq_ok_iff.mp ⟨names, hnames⟩)
    constructor
    · intro name hn
      obtain ⟨san, hs, heq⟩ := exists_of_mem_certificateNames hnames hn
      have hc := dnsCandidate_of_sanType heq (huri san hs)
      simp only [validateCertificateRequest, Bool.and_eq_true, Bool.or_eq_true, List.isEmpty_iff,
        hallow, false_or, List.all_eq_true] at hvalid
      simpa [hc] using hvalid.2 san hs
    · intro san hs hnone name heq
      have hc := dnsCandidate_of_sanType heq (huri san hs)
      rw [hnone] at hc
      cases hc

def allowlistProfile : TlsRecord :=
  ⟨true, true, [], [], [], 24, none, none, ["a.example".toList]⟩

def namesRequest (san : String) : IssueCertificateRequest := ⟨1, [], [san.toList], 1⟩

theorem certificateNames_confined_prefixed :
    certificateNames (namesRequest "URI:spiffe://a").subjectAltNames
      = .ok [.uri "spiffe://a".toList] ∧
      NamesConfined (namesRequest "URI:spiffe://a") allowlistProfile :=
  ⟨by decide, (certificateNames_confined_iff _ _ (by decide) (by decide)).mpr fun _ => by decide⟩

/-- A name with `://` in it is accepted as a URI and comes into the certificate as a DNS name. -/
theorem exempted_uri_issued_as_dns :
    validateCertificateRequest (namesRequest "b.example://") allowlistProfile = true ∧
      certificateNames (namesRequest "b.example://").subjectAltNames
        = .ok [.dnsName "b.example://".toList] ∧
      "b.example://".toList ∉ allowlistProfile.allowedDnsNames := by
  decide

end

end Gadget.Auth
