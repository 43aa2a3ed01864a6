import Gadget.Auth.Models

/-!
# The proxy

`validate_headers` checks the headers that a client wants to have forwarded and brings their names
to lower case; of several spellings of a name the last one counts. Then the headers that identify a
person are hashed.

A request is authenticated by its bearer credential (a legacy token, an API key or an access
token), the headers of the credential and of the verified client certificate are collected, and the
request goes to the upstream of the service with its own headers sanitised and the collected ones
applied. `unifiedProxy` ends where the request is handed to the client of the upstream.
-/

namespace Gadget.Auth

open Rust Std.ExtTreeMap List

variable (D : AuthDeps)

inductive ValidationError where
  | tooManyHeaders (max provided : ℕ)
  | forbiddenHeader (header : List Char)
  | headerNameTooLong (header : List Char) (max : ℕ)
  | headerValueTooLong (header : List Char) (max : ℕ)
  | invalidHeaderName (header : List Char)
  | invalidHeaderValue (header value : List Char)

def ValidationError.display : ValidationError → String
  | .tooManyHeaders max provided =>
    "Too many headers provided: " ++ toString provided ++ " (max: " ++ toString max ++ ")"
  | .forbiddenHeader header => "Forbidden header: " ++ String.ofList header
  | .headerNameTooLong header max =>
    "Header name too long: " ++ String.ofList header ++ " (max: " ++ toString max ++ " bytes)"
  | .headerValueTooLong header max =>
    "Header value too long for " ++ String.ofList header ++ " (max: " ++ toString max ++ " bytes)"
  | .invalidHeaderName header => "Invalid header name: " ++ String.ofList header
  | .invalidHeaderValue header value =>
    "Invalid header value for " ++ String.ofList header ++ ": " ++ String.ofList value

def maxHeaders : ℕ := 8

def maxHeaderNameLen : ℕ := 256

def maxHeaderValueLen : ℕ := 512

def forbiddenHeaders : List (List Char) :=
  ["connection".toList, "keep-alive".toList, "proxy-authenticate".toList,
    "proxy-authorization".toList, "te".toList, "trailer".toList, "transfer-encoding".toList,
    "upgrade".toList, "host".toList, "content-length".toList]

def isValidHeaderName (name : List Char) : Bool :=
  !name.isEmpty && name.all fun c => c.isAlphanum || c == '-' || c == '_'

def isValidHeaderValue (value : List Char) : Bool :=
  value.all fun c => decide (32 ≤ c.toNat ∧ c.toNat < 127) || c == '\t'

def checkHeader (name value : List Char) : Except ValidationError Unit := do
  rejectIf (forbiddenHeaders.contains (D.toLowercase name) = true) (.forbiddenHeader name)
  rejectIf (maxHeaderNameLen < byteLength name) (.headerNameTooLong name maxHeaderNameLen)
  rejectIf (maxHeaderValueLen < byteLength value) (.headerValueTooLong name maxHeaderValueLen)
  rejectIf (isValidHeaderName name = false) (.invalidHeaderName name)
  rejectIf (isValidHeaderValue value = false) (.invalidHeaderValue name value)

variable (headers : BTreeMap)

def lowercaseNames : BTreeMap :=
  (∅ : BTreeMap).insertMany (headers.toList.map fun e => (D.toLowercase e.1, e.2))

def validateHeaders : Except ValidationError BTreeMap := do
  headers.toList.forM fun e => checkHeader D e.1 e.2
  rejectIf (maxHeaders < (lowercaseNames D headers).size)
    (.tooManyHeaders maxHeaders (lowercaseNames D headers).size)
  return lowercaseNames D headers

def hashUserId (userId : List Char) : List Char := hexEncode ((D.keccak256 userId).take 16)

def protectValue (name value : List Char) : List Char :=
  if name = "x-user-id".toList ∨ name = "x-user-email".toList ∨ name = "x-customer-email".toList then
    hashUserId D value
  else if name = "x-tenant-id".toList then
    if '@' ∈ value then hashUserId D value
    else if byteLength value = 32 ∧ value.all (fun c => (hexValue c).isSome) then value
    else hashUserId D value
  else value

def processHeadersWithPiiProtection : BTreeMap :=
  headers.map (protectValue D)

variable {D}

lemma checkHeader_eq_ok {name val : List Char} : checkHeader D name val = .ok () ↔
      D.toLowercase name ∉ forbiddenHeaders ∧ byteLength name ≤ maxHeaderNameLen ∧
        byteLength val ≤ maxHeaderValueLen ∧ isValidHeaderName name = true ∧
        isValidHeaderValue val = true := by
  simp only [checkHeader, unit_bind_eq_ok, rejectIf_eq_ok, not_lt, Bool.not_eq_false,
    List.contains_iff_mem]

lemma validateHeaders_eq_ok {headers validated : BTreeMap} :
    validateHeaders D headers = .ok validated ↔
      (∀ name val, headers[name]? = some val → checkHeader D name val = .ok ()) ∧
        (lowercaseNames D headers).size ≤ maxHeaders ∧ lowercaseNames D headers = validated := by
  have hall : (headers.toList.forM fun e => checkHeader D e.1 e.2) = .ok () ↔
      ∀ name val, headers[name]? = some val → checkHeader D name val = .ok () := by
    rw [forM_eq_ok]
    constructor
    · intro h name val hmem
      exact h (name, val) (mem_toList_iff_getElem?_eq_some.mpr hmem)
    · intro h e hmem
      exact h e.1 e.2 (mem_toList_iff_getElem?_eq_some.mp hmem)
  simp only [validateHeaders, unit_bind_eq_ok, hall, rejectIf_eq_ok, not_lt, pure, Except.pure,
    Except.ok.injEq]

lemma getElem?_lowercaseNames (name : List Char) :
    (lowercaseNames D headers)[name]?
      = headers.toList.findSomeRev? fun e => if D.toLowercase e.1 = name then some e.2 else none := by
  rw [lowercaseNames, getElem?_insertMany_list]
  simp only [Std.LawfulEqCmp.compare_eq_iff_eq, getElem?_empty, Option.or_none,
    findSomeRev?_eq_findSome?_reverse, ← map_reverse, findSome?_map]
  rfl

lemma getElem?_processHeaders (name : List Char) :
    (processHeadersWithPiiProtection D headers)[name]?
      = headers[name]?.map (protectValue D name) := getElem?_map

variable (D : AuthDeps)

inductive StatusCode where
  | ok
  | created
  | badRequest
  | unauthorized
  | notFound
  | internalServerError
  deriving DecidableEq

structure ApiToken where
  id : ℕ
  token : List Char

inductive ParseApiTokenError where
  | malformedToken
  | invalidTokenId

def ApiToken.fromStr (text : List Char) : Except ParseApiTokenError ApiToken :=
  if 512 < byteLength text ∨ text.count '|' ≠ 1 then .error .malformedToken
  else
    match splitOnce '|' text with
    | none => .error .malformedToken
    | some (idPart, tokenPart) =>
      match parseU64 idPart with
      | none => .error .invalidTokenId
      | some id => if tokenPart = [] then .error .malformedToken else .ok ⟨id, tokenPart⟩

inductive AuthToken where
  | legacy (token : ApiToken)
  | apiKey (text : List Char)

inductive AuthTokenError where
  | invalidFormat
  | legacyToken (e : ParseApiTokenError)

def AuthToken.parse (text : List Char) : Except AuthTokenError AuthToken :=
  if accessTokenStart.isPrefixOf text then .error .invalidFormat
  else if '|' ∈ text then
    match ApiToken.fromStr text with
    | .ok token => .ok (.legacy token)
    | .error e => .error (.legacyToken e)
  else if '.' ∈ text then .ok (.apiKey text)
  else .error .invalidFormat

def handleLegacyToken (token : ApiToken) (db : Db) (now : ℕ) :
    Except StatusCode (ServiceId × BTreeMap) :=
  match db.tokens.lookup token.id with
  | some model =>
    if model.validates D token.token && !model.isExpired now && model.isEnabled then
      .ok (model.service, model.getAdditionalHeaders D)
    else .error .unauthorized
  | none => .error .unauthorized

def findValidKey (apiKey : List Char) (db : Db) (now : ℕ) : Except StatusCode ApiKeyModel := do
  let parts ← okOr (splitOnce '.' apiKey) .badRequest
  let model ← okOr (ApiKeyModel.findByKeyId parts.1 db) .unauthorized
  rejectIf (model.validatesKey D apiKey = false) .unauthorized
  rejectIf (model.isExpired now = true) .unauthorized
  rejectIf (model.isEnabled = false) .unauthorized
  return model

def handleApiKey (apiKey : List Char) (db : Db) (now : ℕ) :
    Except StatusCode (ServiceId × BTreeMap) × Db :=
  match findValidKey D apiKey db now with
  | .error e => (.error e, db)
  | .ok model => (.ok (model.service, model.getDefaultHeaders D), model.updateLastUsed now db)

def AccessTokenClaims.upstreamHeaders (claims : AccessTokenClaims) : BTreeMap :=
  match claims.scopes with
  | some (scope :: scopes) =>
    -- a set in lower case, in order
    let set := (∅ : BTreeMap).insertMany ((scope :: scopes).map fun s => (D.toLowercase s, []))
    claims.additionalHeaders.insert "x-scopes".toList (List.intercalate [' '] set.keys)
  | _ => claims.additionalHeaders

def handlePasetoToken (token : List Char) (now : ℕ) : Except StatusCode (ServiceId × BTreeMap) :=
  match validateToken D token now with
  | .error _ => .error .unauthorized
  | .ok claims => .ok (claims.serviceId, claims.upstreamHeaders D)

variable (headers : HeaderMap)

def bearer : Option (List Char) :=
  (headerString headers "Authorization".toList).bind (stripStart "Bearer ".toList)

def validateAuth (credential : Option (List Char)) (db : Db) (now : ℕ) :
    Except StatusCode (ServiceId × BTreeMap) × Db :=
  match credential with
  | none => (.error .unauthorized, db)
  | some token =>
    match AuthToken.parse token with
    | .ok (.legacy legacy) => (handleLegacyToken D legacy db now, db)
    | .ok (.apiKey apiKey) => handleApiKey D apiKey db now
    | .error _ =>
      if accessTokenStart.isPrefixOf token then (handlePasetoToken D token now, db)
      else (.error .unauthorized, db)

def extractAndValidateAuth (db : Db) (now : ℕ) : Except StatusCode (ServiceId × BTreeMap) × Db :=
  validateAuth D (bearer headers) db now

def forbiddenNames : List (List Char) :=
  ["host".toList, "content-length".toList, "transfer-encoding".toList, "connection".toList,
    "upgrade".toList, "proxy-authorization".toList, "proxy-authenticate".toList,
    "x-forwarded-host".toList, "x-real-ip".toList, "x-forwarded-for".toList,
    "x-forwarded-proto".toList, "forwarded".toList]

variable (name : List Char)

def isForbiddenHeader : Bool := forbiddenNames.contains (D.toLowercase name)

def tenantStart : List Char := "x-tenant-".toList

def isAuthHeader : Bool :=
  D.toLowercase name == "authorization".toList || tenantStart.isPrefixOf (D.toLowercase name) ||
    D.toLowercase name == "x-scope".toList || D.toLowercase name == "x-scopes".toList

def grpcRequiredNames : List (List Char) :=
  ["content-type".toList, "te".toList, "grpc-encoding".toList, "grpc-accept-encoding".toList]

def isGrpcRequiredHeader : Bool := grpcRequiredNames.contains (D.toLowercase name)

def isProxyInjectedHeaderAllowed : Bool :=
  tenantStart.isPrefixOf (D.toLowercase name) || D.toLowercase name == "x-scope".toList ||
    D.toLowercase name == "x-scopes".toList || D.toLowercase name == "x-request-id".toList ||
    D.toLowercase name == "x-trace-id".toList || D.toLowercase name == "user-agent".toList ||
    "grpc-".toList.isPrefixOf (D.toLowercase name)

def isBinaryName : Bool := "-bin".toList.isSuffixOf (D.toLowercase name)

def maxBinaryMetadataSize : ℕ := (D.grpcBinaryMetadataMaxSize.bind parseU64).getD 16384

def validateBinaryMetadata (name value : List Char) : Bool :=
  isBinaryName D name && decide (byteLength value ≤ maxBinaryMetadataSize D) &&
    !value.contains '\r' && !value.contains '\n' &&
    value.all fun c => c.isAlphanum || c == '+' || c == '/' || c == '=' || c == '-' || c == '_'

variable (isGrpc : Bool)

def injectedHeader (name value : List Char) : Option (List Char × Bytes) :=
  if isForbiddenHeader D name then none
  else if !isAuthHeader D name || isGrpc && isGrpcRequiredHeader D name ||
      tenantStart.isPrefixOf (D.toLowercase name) || D.toLowercase name == "x-scope".toList ||
      D.toLowercase name == "x-scopes".toList || isGrpc && isProxyInjectedHeaderAllowed D name then
    match headerName name, D.headerValue value with
    | some stored, some bytes =>
      if isGrpc && isBinaryName D name && !validateBinaryMetadata D name value then none
      else if value.contains '\r' || value.contains '\n' then none
      else some (stored, bytes)
    | _, _ => none
  else none

def applyAdditionalHeaders (additional : BTreeMap) (isGrpc : Bool) : HeaderMap :=
  additional.toList.foldl (fun headers e =>
    match injectedHeader D isGrpc e.1 e.2 with
    | some (name, value) => headers.set name value
    | none => headers) headers

def isSanitized (name : List Char) : Bool :=
  (isAuthHeader D name || isForbiddenHeader D name) && !(isGrpc && isGrpcRequiredHeader D name)

def sanitizeRequestHeaders (isGrpc : Bool) : HeaderMap :=
  headers.removeWhere (isSanitized D isGrpc)

structure ClientCertInfo where
  subject : List Char
  issuer : List Char
  serial : List Char

structure ProxyRequest where
  headers : HeaderMap
  http2 : Bool
  clientCert : Option ClientCertInfo
  pathQuery : List Char

structure Forwarded where
  serviceId : ServiceId
  isGrpc : Bool
  target : List Char
  headers : HeaderMap

variable (request : ProxyRequest)

def isGrpcRequest : Bool :=
  let contentType := (headerString request.headers "content-type".toList).map D.toLowercase
  let te := (headerString request.headers "te".toList).map D.toLowercase
  contentType.any "application/grpc".toList.isPrefixOf && te == some "trailers".toList &&
    request.http2

def addCertificate (clientCert : Option ClientCertInfo) (additional : BTreeMap) : BTreeMap :=
  match clientCert with
  | none => additional
  | some cert =>
    (((additional.insert "x-client-cert-subject".toList cert.subject).insert
      "x-client-cert-issuer".toList cert.issuer).insert
      "x-client-cert-serial".toList cert.serial).insert
      "x-auth-method".toList "mtls".toList

def forward (serviceId : ServiceId) (additional : BTreeMap) (db : Db) :
    Except StatusCode Forwarded := do
  let service ← okOr (db.services.lookup serviceId) .notFound
  rejectIf (service.tlsProfile.any TlsProfile.requireClientMtls = true ∧ request.clientCert = none)
    .unauthorized
  let upstream ← okOr (D.parseUri service.upstreamUrl) .internalServerError
  let target ← okOr (D.buildUri (upstream.1.getD "http".toList) (upstream.2.getD "localhost".toList)
    request.pathQuery) .badRequest
  return ⟨serviceId, isGrpc, target,
    applyAdditionalHeaders D (sanitizeRequestHeaders D request.headers isGrpc)
      (addCertificate request.clientCert additional) isGrpc⟩

def proxyWithMtls (db : Db) (now : ℕ) : Except StatusCode Forwarded × Db :=
  match extractAndValidateAuth D request.headers db now with
  | (.error e, db) => (.error e, db)
  | (.ok (serviceId, additional), db) => (forward D isGrpc request serviceId additional db, db)

def grpcProxyWithMtls : ProxyRequest → Db → ℕ → Except StatusCode Forwarded × Db :=
  proxyWithMtls D true

def reverseProxyWithMtls : ProxyRequest → Db → ℕ → Except StatusCode Forwarded × Db :=
  proxyWithMtls D false

def unifiedProxy (db : Db) (now : ℕ) : Except StatusCode Forwarded × Db :=
  if isGrpcRequest D request then grpcProxyWithMtls D request db now
  else reverseProxyWithMtls D request db now

end Gadget.Auth
