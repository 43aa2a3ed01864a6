import Gadget.Rust.HeaderMap

/-!
# Credentials and the database

The records that the authentication proxy stores and the claims of its access tokens, with the
operations on them: services, legacy tokens and API keys.
-/

namespace Gadget.Auth

open Rust

abbrev BTreeMap := Std.ExtTreeMap (List Char) (List Char)

def byteLength (text : List Char) : ℕ := (text.map Char.utf8Size).sum

def splitOnce (separator : Char) (text : List Char) : Option (List Char × List Char) :=
  match text.dropWhile (· ≠ separator) with
  | [] => none
  | _ :: rest => some (text.takeWhile (· ≠ separator), rest)

def stripStart (start text : List Char) : Option (List Char) := List.isPrefixOf? start text

def parseU64 (text : List Char) : Option ℕ := parseUnsigned (2 ^ 64 - 1) (text.map Char.toNat)

structure ServiceId where
  main : ℕ
  sub : ℕ
  deriving DecidableEq

inductive KeyType where
  | unknown
  | ecdsa
  | sr25519
  | bn254Bls
  deriving DecidableEq

def KeyType.code : KeyType → ℤ
  | .unknown => 0
  | .ecdsa => 1
  | .sr25519 => 2
  | .bn254Bls => 3

structure ServiceOwnerModel where
  keyType : ℤ
  keyBytes : Bytes
  deriving DecidableEq

structure TlsProfile where
  requireClientMtls : Bool

structure ServiceModel where
  apiKeyPrefix : List Char
  owners : List ServiceOwnerModel
  upstreamUrl : List Char
  tlsProfile : Option TlsProfile

def ServiceModel.isOwner (service : ServiceModel) (keyType : KeyType) (keyBytes : Bytes) : Bool :=
  service.owners.any fun owner => owner.keyType == keyType.code && owner.keyBytes == keyBytes

structure ApiTokenModel where
  id : ℕ
  token : List Char
  serviceId : ℕ
  subServiceId : ℕ
  expiresAt : ℕ
  isEnabled : Bool
  additionalHeaders : Bytes

structure ApiKeyModel where
  id : ℕ
  keyId : List Char
  keyHash : List Char
  serviceId : ℕ
  subServiceId : ℕ
  createdAt : ℕ
  lastUsed : ℕ
  expiresAt : ℕ
  isEnabled : Bool
  defaultHeaders : Bytes
  description : List Char

structure AccessTokenClaims where
  serviceId : ServiceId
  tenantId : Option (List Char)
  tenantBinding : Option (List Char)
  additionalHeaders : BTreeMap
  expiresAt : ℕ
  issuedAt : ℕ
  keyId : List Char
  jti : List Char
  scopes : Option (List (List Char))

lemma AccessTokenClaims.eq_iff {a b : AccessTokenClaims} :
    ((a.serviceId, a.tenantId, a.tenantBinding, a.scopes) =
        (b.serviceId, b.tenantId, b.tenantBinding, b.scopes) ∧
      (a.expiresAt, a.issuedAt, a.keyId, a.jti) = (b.expiresAt, b.issuedAt, b.keyId, b.jti) ∧
      a.additionalHeaders.toList = b.additionalHeaders.toList) ↔ a = b := by
  constructor
  · intro h
    cases a
    cases b
    simp only [Prod.mk.injEq, Std.ExtTreeMap.toList_inj] at h
    simp [h]
  · intro h
    rw [h]
    exact ⟨rfl, rfl, rfl⟩

instance : DecidableEq AccessTokenClaims := fun _ _ => decidable_of_iff _ AccessTokenClaims.eq_iff

inductive PasetoError where
  | tokenExpired
  | invalidTenantBinding
  | encryptionError (text : String)
  | decryptionError (text : String)
  | serializationError (text : String)
  | deserializationError (text : String)

def accessTokenStart : List Char := "v4.local.".toList

structure AuthDeps where
  keccak256 : List Char → Bytes
  /-- `CUSTOM_ENGINE.encode`. -/
  base64 : Bytes → List Char
  /-- `serde_json::to_vec` of headers. -/
  encodeHeaders : BTreeMap → Bytes
  /-- `serde_json::from_slice` of headers. -/
  decodeHeaders : Bytes → Option BTreeMap
  /-- `str::to_lowercase` of a text with characters outside ASCII. -/
  lowercaseUnicode : List Char → List Char
  /-- `HeaderValue::from_str`. -/
  headerValue : List Char → Option Bytes
  headerValue_visible : ∀ text : List Char, (∀ c ∈ text, 32 ≤ c.toNat ∧ c.toNat < 127) →
    headerValue text = some (text.map asciiByte)
  headerValue_line : ∀ text : List Char, '\r' ∈ text ∨ '\n' ∈ text → headerValue text = none
  /-- `GRPC_BINARY_METADATA_MAX_SIZE`. -/
  grpcBinaryMetadataMaxSize : Option (List Char)
  /-- `parse::<Uri>`: the scheme and the authority. -/
  parseUri : List Char → Option (Option (List Char) × Option (List Char))
  /-- `Uri::builder`, with scheme, authority, and path and query. -/
  buildUri : List Char → List Char → List Char → Option (List Char)
  verifySignature : KeyType → Bytes → Bytes → Bytes → Except String Bool
  sealClaims : AccessTokenClaims → Except PasetoError (List Char)
  openToken : List Char → Except PasetoError AccessTokenClaims
  currentlyValid : ℕ → List Char → Except PasetoError Unit
  openToken_sealClaims : ∀ claims token, sealClaims claims = .ok token → openToken token = .ok claims
  sealClaims_start : ∀ claims token, sealClaims claims = .ok token →
    accessTokenStart.isPrefixOf token = true

abbrev plainAuthDeps : AuthDeps where
  keccak256 _ := []
  base64 bytes := bytes.map fun b => Char.ofNat b.toNat
  encodeHeaders _ := []
  decodeHeaders _ := some ∅
  lowercaseUnicode text := text
  headerValue text :=
    if text.all fun c => decide (32 ≤ c.toNat ∧ c.toNat < 127) then some (text.map asciiByte)
    else none
  headerValue_visible text h := by
    apply if_pos
    rw [List.all_eq_true]
    exact fun c hc => decide_eq_true (h c hc)
  headerValue_line text h := by
    apply if_neg
    rw [List.all_eq_true]
    intro hall
    obtain h | h := h <;> exact absurd (hall _ h) (by decide)
  grpcBinaryMetadataMaxSize := none
  parseUri _ := some (none, none)
  buildUri _ _ path := some path
  verifySignature _ _ _ _ := .ok true
  sealClaims _ := .error (.encryptionError "unavailable")
  openToken _ := .error (.decryptionError "unavailable")
  currentlyValid _ _ := .ok ()
  openToken_sealClaims _ _ h := by cases h
  sealClaims_start _ _ h := by cases h

variable (D : AuthDeps)

def AuthDeps.toLowercase (text : List Char) : List Char :=
  if text.all (·.toNat < 128) then text.map Char.toLower else D.lowercaseUnicode text

structure Db where
  services : HashMap ServiceId ServiceModel
  tokens : HashMap ℕ ApiTokenModel
  apiKeys : HashMap (List Char) ApiKeyModel
  apiKeysById : HashMap ℕ (List Char)
  sequence : ℕ

namespace ApiTokenModel

variable (model : ApiTokenModel)

def validates (plaintext : List Char) : Bool :=
  model.token == D.base64 (D.keccak256 plaintext)

def isExpired (now : ℕ) : Bool :=
  decide (model.expiresAt ≠ 0 ∧ model.expiresAt < now)

def service : ServiceId := ⟨model.serviceId, model.subServiceId⟩

def getAdditionalHeaders : BTreeMap :=
  if model.additionalHeaders = [] then ∅ else (D.decodeHeaders model.additionalHeaders).getD ∅

end ApiTokenModel

namespace ApiKeyModel

def findByKeyId (keyId : List Char) (db : Db) : Option ApiKeyModel := db.apiKeys.lookup keyId

variable (model : ApiKeyModel)

def validatesKey (fullKey : List Char) : Bool :=
  match splitOnce '.' fullKey with
  | some (keyIdPart, _) =>
    keyIdPart == model.keyId && model.keyHash == D.base64 (D.keccak256 fullKey)
  | none => false

def isExpired (now : ℕ) : Bool := decide (model.expiresAt ≤ now)

def getDefaultHeaders : BTreeMap :=
  if model.defaultHeaders = [] then ∅ else (D.decodeHeaders model.defaultHeaders).getD ∅

def service : ServiceId := ⟨model.serviceId, model.subServiceId⟩

variable (db : Db)

def putKey : Db :=
  { db with apiKeys := db.apiKeys.insert model.keyId model }

def putKeyId : Db :=
  { db with apiKeysById := db.apiKeysById.insert model.id model.keyId }

def numbered : ApiKeyModel :=
  { model with id := (db.sequence + 1) % 2 ^ 64 }

def create : Db :=
  (model.numbered db).putKeyId
    ((model.numbered db).putKey { db with sequence := (db.sequence + 1) % 2 ^ 64 })

def save : Db :=
  if model.id = 0 then model.create db else model.putKeyId (model.putKey db)

def updateLastUsed (now : ℕ) (db : Db) : Db :=
  { model with lastUsed := now }.save db

def delete : Db :=
  { db with
    apiKeys := db.apiKeys.erase model.keyId
    apiKeysById := db.apiKeysById.erase model.id }

end ApiKeyModel

namespace AccessTokenClaims

def bindTenant (keyId tenantId : List Char) : List Char :=
  hexEncode (D.keccak256 (keyId ++ "::tenant::".toList ++ tenantId))

def new (serviceId : ServiceId) (keyId : List Char) (ttl : ℕ) (tenantId : Option (List Char))
    (additionalHeaders : BTreeMap) (scopes : Option (List (List Char))) (now : ℕ)
    (jti : List Char) : AccessTokenClaims where
  serviceId := serviceId
  tenantId := tenantId
  tenantBinding := tenantId.map (bindTenant D keyId)
  additionalHeaders := additionalHeaders
  expiresAt := (now + ttl) % 2 ^ 64
  issuedAt := now
  keyId := keyId
  jti := jti
  scopes := scopes

def verifyTenantBinding (claims : AccessTokenClaims) : Bool :=
  match claims.tenantId, claims.tenantBinding with
  | none, none => true
  | some tenantId, some binding => bindTenant D claims.keyId tenantId == binding
  | _, _ => false

def isExpired (claims : AccessTokenClaims) (now : ℕ) : Bool := decide (claims.expiresAt ≤ now)

end AccessTokenClaims

def validateToken (token : List Char) (now : ℕ) : Except PasetoError AccessTokenClaims := do
  D.currentlyValid now token
  let claims ← D.openToken token
  rejectIf (claims.isExpired now = true) .tokenExpired
  rejectIf (claims.verifyTenantBinding D = false) .invalidTenantBinding
  return claims

lemma openToken_of_validateToken {tok : List Char} {now : ℕ} {claims : AccessTokenClaims}
    (h : validateToken D tok now = .ok claims) : D.openToken tok = .ok claims := by
  obtain ⟨u, -, h⟩ := bind_eq_ok.mp h
  obtain ⟨opened, ho, h⟩ := bind_eq_ok.mp h
  obtain ⟨u, -, h⟩ := bind_eq_ok.mp h
  obtain ⟨u, -, h⟩ := bind_eq_ok.mp h
  cases h
  exact ho

end Gadget.Auth
