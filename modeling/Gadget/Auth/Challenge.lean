import Gadget.Auth.Proxy
import Gadget.Lib.Run

/-!
# Challenges

A client asks for a challenge with `auth_challenge`, signs it and gets an API key for it from
`auth_verify`. A challenge should be used once, until it expires, and only by the key it was
issued for. `auth_verify` does not know the challenges that were issued: it accepts every value
with a valid signature.
-/

namespace Gadget.Auth

open Rust Lib.Run

variable (D : AuthDeps)

structure ChallengeRequest where
  pubKey : Bytes
  keyType : KeyType
  deriving DecidableEq

structure ChallengeResponse where
  challenge : Bytes
  expiresAt : ℕ

structure VerifyChallengeRequest where
  challengeRequest : ChallengeRequest
  challenge : Bytes
  signature : Bytes
  expiresAt : ℕ
  additionalHeaders : BTreeMap

inductive VerifyChallengeResponse where
  | verified (apiKey : List Char) (expiresAt : ℕ)
  | expired
  | invalidSignature
  | serviceNotFound
  | unauthorized
  | unexpectedError (message : String)
  deriving DecidableEq

def authChallenge (serviceId : ServiceId) (request : ChallengeRequest) (random : Bytes) (now : ℕ)
    (db : Db) : Except StatusCode ChallengeResponse := do
  let service ← okOr (db.services.lookup serviceId) .notFound
  rejectIf (service.isOwner request.keyType request.pubKey = false) .unauthorized
  return ⟨random, now + 30⟩

def verifyChallenge (challenge signature pubKey : Bytes) : KeyType → Except String Bool
  | .unknown => .error "Unknown key type"
  | keyType => D.verifySignature keyType challenge signature pubKey

structure GeneratedApiKey where
  keyId : List Char
  fullKey : List Char
  serviceId : ServiceId
  expiresAt : ℕ
  defaultHeaders : BTreeMap

def generateKey (start : List Char) (serviceId : ServiceId) (expiresAt : ℕ)
    (defaultHeaders : BTreeMap) (secret : Bytes) : GeneratedApiKey :=
  let keyId := start ++ D.base64 (secret.take 8)
  ⟨keyId, keyId ++ '.' :: D.base64 (secret.drop 8), serviceId, expiresAt, defaultHeaders⟩

def GeneratedApiKey.toModel (key : GeneratedApiKey) (now : ℕ) : ApiKeyModel where
  id := 0
  keyId := key.keyId
  keyHash := D.base64 (D.keccak256 key.fullKey)
  serviceId := key.serviceId.main
  subServiceId := key.serviceId.sub
  createdAt := now
  lastUsed := 0
  expiresAt := key.expiresAt
  isEnabled := true
  defaultHeaders := D.encodeHeaders key.defaultHeaders
  description := []

def authVerify (serviceId : ServiceId) (payload : VerifyChallengeRequest) (secret : Bytes)
    (write : Except String Unit) (now : ℕ) (db : Db) :
    (StatusCode × VerifyChallengeResponse) × Db :=
  match db.services.lookup serviceId with
  | none => ((.notFound, .unexpectedError "Service not found"), db)
  | some service =>
    if service.isOwner payload.challengeRequest.keyType payload.challengeRequest.pubKey then
      match verifyChallenge D payload.challenge payload.signature payload.challengeRequest.pubKey
          payload.challengeRequest.keyType with
      | .ok true =>
        match validateHeaders D payload.additionalHeaders with
        | .error e => ((.badRequest, .unexpectedError ("Invalid headers: " ++ e.display)), db)
        | .ok validated =>
          let expiresAt := max payload.expiresAt (now + 90 * 24 * 60 * 60)
          let key := generateKey D service.apiKeyPrefix serviceId expiresAt
            (processHeadersWithPiiProtection D validated) secret
          match write with
          | .error e =>
            ((.internalServerError, .unexpectedError ("Internal server error: " ++ e)), db)
          | .ok () => ((.created, .verified key.fullKey expiresAt), (key.toModel D now).save db)
      | .ok false => ((.unauthorized, .invalidSignature), db)
      | .error e => ((.internalServerError, .unexpectedError ("Internal server error: " ++ e)), db)
    else ((.unauthorized, .unauthorized), db)

structure Passes (db : Db) (serviceId : ServiceId) (payload : VerifyChallengeRequest)
    (write : Except String Unit) : Prop where
  owner : ∃ service, db.services.lookup serviceId = some service ∧
    service.isOwner payload.challengeRequest.keyType payload.challengeRequest.pubKey = true
  signature : verifyChallenge D payload.challenge payload.signature payload.challengeRequest.pubKey
    payload.challengeRequest.keyType = .ok true
  headers : ∃ validated, validateHeaders D payload.additionalHeaders = .ok validated
  stored : write = .ok ()

structure Issue where
  serviceId : ServiceId
  request : ChallengeRequest
  challenge : Bytes
  expiresAt : ℕ
  deriving DecidableEq

structure Use where
  serviceId : ServiceId
  request : ChallengeRequest
  challenge : Bytes
  now : ℕ
  apiKey : List Char
  deriving DecidableEq

inductive AuthEntry where
  | issued (issue : Issue)
  | verified (use : Use)
  deriving DecidableEq

def Issue.Grants (issue : Issue) (use : Use) : Prop :=
  issue.serviceId = use.serviceId ∧ issue.request = use.request ∧
    issue.challenge = use.challenge ∧ use.now ≤ issue.expiresAt

structure Use.FreshAfter (use : Use) (earlier : List AuthEntry) : Prop where
  granted : ∃ issue, .issued issue ∈ earlier ∧ issue.Grants use
  first : ∀ other, .verified other ∈ earlier →
    ¬ (other.serviceId = use.serviceId ∧ other.challenge = use.challenge)

def Fresh : List AuthEntry → Prop
  | [] => True
  | .issued _ :: earlier => Fresh earlier
  | .verified use :: earlier => use.FreshAfter earlier ∧ Fresh earlier

structure AuthRun where
  db : Db
  history : List AuthEntry

inductive AuthEvent where
  | challenge (serviceId : ServiceId) (request : ChallengeRequest) (random : Bytes) (now : ℕ)
  | verify (serviceId : ServiceId) (payload : VerifyChallengeRequest) (secret : Bytes)
      (write : Except String Unit) (now : ℕ)
  | saveService (serviceId : ServiceId) (service : ServiceModel)
  | deleteService (serviceId : ServiceId)

namespace AuthRun

variable (run : AuthRun)

def step : AuthEvent → AuthRun
  | .challenge serviceId request random now =>
    match authChallenge serviceId request random now run.db with
    | .error _ => run
    | .ok response =>
      { run with history :=
          .issued ⟨serviceId, request, response.challenge, response.expiresAt⟩ :: run.history }
  | .verify serviceId payload secret write now =>
    match authVerify D serviceId payload secret write now run.db with
    | ((_, .verified apiKey _), db) =>
      ⟨db, .verified ⟨serviceId, payload.challengeRequest, payload.challenge, now, apiKey⟩
        :: run.history⟩
    | (_, db) => { run with db := db }
  | .saveService serviceId service =>
    { run with db := { run.db with services := run.db.services.insert serviceId service } }
  | .deleteService serviceId =>
    { run with db := { run.db with services := run.db.services.erase serviceId } }

def AllFresh : Prop := Fresh run.history

/-- A request that passes carries a challenge that was issued to its key, has not expired and was
not used before. -/
def UsesFresh : AuthEvent → Prop
  | .verify serviceId payload _ write now => Passes D run.db serviceId payload write →
      ∀ apiKey, Use.FreshAfter
        ⟨serviceId, payload.challengeRequest, payload.challenge, now, apiKey⟩ run.history
  | _ => True

end AuthRun

variable {D}

variable {serviceId : ServiceId} {write : Except String Unit}

lemma authVerify_verified {db : Db} {pl : VerifyChallengeRequest}
    (h : Passes D db serviceId pl write) (sec : Bytes) (now : ℕ) :
    ∃ status apiKey expiresAt db', authVerify D serviceId pl sec write now db
        = ((status, .verified apiKey expiresAt), db') := by
  rcases h with ⟨⟨service, hse, ho⟩, hs, ⟨vld, hv⟩, hw⟩
  unfold authVerify
  simp only [hse, ho, if_true, hs, hv, hw]
  exact ⟨_, _, _, _, rfl⟩

lemma passes_of_verified {db db' : Db} {payload : VerifyChallengeRequest} {sec : Bytes}
    {now exp : ℕ} {status : StatusCode} {apiKey : List Char}
    (h : authVerify D serviceId payload sec write now db
      = ((status, .verified apiKey exp), db')) : Passes D db serviceId payload write := by
  unfold authVerify at h
  rcases hs : db.services.lookup serviceId with _ | service
  · simp [hs] at h
  simp only [hs] at h
  split at h
  · rename_i ho
    split at h
    · rename_i hsi
      split at h
      · simp at h
      rename_i vld hv
      split at h
      · simp at h
      · exact ⟨⟨service, hs, ho⟩, hsi, ⟨vld, hv⟩, rfl⟩
    · simp at h
    · simp at h
  · simp at h

namespace AuthRun

lemma allFresh_step_iff {run : AuthRun} (h : run.AllFresh) (e : AuthEvent) :
    (run.step D e).AllFresh ↔ run.UsesFresh D e := by
  cases e with
  | challenge serviceId req random now =>
    refine iff_of_true ?_ trivial
    simp only [step]
    split <;> exact h
  | saveService | deleteService => exact iff_of_true h trivial
  | verify serviceId pl sec write now =>
    by_cases hpa : Passes D run.db serviceId pl write
    · rcases authVerify_verified hpa sec now with ⟨status, apiKey, exp, db', ha⟩
      have hs : (run.step D (.verify serviceId pl sec write now)).history
          = .verified ⟨serviceId, pl.challengeRequest, pl.challenge, now, apiKey⟩
            :: run.history := by
        simp [step, ha]
      rw [AllFresh, hs]
      constructor
      · intro hf _ key'
        exact ⟨hf.1.granted, hf.1.first⟩
      · intro hu
        exact ⟨hu hpa apiKey, h⟩
    · have hs : (run.step D (.verify serviceId pl sec write now)).history = run.history := by
        simp only [step]
        split
        · rename_i ha
          exact absurd (passes_of_verified ha) hpa
        · rfl
      rw [AllFresh, hs]
      exact iff_of_true h fun hp => absurd hp hpa

/-- **Fresh challenges.** In a run of the endpoints every challenge is used once, in time and by the
key it was issued for, exactly when the requests that pass the checks of owner, signature and
headers carry such challenges: the endpoint itself adds nothing. -/
theorem always_fresh_iff (db : Db) (es : List AuthEvent) : Always (step D) AllFresh ⟨db, []⟩ es ↔
      Each (step D) (UsesFresh D) ⟨db, []⟩ es := by
  have hs : (AuthRun.mk db []).AllFresh := trivial
  exact always_iff_each (I := AllFresh) (C := UsesFresh D) (J := fun _ => True)
    (fun _ _ _ _ => trivial) (fun _ e _ h => allFresh_step_iff h e) trivial hs es

def ownedDb : Db where
  services := (∅ : HashMap ServiceId ServiceModel).insert ⟨1, 0⟩ ⟨[], [⟨1, [1]⟩], [], none⟩
  tokens := ∅
  apiKeys := ∅
  apiKeysById := ∅
  sequence := 0

def recordedAnswer : VerifyChallengeRequest := ⟨⟨[1], .ecdsa⟩, [7], [], 0, ∅⟩

def replayRun : List AuthEvent :=
  [.challenge ⟨1, 0⟩ ⟨[1], .ecdsa⟩ [7] 0, .verify ⟨1, 0⟩ recordedAnswer [65] (.ok ()) 0,
    .verify ⟨1, 0⟩ recordedAnswer [66] (.ok ()) 1000]

theorem replayed_answer_gets_key : (replayRun.foldl (step plainAuthDeps) ⟨ownedDb, []⟩).history
      = [.verified ⟨⟨1, 0⟩, ⟨[1], .ecdsa⟩, [7], 1000, ['B', '.']⟩,
        .verified ⟨⟨1, 0⟩, ⟨[1], .ecdsa⟩, [7], 0, ['A', '.']⟩,
        .issued ⟨⟨1, 0⟩, ⟨[1], .ecdsa⟩, [7], 30⟩] ∧
    ¬ Always (step plainAuthDeps) AllFresh ⟨ownedDb, []⟩ replayRun := by
  have hh : (replayRun.foldl (step plainAuthDeps) ⟨ownedDb, []⟩).history
      = [.verified ⟨⟨1, 0⟩, ⟨[1], .ecdsa⟩, [7], 1000, ['B', '.']⟩,
        .verified ⟨⟨1, 0⟩, ⟨[1], .ecdsa⟩, [7], 0, ['A', '.']⟩,
        .issued ⟨⟨1, 0⟩, ⟨[1], .ecdsa⟩, [7], 30⟩] := by decide +kernel
  refine ⟨hh, fun h => ?_⟩
  have hl := h.last
  rw [AllFresh, hh] at hl
  exact hl.1.first _ List.mem_cons_self ⟨rfl, rfl⟩

end AuthRun

end Gadget.Auth
