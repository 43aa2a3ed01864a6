import Gadget.Runner.MainLoop
import Gadget.TangleExtra.Producer

/-!
# Jobs that run as functions

A call for a registered job is sent to an executor instead of the router. The function behind the
executor runs the handler and answers with the body of its result, which is all that a
`FaasResponse` has room for.
-/

namespace Gadget.Runner

open Rust Gadget.Core TangleExtra

variable {ε : Type}

def JobId.ofU32 (value : UInt32) : JobId := ⟨0, 0, 0, value.toUInt64⟩

structure FaasPayload where
  jobId : UInt32
  args : Bytes

structure FaasResponse where
  result : Bytes

def FaasPayload.ofJobCall (call : JobCall) : FaasPayload := ⟨call.jobId.toU32, call.body⟩

def FaasResponse.ofJobResult : JobResult → FaasResponse
  | .ok _ body => ⟨body⟩
  | .err _ => ⟨[]⟩

def FaasResponse.toJobResult (response : FaasResponse) : JobResult := .ok ∅ response.result

def executorFor (handler : FaasPayload → Except ε JobResult) : Executor ε :=
  fun call => (handler (.ofJobCall call)).map fun result => (FaasResponse.ofJobResult result).toJobResult

def runLocally (handler : FaasPayload → Except ε JobResult) : JobCall → Except ε (Option JobResult) :=
  TangleSubmissionService.call fun call => (handler (.ofJobCall call)).map some

/-- A call goes to the executor that is registered under its id, the result has the identifiers of a
local run, and no error becomes a result. -/
structure Transparent (r : FinalizedBlueprintRunner ε) (handler : FaasPayload → Except ε JobResult)
    (call : JobCall) : Prop where
  routed : ∀ executor, r.workerFor call = .faas executor ↔
    ∃ n, r.faasRegistry.lookup n = some executor ∧ call.jobId = JobId.ofU32 n
  identified : ∀ metadata body own ownBody, executorFor handler call = .ok (.ok metadata body) →
    runLocally handler call = .ok (some (.ok own ownBody)) →
    metadata.lookup callIdKey = own.lookup callIdKey ∧
      metadata.lookup serviceIdKey = own.lookup serviceIdKey
  honest : ∀ metadata body, executorFor handler call = .ok (.ok metadata body) →
    ∃ own ownBody, handler (.ofJobCall call) = .ok (.ok own ownBody)

/-- The id is no wider than a `u32` if its low bits are registered, the handler returns no error, and
where it returns a result the call has not both identifiers. -/
structure Plain (r : FinalizedBlueprintRunner ε) (handler : FaasPayload → Except ε JobResult)
    (call : JobCall) : Prop where
  narrow : ∀ executor, r.faasRegistry.lookup call.jobId.toU32 = some executor →
    call.jobId = JobId.ofU32 call.jobId.toU32
  noError : ∀ e, handler (.ofJobCall call) ≠ .ok (.err e)
  anonymous : ∀ metadata body callId serviceId, handler (.ofJobCall call) = .ok (.ok metadata body) →
    CallId.tryFrom call = .ok callId → ServiceId.tryFrom call ≠ .ok serviceId

section

variable {r : FinalizedBlueprintRunner ε} {handler : FaasPayload → Except ε JobResult} {call : JobCall}

lemma JobId.toU32_ofU32 (n : UInt32) : (JobId.ofU32 n).toU32 = n := by
  simp [JobId.toU32, JobId.ofU32]

lemma workerFor_eq_faas {executor : Executor ε} : r.workerFor call = .faas executor ↔
    r.faasRegistry.lookup call.jobId.toU32 = some executor := by
  unfold FinalizedBlueprintRunner.workerFor
  split <;> simp_all

lemma routed_iff_narrow :
    (∀ executor, r.workerFor call = .faas executor ↔
      ∃ n, r.faasRegistry.lookup n = some executor ∧ call.jobId = JobId.ofU32 n) ↔
    ∀ executor, r.faasRegistry.lookup call.jobId.toU32 = some executor →
      call.jobId = JobId.ofU32 call.jobId.toU32 := by
  constructor
  · intro h executor hex
    obtain ⟨n, -, hn⟩ := (h executor).mp (workerFor_eq_faas.mpr hex)
    rw [hn, JobId.toU32_ofU32]
  · intro h executor
    rw [workerFor_eq_faas]
    constructor
    · intro hex
      exact ⟨_, hex, h executor hex⟩
    · rintro ⟨n, hex, hn⟩
      rwa [hn, JobId.toU32_ofU32]

lemma executorFor_eq_ok {metadata : MetadataMap} {body : Bytes} :
    executorFor handler call = .ok (.ok metadata body) ↔
      ∃ result, handler (.ofJobCall call) = .ok result ∧ metadata = ∅ ∧
        body = (FaasResponse.ofJobResult result).result := by
  unfold executorFor FaasResponse.toJobResult
  rcases handler (.ofJobCall call) with e | result
  · simp [Except.map]
  · simp [Except.map, eq_comm]

lemma runLocally_eq_ok {own : MetadataMap} {body : Bytes} :
    runLocally handler call = .ok (some (.ok own body)) ↔
      ∃ metadata callId serviceId, handler (.ofJobCall call) = .ok (.ok metadata body) ∧
        CallId.tryFrom call = .ok callId ∧ ServiceId.tryFrom call = .ok serviceId ∧
        own = (metadata.insert callIdKey (MetadataValue.ofU64 callId)).insert serviceIdKey
          (MetadataValue.ofU64 serviceId) := by
  unfold runLocally TangleSubmissionService.call
  rcases CallId.tryFrom call with e | callId
  · simp
  rcases ServiceId.tryFrom call with e | serviceId
  · simp
  rcases hh : handler (.ofJobCall call) with e | ⟨metadata, body'⟩ | e
  · simp [hh, Except.map]
  · simp [hh, Except.map, eq_comm, and_comm]
  · simp [hh, Except.map]

end

/-- **Offloading is transparent** for exactly these calls: the id must not be cut off, and a result comes back without
its identifiers and an error as an empty result. -/
theorem transparent_iff_plain (r : FinalizedBlueprintRunner ε) (handler : FaasPayload → Except ε JobResult)
    (call : JobCall) : Transparent r handler call ↔ Plain r handler call := by
  constructor
  · intro h
    refine ⟨routed_iff_narrow.mp h.routed, fun e he => ?_, fun metadata body callId serviceId hr hc hs => ?_⟩
    · obtain ⟨own, body, ho⟩ := h.honest ∅ [] (executorFor_eq_ok.mpr ⟨_, he, rfl, rfl⟩)
      rw [ho] at he
      cases he
    · obtain ⟨hid, -⟩ := h.identified ∅ body _ body (executorFor_eq_ok.mpr ⟨_, hr, rfl, rfl⟩)
        (runLocally_eq_ok.mpr ⟨metadata, callId, serviceId, hr, hc, hs, rfl⟩)
      have hne : callIdKey ≠ serviceIdKey := by decide
      rw [HashMap.lookup_insert_eq, if_neg hne, HashMap.lookup_insert_eq, if_pos rfl] at hid
      cases hid
  · intro h
    refine ⟨routed_iff_narrow.mpr h.narrow, fun metadata body own ownBody _ hl => ?_, fun metadata body hr => ?_⟩
    · obtain ⟨md, callId, serviceId, hr, hc, hs, -⟩ := runLocally_eq_ok.mp hl
      exact absurd hs (h.anonymous md ownBody callId serviceId hr hc)
    · obtain ⟨result, hr, -⟩ := executorFor_eq_ok.mp hr
      rcases result with ⟨md, own⟩ | e
      · exact ⟨md, own, hr⟩
      · exact absurd hr (h.noError e)

abbrev tangleCall (jobId : JobId) : JobCall :=
  ⟨jobId, ((∅ : MetadataMap).insert callIdKey (MetadataValue.ofU64 3)).insert serviceIdKey
    (MetadataValue.ofU64 7), []⟩

abbrev oneFunction (handler : FaasPayload → Except String JobResult) : FinalizedBlueprintRunner String where
  producers := 1
  consumers := 1
  backgroundServices := 0
  router := Routing.Router.new
  faasRegistry := (∅ : HashMap UInt32 (Executor String)).insert 1 (executorFor handler)
  shutdownHandler := none

/-- A result of job 1 has no identifiers, an error of job 1 arrives as an empty result, and a call
of the job `2 ^ 64 + 1` is taken for one of job 1. -/
theorem offloading_shows :
    ¬ Transparent (oneFunction fun _ => .ok (.ok ∅ [5])) (fun _ => .ok (.ok ∅ [5])) (tangleCall ⟨0, 0, 0, 1⟩) ∧
    ¬ Transparent (oneFunction fun _ => .ok (.err "failed")) (fun _ => .ok (.err "failed")) (tangleCall ⟨0, 0, 0, 1⟩) ∧
    ¬ Transparent (oneFunction fun _ => .error "timeout") (fun _ => .error "timeout") (tangleCall ⟨0, 0, 1, 1⟩) := by
  refine ⟨fun h => ?_, fun h => ?_, fun h => ?_⟩
  · obtain ⟨hid, -⟩ := h.identified ∅ [5] _ [5] rfl rfl
    cases hid
  · obtain ⟨own, body, ho⟩ := h.honest ∅ [] rfl
    cases ho
  · obtain ⟨n, -, hn⟩ := (h.routed _).mp rfl
    cases hn

end Gadget.Runner
