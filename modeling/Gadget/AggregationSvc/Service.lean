import Gadget.AggregationSvc.State
import Gadget.Lib.BufferedStore
import Gadget.Lib.Program

/-!
# The aggregation service

`AggregationService`: every call that changes something holds `mutation_lock` from its first
to its last step. In between, each critical section of the task map and each call of the
persistence backend is one atomic step. A call first takes a snapshot, changes the tasks in
memory, writes the change to the backend, and rolls both back when that fails.
-/

namespace Gadget.AggregationSvc

open Rust Lib.Program Lib.BufferedStore

inductive ServiceError where
  | taskNotFound
  | taskAlreadyExists
  | taskExpired
  | invalidSignature
  | invalidPublicKey
  | verificationFailed
  | outputMismatch
  | aggregationFailed (message : String)
  | other (message : String)

structure ServiceConfig where
  verifyOnSubmit : Bool
  validateOutput : Bool
  submittedTaskRetention : ℕ

def ServiceConfig.default : ServiceConfig where
  verifyOnSubmit := true
  validateOutput := true
  submittedTaskRetention := 120 * 10 ^ 9

structure Service (B : Bn254) where
  tasks : Tasks B
  backend : Buffered TaskId PersistedTaskState

structure StepEnv where
  snapshot : SnapshotEnv
  now : ℤ
  now' : ℤ
  nowOf : TaskId → ℤ
  backend : Answer TaskId PersistenceError

structure SubmitSignatureRequest where
  serviceId : ℕ
  callId : ℕ
  operatorIndex : U32
  output : Bytes
  signature : Bytes
  publicKey : Bytes

def SubmitSignatureRequest.taskId (req : SubmitSignatureRequest) : TaskId :=
  ⟨req.serviceId, req.callId⟩

structure SubmitSignatureResponse where
  accepted : Bool
  signaturesCollected : ℕ
  thresholdRequired : ℕ
  thresholdMet : Bool
  error : Option String

structure AggregatedResultResponse where
  serviceId : ℕ
  callId : ℕ
  output : Bytes
  signerBitmap : BitVec 256
  nonSignerIndices : List ℕ
  aggregatedSignature : Bytes
  aggregatedPubkey : Bytes

inductive CleanupKind where
  | all
  | expired
  | submitted

variable {B : Bn254}

def Bn254.verifyWith (B : Bn254) (scheme : Bn254SignatureScheme)
    (publicKey : B.PublicKey) (message : Bytes) (signature : B.Signature) : Bool :=
  match scheme with
  | .arkworksSha256 => B.verify publicKey message signature
  | .tangleKeccak256 => B.verifyTangle publicKey message signature

abbrev ServiceProg (B : Bn254) := Prog StepEnv (Service B)

abbrev ServiceM (B : Bn254) := ExceptT (Fault ServiceError) (ServiceProg B)

namespace Service

def persistenceError (error : PersistenceError) : Fault ServiceError :=
  .err (.other ("persistence error: " ++ error.display))

def snapshot : ServiceM B (List PersistedTaskState) :=
  ExceptT.mk (ask fun w s => (s.tasks.snapshot w.snapshot).mapError persistenceError)

def saveTask (task : PersistedTaskState) : ServiceProg B (Except PersistenceError Unit) :=
  atomic fun w s => (w.backend.result,
    { s with backend := s.backend.save task.taskId task w.backend })

variable (taskId : TaskId)

def deleteTask : ServiceProg B (Except PersistenceError Unit) :=
  atomic fun w s => (w.backend.result, { s with backend := s.backend.delete taskId w.backend })

def flush : ServiceProg B (Except PersistenceError Unit) :=
  atomic fun w s => (w.backend.result, { s with backend := s.backend.flush w.backend })

def orPersistenceError (call : ServiceProg B (Except PersistenceError Unit)) : ServiceM B Unit :=
  ExceptT.mk do
    let result ← call
    return result.mapError persistenceError

def change {α : Type} (f : StepEnv → Tasks B → Outcome ServiceError α × Tasks B) : ServiceM B α :=
  ExceptT.mk (atomic fun w s => ((f w s.tasks).1, { s with tasks := (f w s.tasks).2 }))

def other {α : Type} : Outcome String α → Outcome ServiceError α :=
  Except.mapError fun fault =>
    match fault with
    | .err e => .err (.other e)
    | .panicked message => .panicked message

def otherError {α : Type} : Except String α → Outcome ServiceError α :=
  Except.mapError fun e => .err (.other e)

def persistTask : ServiceM B Unit := do
  let tasks ← snapshot
  match tasks.find? (fun task => task.taskId = taskId) with
  | none => throw (.err .taskNotFound)
  | some task => do
    orPersistenceError (saveTask task)
    orPersistenceError flush

variable (before : List PersistedTaskState)

def restorePersistedTask (taskId : TaskId) :
    ServiceProg B Unit := do
  let result ←
    (match before.find? (fun task => task.taskId = taskId) with
    | some task => saveTask task
    | none => deleteTask taskId)
  -- errors of a rollback are logged; without the record there is nothing to flush
  match result with
  | .error _ => return ()
  | .ok _ => do
    let _ ← flush
    return ()

def saveTasks : List PersistedTaskState → ServiceProg B Unit
  | [] => return ()
  | task :: tasks => do
    let _ ← saveTask task
    saveTasks tasks

def restorePersistedTasks (tasks : List PersistedTaskState) : ServiceProg B Unit := do
  saveTasks tasks
  let _ ← flush
  return ()

def restoreSnapshot (snapshot : List PersistedTaskState) : ServiceProg B Unit :=
  atomic fun w s => ((), { s with tasks := (s.tasks.restore snapshot w.snapshot).2 })

def persistOrRollback (taskId : TaskId) : ServiceM B Unit :=
  ExceptT.mk do
    match ← (persistTask taskId).run with
    | .ok _ => return .ok ()
    | .error error => do
      restorePersistedTask before taskId
      restoreSnapshot before
      return .error error

def initTaskWithMessageConfig (a : InitArgs) : ServiceM B Unit := do
  let before ← snapshot
  change fun w tasks => ((other (tasks.initTaskWithMessageConfig a w.now).1),
    (tasks.initTaskWithMessageConfig a w.now).2)
  persistOrRollback before a.taskId

variable (config : ServiceConfig)

variable (kind : CleanupKind) (req : SubmitSignatureRequest)

def checkOutput : ServiceM B Unit :=
  if config.validateOutput then
    ExceptT.mk (ask fun _ s =>
      match s.tasks.getTaskOutput req.taskId with
      | none => .error (.err .taskNotFound)
      | some expectedOutput =>
        if req.output ≠ expectedOutput then .error (.err .outputMismatch) else .ok ())
  else return ()

def checkSignature (signature : B.Signature) (publicKey : B.PublicKey) : ServiceM B Unit :=
  if config.verifyOnSubmit then
    ExceptT.mk (ask fun _ s =>
      match s.tasks.getTaskSignatureContext req.taskId with
      | none => .error (.err .taskNotFound)
      | some (message, signatureScheme) =>
        if B.verifyWith signatureScheme publicKey message signature then .ok ()
        else .error (.err .verificationFailed))
  else return ()

def requireStatus : ServiceM B TaskStatus :=
  ExceptT.mk (ask fun w s =>
    match s.tasks.getStatus taskId w.now w.now' with
    | none => .error (.err .taskNotFound)
    | some status => if status.isExpired then .error (.err .taskExpired) else .ok status)

def parsePoint {α : Type} (point : Except String α) (error : ServiceError) : ServiceM B α :=
  match point with
  | .ok p => return p
  | .error _ => throw (.err error)

def submitSignature (req : SubmitSignatureRequest) :
    ServiceM B SubmitSignatureResponse := do
  let before ← snapshot
  checkOutput config req
  let signature ← parsePoint (B.deserializeSignature req.signature) .invalidSignature
  let publicKey ← parsePoint (B.deserializePublicKey req.publicKey) .invalidPublicKey
  checkSignature config req signature publicKey
  -- the threshold of the response is read before the signature is added
  let status ← requireStatus req.taskId
  let (count, thresholdMet) ← change fun w tasks =>
    let result :=
      tasks.submitSignature req.taskId req.operatorIndex signature publicKey w.now w.now'
    (otherError result.1, result.2)
  persistOrRollback before req.taskId
  return {
    accepted := true
    signaturesCollected := count
    thresholdRequired := status.thresholdRequired
    thresholdMet := thresholdMet
    error := none }

def markSubmitted : ServiceM B Unit := do
  let before ← snapshot
  change fun w tasks =>
    let result := tasks.markSubmitted taskId w.now
    (otherError result.1, result.2)
  persistOrRollback before taskId

def removeTask : ServiceProg B Bool := do
  match ← snapshot.run with
  | .error _ => return false
  | .ok before => do
    let found ← ask fun w s => (s.tasks.getStatus taskId w.now w.now').isSome
    if !found then return false
    else
      match ← deleteTask taskId with
      | .error _ => do
        restorePersistedTask before taskId
        return false
      | .ok _ => do
        match ← flush with
        | .error _ => do
          restorePersistedTask before taskId
          return false
        | .ok _ =>
          -- from here on nothing can fail
          atomic fun _ s =>
            ((s.tasks.removeTask taskId).1, { s with tasks := (s.tasks.removeTask taskId).2 })

def cleanupTasks (tasks : Tasks B) (now : TaskId → ℤ) : ℕ × Tasks B :=
  match kind with
  | .all => tasks.cleanupWithSubmittedRetention config.submittedTaskRetention now
  | .expired => tasks.cleanupExpired now
  | .submitted => tasks.cleanupSubmittedAfter config.submittedTaskRetention now

def deleteTasks (before done : List PersistedTaskState) :
    List PersistedTaskState → ServiceProg B (Outcome ServiceError Unit)
  | [] => return .ok ()
  | task :: tasks => do
    match ← deleteTask task.taskId with
    | .ok _ => deleteTasks before (done ++ [task]) tasks
    | .error error => do
      restorePersistedTasks (done ++ [task])
      restoreSnapshot before
      return .error (persistenceError error)

def persistCleanup (before removedTasks : List PersistedTaskState) : ServiceM B Unit := do
  ExceptT.mk (deleteTasks before [] removedTasks)
  ExceptT.mk do
    match ← flush with
    | .ok _ => return .ok ()
    | .error error => do
      restorePersistedTasks removedTasks
      restoreSnapshot before
      return .error (persistenceError error)

def removedSince : ServiceM B (List PersistedTaskState) :=
  ExceptT.mk do
    match ← snapshot.run with
    | .error error => do
      restoreSnapshot before
      return .error error
    | .ok after =>
      let remaining := (after.map PersistedTaskState.taskId).toFinset
      return .ok (before.filter fun task => task.taskId ∉ remaining)

def cleanupWithPersistence : ServiceM B ℕ := do
  let before ← snapshot
  let removed ← change fun w tasks =>
    let result := cleanupTasks config kind tasks w.nowOf
    (.ok result.1, result.2)
  -- with nothing removed the backend is not called
  if removed = 0 then return 0
  else do
    let removedTasks ← removedSince before
    persistCleanup before removedTasks
    return removed

def cleanup : ServiceProg B ℕ := do
  match ← (cleanupWithPersistence config kind).run with
  | .ok removed => return removed
  | .error _ => return 0

def getAggregatedResult (s : Service B) (taskId : TaskId) (now : ℤ) :
    Option AggregatedResultResponse :=
  match s.tasks.getForAggregation taskId now with
  | none => none
  | some task =>
    match B.aggregate task.signatures task.publicKeys with
    | .error _ => none
    | .ok (aggSig, aggPk) =>
      match B.serializeSignature aggSig, B.serializePublicKey aggPk with
      | .ok sigBytes, .ok pkBytes =>
        some
          { serviceId := task.serviceId
            callId := task.callId
            output := task.output
            signerBitmap := task.signerBitmap
            nonSignerIndices := task.nonSignerIndices
            aggregatedSignature := sigBytes
            aggregatedPubkey := pkBytes }
      | _, _ => none

inductive Call where
  | init (a : InitArgs)
  | submit (req : SubmitSignatureRequest)
  | mark (taskId : TaskId)
  | remove (taskId : TaskId)
  | clean (kind : CleanupKind)

inductive Reply where
  | initialized (result : Outcome ServiceError Unit)
  | submitted (result : Outcome ServiceError SubmitSignatureResponse)
  | marked (result : Outcome ServiceError Unit)
  | removed (result : Bool)
  | cleaned (count : ℕ)

def Reply.failed : Reply → Bool
  | .initialized result => !result.toBool
  | .submitted result => !result.toBool
  | .marked result => !result.toBool
  | .removed result => !result
  | .cleaned count => count = 0

def Call.code (B : Bn254) (config : ServiceConfig) : Call → ServiceProg B Reply
  | .init a => do return .initialized (← (initTaskWithMessageConfig a).run)
  | .submit req => do return .submitted (← (submitSignature config req).run)
  | .mark taskId => do return .marked (← (markSubmitted taskId).run)
  | .remove taskId => do return .removed (← removeTask taskId)
  | .clean kind => do return .cleaned (← cleanup config kind)

def new : Service B := ⟨∅, ⟨∅, ∅⟩⟩

def withPersistence (stored : HashMap TaskId PersistedTaskState) (env : SnapshotEnv) :
    Except (Fault ServiceError) (Service B) :=
  let persisted := (env.tasks.entries stored).map Prod.snd
  match Tasks.restore (∅ : Tasks B) persisted env with
  | (.error error, _) => .error (persistenceError error)
  | (.ok _, tasks) => .ok ⟨tasks, ⟨stored, stored⟩⟩

noncomputable def calm : StepEnv where
  snapshot := ⟨.alone ⟨1, 1⟩, .alone 0, fun _ => ⟨.zero, .zero, .zero, .zero⟩⟩
  now := 0
  now' := 0
  nowOf _ := 0
  backend := ⟨.ok (), true, fun _ => true⟩

def lasting (ttl : ℕ) : InitArgs where
  serviceId := 1
  callId := 1
  output := []
  message := []
  signatureScheme := .arkworksSha256
  operatorCount := 1
  config := { thresholdType := .count 1, operatorStakes := none, ttl := some ttl }

end Service

end Gadget.AggregationSvc
