import Gadget.Manager.Upgrade.Watcher

/-!
# The event handler

For each block the handler starts and stops services, and then applies the swaps that the watcher
has queued. The watcher runs beside it and shares the record of upgrades, the set of tracked
services and the queue. A process stands for the bytes it was launched from; how a source is
fetched and started is part of what each launch meets.
-/

namespace Gadget.Manager

open Rust List

inductive BlueprintSource where
  | github
  | remote
  | container
  | testing
  deriving DecidableEq

inductive SourceCategory where
  | native
  | container
  | testing
  deriving DecidableEq

inductive SourceType where
  | container
  | native
  | wasm
  deriving DecidableEq

inductive ConfidentialityPolicy where
  | any
  | teeRequired
  | standardRequired
  | teePreferred
  deriving DecidableEq

def sourceCategory : BlueprintSource → SourceCategory
  | .github => .native
  | .remote => .native
  | .container => .container
  | .testing => .testing

def sourcePriority (source : BlueprintSource) : SourceType → ℕ
  | .container =>
    match sourceCategory source with
    | .container => 0
    | .native => 1
    | .testing => 2
  | _ =>
    match sourceCategory source with
    | .native => 0
    | .container => 1
    | .testing => 2

def supportsTee (source : BlueprintSource) : Bool := decide (source = .container)

def orderedSourceIndices (sources : List BlueprintSource) (preferred : SourceType)
    (policy : ConfidentialityPolicy) : List ℕ :=
  let indexed := (sources.zipIdx.filter fun (source, _) =>
      decide (policy ≠ .teeRequired) || supportsTee source).map fun (source, idx) =>
    let priority :=
      if policy = .teePreferred then
        if sourceCategory source = .container then 0 else sourcePriority source preferred + 1
      else sourcePriority source preferred
    (idx, priority)
  (indexed.insertionSort fun a b => a.2 < b.2 ∨ a.2 = b.2 ∧ a.1 ≤ b.1).map Prod.fst

/-- `BlueprintMetadata`, without what only goes into the environment of the process. -/
structure BlueprintMetadata where
  blueprintId : ℕ
  serviceId : ℕ
  sources : List BlueprintSource
  confidentialityPolicy : ConfidentialityPolicy

inductive Attempt where
  | spawnFailed (e : ManagerError)
  | startFailed (e : ManagerError)
  | unhealthy (e : ManagerError)
  | running (bytes : Bytes)

structure LaunchEnv where
  preferredSource : SourceType
  directories : Except ManagerError Unit
  attempt : ℕ → Attempt
  cargoBin : Option Attempt
  chain : ReconcileEnv

def trySources (attempt : ℕ → Attempt) :
    List ℕ → Option ManagerError → Except ManagerError (Bytes ⊕ Option ManagerError)
  | [], lastErr => .ok (.inr lastErr)
  | idx :: rest, _ =>
    match attempt idx with
    | .running bytes => .ok (.inl bytes)
    | .startFailed e => .error e
    | .spawnFailed e => trySources attempt rest (some e)
    | .unhealthy e => trySources attempt rest (some e)

def launch (metadata : BlueprintMetadata) (env : LaunchEnv) : Except ManagerError Bytes := do
  rejectIf (metadata.sources = []) ManagerError.noFetchers
  env.directories
  let ordered := orderedSourceIndices metadata.sources env.preferredSource
    metadata.confidentialityPolicy
  rejectIf (metadata.confidentialityPolicy = .teeRequired ∧ ordered = [])
    (.teeRuntimeUnavailable "Blueprint requires TEE execution but exposes no container source")
  match ← trySources env.attempt ordered none with
  | .inl bytes => return bytes
  | .inr lastErr =>
    if env.preferredSource = .native ∧ metadata.confidentialityPolicy ≠ .teeRequired then
      match env.cargoBin with
      | some (.running bytes) => return bytes
      | some (.startFailed e) => throw e
      | some (.spawnFailed e) => throw e
      | some (.unhealthy e) => throw e
      | none => throw (lastErr.getD .noFetchers)
    else throw (lastErr.getD .noFetchers)

structure Process where
  bytes : Bytes

structure EventHandler where
  active : HashMap (ℕ × ℕ) Process
  watcher : Watcher

namespace EventHandler

variable (m : EventHandler)

def onServiceStarted (blueprintId serviceId : ℕ) (chain : ReconcileEnv) : EventHandler :=
  let w := { m.watcher with tracked := insert (blueprintId, serviceId) m.watcher.tracked }
  let w :=
    match chain.effectiveBinaryVersion blueprintId with
    | .ok version =>
      { w with upgrade := w.upgrade.setRunning serviceId ⟨version.versionId, version.sha256⟩ }
    | .error _ => w
  { m with
    watcher :=
      match chain.serviceUpgradePolicy with
      | .ok policy => { w with upgrade := w.upgrade.setPolicy serviceId policy }
      | .error _ => w }

section

variable (m : EventHandler) (blueprintId serviceId : ℕ) (chain : ReconcileEnv)

@[simp] lemma active_onServiceStarted :
    (m.onServiceStarted blueprintId serviceId chain).active = m.active := rfl

@[simp] lemma tracked_onServiceStarted :
    (m.onServiceStarted blueprintId serviceId chain).watcher.tracked
      = insert (blueprintId, serviceId) m.watcher.tracked := by
  unfold onServiceStarted
  cases chain.effectiveBinaryVersion blueprintId <;> cases chain.serviceUpgradePolicy <;> rfl

@[simp] lemma history_onServiceStarted :
    (m.onServiceStarted blueprintId serviceId chain).watcher.upgrade.history
      = m.watcher.upgrade.history := by
  unfold onServiceStarted
  cases chain.effectiveBinaryVersion blueprintId <;> cases chain.serviceUpgradePolicy <;> rfl

lemma running_onServiceStarted :
    (m.onServiceStarted blueprintId serviceId chain).watcher.upgrade.running =
      match chain.effectiveBinaryVersion blueprintId with
      | .ok version => m.watcher.upgrade.running.insert serviceId ⟨version.versionId, version.sha256⟩
      | .error _ => m.watcher.upgrade.running := by
  unfold onServiceStarted
  cases chain.effectiveBinaryVersion blueprintId <;> cases chain.serviceUpgradePolicy <;> rfl

end

def onServiceStopped (blueprintId serviceId : ℕ) : EventHandler :=
  { m with
    watcher := { m.watcher with
      tracked := m.watcher.tracked.erase (blueprintId, serviceId)
      upgrade := m.watcher.upgrade.clearRunning serviceId } }

def ensureServiceRunning (metadata : BlueprintMetadata) (env : LaunchEnv) :
    Except ManagerError Unit × EventHandler :=
  let key := (metadata.blueprintId, metadata.serviceId)
  if key ∈ m.active then (.ok (), m)
  else
    match launch metadata env with
    | .error e => (.error e, m)
    | .ok bytes =>
      (.ok (), { m with active := m.active.insert key ⟨bytes⟩ }.onServiceStarted metadata.blueprintId
        metadata.serviceId env.chain)

/-- `stop_service`; a service that does not shut down is still forgotten by the handler, but not
by the watcher. -/
def stopService (blueprintId serviceId : ℕ) (shutdown : Except ManagerError Unit) :
    Except ManagerError Unit × EventHandler :=
  let key := (blueprintId, serviceId)
  if key ∈ m.active then
    let m := { m with active := m.active.erase key }
    match shutdown with
    | .error e => (.error e, m)
    | .ok () => (.ok (), m.onServiceStopped blueprintId serviceId)
  else (.ok (), m.onServiceStopped blueprintId serviceId)

def applySwap (request : SwapRequest) (now : ℤ) : EventHandler :=
  let key := (request.blueprintId, request.serviceId)
  if key ∈ m.active then
    { active := m.active.erase key
      watcher := { m.watcher with
        upgrade :=
          ((m.watcher.upgrade.setRunning request.serviceId
            ⟨request.target.versionId, request.target.sha256⟩).clearPending
              request.serviceId).pushHistory
            (historyEntry request.blueprintId request.serviceId request.previous request.target
              request.policy .swapped now) } }
  else m

inductive BlockLog where
  | serviceActivated (serviceId : ℕ) (metadata : Except ManagerError (Option BlueprintMetadata))
      (env : LaunchEnv)
  | serviceTerminated (serviceId : ℕ) (blueprintId : Except String ℕ)
      (shutdown : Except ManagerError Unit)
  | operatorPreRegistered (blueprintId : ℕ)
      (metadata : Except ManagerError (Option BlueprintMetadata)) (env : LaunchEnv)
  | other

def handleLog : BlockLog → Except ManagerError Unit × EventHandler
  | .serviceActivated _ metadata env =>
    match metadata with
    | .error e => (.error e, m)
    | .ok none => (.ok (), m)
    -- a service that cannot be started is only logged
    | .ok (some metadata) => (.ok (), (m.ensureServiceRunning metadata env).2)
  | .serviceTerminated serviceId blueprintId shutdown =>
    match blueprintId with
    | .error _ => (.ok (), m)
    | .ok blueprintId => m.stopService blueprintId serviceId shutdown
  | .operatorPreRegistered _ metadata env =>
    match metadata with
    | .error e => (.error e, m)
    | .ok none => (.ok (), m)
    | .ok (some metadata) => m.ensureServiceRunning metadata env
  | .other => (.ok (), m)

def handleLogs : EventHandler → List BlockLog → Except ManagerError Unit × EventHandler
  | m, [] => (.ok (), m)
  | m, log :: logs =>
    match m.handleLog log with
    | (.error e, m) => (.error e, m)
    | (.ok (), m) => handleLogs m logs

def applyNext (now : ℤ) : EventHandler :=
  match m.watcher.queue with
  | [] => m
  | request :: queue => { m with watcher := { m.watcher with queue := queue } }.applySwap request now

def drainPendingSwaps : ℕ → EventHandler → ℤ → EventHandler
  | 0, m, _ => m
  | left + 1, m, now => drainPendingSwaps left (m.applyNext now) now

def handleEvent (logs : List BlockLog) (now : ℤ) : Except ManagerError Unit × EventHandler :=
  match m.handleLogs logs with
  | (.error e, m) => (.error e, m)
  | (.ok (), m) => (.ok (), drainPendingSwaps m.watcher.queue.length m now)

inductive HandlerEvent where
  | log (log : BlockLog)
  | applyNext (now : ℤ)
  | reconcileOne (blueprintId serviceId : ℕ) (env : ReconcileEnv)
  | discover (metadata : BlueprintMetadata) (env : LaunchEnv)
  | authorise (serviceId : ℕ) (authz : LocalAuthz)

def step (config : WatcherConfig) (m : EventHandler) : HandlerEvent → EventHandler
  | .log log => (m.handleLog log).2
  | .applyNext now => m.applyNext now
  | .reconcileOne blueprintId serviceId env =>
    { m with watcher := (m.watcher.reconcileOne config blueprintId serviceId env).2 }
  | .discover metadata env => (m.ensureServiceRunning metadata env).2
  | .authorise serviceId authz =>
    { m with watcher := { m.watcher with authz := m.watcher.authz.insert serviceId authz } }

theorem exists_events_handleEvent (cfg : WatcherConfig) (m : EventHandler) (logs : List BlockLog)
    (now : ℤ) :
    ∃ handled swaps, handled <+: logs ∧ (m.handleEvent logs now).2 =
        (handled.map HandlerEvent.log ++ List.replicate swaps (HandlerEvent.applyNext now)).foldl
          (step cfg) m := by
  have hl : ∀ m : EventHandler, ∃ handled, handled <+: logs ∧
      (m.handleLogs logs).2 = (handled.map HandlerEvent.log).foldl (step cfg) m := by
    induction logs with
    | nil => exact fun m => ⟨[], nil_prefix, rfl⟩
    | cons log logs ih =>
      intro m
      rcases hlog : m.handleLog log with ⟨result, m'⟩
      have hs : step cfg m (.log log) = m' := by rw [step, hlog]
      rcases result with e | u
      · refine ⟨[log], ⟨logs, rfl⟩, ?_⟩
        simp [handleLogs, hlog, hs]
      obtain ⟨handled, hh, heq⟩ := ih m'
      refine ⟨log :: handled, cons_prefix_cons.mpr ⟨rfl, hh⟩, ?_⟩
      simp [handleLogs, hlog, hs, heq]
  have hd : ∀ (left : ℕ) (m : EventHandler), drainPendingSwaps left m now =
      (replicate left (HandlerEvent.applyNext now)).foldl (step cfg) m := by
    intro left
    induction left with
    | zero => exact fun m => rfl
    | succ left ih => exact fun m => ih (m.applyNext now)
  obtain ⟨handled, hh, heq⟩ := hl m
  unfold handleEvent
  rcases hm : m.handleLogs logs with ⟨result, m'⟩
  rw [hm] at heq
  rcases result with e | u
  · exact ⟨handled, 0, hh, by simpa using heq⟩
  refine ⟨handled, m'.watcher.queue.length, hh, ?_⟩
  rw [foldl_append, ← heq, ← hd]

end EventHandler

end Gadget.Manager
