import Gadget.Manager.Upgrade.Swap

/-!
# The upgrade watcher

On each signal the watcher resolves the chain for the services it tracks, and sends a request to
swap a binary where the policy of the service, the local authorisation record and the attestation
gate allow it. What the chain answers and how the servers behave is part of each reconciliation.
-/

namespace Gadget.Manager

open Rust

structure LocalAuthz where
  whitelisted : Finset ℕ
  pinned : Option ℕ
  skipped : HashMap ℕ String

def LocalAuthz.default : LocalAuthz := ⟨∅, none, ∅⟩

inductive AuthzDecision where
  | hold
  | swap (clearPinned : Bool)
  | skip
  deriving DecidableEq

def LocalAuthz.decide (authz : LocalAuthz) (versionId : ℕ) : AuthzDecision :=
  if authz.pinned = some versionId then .swap true
  else if versionId ∈ authz.skipped then .skip
  else if versionId ∈ authz.whitelisted then .swap false
  else .hold

abbrev LocalAuthzStore := HashMap ℕ LocalAuthz

def LocalAuthzStore.get (store : LocalAuthzStore) (serviceId : ℕ) : LocalAuthz :=
  (store.lookup serviceId).getD LocalAuthz.default

def LocalAuthzStore.consumePinIf (store : LocalAuthzStore) (serviceId versionId : ℕ) :
    LocalAuthzStore :=
  let authz := LocalAuthzStore.get store serviceId
  store.insert serviceId
    (if authz.pinned = some versionId then { authz with pinned := none } else authz)

def verifyAttestation (allowUnchecked : Bool) (serviceId : ℕ) (version : BinaryVersionInfo) :
    Except UpgradeError Unit :=
  if version.hasAttestation = false then .ok ()
  else if allowUnchecked then .ok ()
  else .error (.attestationFailed serviceId version.versionId
    ("attestation verification not implemented; pass --allow-unchecked-attestations to "
      ++ "override"))

inductive CallError where
  | versionNotFound
  | other (text : String)

structure VersionRow where
  versionId : ℕ
  sha256 : B256
  attestationHash : B256
  publishedAt : ℕ
  deprecated : Bool

structure ReconcileEnv where
  policy : Except String ℕ
  effective : Except CallError VersionRow
  uri : Except UpgradeError (List Char)
  acked : Except String ℕ
  network : Network
  now : ℤ

namespace ReconcileEnv

variable (env : ReconcileEnv)

def serviceUpgradePolicy : Except UpgradeError UpgradePolicy :=
  match env.policy with
  | .ok raw => .ok (UpgradePolicy.fromU8 raw)
  | .error e => .error (.chainRead ("getServiceUpgradePolicy: " ++ e))

def effectiveBinaryVersion (blueprintId : ℕ) : Except UpgradeError BinaryVersionInfo :=
  match env.effective with
  | .ok row => env.uri.map fun uri =>
      ⟨row.versionId, row.sha256, uri, row.attestationHash, row.publishedAt, row.deprecated⟩
  | .error .versionNotFound => .error (.noVersionsPublished blueprintId)
  | .error (.other e) => .error (.chainRead ("effectiveBinaryVersion: " ++ e))

def serviceAckedVersionId : Except UpgradeError ℕ :=
  env.acked.mapError fun e => .chainRead ("getServiceAckedVersionId: " ++ e)

end ReconcileEnv

structure SwapRequest where
  serviceId : ℕ
  blueprintId : ℕ
  target : BinaryVersionInfo
  binaryPath : Path
  policy : UpgradePolicy
  previous : Option RunningBinary

structure WatcherConfig where
  host : Host
  /-- `--allow-unchecked-attestations`. -/
  allowUnchecked : Bool
  cacheRoot : Path

def WatcherConfig.cacheDir (config : WatcherConfig) (blueprintId serviceId : ℕ) : Path :=
  config.cacheRoot ++ ['/', 's', 'v', 'c', '-'] ++ Nat.toDigits 10 blueprintId ++ ['-']
    ++ Nat.toDigits 10 serviceId

structure Watcher where
  upgrade : UpgradeState
  authz : LocalAuthzStore
  tracked : Finset (ℕ × ℕ)
  files : Files
  queue : List SwapRequest
  closed : Bool

namespace Watcher

def recordPending (w : Watcher) (blueprintId serviceId : ℕ) (target : BinaryVersionInfo)
    (policy : UpgradePolicy) (running : Option RunningBinary) (now : ℤ) : Watcher :=
  { w with
    upgrade := w.upgrade.recordPending
      { serviceId := serviceId
        blueprintId := blueprintId
        currentVersionId := running.map (·.versionId)
        currentSha256 := running.map (·.sha256)
        availableVersionId := target.versionId
        availableSha256 := target.sha256
        availableUri := target.binaryUri
        availableAttestationHash := target.attestationHash
        policy := policy
        detectedAt := now } }

def holdBack (w : Watcher) (blueprintId serviceId : ℕ) (target : BinaryVersionInfo)
    (policy : UpgradePolicy) (running : Option RunningBinary) (now : ℤ) : Watcher :=
  { w with
    upgrade := w.upgrade.pushHistory
      (historyEntry blueprintId serviceId running target policy .attestationFailed now) }.recordPending
    blueprintId serviceId target policy running now

def downloadOutcome : UpgradeError → UpgradeOutcome
  | .sha256Mismatch _ _ _ _ => .sha256Mismatch
  | _ => .downloadFailed

section

variable (config : WatcherConfig)

variable (w : Watcher) (blueprintId : ℕ) (order : IterOrder (ℕ × ℕ)) (blueprints : Finset ℕ)
  (serviceId : ℕ) (target : BinaryVersionInfo) (running : Option RunningBinary)
  (policy : UpgradePolicy) (env : ReconcileEnv)

def fetch (network : Network) : Except UpgradeError Path × Files :=
  downloadAndVerify config.host serviceId (config.cacheDir blueprintId serviceId) target network
    w.files

def executeSwap (running : Option RunningBinary) (env : ReconcileEnv) :
    Except UpgradeError Unit × Watcher :=
  match w.fetch config blueprintId serviceId target env.network with
  | (.error e, files) =>
    (.error e,
      { w with
        files := files
        upgrade := w.upgrade.pushHistory
          (historyEntry blueprintId serviceId running target policy (downloadOutcome e) env.now) })
  | (.ok binaryPath, files) =>
    if w.closed then (.ok (), { w with files := files })
    else
      (.ok (),
        { w with
          files := files
          queue := w.queue ++ [⟨serviceId, blueprintId, target, binaryPath, policy, running⟩] })

def needsSwap (target : BinaryVersionInfo) : Bool :=
  match running with
  | some r => decide (r.sha256 ≠ target.sha256)
  | none => true

def reconcileManual : Except UpgradeError Unit × Watcher :=
  match (LocalAuthzStore.get w.authz serviceId).decide target.versionId with
  | .swap clearPinned =>
    match verifyAttestation config.allowUnchecked serviceId target with
    | .error _ => (.ok (), w.holdBack blueprintId serviceId target .manual running env.now)
    | .ok () =>
      let (result, w) := w.executeSwap config blueprintId serviceId target .manual running env
      -- the pin is consumed also when the swap could not be sent
      (result, if clearPinned then
          { w with authz := LocalAuthzStore.consumePinIf w.authz serviceId target.versionId }
        else w)
  | .skip => (.ok (), { w with upgrade := w.upgrade.clearPending serviceId })
  | .hold => (.ok (), w.recordPending blueprintId serviceId target .manual running env.now)

def reconcileApprove : Except UpgradeError Unit × Watcher :=
  match env.serviceAckedVersionId with
  | .error e => (.error e, w)
  | .ok acked =>
    if acked = target.versionId then
      w.executeSwap config blueprintId serviceId target .approve running env
    else (.ok (), w.recordPending blueprintId serviceId target .approve running env.now)

def reconcileAuto : Except UpgradeError Unit × Watcher :=
  match verifyAttestation config.allowUnchecked serviceId target with
  | .error _ => (.ok (), w.holdBack blueprintId serviceId target .auto running env.now)
  | .ok () => w.executeSwap config blueprintId serviceId target .auto running env

def reconcileOne : Except UpgradeError Unit × Watcher :=
  match env.serviceUpgradePolicy with
  | .error e => (.error e, w)
  | .ok policy =>
    let w := { w with upgrade := w.upgrade.setPolicy serviceId policy }
    match env.effectiveBinaryVersion blueprintId with
    | .error (.noVersionsPublished _) => (.ok (), w)
    | .error e => (.error e, w)
    | .ok target =>
      let running := w.upgrade.running.lookup serviceId
      if needsSwap running target = false then
        (.ok (), { w with upgrade := w.upgrade.clearPending serviceId })
      else
        match policy with
        | .manual => w.reconcileManual config blueprintId serviceId target running env
        | .approve => w.reconcileApprove config blueprintId serviceId target running env
        | .auto => w.reconcileAuto config blueprintId serviceId target running env

def concerned : List (ℕ × ℕ) :=
  (order.toList w.tracked).filter fun service =>
    decide (blueprints = ∅ ∨ service.1 ∈ blueprints)

def reconcile (env : ℕ × ℕ → ReconcileEnv) : Watcher :=
  (w.concerned order blueprints).foldl
    (fun w service => (w.reconcileOne config service.1 service.2 (env service)).2) w

def swapRequests (running : Option RunningBinary) (env : ReconcileEnv) : List SwapRequest :=
  match (w.fetch config blueprintId serviceId target env.network).1 with
  | .error _ => []
  | .ok binaryPath =>
    if w.closed then [] else [⟨serviceId, blueprintId, target, binaryPath, policy, running⟩]

end

section

variable (config : WatcherConfig) (w : Watcher) (blueprintId serviceId : ℕ)
  (target : BinaryVersionInfo) (policy : UpgradePolicy) (running : Option RunningBinary)
  (env : ReconcileEnv)

lemma queue_executeSwap :
    (w.executeSwap config blueprintId serviceId target policy running env).2.queue =
      w.queue ++ w.swapRequests config blueprintId serviceId target policy running env := by
  unfold executeSwap swapRequests
  rcases hf : w.fetch config blueprintId serviceId target env.network with ⟨result, files⟩
  rcases result with e | binaryPath
  · simp
  cases w.closed <;> simp

@[simp] lemma queue_holdBack (now : ℤ) :
    (w.holdBack blueprintId serviceId target policy running now).queue = w.queue := rfl

@[simp] lemma queue_recordPending (now : ℤ) :
    (w.recordPending blueprintId serviceId target policy running now).queue = w.queue := rfl

structure Keeps (w w' : Watcher) : Prop where
  running : w'.upgrade.running = w.upgrade.running
  tracked : w'.tracked = w.tracked
  history : ∀ entry, w'.upgrade.history.getLast? = some entry → entry.outcome = .swapped →
    w.upgrade.history.getLast? = some entry

lemma Keeps.refl : Keeps w w := ⟨rfl, rfl, fun _ h _ => h⟩

lemma Keeps.trans {w w' w'' : Watcher} (h : Keeps w w') (h' : Keeps w' w'') : Keeps w w'' :=
  ⟨h'.running.trans h.running, h'.tracked.trans h.tracked,
    fun entry hl hs => h.history entry (h'.history entry hl hs) hs⟩

lemma keeps_pushHistory (files : Files) (entry : UpgradeHistoryEntry)
    (he : entry.outcome ≠ .swapped) :
    Keeps w { w with files := files, upgrade := w.upgrade.pushHistory entry } := by
  refine ⟨rfl, rfl, fun e hl hs => ?_⟩
  simp only [UpgradeState.pushHistory, List.getLast?_append, List.getLast?_singleton,
    Option.some_or, Option.some.injEq] at hl
  exact absurd (hl ▸ hs) he

lemma keeps_holdBack (now : ℤ) :
    Keeps w (w.holdBack blueprintId serviceId target policy running now) := by
  have hp := w.keeps_pushHistory w.files
    (historyEntry blueprintId serviceId running target policy .attestationFailed now) (by simp [historyEntry])
  exact ⟨hp.running, hp.tracked, hp.history⟩

lemma keeps_executeSwap :
    Keeps w (w.executeSwap config blueprintId serviceId target policy running env).2 := by
  unfold executeSwap
  split
  · rename_i e files _
    apply keeps_pushHistory
    cases e <;> simp [historyEntry, downloadOutcome]
  · split <;> exact ⟨rfl, rfl, fun _ h _ => h⟩

lemma keeps_arm (policy : UpgradePolicy) : Keeps w (match policy with
        | .manual => w.reconcileManual config blueprintId serviceId target running env
        | .approve => w.reconcileApprove config blueprintId serviceId target running env
        | .auto => w.reconcileAuto config blueprintId serviceId target running env).2 := by
  cases policy with
  | manual =>
    simp only [reconcileManual]
    split
    · split
      · exact w.keeps_holdBack ..
      · have hs := w.keeps_executeSwap config blueprintId serviceId target .manual running env
        split <;> exact ⟨hs.running, hs.tracked, hs.history⟩
    · exact ⟨rfl, rfl, fun _ h _ => h⟩
    · exact ⟨rfl, rfl, fun _ h _ => h⟩
  | approve =>
    simp only [reconcileApprove]
    split
    · exact Keeps.refl w
    · split
      · exact w.keeps_executeSwap ..
      · exact ⟨rfl, rfl, fun _ h _ => h⟩
  | auto =>
    simp only [reconcileAuto]
    split
    · exact w.keeps_holdBack ..
    · exact w.keeps_executeSwap ..

lemma keeps_reconcileOne : Keeps w (w.reconcileOne config blueprintId serviceId env).2 := by
  unfold reconcileOne
  split
  · exact Keeps.refl w
  rename_i policy _
  have hp : Keeps w { w with upgrade := w.upgrade.setPolicy serviceId policy } :=
    ⟨rfl, rfl, fun _ h _ => h⟩
  refine hp.trans ?_
  simp only
  split
  · exact Keeps.refl _
  · exact Keeps.refl _
  · split
    · exact ⟨rfl, rfl, fun _ h _ => h⟩
    · exact keeps_arm ..

end

end Watcher

end Gadget.Manager
