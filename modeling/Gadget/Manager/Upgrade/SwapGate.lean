import Gadget.Lib.Run
import Gadget.Manager.Upgrade.Watcher

/-!
# What the watcher lets through

Every request to swap a binary should be permitted by the policy that was read for it, and its
target accepted by the attestation gate. The first holds on every path. The second is checked for
`AUTO` and for local authorisations, but not for an acknowledged version under `APPROVE`.
-/

namespace Gadget.Manager

open Rust Lib.Run List

structure Dispatch where
  request : SwapRequest
  policy : Except UpgradeError UpgradePolicy
  acked : Except UpgradeError ℕ
  authz : LocalAuthz

structure WatcherRun where
  watcher : Watcher
  sent : List Dispatch

inductive WatcherEvent where
  | reconcileOne (blueprintId serviceId : ℕ) (env : ReconcileEnv)
  | authorise (serviceId : ℕ) (authz : LocalAuthz)
  | setRunning (serviceId : ℕ) (running : RunningBinary)
  | clearRunning (serviceId : ℕ)
  | takeRequests
  | close

namespace WatcherRun

variable (config : WatcherConfig)

def dispatches (w : Watcher) (blueprintId serviceId : ℕ) (env : ReconcileEnv) : List Dispatch :=
  ((w.reconcileOne config blueprintId serviceId env).2.queue.drop w.queue.length).map fun request =>
    ⟨request, env.serviceUpgradePolicy, env.serviceAckedVersionId,
      LocalAuthzStore.get w.authz serviceId⟩

def step (run : WatcherRun) : WatcherEvent → WatcherRun
  | .reconcileOne blueprintId serviceId env =>
    ⟨(run.watcher.reconcileOne config blueprintId serviceId env).2,
      run.sent ++ dispatches config run.watcher blueprintId serviceId env⟩
  | .authorise serviceId authz =>
    { run with watcher.authz := run.watcher.authz.insert serviceId authz }
  | .setRunning serviceId running =>
    { run with watcher.upgrade := run.watcher.upgrade.setRunning serviceId running }
  | .clearRunning serviceId =>
    { run with watcher.upgrade := run.watcher.upgrade.clearRunning serviceId }
  | .takeRequests => { run with watcher.queue := [] }
  | .close => { run with watcher.closed := true }

end WatcherRun

def Dispatch.Permitted (d : Dispatch) : Prop :=
  let versionId := d.request.target.versionId
  d.policy = .ok .auto ∨
  d.policy = .ok .approve ∧ d.acked = .ok versionId ∨
  d.policy = .ok .manual ∧ (d.authz.pinned = some versionId ∨
      versionId ∈ d.authz.whitelisted ∧ versionId ∉ d.authz.skipped)

def GateAccepts (allowUnchecked : Bool) (target : BinaryVersionInfo) : Prop :=
  target.attestationHash = B256.zero ∨ allowUnchecked = true

namespace WatcherRun

/-- Each dispatch was permitted by its policy, and the gate accepts its target. -/
def Authorised (config : WatcherConfig) (run : WatcherRun) : Prop :=
  ∀ d ∈ run.sent, d.Permitted ∧ GateAccepts config.allowUnchecked d.request.target

/-- No version that the gate refuses is sent because of an acknowledgement: where the policy is
`APPROVE`, the effective version is acknowledged and not running, it can be downloaded, and the
handler is there, the gate accepts it. -/
def AcksGated (config : WatcherConfig) (run : WatcherRun) : WatcherEvent → Prop
  | .reconcileOne blueprintId serviceId env => ∀ target,
      env.serviceUpgradePolicy = .ok .approve →
      env.effectiveBinaryVersion blueprintId = .ok target →
      Watcher.needsSwap (run.watcher.upgrade.running.lookup serviceId) target = true →
      env.serviceAckedVersionId = .ok target.versionId →
      (∃ path, (run.watcher.fetch config blueprintId serviceId target env.network).1 = .ok path) →
      run.watcher.closed = false → GateAccepts config.allowUnchecked target
  | _ => True

end WatcherRun

lemma verifyAttestation_eq_ok {allowUnchecked : Bool} (serviceId : ℕ)
    {version : BinaryVersionInfo} :
    verifyAttestation allowUnchecked serviceId version = .ok () ↔
      GateAccepts allowUnchecked version := by
  unfold verifyAttestation GateAccepts BinaryVersionInfo.hasAttestation
  by_cases hz : version.attestationHash = B256.zero
  · simp [hz]
  · cases allowUnchecked <;> simp [hz]

lemma exists_error_of_not_gateAccepts {allowUnchecked : Bool} (serviceId : ℕ)
    {ver : BinaryVersionInfo} (h : ¬ GateAccepts allowUnchecked ver) :
    ∃ e, verifyAttestation allowUnchecked serviceId ver = .error e := by
  rcases hv : verifyAttestation allowUnchecked serviceId ver with e | u
  · exact ⟨e, rfl⟩
  exact absurd ((verifyAttestation_eq_ok serviceId).mp hv) h

lemma LocalAuthz.decide_eq_swap {authz : LocalAuthz} {vid : ℕ} :
    (∃ clearPinned, authz.decide vid = .swap clearPinned) ↔ authz.pinned = some vid ∨
        vid ∈ authz.whitelisted ∧ vid ∉ authz.skipped := by
  unfold LocalAuthz.decide
  by_cases hpin : authz.pinned = some vid
  · simp [hpin]
  · by_cases hs : vid ∈ authz.skipped
    · simp [hpin, hs]
    · by_cases hw : vid ∈ authz.whitelisted <;> simp [hpin, hs, hw]

namespace Watcher

variable {config : WatcherConfig} {w : Watcher} {blueprintId serviceId : ℕ}
  {target : BinaryVersionInfo} {policy : UpgradePolicy} {running : Option RunningBinary}
  {env : ReconcileEnv} {request : SwapRequest}

lemma target_of_mem_swapRequests
    (h : request ∈ w.swapRequests config blueprintId serviceId target policy running env) :
    request.target = target := by
  unfold swapRequests at h
  split at h
  · cases h
  · split at h
    · cases h
    · rw [mem_singleton.mp h]

lemma swapRequests_ne_nil :
    (∃ request, request ∈ w.swapRequests config blueprintId serviceId target policy running env) ↔
      (∃ path, (w.fetch config blueprintId serviceId target env.network).1 = .ok path) ∧
        w.closed = false := by
  unfold swapRequests
  rcases (w.fetch config blueprintId serviceId target env.network).1 with e | path
  · simp
  cases w.closed <;> simp

def Checked (config : WatcherConfig) (w : Watcher) (serviceId : ℕ) (target : BinaryVersionInfo)
    (env : ReconcileEnv) : UpgradePolicy → Prop
  | .manual =>
    (∃ clearPinned,
      (LocalAuthzStore.get w.authz serviceId).decide target.versionId = .swap clearPinned) ∧
    GateAccepts config.allowUnchecked target
  | .approve => env.serviceAckedVersionId = .ok target.versionId
  | .auto => GateAccepts config.allowUnchecked target

lemma queue_arm (config : WatcherConfig) (w : Watcher) (blueprintId serviceId : ℕ)
    (target : BinaryVersionInfo) (running : Option RunningBinary) (env : ReconcileEnv)
    (policy : UpgradePolicy) :
    ∃ new, (match policy with
        | .manual => w.reconcileManual config blueprintId serviceId target running env
        | .approve => w.reconcileApprove config blueprintId serviceId target running env
        | .auto => w.reconcileAuto config blueprintId serviceId target running env).2.queue
        = w.queue ++ new ∧
      ∀ request, request ∈ new ↔ Checked config w serviceId target env policy ∧
        request ∈ w.swapRequests config blueprintId serviceId target policy running env := by
  cases policy with
  | manual =>
    simp only [reconcileManual, Checked]
    cases hd : (LocalAuthzStore.get w.authz serviceId).decide target.versionId with
    | hold | skip => exact ⟨[], by simp, by simp⟩
    | swap clearPinned =>
      by_cases hg : GateAccepts config.allowUnchecked target
      · rw [(verifyAttestation_eq_ok serviceId).mpr hg]
        refine ⟨w.swapRequests config blueprintId serviceId target .manual running env, ?_,
          by simp [hg]⟩
        rw [← queue_executeSwap]
        cases clearPinned <;> rfl
      · obtain ⟨e, hv⟩ := exists_error_of_not_gateAccepts serviceId hg
        rw [hv]
        exact ⟨[], by simp, by simp [hg]⟩
  | approve =>
    simp only [reconcileApprove, Checked]
    rcases ha : env.serviceAckedVersionId with e | acked
    · exact ⟨[], by simp, by simp⟩
    by_cases heq : acked = target.versionId
    · refine ⟨w.swapRequests config blueprintId serviceId target .approve running env, ?_,
        by simp [heq]⟩
      simp [heq, queue_executeSwap]
    · exact ⟨[], by simp [heq], by simp [heq]⟩
  | auto =>
    simp only [reconcileAuto, Checked]
    by_cases hg : GateAccepts config.allowUnchecked target
    · rw [(verifyAttestation_eq_ok serviceId).mpr hg]
      exact ⟨_, queue_executeSwap config w blueprintId serviceId target .auto running env,
        by simp [hg]⟩
    · obtain ⟨e, hv⟩ := exists_error_of_not_gateAccepts serviceId hg
      rw [hv]
      exact ⟨[], by simp, by simp [hg]⟩

lemma queue_reconcileOne (config : WatcherConfig) (w : Watcher) (blueprintId serviceId : ℕ)
    (env : ReconcileEnv) :
    ∃ new, (w.reconcileOne config blueprintId serviceId env).2.queue = w.queue ++ new ∧
      ∀ request, request ∈ new ↔ ∃ policy target, env.serviceUpgradePolicy = .ok policy ∧
        env.effectiveBinaryVersion blueprintId = .ok target ∧
        needsSwap (w.upgrade.running.lookup serviceId) target = true ∧
        Checked config w serviceId target env policy ∧
        request ∈ w.swapRequests config blueprintId serviceId target policy
          (w.upgrade.running.lookup serviceId) env := by
  unfold reconcileOne
  rcases hpo : env.serviceUpgradePolicy with e | policy
  · exact ⟨[], by simp, by simp⟩
  rcases he : env.effectiveBinaryVersion blueprintId with e | target
  · cases e <;> exact ⟨[], by simp, by simp⟩
  rcases hn : needsSwap (w.upgrade.running.lookup serviceId) target with _ | _
  · refine ⟨[], by simp [hn], ?_⟩
    intro request
    simp [hn]
  obtain ⟨new, hq, hnew⟩ := queue_arm config
    { w with upgrade := w.upgrade.setPolicy serviceId policy } blueprintId serviceId target
    (w.upgrade.running.lookup serviceId) env policy
  refine ⟨new, ?_, ?_⟩
  · simp only [UpgradeState.running_setPolicy, hn, Bool.true_eq_false, if_false]
    exact hq
  · intro request
    rw [hnew]
    constructor
    · exact fun h => ⟨policy, target, rfl, rfl, hn, h.1, h.2⟩
    · rintro ⟨pol', tgt', hp, ht, -, h⟩
      cases hp
      cases ht
      exact h

end Watcher

namespace WatcherRun

variable {config : WatcherConfig} {blueprintId serviceId : ℕ} {env : ReconcileEnv}

lemma mem_dispatches {w : Watcher} {d : Dispatch} :
    d ∈ dispatches config w blueprintId serviceId env ↔ ∃ policy target,
      env.serviceUpgradePolicy = .ok policy ∧
      env.effectiveBinaryVersion blueprintId = .ok target ∧
      Watcher.needsSwap (w.upgrade.running.lookup serviceId) target = true ∧
      Watcher.Checked config w serviceId target env policy ∧
      d.request ∈ w.swapRequests config blueprintId serviceId target policy
        (w.upgrade.running.lookup serviceId) env ∧
      d = ⟨d.request, env.serviceUpgradePolicy, env.serviceAckedVersionId,
        LocalAuthzStore.get w.authz serviceId⟩ := by
  obtain ⟨new, hq, hnew⟩ := w.queue_reconcileOne config blueprintId serviceId env
  unfold dispatches
  rw [hq, drop_left, mem_map]
  constructor
  · rintro ⟨request, hr, rfl⟩
    obtain ⟨policy, target, h⟩ := (hnew request).mp hr
    exact ⟨policy, target, h.1, h.2.1, h.2.2.1, h.2.2.2.1, h.2.2.2.2, rfl⟩
  · rintro ⟨policy, target, hp, ht, hn, hc, hr, hd⟩
    exact ⟨d.request, (hnew d.request).mpr ⟨policy, target, hp, ht, hn, hc, hr⟩, hd.symm⟩

lemma permitted_of_mem_dispatches {w : Watcher} {d : Dispatch}
    (h : d ∈ dispatches config w blueprintId serviceId env) : d.Permitted := by
  obtain ⟨policy, target, hp, -, -, hc, hr, hd⟩ := mem_dispatches.mp h
  have ht : d.request.target = target := Watcher.target_of_mem_swapRequests hr
  rw [hd]
  simp only [Dispatch.Permitted, ht, hp]
  cases policy with
  | auto => exact .inl rfl
  | approve => exact .inr (.inl ⟨rfl, hc⟩)
  | manual => exact .inr (.inr ⟨rfl, LocalAuthz.decide_eq_swap.mp hc.1⟩)

lemma gate_dispatches_iff {run : WatcherRun} :
    (∀ d ∈ dispatches config run.watcher blueprintId serviceId env,
      GateAccepts config.allowUnchecked d.request.target) ↔
    run.AcksGated config (.reconcileOne blueprintId serviceId env) := by
  constructor
  · intro h target hp he hn ha hf ho
    obtain ⟨request, hr⟩ := Watcher.swapRequests_ne_nil.mpr ⟨hf, ho⟩
    have hmem := h ⟨request, env.serviceUpgradePolicy, env.serviceAckedVersionId, _⟩
      (mem_dispatches.mpr ⟨.approve, target, hp, he, hn, ha, hr, rfl⟩)
    rw [Watcher.target_of_mem_swapRequests hr] at hmem
    exact hmem
  · intro h d hd
    obtain ⟨policy, target, hp, he, hn, hc, hr, -⟩ := mem_dispatches.mp hd
    rw [Watcher.target_of_mem_swapRequests hr]
    cases policy with
    | auto => exact hc
    | manual => exact hc.2
    | approve =>
      obtain ⟨hf, ho⟩ := Watcher.swapRequests_ne_nil.mp ⟨d.request, hr⟩
      exact h target hp he hn hc hf ho

lemma authorised_step_iff {run : WatcherRun} (h : run.Authorised config) (e : WatcherEvent) :
    (run.step config e).Authorised config ↔ run.AcksGated config e := by
  cases e with
  | reconcileOne blueprintId serviceId env =>
    rw [← gate_dispatches_iff]
    constructor
    · intro hs d hd
      exact (hs d (mem_append_right _ hd)).2
    · intro hg d hd
      obtain hd | hd := mem_append.mp hd
      · exact h d hd
      · exact ⟨permitted_of_mem_dispatches hd, hg d hd⟩
  | _ => exact iff_of_true h trivial

/-- **What the watcher sends.** In a run from a state in which nothing was sent, all requests are
permitted by the policies that were read for them and accepted by the attestation gate, exactly
when no reconciliation sends an acknowledged version that the gate refuses. -/
theorem always_authorised_iff (config : WatcherConfig) (w : Watcher) (es : List WatcherEvent) :
    Always (step config) (Authorised config) ⟨w, []⟩ es ↔
      Each (step config) (AcksGated config) ⟨w, []⟩ es :=
  always_iff_each (J := fun _ => True) (fun _ _ _ _ => trivial)
    (fun _ e _ h => authorised_step_iff h e) trivial (fun _ hd => absurd hd List.not_mem_nil) es

end WatcherRun

abbrev plainHost : Host where
  Url := List Char
  parseUrl text := .ok text
  urlText url := url
  sha256 bytes := ⟨(bytes ++ List.replicate 32 0).take 32, by simp⟩
  blake3 bytes := ⟨(bytes ++ List.replicate 32 0).take 32, by simp⟩
  decodeManifest _ := .error "expected value at line 1 column 1"
  toLowercase text := text.map Char.toLower
  os := ['l', 'i', 'n', 'u', 'x']
  arch := ['x', '8', '6', '_', '6', '4']
  ipfsGateway := none
  maxArchiveBytes := none
  linkLimit := 41

def serving (bytes : Bytes) : Server := ⟨.ok (), fun _ => .body none [bytes] none⟩

namespace WatcherRun

def strictConfig : WatcherConfig := ⟨plainHost, false, []⟩

def freshWatcher : Watcher := ⟨UpgradeState.new, ∅, ∅, fun _ => none, [], false⟩

def ackedEnv : ReconcileEnv where
  policy := .ok 0
  effective := .ok ⟨1, B256.zero, ⟨List.replicate 32 1, List.length_replicate⟩, 0, false⟩
  uri := .ok ['b']
  acked := .ok 1
  network := ⟨serving [], serving []⟩
  now := 0

theorem acked_swap_passes_gate :
    ((step strictConfig ⟨freshWatcher, []⟩ (.reconcileOne 0 7 ackedEnv)).sent.map fun d =>
      (d.request.serviceId, d.request.target.versionId,
        verifyAttestation strictConfig.allowUnchecked 7 d.request.target))
      = [(7, 1, .error (.attestationFailed 7 1
          ("attestation verification not implemented; pass --allow-unchecked-attestations to "
            ++ "override")))] ∧
    ¬ Always (step strictConfig) (Authorised strictConfig) ⟨freshWatcher, []⟩
      [.reconcileOne 0 7 ackedEnv] := by
  have hs : ((step strictConfig ⟨freshWatcher, []⟩ (.reconcileOne 0 7 ackedEnv)).sent.map
      fun d => (d.request.serviceId, d.request.target.versionId,
        verifyAttestation strictConfig.allowUnchecked 7 d.request.target))
      = [(7, 1, .error (.attestationFailed 7 1
          ("attestation verification not implemented; pass --allow-unchecked-attestations to "
            ++ "override")))] := rfl
  refine ⟨hs, fun h => ?_⟩
  have hl : Authorised strictConfig
      (step strictConfig ⟨freshWatcher, []⟩ (.reconcileOne 0 7 ackedEnv)) := h.last
  obtain ⟨d, hd, hv⟩ := mem_map.mp (hs ▸ mem_singleton_self _)
  have hok := (verifyAttestation_eq_ok 7).mpr (hl d hd).2
  simp [hok] at hv

end WatcherRun

end Gadget.Manager
