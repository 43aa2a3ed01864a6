import Gadget.Manager.Tangle.EventHandler
import Gadget.Manager.Upgrade.SwapGate

/-!
# What is recorded as running

The record of running versions should say what the processes are: a version that is recorded for a
service was verified and is what one of its processes was launched from. The record is set when a
service is started, from the chain and not from what was launched, and when a swap is applied,
which stops the old process and starts none.
-/

namespace Gadget.Manager

open Rust Lib.Run Finmap

namespace EventHandler

variable (host : Host)

variable (serviceId : ℕ) (m : EventHandler)

def Runs (serviceId : ℕ) (sha : B256) : Prop :=
  ∃ blueprintId process, m.active.lookup (blueprintId, serviceId) = some process ∧
    Pinned host sha process.bytes

/-- What is recorded for a service is what runs, a swap that was just recorded has taken place,
and a service that is tracked is not stopped. -/
structure RecordTrue (host : Host) (serviceId : ℕ) (m : EventHandler) : Prop where
  record : ∀ r, m.watcher.upgrade.running.lookup serviceId = some r → m.Runs host serviceId r.sha256
  swapped : ∀ entry, m.watcher.upgrade.history.getLast? = some entry →
    entry.serviceId = serviceId → entry.outcome = .swapped → m.Runs host serviceId entry.toSha256
  alive : ∀ blueprintId, (blueprintId, serviceId) ∈ m.watcher.tracked →
    (blueprintId, serviceId) ∈ m.active

def StartTrue (metadata : BlueprintMetadata) (env : LaunchEnv) : Prop :=
  metadata.serviceId = serviceId → (metadata.blueprintId, serviceId) ∉ m.active →
    ∀ bytes version, launch metadata env = .ok bytes →
      env.chain.effectiveBinaryVersion metadata.blueprintId = .ok version →
      Pinned host version.sha256 bytes ∨ m.Runs host serviceId version.sha256

def RecordedTruly : HandlerEvent → Prop
  | .log (.serviceActivated _ (.ok (some metadata)) env) => m.StartTrue host serviceId metadata env
  | .log (.operatorPreRegistered _ (.ok (some metadata)) env) =>
    m.StartTrue host serviceId metadata env
  | .discover metadata env => m.StartTrue host serviceId metadata env
  | .applyNext _ => ∀ request, m.watcher.queue.head? = some request →
      request.serviceId = serviceId → (request.blueprintId, serviceId) ∉ m.active
  | _ => True

def HandlerEvent.Terminates : HandlerEvent → Prop
  | .log (.serviceTerminated terminated _ _) => terminated = serviceId
  | _ => False

abbrev Untouched := {e : HandlerEvent // ¬ e.Terminates serviceId}

def ActiveTracked : Prop := ∀ key, key ∈ m.active → key ∈ m.watcher.tracked

variable {host : Host} {serviceId : ℕ} {m m' : EventHandler}

section

variable (h : m.RecordTrue host serviceId)

include h

lemma RecordTrue.of_frame (ha : ∀ bid,
      m'.active.lookup (bid, serviceId) = m.active.lookup (bid, serviceId))
    (hru : m'.watcher.upgrade.running.lookup serviceId = m.watcher.upgrade.running.lookup serviceId)
    (ht : ∀ bid, (bid, serviceId) ∈ m'.watcher.tracked → (bid, serviceId) ∈ m.watcher.tracked)
    (hh : ∀ entry, m'.watcher.upgrade.history.getLast? = some entry →
      entry.serviceId = serviceId → entry.outcome = .swapped →
      m.watcher.upgrade.history.getLast? = some entry) : m'.RecordTrue host serviceId := by
  have hrs : ∀ sha, m.Runs host serviceId sha → m'.Runs host serviceId sha := by
    rintro sha ⟨bid, proc, hl, hp⟩
    exact ⟨bid, proc, by rw [ha, hl], hp⟩
  refine ⟨?_, ?_, ?_⟩
  · intro r hr
    rw [hru] at hr
    exact hrs _ (h.record r hr)
  · intro entry hla hs hsw
    exact hrs _ (h.swapped entry (hh entry hla hs hsw) hs hsw)
  · intro bid hmem
    have hold := h.alive bid (ht bid hmem)
    rw [← lookup_isSome] at hold ⊢
    rw [ha]
    exact hold

lemma RecordTrue.of_keeps {w : Watcher} (hk : m.watcher.Keeps w) :
    { m with watcher := w }.RecordTrue host serviceId := by
  refine h.of_frame (fun _ => rfl) (by rw [hk.running]) ?_ ?_
  · intro bid hmem
    rw [← hk.tracked]
    exact hmem
  · exact fun entry hl _ hs => hk.history entry hl hs

lemma RecordTrue.stopService (bid : ℕ) {stopped : ℕ} (hne : stopped ≠ serviceId)
    (shutdown : Except ManagerError Unit) :
    (m.stopService bid stopped shutdown).2.RecordTrue host serviceId := by
  have hkey : ∀ b, (b, serviceId) ≠ (bid, stopped) := fun b heq =>
    hne (congrArg Prod.snd heq).symm
  have ha : ∀ b, (m.active.erase (bid, stopped)).lookup (b, serviceId)
      = m.active.lookup (b, serviceId) := fun b => lookup_erase_ne (hkey b)
  have hr : (m.watcher.upgrade.clearRunning stopped).running.lookup serviceId
      = m.watcher.upgrade.running.lookup serviceId := lookup_erase_ne hne.symm
  unfold EventHandler.stopService
  by_cases hmem : (bid, stopped) ∈ m.active
  · simp only [hmem, if_true]
    rcases shutdown with e | u
    · exact h.of_frame ha rfl (fun _ hmem => hmem) (fun _ hl _ _ => hl)
    exact h.of_frame ha hr (fun _ hmem => Finset.mem_of_mem_erase hmem) (fun _ hl _ _ => hl)
  · simp only [hmem, if_false]
    exact h.of_frame (fun _ => rfl) hr (fun _ hmem => Finset.mem_of_mem_erase hmem)
        (fun _ hl _ _ => hl)

end

lemma runs_insert_iff (host : Host) (m' : EventHandler) {bid : ℕ}
    (hnew : (bid, serviceId) ∉ m.active)
    (bs : Bytes) (ha : m'.active = m.active.insert (bid, serviceId) ⟨bs⟩)
    (sha : B256) :
    m'.Runs host serviceId sha ↔ Pinned host sha bs ∨ m.Runs host serviceId sha := by
  constructor
  · rintro ⟨b, proc, hl, hp⟩
    rw [ha] at hl
    rcases HashMap.lookup_insert_cases hl with ⟨-, rfl⟩ | hl
    · exact .inl hp
    · exact .inr ⟨b, proc, hl, hp⟩
  · rintro (hp | ⟨b, proc, hl, hp⟩)
    · exact ⟨bid, ⟨bs⟩, by rw [ha, lookup_insert], hp⟩
    refine ⟨b, proc, ?_, hp⟩
    have hne : (b, serviceId) ≠ (bid, serviceId) := by
      intro heq
      rw [heq] at hl
      exact hnew (mem_of_lookup_eq_some hl)
    rw [ha, lookup_insert_of_ne _ hne, hl]

section

variable (h : m.RecordTrue host serviceId)

include h

lemma recordTrue_started_iff {bid : ℕ} (hnew : (bid, serviceId) ∉ m.active) (bs : Bytes)
    (chain : ReconcileEnv) :
    (EventHandler.onServiceStarted ⟨m.active.insert (bid, serviceId) ⟨bs⟩, m.watcher⟩
      bid serviceId chain).RecordTrue host serviceId ↔
      ∀ ver, chain.effectiveBinaryVersion bid = .ok ver →
        Pinned host ver.sha256 bs ∨ m.Runs host serviceId ver.sha256 := by
  have hru := runs_insert_iff host (EventHandler.onServiceStarted
    ⟨m.active.insert (bid, serviceId) ⟨bs⟩, m.watcher⟩ bid serviceId chain) hnew
    bs rfl
  constructor
  · intro ht ver hv
    rw [← hru]
    apply ht.record ⟨ver.versionId, ver.sha256⟩
    rw [running_onServiceStarted, hv]
    exact lookup_insert _
  · intro hst
    refine ⟨?_, ?_, ?_⟩
    · intro r hr
      rw [hru]
      rw [running_onServiceStarted] at hr
      rcases hv : chain.effectiveBinaryVersion bid with e | ver
      · rw [hv] at hr
        exact .inr (h.record r hr)
      rw [hv] at hr
      have hr' : r = ⟨ver.versionId, ver.sha256⟩ := by
        simpa using hr.symm
      rw [hr']
      exact hst ver hv
    · intro entry hl hs hout
      rw [hru]
      rw [history_onServiceStarted] at hl
      exact .inr (h.swapped entry hl hs hout)
    · intro b hmem
      rw [tracked_onServiceStarted] at hmem
      exact mem_insert.mpr ((Finset.mem_insert.mp hmem).imp id (h.alive b))

lemma RecordTrue.started {bid other : ℕ} (ho : other ≠ serviceId) (bs : Bytes)
    (chain : ReconcileEnv) :
    (EventHandler.onServiceStarted ⟨m.active.insert (bid, other) ⟨bs⟩, m.watcher⟩
      bid other chain).RecordTrue host serviceId := by
  have hkey : ∀ b, (b, serviceId) ≠ (bid, other) := fun b heq =>
    ho (congrArg Prod.snd heq).symm
  refine h.of_frame (fun b => lookup_insert_of_ne _ (hkey b)) ?_ ?_ ?_
  · rw [running_onServiceStarted]
    rcases chain.effectiveBinaryVersion bid with e | ver
    · rfl
    exact lookup_insert_of_ne _ (Ne.symm ho)
  · intro b hmem
    rw [tracked_onServiceStarted] at hmem
    exact (Finset.mem_insert.mp hmem).resolve_left (hkey b)
  · intro entry hl _ _
    rw [history_onServiceStarted] at hl
    exact hl

lemma recordTrue_ensureServiceRunning_iff (metadata : BlueprintMetadata) (env : LaunchEnv) :
    (m.ensureServiceRunning metadata env).2.RecordTrue host serviceId ↔
      m.StartTrue host serviceId metadata env := by
  unfold ensureServiceRunning StartTrue
  by_cases hr : (metadata.blueprintId, metadata.serviceId) ∈ m.active
  · simp only [hr, if_true]
    refine iff_of_true h fun hs hnew => ?_
    rw [hs] at hr
    exact absurd hr hnew
  simp only [hr, if_false]
  rcases hl : launch metadata env with e | bs
  · exact iff_of_true h nofun
  by_cases hs : metadata.serviceId = serviceId
  · subst hs
    rw [recordTrue_started_iff h hr]
    constructor
    · intro hall _ _ bs' ver hok hv
      cases hok
      exact hall ver hv
    · intro hst ver hv
      exact hst rfl hr bs ver rfl hv
  · exact iff_of_true (h.started hs bs env.chain) fun heq => absurd heq hs

lemma recordTrue_applyNext_iff (ha : m.ActiveTracked) (now : ℤ) :
    (m.applyNext now).RecordTrue host serviceId ↔
      m.RecordedTruly host serviceId (.applyNext now) := by
  unfold applyNext RecordedTruly
  rcases hq : m.watcher.queue with _ | ⟨req, queue⟩
  · exact iff_of_true h nofun
  simp only [List.head?_cons, Option.some.injEq]
  unfold applySwap
  by_cases hmem : (req.blueprintId, req.serviceId) ∈ m.active
  · simp only [hmem, if_true]
    by_cases hs : req.serviceId = serviceId
    · -- the service is tracked, but nothing runs any more
      subst hs
      refine iff_of_false (fun ht => ?_) fun hc => hc req rfl rfl hmem
      have hg : (req.blueprintId, req.serviceId) ∈
          m.active.erase (req.blueprintId, req.serviceId) :=
        ht.alive req.blueprintId (ha _ hmem)
      simp at hg
    · refine iff_of_true (h.of_frame ?_ ?_ (fun _ hmem => hmem) ?_) ?_
      · intro b
        exact lookup_erase_ne fun heq => hs (congrArg Prod.snd heq).symm
      · exact lookup_insert_of_ne _ (Ne.symm hs)
      · intro entry hl he _
        simp only [UpgradeState.pushHistory, List.getLast?_append, List.getLast?_singleton,
          Option.some_or, Option.some.injEq] at hl
        exact absurd (by rw [← he, ← hl]; rfl) hs
      · rintro _ rfl heq
        exact absurd heq hs
  · simp only [hmem, if_false]
    refine iff_of_true (h.of_frame (fun _ => rfl) rfl (fun _ hmem => hmem) (fun _ hl _ _ => hl)) ?_
    rintro _ rfl rfl
    exact hmem

end

lemma recordTrue_step_iff (cfg : WatcherConfig) (h : m.RecordTrue cfg.host serviceId)
    (ha : m.ActiveTracked) (e : Untouched serviceId) :
    (m.step cfg e.1).RecordTrue cfg.host serviceId ↔ m.RecordedTruly cfg.host serviceId e.1 := by
  obtain ⟨e, hq⟩ := e
  cases e with
  | log log =>
    cases log with
    | serviceActivated id md env | operatorPreRegistered id md env =>
      match md with
      | .error e | .ok none => exact iff_of_true h trivial
      | .ok (some md) => exact recordTrue_ensureServiceRunning_iff h md env
    | serviceTerminated stopped bid shutdown =>
      rcases bid with e | bid
      · exact iff_of_true h trivial
      exact iff_of_true (h.stopService bid hq shutdown) trivial
    | other => exact iff_of_true h trivial
  | applyNext now => exact recordTrue_applyNext_iff h ha now
  | reconcileOne bid id env =>
    exact iff_of_true (h.of_keeps (m.watcher.keeps_reconcileOne cfg bid id env)) trivial
  | discover md env => exact recordTrue_ensureServiceRunning_iff h md env
  | authorise id authz =>
    exact iff_of_true (h.of_frame (fun _ => rfl) rfl (fun _ hmem => hmem)
      (fun _ hl _ _ => hl)) trivial

section

variable (h : m.ActiveTracked)

include h

lemma ActiveTracked.ensureServiceRunning (md : BlueprintMetadata) (env : LaunchEnv) :
    (m.ensureServiceRunning md env).2.ActiveTracked := by
  unfold EventHandler.ensureServiceRunning
  by_cases hmem : (md.blueprintId, md.serviceId) ∈ m.active
  · simp only [hmem, if_true]
    exact h
  simp only [hmem, if_false]
  rcases launch md env with e | bs
  · exact h
  intro key hkey
  simp only [active_onServiceStarted, mem_insert] at hkey
  rw [tracked_onServiceStarted, Finset.mem_insert]
  exact hkey.imp id (h key)

lemma ActiveTracked.stopService (bid stopped : ℕ) (shutdown : Except ManagerError Unit) :
    (m.stopService bid stopped shutdown).2.ActiveTracked := by
  unfold EventHandler.stopService
  by_cases hmem : (bid, stopped) ∈ m.active
  · simp only [hmem, if_true]
    rcases shutdown with e | u
    · exact fun key hkey => h key (mem_erase.mp hkey).2
    intro key hkey
    obtain ⟨hne, hkey⟩ := mem_erase.mp hkey
    exact Finset.mem_erase.mpr ⟨hne, h key hkey⟩
  · simp only [hmem, if_false]
    intro key hkey
    exact Finset.mem_erase.mpr ⟨fun heq => hmem (heq ▸ hkey), h key hkey⟩

lemma ActiveTracked.applyNext (now : ℤ) : (m.applyNext now).ActiveTracked := by
  unfold EventHandler.applyNext
  rcases m.watcher.queue with _ | ⟨req, queue⟩
  · exact h
  simp only [applySwap]
  split
  · exact fun key hkey => h key (mem_erase.mp hkey).2
  · exact h

lemma ActiveTracked.step (cfg : WatcherConfig) (e : HandlerEvent) :
    (m.step cfg e).ActiveTracked := by
  cases e with
  | log log =>
    cases log with
    | serviceActivated id md env | operatorPreRegistered id md env =>
      match md with
      | .error e | .ok none => exact h
      | .ok (some md) => exact h.ensureServiceRunning md env
    | serviceTerminated stopped bid shutdown =>
      rcases bid with e | bid
      · exact h
      exact h.stopService bid stopped shutdown
    | other => exact h
  | applyNext now => exact h.applyNext now
  | reconcileOne bid id env =>
    intro key hkey
    rw [EventHandler.step, (m.watcher.keeps_reconcileOne cfg bid id env).tracked]
    exact h key hkey
  | discover md env => exact h.ensureServiceRunning md env
  | authorise id authz => exact h

end

variable (authz : LocalAuthzStore)

def start (files : Files) : EventHandler :=
  ⟨∅, ⟨UpgradeState.new, authz, ∅, files, [], false⟩⟩

/-- **What runs is watched** in every run, whichever starts, stops and swaps fail. -/
theorem always_activeTracked (config : WatcherConfig) (files : Files) (es : List HandlerEvent) :
    Always (step config) ActiveTracked (start authz files) es :=
  always_of_step (fun _ e h => h.step config e) (fun _ hkey => absurd hkey notMem_empty) es

lemma recordTrue_start (files : Files) :
    (start authz files).RecordTrue host serviceId where
  record r hr := by simp [start, UpgradeState.new] at hr
  swapped entry hlast := by simp [start, UpgradeState.new] at hlast
  alive b hmem := by simp [start] at hmem

/-- **The record of running versions.** In a run without a log that terminates the service, what is
recorded for it is always what runs, and it is never tracked but stopped, exactly when every start
of the service is recorded truly and no queued swap is applied to it. -/
theorem always_recordTrue_iff (config : WatcherConfig) (serviceId : ℕ) (authz : LocalAuthzStore)
    (files : Files) (es : List (Untouched serviceId)) :
    Always (fun m e => step config m e.1) (RecordTrue config.host serviceId) (start authz files) es ↔
      Each (fun m e => step config m e.1)
        (fun m e => m.RecordedTruly config.host serviceId e.1) (start authz files) es :=
  always_iff_each (J := ActiveTracked) (fun _ e hJ _ => hJ.step config e.1)
    (fun _ e hJ h => recordTrue_step_iff config h hJ e)
    (fun _ hkey => absurd hkey notMem_empty) (recordTrue_start authz files) es

def autoEnv (versionId : ℕ) : ReconcileEnv where
  policy := .ok 1
  effective := .ok ⟨versionId, plainHost.sha256 [UInt8.ofNat versionId], B256.zero, 0, false⟩
  uri := .ok ['b']
  acked := .ok 0
  network := ⟨serving [UInt8.ofNat versionId], serving []⟩
  now := 0

def activated : BlockLog :=
  .serviceActivated 7 (.ok (some ⟨0, 7, [.github], .any⟩))
    ⟨.native, .ok (), fun _ => .running [1], none, autoEnv 1⟩

def swapRun : List (Untouched 7) :=
  [⟨.log activated, id⟩, ⟨.reconcileOne 0 7 (autoEnv 2), id⟩, ⟨.applyNext 0, id⟩]

def swapEnd : EventHandler :=
  swapRun.foldl (fun m e => step WatcherRun.strictConfig m e.1) (start ∅ fun _ => none)

theorem swapped_service_is_stopped :
    swapEnd = ((((start ∅ fun _ => none).handleEvent [activated] 0).2.step WatcherRun.strictConfig
      (.reconcileOne 0 7 (autoEnv 2))).handleEvent [] 0).2 ∧
    (0, 7) ∉ swapEnd.active ∧ (0, 7) ∈ swapEnd.watcher.tracked ∧
    swapEnd.watcher.upgrade.running.lookup 7 = some ⟨2, plainHost.sha256 [2]⟩ ∧
    swapEnd.watcher.upgrade.history.map
      (fun entry => (entry.serviceId, entry.toVersionId, entry.outcome)) = [(7, 2, .swapped)] ∧
    ¬ Always (fun m e => step WatcherRun.strictConfig m e.1) (RecordTrue plainHost 7)
      (start ∅ fun _ => none) swapRun := by
  have hs : (0, 7) ∉ swapEnd.active := by decide +kernel
  have ht : (0, 7) ∈ swapEnd.watcher.tracked := by decide +kernel
  refine ⟨rfl, hs, ht, rfl, rfl, fun h => ?_⟩
  have hl : RecordTrue plainHost 7 swapEnd := h.last
  exact hs (hl.alive 0 ht)

end EventHandler

end Gadget.Manager
