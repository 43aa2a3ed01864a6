import Gadget.Manager.Tangle.EventHandler
import Gadget.Manager.Upgrade.SwapGate

/-!
# The TEE requirement

A blueprint may require execution in a TEE, which only a container source can give. The handler
filters the sources when it orders them, and has two places that spawn: the loop over the ordered
sources, and the fallback to a local cargo binary. Here every source that is handed to `spawn` is
recorded, with what became of it, beside the handler of `EventHandler`.
-/

namespace Gadget.Manager

open Rust Lib.Run List

/-- The attempt has started a process. -/
def Attempt.started : Attempt → Bool
  | .spawnFailed _ => false
  | .startFailed _ => false
  | .unhealthy _ => true
  | .running _ => true

/-- The handler goes on with the next source. -/
def Attempt.givesWay : Attempt → Bool
  | .spawnFailed _ => true
  | .unhealthy _ => true
  | .startFailed _ => false
  | .running _ => false

/-- A source that was handed to `spawn`, and what became of it. -/
structure SpawnRecord where
  metadata : BlueprintMetadata
  source : BlueprintSource
  outcome : Attempt

/-- The sources that `trySources` gets to: each one up to the first that does not give way. -/
def tried (attempt : ℕ → Attempt) : List ℕ → List ℕ
  | [] => []
  | idx :: rest => idx :: if (attempt idx).givesWay then tried attempt rest else []

variable (metadata : BlueprintMetadata)

/-- The sources in the order in which `launch` tries them. -/
abbrev LaunchEnv.order (env : LaunchEnv) : List ℕ :=
  orderedSourceIndices metadata.sources env.preferredSource metadata.confidentialityPolicy

/-- What `launch` hands to `spawn`: the sources that it tries, and the binary that cargo built when all of
them gave way, for which it makes a `Testing` source of its own. -/
def launchSpawns (env : LaunchEnv) : List SpawnRecord :=
  match env.directories with
  | .error _ => []
  | .ok () =>
    (tried env.attempt (env.order metadata)).flatMap (fun idx =>
      (metadata.sources[idx]?).toList.map fun source => ⟨metadata, source, env.attempt idx⟩) ++
    match trySources env.attempt (env.order metadata) none with
    | .ok (.inr _) =>
      if metadata.sources ≠ [] ∧ env.preferredSource = .native ∧
          metadata.confidentialityPolicy ≠ .teeRequired then
        env.cargoBin.toList.map fun attempt => ⟨metadata, .testing, attempt⟩
      else []
    | _ => []

variable {metadata : BlueprintMetadata} {r : SpawnRecord} {env : LaunchEnv}

section

variable {attempt : ℕ → Attempt} {ord : List ℕ} {lastErr : Option ManagerError}

lemma mem_of_mem_tried {idx : ℕ} (h : idx ∈ tried attempt ord) : idx ∈ ord := by
  induction ord with
  | nil => cases h
  | cons first rest ih =>
    rcases mem_cons.mp h with rfl | h
    · exact mem_cons_self
    split_ifs at h
    · exact mem_cons_of_mem first (ih h)
    · cases h

lemma of_trySources_inl {bytes : Bytes} (h : trySources attempt ord lastErr = .ok (.inl bytes)) :
    ∃ idx ∈ ord, attempt idx = .running bytes := by
  induction ord generalizing lastErr with
  | nil => simp [trySources] at h
  | cons idx rest ih =>
    unfold trySources at h
    cases ha : attempt idx with
    | running found =>
      simp only [ha, Except.ok.injEq, Sum.inl.injEq] at h
      exact ⟨idx, mem_cons_self, by rw [ha, h]⟩
    | startFailed e => simp [ha] at h
    | spawnFailed e | unhealthy e =>
      simp only [ha] at h
      obtain ⟨idx', hmem, hr⟩ := ih h
      exact ⟨idx', mem_cons_of_mem idx hmem, hr⟩

end

lemma container_of_mem_orderedSourceIndices {sources : List BlueprintSource}
    {preferred : SourceType} {idx : ℕ}
    (h : idx ∈ orderedSourceIndices sources preferred .teeRequired) :
    sources[idx]? = some .container := by
  obtain ⟨entry, he, rfl⟩ := mem_map.mp h
  rw [mem_insertionSort] at he
  obtain ⟨indexed, hi, rfl⟩ := mem_map.mp he
  obtain ⟨hmem, htee⟩ := mem_filter.mp hi
  have hc : indexed.1 = .container := by simpa [supportsTee] using htee
  have hget : sources[indexed.2]? = some indexed.1 := mem_zipIdx_iff_getElem?.mp hmem
  rw [hget, hc]

lemma of_mem_launchSpawns (h : r ∈ launchSpawns metadata env) :
    (∃ idx ∈ tried env.attempt (env.order metadata), metadata.sources[idx]? = some r.source ∧
        r = ⟨metadata, r.source, env.attempt idx⟩) ∨
      metadata.confidentialityPolicy ≠ .teeRequired ∧ ∃ attempt, r = ⟨metadata, .testing, attempt⟩ := by
  unfold launchSpawns at h
  split at h
  · cases h
  rcases mem_append.mp h with hl | hc
  · obtain ⟨idx, hidx, hr⟩ := mem_flatMap.mp hl
    obtain ⟨source, hs, rfl⟩ := mem_map.mp hr
    exact .inl ⟨idx, hidx, Option.mem_toList.mp hs, rfl⟩
  · split at hc
    · split_ifs at hc with hg
      · obtain ⟨attempt, -, rfl⟩ := mem_map.mp hc
        exact .inr ⟨hg.2.2, attempt, rfl⟩
      · cases hc
    · cases hc

lemma mem_launchSpawns {idx : ℕ} {source : BlueprintSource} (hdirs : env.directories = .ok ())
    (hidx : idx ∈ tried env.attempt (env.order metadata)) (hs : metadata.sources[idx]? = some source) :
    ⟨metadata, source, env.attempt idx⟩ ∈ launchSpawns metadata env := by
  rw [launchSpawns, hdirs]
  exact mem_append_left _ (mem_flatMap.mpr ⟨idx, hidx, by simp [hs]⟩)

lemma metadata_of_mem_launchSpawns (h : r ∈ launchSpawns metadata env) : r.metadata = metadata := by
  rcases of_mem_launchSpawns h with ⟨idx, -, -, hr⟩ | ⟨-, attempt, hr⟩
  · rw [hr]
  · rw [hr]

section

variable {metadata : BlueprintMetadata} {env : LaunchEnv}

variable (htee : metadata.confidentialityPolicy = .teeRequired)

include htee

lemma container_of_mem_launchSpawns (h : r ∈ launchSpawns metadata env) :
    r.source = .container ∧
      ∃ idx, metadata.sources[idx]? = some .container ∧ r.outcome = env.attempt idx := by
  rcases of_mem_launchSpawns h with ⟨idx, hidx, hs, hr⟩ | ⟨hne, -⟩
  · have hmem := mem_of_mem_tried hidx
    rw [LaunchEnv.order, htee] at hmem
    have hc := container_of_mem_orderedSourceIndices hmem
    refine ⟨Option.some_injective _ (hs.symm.trans hc), idx, hc, ?_⟩
    rw [hr]
  · exact absurd htee hne

lemma container_of_launch {bytes : Bytes} (h : launch metadata env = .ok bytes) :
    ∃ idx, metadata.sources[idx]? = some .container ∧ env.attempt idx = .running bytes := by
  unfold launch at h
  simp only [htee, bind_eq_ok] at h
  obtain ⟨-, -, -, -, -, -, found, hf, hr⟩ := h
  rcases found with bs' | lastErr
  · have heq : bs' = bytes := by simpa [pure, Except.pure] using hr
    obtain ⟨idx, hidx, hru⟩ := of_trySources_inl hf
    exact ⟨idx, container_of_mem_orderedSourceIndices hidx, by rw [hru, heq]⟩
  simp at hr

end

namespace EventHandler

def spawns (m : EventHandler) (metadata : BlueprintMetadata) (env : LaunchEnv) : List SpawnRecord :=
  if (metadata.blueprintId, metadata.serviceId) ∈ m.active then []
  else launchSpawns metadata env

def spawnsOf (m : EventHandler) : HandlerEvent → List SpawnRecord
  | .log (.serviceActivated _ (.ok (some metadata)) env) => m.spawns metadata env
  | .log (.operatorPreRegistered _ (.ok (some metadata)) env) => m.spawns metadata env
  | .discover metadata env => m.spawns metadata env
  | _ => []

lemma mem_launchSpawns_of_mem_spawns {m : EventHandler} (h : r ∈ m.spawns metadata env) :
    r ∈ launchSpawns metadata env := by
  unfold spawns at h
  split at h
  · simp at h
  · exact h

lemma launched_of_mem_spawnsOf {m : EventHandler} {e : HandlerEvent} (h : r ∈ m.spawnsOf e) :
    ∃ env, r ∈ launchSpawns r.metadata env := by
  have hs : ∃ metadata env, r ∈ m.spawns metadata env := by
    unfold spawnsOf at h
    split at h
    · exact ⟨_, _, h⟩
    · exact ⟨_, _, h⟩
    · exact ⟨_, _, h⟩
    · simp at h
  obtain ⟨metadata, env, hr⟩ := hs
  have hl := mem_launchSpawns_of_mem_spawns hr
  rw [← metadata_of_mem_launchSpawns hl] at hl
  exact ⟨env, hl⟩

end EventHandler

structure TracedHandler where
  handler : EventHandler
  spawned : List SpawnRecord

namespace TracedHandler

open EventHandler

def step (config : WatcherConfig) (t : TracedHandler) (e : HandlerEvent) : TracedHandler :=
  ⟨t.handler.step config e, t.spawned ++ t.handler.spawnsOf e⟩

def TeeOnly (t : TracedHandler) : Prop :=
  ∀ r ∈ t.spawned, r.metadata.confidentialityPolicy = .teeRequired → r.source = .container

lemma TeeOnly.step {t : TracedHandler} (h : t.TeeOnly) (cfg : WatcherConfig)
    (e : HandlerEvent) : (t.step cfg e).TeeOnly := by
  intro r hr htee
  rcases mem_append.mp hr with hold | hnew
  · exact h r hold htee
  obtain ⟨env, hl⟩ := launched_of_mem_spawnsOf hnew
  exact (container_of_mem_launchSpawns htee hl).1

end TracedHandler

/-- In every run everything that is spawned for a blueprint that requires a TEE comes from a
container source. Where no container source can be started, a launch starts no process at all; and
where none comes up, it fails and leaves the handler as it was. -/
theorem tee_requirement_kept (config : WatcherConfig) (m : EventHandler)
    (es : List EventHandler.HandlerEvent) :
    Always (TracedHandler.step config) TracedHandler.TeeOnly ⟨m, []⟩ es ∧
      ∀ (n : EventHandler) (metadata : BlueprintMetadata) (env : LaunchEnv),
        metadata.confidentialityPolicy = .teeRequired →
        ((∀ idx, metadata.sources[idx]? = some .container → (env.attempt idx).started = false) →
          ∀ r ∈ n.spawns metadata env, r.outcome.started = false) ∧
        ((∀ idx, metadata.sources[idx]? = some .container → ∀ bytes, env.attempt idx ≠ .running bytes) →
          (n.ensureServiceRunning metadata env).2 = n) := by
  refine ⟨always_of_step (fun t e h => TracedHandler.TeeOnly.step h config e) ?_ es, ?_⟩
  · intro r hr
    cases hr
  intro n metadata env htee
  constructor
  · intro hn r hr
    obtain ⟨-, idx, hc, ho⟩ :=
      container_of_mem_launchSpawns htee (EventHandler.mem_launchSpawns_of_mem_spawns hr)
    rw [ho]
    exact hn idx hc
  · intro hn
    by_cases ha : (metadata.blueprintId, metadata.serviceId) ∈ n.active
    · simp [EventHandler.ensureServiceRunning, ha]
    rcases hl : launch metadata env with e | bytes
    · simp [EventHandler.ensureServiceRunning, ha, hl]
    obtain ⟨idx, hc, hru⟩ := container_of_launch htee hl
    exact absurd hru (hn idx hc bytes)

def confidentialMetadata : BlueprintMetadata where
  blueprintId := 1
  serviceId := 2
  sources := [.github, .container, .testing]
  confidentialityPolicy := .teeRequired

def containerDown : LaunchEnv where
  preferredSource := .native
  directories := .ok ()
  attempt idx := if idx = 1 then .spawnFailed .noFetchers else .running []
  cargoBin := some (.running [])
  chain := WatcherRun.ackedEnv

lemma attempt_containerDown {idx : ℕ} (h : confidentialMetadata.sources[idx]? = some .container) :
    containerDown.attempt idx = .spawnFailed .noFetchers := by
  have hidx : idx = 1 := by
    obtain _ | _ | _ | idx := idx
    · simp [confidentialMetadata] at h
    · rfl
    · simp [confidentialMetadata] at h
    · simp [confidentialMetadata] at h
  rw [hidx]
  rfl

theorem tee_requirement_kept_container_down :
    (∀ r ∈ (⟨∅, WatcherRun.freshWatcher⟩ : EventHandler).spawns confidentialMetadata containerDown,
      r.outcome.started = false) ∧
    ((⟨∅, WatcherRun.freshWatcher⟩ : EventHandler).ensureServiceRunning confidentialMetadata
      containerDown).2 = ⟨∅, WatcherRun.freshWatcher⟩ := by
  have h := (tee_requirement_kept WatcherRun.strictConfig ⟨∅, WatcherRun.freshWatcher⟩ []).2
    ⟨∅, WatcherRun.freshWatcher⟩ confidentialMetadata containerDown rfl
  constructor
  · apply h.1
    intro idx hidx
    rw [attempt_containerDown hidx]
    rfl
  · apply h.2
    intro idx hidx bytes
    rw [attempt_containerDown hidx]
    simp

/-! ## Falling back to the next source

The handler tries the allowed sources one after the other. A source that cannot be spawned or does not
become healthy gives way to the next one. A source that cannot be started ends the whole launch. What
was started and did not become healthy is dropped: that ends a native process, and leaves a container
running. -/

/-- `ordered_source_indices` keeps the source. -/
def Allowed (metadata : BlueprintMetadata) (idx : ℕ) : Prop :=
  ∃ source, metadata.sources[idx]? = some source ∧
    (metadata.confidentialityPolicy ≠ .teeRequired ∨ supportsTee source = true)

/-- A process of a source that failed is still there after the launch. -/
def SpawnRecord.Left (r : SpawnRecord) : Prop := r.source = .container ∧ ∃ e, r.outcome = .unhealthy e

lemma mem_orderedSourceIndices {metadata : BlueprintMetadata} {preferred : SourceType} {idx : ℕ} :
    idx ∈ orderedSourceIndices metadata.sources preferred metadata.confidentialityPolicy ↔
      Allowed metadata idx := by
  simp only [orderedSourceIndices, mem_map, mem_insertionSort, mem_filter]
  constructor
  · rintro ⟨_, ⟨⟨source, i⟩, ⟨hm, hk⟩, rfl⟩, rfl⟩
    exact ⟨source, mem_zipIdx_iff_getElem?.mp hm, by simpa using hk⟩
  · rintro ⟨source, hs, hk⟩
    exact ⟨_, ⟨(source, idx), ⟨mem_zipIdx_iff_getElem?.mpr hs, by simpa using hk⟩, rfl⟩, rfl⟩

/-- A source that cannot be started is the last one that is tried, and its error is the answer. -/
lemma trySources_of_startFailed {attempt : ℕ → Attempt} {order : List ℕ} {idx : ℕ} {e : ManagerError}
    (hidx : idx ∈ tried attempt order) (he : attempt idx = .startFailed e) (lastErr : Option ManagerError) :
    trySources attempt order lastErr = .error e := by
  induction order generalizing lastErr with
  | nil => cases hidx
  | cons first rest ih =>
    rw [trySources]
    rcases mem_cons.mp hidx with rfl | hidx
    · rw [he]
    cases ha : attempt first with
    | running | startFailed => simp [ha, Attempt.givesWay] at hidx
    | spawnFailed e | unhealthy e =>
      rw [ha] at hidx
      exact ih hidx (some e)

lemma trySources_of_running {attempt : ℕ → Attempt} {order : List ℕ}
    (hstart : ∀ idx ∈ tried attempt order, ∀ e, attempt idx ≠ .startFailed e)
    (hrun : ∃ idx ∈ order, ∃ bytes, attempt idx = .running bytes) (lastErr : Option ManagerError) :
    ∃ bytes, trySources attempt order lastErr = .ok (.inl bytes) := by
  -- on the sources left to try; the last error changes with each failure
  induction order generalizing lastErr with
  | nil =>
    obtain ⟨idx, hidx, -⟩ := hrun
    cases hidx
  | cons idx rest ih =>
    have hrest (hway : (attempt idx).givesWay = true) (hne : ∀ bytes, attempt idx ≠ .running bytes)
        (lastErr : Option ManagerError) : ∃ bytes, trySources attempt rest lastErr = .ok (.inl bytes) := by
      refine ih (fun i hi => hstart i (mem_cons_of_mem idx (by rwa [if_pos hway]))) ?_ lastErr
      obtain ⟨i, hi, bytes, hb⟩ := hrun
      rcases mem_cons.mp hi with rfl | hi
      · exact absurd hb (hne bytes)
      exact ⟨i, hi, bytes, hb⟩
    unfold trySources
    cases ha : attempt idx with
    | running bytes => exact ⟨bytes, rfl⟩
    | startFailed e => exact absurd ha (hstart idx mem_cons_self e)
    | spawnFailed e | unhealthy e =>
      exact hrest (by rw [ha]; rfl) (by simp [ha]) (some e)

section

variable {metadata : BlueprintMetadata} {env : LaunchEnv}

lemma launch_of_running (hdirs : env.directories = .ok ())
    (hstart : ∀ idx ∈ tried env.attempt (env.order metadata), ∀ e, env.attempt idx ≠ .startFailed e)
    (hrun : ∃ idx, Allowed metadata idx ∧ ∃ bytes, env.attempt idx = .running bytes) :
    ∃ idx bytes, Allowed metadata idx ∧ env.attempt idx = .running bytes ∧
      launch metadata env = .ok bytes := by
  obtain ⟨idx, hidx, hb⟩ := hrun
  have hmem : idx ∈ env.order metadata := mem_orderedSourceIndices.mpr hidx
  obtain ⟨bytes, ht⟩ := trySources_of_running hstart ⟨idx, hmem, hb⟩ none
  obtain ⟨i, hi, hr⟩ := of_trySources_inl ht
  refine ⟨i, bytes, mem_orderedSourceIndices.mp hi, hr, ?_⟩
  have hne : metadata.sources ≠ [] := by
    intro hn
    obtain ⟨source, hs, -⟩ := hidx
    simp [hn] at hs
  simp only [launch, rejectIf, if_neg hne, ok_bind, hdirs, ne_nil_of_mem hmem, and_false, if_false, ht]
  rfl

/-- A launch that succeeds has its directories, and every source that it tried could be started. -/
lemma of_launch_eq_ok {bytes : Bytes} (h : launch metadata env = .ok bytes) :
    env.directories = .ok () ∧
      ∀ idx ∈ tried env.attempt (env.order metadata), ∀ e, env.attempt idx ≠ .startFailed e := by
  unfold launch at h
  simp only [bind_eq_ok] at h
  obtain ⟨-, -, u, hdirs, -, -, found, hf, -⟩ := h
  refine ⟨hdirs, fun idx hidx e he => ?_⟩
  rw [trySources_of_startFailed hidx he none] at hf
  cases hf

end

/-- What handling a service owes: where an allowed source would come up the service runs from such a source
and is recorded, and in every case nothing of a source that failed is left. -/
structure FallbackComplete (m : EventHandler) (metadata : BlueprintMetadata) (env : LaunchEnv) : Prop where
  running : (∃ idx, Allowed metadata idx ∧ ∃ bytes, env.attempt idx = .running bytes) →
    let key := (metadata.blueprintId, metadata.serviceId)
    (m.ensureServiceRunning metadata env).1 = .ok () ∧
      key ∈ (m.ensureServiceRunning metadata env).2.active ∧
      (key ∉ m.active → ∃ idx bytes, Allowed metadata idx ∧ env.attempt idx = .running bytes ∧
        (m.ensureServiceRunning metadata env).2.active.lookup key = some ⟨bytes⟩)
  left : ∀ r ∈ m.spawns metadata env, ¬ r.Left

/-- The condition on what is tried: no container that was started stays unhealthy; and where an allowed
source would come up, the directories can be made and no source before it fails to start. -/
structure FallsBack (metadata : BlueprintMetadata) (env : LaunchEnv) : Prop where
  healthy : env.directories = .ok () → ∀ idx ∈ tried env.attempt (env.order metadata),
    metadata.sources[idx]? = some .container → ∀ e, env.attempt idx ≠ .unhealthy e
  starts : (∃ idx, Allowed metadata idx ∧ ∃ bytes, env.attempt idx = .running bytes) →
    env.directories = .ok () ∧
      ∀ idx ∈ tried env.attempt (env.order metadata), ∀ e, env.attempt idx ≠ .startFailed e

lemma not_left_of_fallsBack {m : EventHandler} {metadata : BlueprintMetadata} {env : LaunchEnv}
    (h : FallsBack metadata env) : ∀ r ∈ m.spawns metadata env, ¬ r.Left := by
  rintro r hr ⟨hc, e, he⟩
  have hr := EventHandler.mem_launchSpawns_of_mem_spawns hr
  have hdirs : env.directories = .ok () := by
    cases hd : env.directories with
    | error e => simp [launchSpawns, hd] at hr
    | ok => rfl
  -- what was spawned is one of the sources, or the binary that cargo built
  rcases of_mem_launchSpawns hr with ⟨idx, hidx, hs, heq⟩ | ⟨-, attempt, rfl⟩
  · rw [heq] at he
    exact h.healthy hdirs idx hidx (hc ▸ hs) e he
  · cases hc

/-- **Source fallback.** Handling a service is complete exactly when the service was running before, or
nothing that is tried ends the launch early or stays behind. -/
theorem fallbackComplete_iff (m : EventHandler) (metadata : BlueprintMetadata) (env : LaunchEnv) :
    FallbackComplete m metadata env ↔
      (metadata.blueprintId, metadata.serviceId) ∈ m.active ∨ FallsBack metadata env := by
  by_cases hk : (metadata.blueprintId, metadata.serviceId) ∈ m.active
  -- nothing is launched for a service that is there already
  · have heq : m.ensureServiceRunning metadata env = (.ok (), m) := if_pos hk
    have hs : m.spawns metadata env = [] := if_pos hk
    refine iff_of_true ⟨fun _ => ?_, by simp [hs]⟩ (.inl hk)
    rw [heq]
    exact ⟨rfl, hk, fun hn => absurd hk hn⟩
  have hs : m.spawns metadata env = launchSpawns metadata env := if_neg hk
  rw [or_iff_right hk]
  constructor
  · intro h
    refine ⟨fun hdirs idx hidx hc e he => ?_, fun hrun => ?_⟩
    · refine h.left ⟨metadata, .container, env.attempt idx⟩ ?_ ⟨rfl, e, he⟩
      rw [hs]
      exact mem_launchSpawns hdirs hidx hc
    · have hok := (h.running hrun).1
      rw [EventHandler.ensureServiceRunning, if_neg hk] at hok
      cases hl : launch metadata env with
      | error e => simp [hl] at hok
      | ok bytes => exact of_launch_eq_ok hl
  · intro h
    refine ⟨fun hrun => ?_, not_left_of_fallsBack h⟩
    obtain ⟨hdirs, hstart⟩ := h.starts hrun
    obtain ⟨idx, bytes, hidx, hb, hl⟩ := launch_of_running hdirs hstart hrun
    have heq : m.ensureServiceRunning metadata env = (.ok (), { m with
        active := m.active.insert (metadata.blueprintId, metadata.serviceId) ⟨bytes⟩ }.onServiceStarted
          metadata.blueprintId metadata.serviceId env.chain) := by
      rw [EventHandler.ensureServiceRunning, if_neg hk, hl]
    rw [heq, EventHandler.active_onServiceStarted]
    exact ⟨rfl, Finmap.mem_insert.mpr (.inl rfl),
      fun _ => ⟨idx, bytes, hidx, hb, Finmap.lookup_insert _⟩⟩

def idleHandler : EventHandler := ⟨∅, WatcherRun.freshWatcher⟩

def twoSources (first : BlueprintSource) : BlueprintMetadata := ⟨1, 7, [first, .remote], .any⟩

def secondComesUp (first : Attempt) : LaunchEnv where
  preferredSource := .container
  directories := .ok ()
  attempt idx := if idx = 0 then first else .running [1]
  cargoBin := none
  chain := WatcherRun.ackedEnv

/-- The second source would come up, but the first one cannot be started; and an unhealthy container
stays behind. -/
theorem failed_start_ends_launch :
    (idleHandler.ensureServiceRunning (twoSources .github)
      (secondComesUp (.startFailed .noFetchers))).1 = .error .noFetchers ∧
    ∃ r ∈ idleHandler.spawns (twoSources .container) (secondComesUp (.unhealthy .noFetchers)), r.Left :=
  ⟨rfl, _, mem_cons_self, rfl, .noFetchers, rfl⟩

end Gadget.Manager
