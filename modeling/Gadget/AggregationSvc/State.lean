import Gadget.AggregationSvc.Persistence

/-!
# The tasks of the service

`AggregationState` is a map from task ids to tasks behind a read-write lock; each function
below is one critical section of that lock. Readings of the clock are arguments, one for
each place where the source reads it.
-/

namespace Gadget.AggregationSvc

open Rust List HashMap PersistedTaskState

variable {B : Bn254}

abbrev Tasks (B : Bn254) := HashMap TaskId (TaskState B)

structure TaskConfig where
  thresholdType : ThresholdType
  operatorStakes : Option (HashMap ℕ ℕ)
  ttl : Option ℕ

structure InitArgs where
  serviceId : ℕ
  callId : ℕ
  output : Bytes
  message : Bytes
  signatureScheme : Bn254SignatureScheme
  operatorCount : U32
  config : TaskConfig

def InitArgs.taskId (a : InitArgs) : TaskId := ⟨a.serviceId, a.callId⟩

def InitArgs.task (B : Bn254) (a : InitArgs) (now : ℤ) : Option (TaskState B) :=
  TaskState.withMessageConfig a.serviceId a.callId a.output a.message a.signatureScheme
    a.operatorCount a.config.thresholdType a.config.operatorStakes a.config.ttl now

structure SnapshotEnv where
  tasks : IterOrder TaskId
  operators : IterOrder ℕ
  clock : TaskId → TaskClock

structure TaskStatus where
  signaturesCollected : ℕ
  thresholdRequired : ℕ
  thresholdType : ThresholdType
  thresholdMet : Bool
  signerBitmap : BitVec 256
  signedStakeBps : ℕ
  submitted : Bool
  isExpired : Bool
  timeRemainingSecs : Option ℕ

structure TaskForAggregation (B : Bn254) where
  serviceId : ℕ
  callId : ℕ
  output : Bytes
  signerBitmap : BitVec 256
  nonSignerIndices : List ℕ
  signatures : List B.Signature
  publicKeys : List B.PublicKey

def TaskState.timeRemainingSecs (t : TaskState B) (now : ℤ) : Option ℕ :=
  match t.expiresAt with
  | some e => if now < e then some ((e - now).toNat / 10 ^ 9) else none
  | none => none

def TaskState.isRetained (t : TaskState B) (retention : ℕ) (now : ℤ) : Bool :=
  match t.submittedAt with
  | some submittedAt => (now - submittedAt).toNat < retention
  | none => false

def SnapshotEnv.Stamped (env : SnapshotEnv) (s : ℕ) (x : ℤ) : Prop :=
  ∃ id, AggregationSvc.Stamped (env.clock id) s x

def SnapshotEnv.Writes (env : SnapshotEnv) (p : PersistedTaskState) (t : TaskState B) : Prop :=
  PersistedTaskState.tryFrom t env.operators (env.clock t.taskId) = .ok p

variable {t : TaskState B}

lemma SnapshotEnv.Writes.represents {env : SnapshotEnv} {p : PersistedTaskState}
    (h : env.Writes p t) : Represents env.Stamped p t := by
  obtain ⟨p', hp', hrep⟩ := persist_represents t env.operators (env.clock t.taskId)
  have hsa : p = p' := Except.ok.inj (h.symm.trans hp')
  rw [hsa]
  exact hrep.mono fun s x hs => ⟨t.taskId, hs⟩

namespace Tasks

variable (ts : Tasks B)

def snapshot (env : SnapshotEnv) : Except PersistenceError (List PersistedTaskState) :=
  (env.tasks.entries ts).mapM fun e =>
    PersistedTaskState.tryFrom e.2 env.operators (env.clock e.1)

def recover (clock : TaskId → TaskClock) :
    List PersistedTaskState → Tasks B → Except PersistenceError (Tasks B)
  | [], recovered => .ok recovered
  | p :: ps, recovered =>
    match TaskState.tryFrom p (clock p.taskId) with
    | .error e => .error e
    | .ok task =>
      if task.taskId ∈ recovered.keys then
        .error (.serialization ("duplicate persisted task " ++ toString task.serviceId ++ "/"
          ++ toString task.callId))
      else recover clock ps (recovered.insert task.taskId task)

def restore (persisted : List PersistedTaskState) (env : SnapshotEnv) :
    Except PersistenceError Unit × Tasks B :=
  -- the map is replaced once all records have been read
  match recover env.clock persisted ∅ with
  | .error e => (.error e, ts)
  | .ok recovered => (.ok (), recovered)

def initTaskWithMessageConfig (a : InitArgs) (now : ℤ) : Outcome String Unit × Tasks B :=
  -- the task is built before the map is looked at
  match a.task B now with
  | none => (.error (.panicked "overflow when adding duration to instant"), ts)
  | some state =>
    match ts.lookup a.taskId with
    | some existing =>
      if existing.output = state.output ∧ existing.message = state.message
          ∧ existing.signatureScheme = state.signatureScheme
          ∧ existing.operatorCount = state.operatorCount
          ∧ existing.thresholdType = state.thresholdType
          ∧ existing.operatorStakes = state.operatorStakes then (.ok (), ts)
      else (.error (.err "Task initialization conflicts with existing context"), ts)
    | none => (.ok (), ts.insert a.taskId state)

def submitSignature (taskId : TaskId) (operatorIndex : ℕ)
    (signature : B.Signature) (publicKey : B.PublicKey) (now now' : ℤ) :
    Except String (ℕ × Bool) × Tasks B :=
  match ts.lookup taskId with
  | none => (.error "Task not found", ts)
  | some task =>
    if task.submitted then (.error "Task already submitted to chain", ts)
    else if task.isExpired now then (.error "Task has expired", ts)
    else
      match task.addSignature operatorIndex signature publicKey now' with
      | .error e => (.error e, ts)
      | .ok task => (.ok (task.signatureCount, task.thresholdMet), ts.insert taskId task)

def markSubmitted (taskId : TaskId) (now : ℤ) : Except String Unit × Tasks B :=
  match ts.lookup taskId with
  | none => (.error "Task not found", ts)
  | some task =>
    (.ok (), ts.insert taskId { task with submitted := true, submittedAt := some now })

def removeTask (taskId : TaskId) : Bool × Tasks B :=
  (decide (taskId ∈ ts.keys), ts.erase taskId)

def cleanupWhere (keep : TaskId → TaskState B → Bool) : ℕ × Tasks B :=
  let kept : Tasks B := HashMap.retain ts keep
  (ts.keys.card - kept.keys.card, kept)

def cleanupExpired (now : TaskId → ℤ) : ℕ × Tasks B :=
  cleanupWhere ts fun id task => !task.isExpired (now id)

def cleanupSubmittedAfter (retention : ℕ) (now : TaskId → ℤ) : ℕ × Tasks B :=
  cleanupWhere ts fun id task => !task.submitted || task.isRetained retention (now id)

def cleanupWithSubmittedRetention (retention : ℕ) (now : TaskId → ℤ) : ℕ × Tasks B :=
  cleanupWhere ts fun id task =>
    if task.submitted then task.isRetained retention (now id) else !task.isExpired (now id)

def getTaskOutput (taskId : TaskId) : Option Bytes :=
  (ts.lookup taskId).map TaskState.output

def getTaskSignatureContext (taskId : TaskId) : Option (Bytes × Bn254SignatureScheme) :=
  (ts.lookup taskId).map fun task => (task.message, task.signatureScheme)

def getStatus (taskId : TaskId) (now now' : ℤ) : Option TaskStatus :=
  (ts.lookup taskId).map fun task =>
    { signaturesCollected := task.signatureCount
      thresholdRequired := task.thresholdValue
      thresholdType := task.thresholdType
      thresholdMet := task.thresholdMet
      signerBitmap := task.signerBitmap
      signedStakeBps := task.signedStakeBps
      submitted := task.submitted
      isExpired := task.isExpired now
      timeRemainingSecs := task.timeRemainingSecs now' }

def getForAggregation (taskId : TaskId) (now : ℤ) : Option (TaskForAggregation B) :=
  match ts.lookup taskId with
  | none => none
  | some task =>
    if !task.thresholdMet || task.submitted || task.isExpired now then none
    else
      let (signatures, publicKeys) := task.getSignaturesForAggregation
      some
        { serviceId := task.serviceId
          callId := task.callId
          output := task.output
          signerBitmap := task.signerBitmap
          nonSignerIndices := task.getNonSigners
          signatures := signatures
          publicKeys := publicKeys }

def WellFormed : Prop :=
  ∀ id t, ts.lookup id = some t → t.WellFormed ∧ t.taskId = id

structure Records (Rel : PersistedTaskState → TaskState B → Prop) (ps : List PersistedTaskState)
    (ts : Tasks B) : Prop where
  nodup : (ps.map PersistedTaskState.taskId).Nodup
  sound : ∀ p ∈ ps, ∃ t, ts.lookup p.taskId = some t ∧ Rel p t
  complete : ∀ id t, ts.lookup id = some t → ∃ p ∈ ps, p.taskId = id

variable {ps : List PersistedTaskState} {ts : Tasks B} {id id' : TaskId}

lemma Records.mono {Rel Rel' : PersistedTaskState → TaskState B → Prop} (h : Records Rel ps ts)
    (hRel : ∀ p t, Rel p t → Rel' p t) : Records Rel' ps ts where
  nodup := h.nodup
  sound p hp := by
    obtain ⟨t, ht, hr⟩ := h.sound p hp
    exact ⟨t, ht, hRel p t hr⟩
  complete := h.complete

lemma Records.find {Rel : PersistedTaskState → TaskState B → Prop} (h : Records Rel ps ts)
    (ht : ts.lookup id = some t) :
    ∃ p, ps.find? (fun task => task.taskId = id) = some p ∧ p.taskId = id ∧ Rel p t := by
  obtain ⟨q, hq, hqid⟩ := h.complete id t ht
  obtain ⟨p, hf⟩ : ∃ p, ps.find? (fun task => task.taskId = id) = some p := by
    rw [← Option.isSome_iff_exists, find?_isSome]
    exact ⟨q, hq, by simp [hqid]⟩
  have hpid : p.taskId = id := by simpa using find?_some hf
  obtain ⟨t', ht', hrel⟩ := h.sound p (mem_of_find?_eq_some hf)
  rw [hpid, ht] at ht'
  cases ht'
  exact ⟨p, hf, hpid, hrel⟩

lemma snapshot_records (hwf : ts.WellFormed) (env : SnapshotEnv) :
    ∃ ps, ts.snapshot env = .ok ps ∧ Records env.Writes ps ts := by
  choose record hr hrep using persist_represents (B := B)
  have hs : ts.snapshot env
      = .ok ((env.tasks.entries ts).map fun e => record e.2 env.operators (env.clock e.1)) := by
    have hpu : (fun e : TaskId × TaskState B =>
        tryFrom e.2 env.operators (env.clock e.1))
          = fun e => pure (record e.2 env.operators (env.clock e.1)) := by
      funext e
      exact hr _ _ _
    rw [snapshot, hpu, mapM_pure]
    rfl
  -- the record of an entry carries the id the entry is stored under
  have hid : ∀ e ∈ env.tasks.entries ts,
      (record e.2 env.operators (env.clock e.1)).taskId = e.1 := by
    intro e he
    have ht := (env.tasks.mem_entries ts e.1 e.2).mp he
    rw [(hrep e.2 env.operators (env.clock e.1)).taskId, (hwf e.1 e.2 ht).2]
  refine ⟨_, hs, ?_, ?_, ?_⟩
  · -- distinct ids, since the entries have distinct keys
    rw [map_map]
    have hk : (env.tasks.entries ts).map
        (taskId ∘ fun e => record e.2 env.operators (env.clock e.1))
          = (env.tasks.entries ts).map Prod.fst := map_congr_left hid
    rw [hk]
    exact env.tasks.nodup_keys_entries ts
  · intro p hp
    obtain ⟨⟨id, t⟩, he, rfl⟩ := mem_map.mp hp
    have ht := (env.tasks.mem_entries ts id t).mp he
    refine ⟨t, ?_, ?_⟩
    · rw [hid _ he]
      exact ht
    · have hw := hr t env.operators (env.clock id)
      rw [SnapshotEnv.Writes, (hwf id t ht).2]
      exact hw
  · intro id t ht
    have he := (env.tasks.mem_entries ts id t).mpr ht
    exact ⟨_, mem_map.mpr ⟨_, he, rfl⟩, hid _ he⟩

lemma recover_ok (clk : TaskId → TaskClock) {recovered : Tasks B} (hn : (ps.map taskId).Nodup)
    (hr : ∀ p ∈ ps, ∃ t : TaskState B, TaskState.tryFrom p (clk p.taskId) = .ok t ∧
      t.taskId = p.taskId) (hnew : ∀ p ∈ ps, p.taskId ∉ recovered.keys) :
    ∃ ts', recover clk ps recovered = .ok ts' ∧
      (∀ p ∈ ps, ∀ t, TaskState.tryFrom p (clk p.taskId) = .ok t → ts'.lookup p.taskId = some t) ∧
      ∀ id ∉ ps.map taskId, ts'.lookup id = recovered.lookup id := by
  induction ps generalizing recovered with
  | nil => exact ⟨recovered, rfl, by simp, fun _ _ => rfl⟩
  | cons p ps ih =>
    rw [map_cons, nodup_cons] at hn
    obtain ⟨t, ht, hid⟩ := hr p mem_cons_self
    have hf : t.taskId ∉ recovered.keys := hid ▸ hnew p mem_cons_self
    -- the remaining records are new to the larger map as well
    have hnew' : ∀ q ∈ ps, q.taskId ∉ (recovered.insert t.taskId t).keys := by
      intro q hq
      rw [keys_insert, Finset.mem_insert, not_or, hid]
      exact ⟨fun he => hn.1 (he ▸ mem_map_of_mem hq), hnew q (mem_cons_of_mem _ hq)⟩
    obtain ⟨ts', hts', hin, hout⟩ := ih hn.2 (fun q hq => hr q (mem_cons_of_mem _ hq)) hnew'
    refine ⟨ts', ?_, ?_, ?_⟩
    · rw [recover, ht]
      simp only [if_neg hf]
      exact hts'
    · intro q hq t' ht'
      rcases mem_cons.mp hq with rfl | hq
      · rw [ht] at ht'
        cases ht'
        rw [hout _ hn.1, hid, Finmap.lookup_insert]
      · exact hin q hq t' ht'
    · intro id hid'
      rw [map_cons, mem_cons, not_or] at hid'
      rw [hout id hid'.2, Finmap.lookup_insert_of_ne _ (by rw [hid]; exact hid'.1)]

lemma Records.recover {R : ℕ → ℤ → Prop} (h : Records (Represents R) ps ts) (hwf : ts.WellFormed)
    (clk : TaskId → TaskClock) :
    ∃ ts', Tasks.recover clk ps ∅ = .ok ts' ∧ ∀ id, Option.Rel (fun t t' =>
      ∃ p ∈ ps, p.taskId = id ∧ Represents R p t ∧ t' = t.withStamps p (clk id))
      (ts.lookup id) (ts'.lookup id) := by
  have hre : ∀ p ∈ ps, ∃ t, ts.lookup p.taskId = some t ∧ Represents R p t ∧
      TaskState.tryFrom p (clk p.taskId) = .ok (t.withStamps p (clk p.taskId)) ∧
      (t.withStamps p (clk p.taskId)).taskId = p.taskId := by
    intro p hp
    obtain ⟨t, ht, hr⟩ := h.sound p hp
    exact ⟨t, ht, hr, hr.tryFrom (hwf _ t ht).1 _, hr.taskId.symm⟩
  obtain ⟨ts', hts', hin, hout⟩ := @recover_ok B ps clk ∅ h.nodup (fun p hp => by
      obtain ⟨t, -, -, htry, hid⟩ := hre p hp
      exact ⟨_, htry, hid⟩)
    (fun p _ => Finset.notMem_empty _)
  refine ⟨ts', hts', fun id => ?_⟩
  cases ht : ts.lookup id with
  | none =>
    have hnot : id ∉ ps.map taskId := by
      intro hm
      obtain ⟨p, hp, rfl⟩ := mem_map.mp hm
      obtain ⟨t, hs, -⟩ := h.sound p hp
      rw [ht] at hs
      cases hs
    rw [hout id hnot]
    exact .none
  | some t =>
    obtain ⟨p, hp, rfl⟩ := h.complete id t ht
    obtain ⟨t', ht', hr, htry, -⟩ := hre p hp
    rw [ht] at ht'
    cases ht'
    rw [hin p hp _ htry]
    exact .some ⟨p, hp, rfl, hr, rfl⟩

lemma initTaskWithMessageConfig_cases (ts : Tasks B) (a : InitArgs) (now : ℤ) :
    (∃ fault, ts.initTaskWithMessageConfig a now = (.error fault, ts)) ∨
    (∃ t, ts.lookup a.taskId = some t ∧ ts.initTaskWithMessageConfig a now = (.ok (), ts)) ∨
    (∃ t, ts.lookup a.taskId = none ∧ a.task B now = some t ∧
      ts.initTaskWithMessageConfig a now = (.ok (), ts.insert a.taskId t)) := by
  unfold initTaskWithMessageConfig
  rcases a.task B now with _ | st
  · exact .inl ⟨_, rfl⟩
  rcases ts.lookup a.taskId with _ | existing
  · exact .inr (.inr ⟨st, rfl, rfl, rfl⟩)
  dsimp only
  split
  · exact .inr (.inl ⟨existing, rfl, rfl⟩)
  · exact .inl ⟨_, rfl⟩

lemma submitSignature_cases (ts : Tasks B) (id : TaskId) (i : ℕ) (sig : B.Signature)
    (pk : B.PublicKey) (now now' : ℤ) :
    (∃ e, ts.submitSignature id i sig pk now now' = (.error e, ts)) ∨
    (∃ t t', ts.lookup id = some t ∧ t.submitted = false ∧ t.isExpired now = false ∧
      t.addSignature i sig pk now' = .ok t' ∧
      ts.submitSignature id i sig pk now now'
        = (.ok (t'.signatureCount, t'.thresholdMet), ts.insert id t')) := by
  unfold submitSignature
  rcases ts.lookup id with _ | t
  · exact .inl ⟨_, rfl⟩
  cases hs : t.submitted with
  | true => exact .inl ⟨"Task already submitted to chain", by simp [hs]⟩
  | false =>
    rcases he : t.isExpired now with _ | _
    · rcases ha : t.addSignature i sig pk now' with e | t'
      · exact .inl ⟨e, by simp [hs, he, ha]⟩
      exact .inr ⟨t, t', rfl, hs, he, ha, by simp [hs, he, ha]⟩
    exact .inl ⟨"Task has expired", by simp [hs, he]⟩

lemma markSubmitted_cases (ts : Tasks B) (id : TaskId) (now : ℤ) :
    (ts.lookup id = none ∧ ts.markSubmitted id now = (.error "Task not found", ts)) ∨
    (∃ t, ts.lookup id = some t ∧ ts.markSubmitted id now
      = (.ok (), ts.insert id { t with submitted := true, submittedAt := some now })) := by
  unfold markSubmitted
  rcases ts.lookup id with _ | t
  · exact .inl ⟨rfl, rfl⟩
  exact .inr ⟨t, rfl, rfl⟩

lemma lookup_initTaskWithMessageConfig {a : InitArgs} {now : ℤ}
    (h : (ts.initTaskWithMessageConfig a now).2.lookup id = some t) :
    ts.lookup id = some t ∨ (a.taskId = id ∧ a.task B now = some t) := by
  rcases ts.initTaskWithMessageConfig_cases a now with ⟨fault, he⟩ | ⟨t₀, -, he⟩ | ⟨t₀, -, ht₀, he⟩
  · exact .inl (by rwa [he] at h)
  · exact .inl (by rwa [he] at h)
  rw [he] at h
  rcases lookup_insert_cases h with ⟨hid, rfl⟩ | h
  · exact .inr ⟨hid.symm, ht₀⟩
  · exact .inl h

lemma lookup_submitSignature {i : ℕ} {sig : B.Signature} {pk : B.PublicKey} {now now' : ℤ}
    (h : (ts.submitSignature id' i sig pk now now').2.lookup id = some t) :
    ts.lookup id = some t ∨ ∃ t₀, id' = id ∧ ts.lookup id = some t₀ ∧
      t₀.addSignature i sig pk now' = .ok t ∧
      (ts.submitSignature id' i sig pk now now').1 = .ok (t.signatureCount, t.thresholdMet) := by
  rcases ts.submitSignature_cases id' i sig pk now now' with ⟨e, he⟩ | ⟨t₀, t', h₀, -, -, hadd, he⟩
  · exact .inl (by rwa [he] at h)
  rw [he] at h
  rcases lookup_insert_cases h with ⟨rfl, rfl⟩ | h
  · exact .inr ⟨t₀, rfl, h₀, hadd, by rw [he]⟩
  · exact .inl h

lemma lookup_markSubmitted {now : ℤ} (h : (ts.markSubmitted id' now).2.lookup id = some t) :
    ts.lookup id = some t ∨ ∃ t₀, ts.lookup id = some t₀ ∧
      t = { t₀ with submitted := true, submittedAt := some now } := by
  rcases ts.markSubmitted_cases id' now with ⟨-, he⟩ | ⟨t₀, h₀, he⟩
  · exact .inl (by rwa [he] at h)
  rw [he] at h
  rcases lookup_insert_cases h with ⟨rfl, rfl⟩ | h
  · exact .inr ⟨t₀, h₀, rfl⟩
  · exact .inl h

lemma lookup_cleanupWhere {keep : TaskId → TaskState B → Bool}
    (h : (ts.cleanupWhere keep).2.lookup id = some t) : ts.lookup id = some t :=
  (lookup_retain_eq_some.mp h).1

lemma cleanupWhere_eq_self {keep : TaskId → TaskState B → Bool} (h : (ts.cleanupWhere keep).1 = 0) :
    (ts.cleanupWhere keep).2 = ts := by
  have hsub : (ts.cleanupWhere keep).2.keys ⊆ ts.keys := by
    intro id hid
    obtain ⟨t, ht⟩ := (mem_keys_iff_lookup _ id).mp hid
    exact (mem_keys_iff_lookup _ id).mpr ⟨t, lookup_cleanupWhere ht⟩
  -- no key is lost, and kept tasks are not changed
  have hc : ts.keys.card ≤ (ts.cleanupWhere keep).2.keys.card := Nat.le_of_sub_eq_zero h
  have hk : (ts.cleanupWhere keep).2.keys = ts.keys := Finset.eq_of_subset_of_card_le hsub hc
  apply Finmap.ext_lookup
  intro id
  by_cases hid : id ∈ ts.keys
  · obtain ⟨t, ht⟩ := (mem_keys_iff_lookup _ id).mp (hk ▸ hid)
    rw [ht, lookup_cleanupWhere ht]
  · have hid' : id ∉ (ts.cleanupWhere keep).2.keys := hk ▸ hid
    rw [Finmap.lookup_eq_none.mpr (Finmap.mem_keys.not.mp hid),
      Finmap.lookup_eq_none.mpr (Finmap.mem_keys.not.mp hid')]

lemma lookup_removeTask (h : (ts.removeTask id').2.lookup id = some t) : ts.lookup id = some t := by
  rw [removeTask, lookup_erase_eq] at h
  split at h
  · cases h
  · exact h

lemma lookup_recover {clk : TaskId → TaskClock} {recovered : Tasks B}
    (h : recover clk ps recovered = .ok ts) (ht : ts.lookup id = some t) :
    recovered.lookup id = some t ∨
      ∃ p ∈ ps, TaskState.tryFrom p (clk p.taskId) = .ok t ∧ t.taskId = id := by
  induction ps generalizing recovered with
  | nil =>
    cases h
    exact .inl ht
  | cons p ps ih =>
    rw [recover] at h
    rcases hp : TaskState.tryFrom (B := B) p (clk p.taskId) with e | task
    · simp [hp] at h
    simp only [hp] at h
    split at h
    · cases h
    rcases ih h with hr | ⟨q, hq, hqt⟩
    · rcases lookup_insert_cases hr with ⟨hid, rfl⟩ | hr
      · exact .inr ⟨p, mem_cons_self, hp, hid.symm⟩
      · exact .inl hr
    · exact .inr ⟨q, mem_cons_of_mem _ hq, hqt⟩

lemma lookup_restore {env : SnapshotEnv} (h : (ts.restore ps env).2.lookup id = some t) :
    ts.lookup id = some t ∨
      ∃ p ∈ ps, TaskState.tryFrom p (env.clock p.taskId) = .ok t ∧ t.taskId = id := by
  unfold restore at h
  rcases hr : recover (B := B) env.clock ps ∅ with e | recovered
  · simp only [hr] at h
    exact .inl h
  simp only [hr] at h
  rcases lookup_recover hr h with he | hre
  · rw [Finmap.lookup_empty] at he
    cases he
  · exact .inr hre

end Tasks

/-! ## Runs of the task map

A run keeps the snapshots it has taken, so that any of them can be restored later. `TaskOrigin` says
once where the tasks stored after an operation come from; every invariant of the tasks is derived from
it. -/

inductive Op (B : Bn254) where
  | init (a : InitArgs) (now : ℤ)
  | submit (taskId : TaskId) (operatorIndex : ℕ) (signature : B.Signature)
      (publicKey : B.PublicKey) (now now' : ℤ)
  | markSubmitted (taskId : TaskId) (now : ℤ)
  | remove (taskId : TaskId)
  | cleanupExpired (now : TaskId → ℤ)
  | cleanupSubmittedAfter (retention : ℕ) (now : TaskId → ℤ)
  | cleanupWithSubmittedRetention (retention : ℕ) (now : TaskId → ℤ)
  | snapshot (env : SnapshotEnv)
  | restore (k : ℕ) (env : SnapshotEnv)

structure Store (B : Bn254) where
  tasks : Tasks B
  snapshots : List (List PersistedTaskState)

namespace Store

def empty : Store B := ⟨∅, []⟩

def step (s : Store B) : Op B → Store B
  | .init a now => { s with tasks := (s.tasks.initTaskWithMessageConfig a now).2 }
  | .submit taskId i sig pk now now' =>
    { s with tasks := (s.tasks.submitSignature taskId i sig pk now now').2 }
  | .markSubmitted taskId now => { s with tasks := (s.tasks.markSubmitted taskId now).2 }
  | .remove taskId => { s with tasks := (s.tasks.removeTask taskId).2 }
  | .cleanupExpired now => { s with tasks := (s.tasks.cleanupExpired now).2 }
  | .cleanupSubmittedAfter retention now =>
    { s with tasks := (s.tasks.cleanupSubmittedAfter retention now).2 }
  | .cleanupWithSubmittedRetention retention now =>
    { s with tasks := (s.tasks.cleanupWithSubmittedRetention retention now).2 }
  | .snapshot env =>
    match s.tasks.snapshot env with
    | .ok ps => { s with snapshots := s.snapshots ++ [ps] }
    | .error _ => s
  | .restore k env =>
    match s.snapshots[k]? with
    | some ps => { s with tasks := (s.tasks.restore ps env).2 }
    | none => s

inductive TaskOrigin (s : Store B) (op : Op B) (id : TaskId) (t : TaskState B) : Prop where
  | kept (h : s.tasks.lookup id = some t)
  | created (a : InitArgs) (now : ℤ) (hid : a.taskId = id) (ht : a.task B now = some t)
  | signed (i : ℕ) (sig : B.Signature) (pk : B.PublicKey) (now now' : ℤ) (t₀ : TaskState B)
      (hop : op = .submit id i sig pk now now') (h₀ : s.tasks.lookup id = some t₀)
      (hadd : t₀.addSignature i sig pk now' = .ok t)
      (hok : (s.tasks.submitSignature id i sig pk now now').1
        = .ok (t.signatureCount, t.thresholdMet))
  | marked (now : ℤ) (t₀ : TaskState B) (h₀ : s.tasks.lookup id = some t₀)
      (ht : t = { t₀ with submitted := true, submittedAt := some now })
  | restored (ps : List PersistedTaskState) (p : PersistedTaskState) (clock : TaskClock)
      (hps : ps ∈ s.snapshots) (hp : p ∈ ps) (ht : TaskState.tryFrom p clock = .ok t)
      (hid : t.taskId = id)

lemma step_origin {s : Store B} {op : Op B} {id : TaskId} {t : TaskState B}
    (h : (s.step op).tasks.lookup id = some t) : TaskOrigin s op id t := by
  cases op with
  | init a now =>
    rcases Tasks.lookup_initTaskWithMessageConfig h with h | ⟨hid, ht⟩
    · exact .kept h
    · exact .created a now hid ht
  | submit id' i sig pk now now' =>
    rcases Tasks.lookup_submitSignature h with h | ⟨t₀, rfl, h₀, hadd, hok⟩
    · exact .kept h
    · exact .signed i sig pk now now' t₀ rfl h₀ hadd hok
  | markSubmitted id' now =>
    rcases Tasks.lookup_markSubmitted h with h | ⟨t₀, h₀, ht⟩
    · exact .kept h
    · exact .marked now t₀ h₀ ht
  | remove id' => exact .kept (Tasks.lookup_removeTask h)
  | cleanupExpired | cleanupSubmittedAfter | cleanupWithSubmittedRetention =>
    exact .kept (Tasks.lookup_cleanupWhere h)
  | snapshot env =>
    simp only [step] at h
    split at h <;> exact .kept h
  | restore k env =>
    simp only [step] at h
    split at h
    · rename_i ps hps
      -- a restore that fails keeps the tasks
      rcases Tasks.lookup_restore h with h | ⟨p, hp, htry, hid⟩
      · exact .kept h
      · exact .restored ps p _ (List.mem_of_getElem? hps) hp htry hid
    · exact .kept h

lemma step_snapshots {s : Store B} {op : Op B} {ps : List PersistedTaskState}
    (h : ps ∈ (s.step op).snapshots) :
    ps ∈ s.snapshots ∨ ∃ env, s.tasks.snapshot env = .ok ps := by
  cases op with
  | snapshot env =>
    simp only [step] at h
    split at h
    · rename_i ps' hps'
      rcases List.mem_append.mp h with h | h
      · exact .inl h
      · rw [List.mem_singleton.mp h]
        exact .inr ⟨env, hps'⟩
    · exact .inl h
  | restore k env =>
    simp only [step] at h
    split at h <;> exact .inl h
  | _ => exact .inl h

lemma wellFormed_step {s : Store B} (h : s.tasks.WellFormed) (op : Op B) :
    (s.step op).tasks.WellFormed := by
  intro id t ht
  cases step_origin ht with
  | kept h₀ => exact h id t h₀
  | created a now hid ht =>
    obtain ⟨e, rfl⟩ := TaskState.withMessageConfig_eq_some ht
    exact ⟨TaskState.create_wellFormed .., hid⟩
  | signed i sig pk now now' t₀ hop h₀ hadd hok =>
    obtain ⟨hwf, hid⟩ := h id t₀ h₀
    refine ⟨hwf.addSignature hadd, ?_⟩
    obtain ⟨-, -, -, rfl⟩ := TaskState.addSignature_eq_ok_iff.mp hadd
    exact hid
  | marked now t₀ h₀ ht =>
    -- the mark and its instant are set together
    obtain ⟨hwf, hid⟩ := h id t₀ h₀
    subst ht
    exact ⟨⟨hwf.keys_eq, hwf.index_lt, hwf.bit_iff, hwf.total_eq, fun _ => rfl⟩, hid⟩
  | restored ps p clk hps hp ht hid => exact ⟨(tryFrom_eq_ok ht).1, hid⟩

lemma wellFormed_empty : (empty : Store B).tasks.WellFormed := by
  intro id t h
  rw [empty, Finmap.lookup_empty] at h
  cases h

end Store

end Gadget.AggregationSvc
