import Gadget.AggregationSvc.Service

/-!
# What every call keeps

Rules for the steps that only look at the tasks, and the invariants of the tasks that follow
from the operations of the task map alone: they hold in every state of every call, whatever
the backend does.
-/

namespace Gadget.AggregationSvc

open Rust Lib.Program

variable {B : Bn254}

namespace Service

section

variable {κ : Type} {allow : κ → StepEnv → κ → Prop} {I : Service B → Prop} {c : κ}
  {s : Service B} {cfg : ServiceConfig} {req : SubmitSignatureRequest}

lemma wp_change {α : Type} {f : StepEnv → Tasks B → Outcome ServiceError α × Tasks B}
    {Q : κ → Outcome ServiceError α → Service B → Prop} (hi : I s)
    (h : ∀ w c', allow c w c' → I { s with tasks := (f w s.tasks).2 } ∧
      Q c' (f w s.tasks).1 { s with tasks := (f w s.tasks).2 }) :
    wp allow I Q (change f).run c s :=
  wp_atomic hi h

variable {Q : κ → Outcome ServiceError Unit → Service B → Prop}

lemma wp_checkOutput (hi : I s) (h : ∀ c' r, Q c' r s) :
    wp allow I Q (checkOutput cfg req).run c s := by
  unfold checkOutput
  split
  · exact wp_ask hi fun w c' _ => h c' _
  · exact wp_pure hi (h c _)

lemma wp_parsePoint {α : Type} {point : Except String α} {err : ServiceError}
    {Q : κ → Outcome ServiceError α → Service B → Prop} (hi : I s)
    (hok : ∀ p, point = .ok p → Q c (.ok p) s) (herr : ∀ e, Q c (.error e) s) :
    wp allow I Q (parsePoint point err).run c s := by
  rcases point with e | p
  · exact wp_pure hi (herr _)
  exact wp_pure hi (hok p rfl)

lemma wp_checkSignature {sig : B.Signature} {pk : B.PublicKey} (hi : I s)
    (hok : ∀ c', (cfg.verifyOnSubmit = true → ∀ t, s.tasks.lookup req.taskId = some t →
      B.verifyWith t.signatureScheme pk t.message sig = true) → Q c' (.ok ()) s)
    (herr : ∀ c' e, Q c' (.error e) s) : wp allow I Q (checkSignature cfg req sig pk).run c s := by
  unfold checkSignature
  split
  · apply wp_ask hi
    intro w c' _
    unfold Tasks.getTaskSignatureContext
    rcases ht : s.tasks.lookup req.taskId with _ | t
    · exact herr c' _
    show Q c' (if B.verifyWith t.signatureScheme pk t.message sig then _ else _) s
    split
    · rename_i hv
      refine hok c' fun _ t' ht' => ?_
      rw [ht] at ht'
      cases ht'
      exact hv
    · exact herr c' _
  · rename_i hoff
    exact wp_pure hi (hok c fun hon => absurd hon hoff)

lemma wp_requireStatus {taskId : TaskId}
    {Q : κ → Outcome ServiceError TaskStatus → Service B → Prop} (hi : I s)
    (h : ∀ c' r, Q c' r s) : wp allow I Q (requireStatus taskId).run c s :=
  wp_ask hi fun _ c' _ => h c' _

end

/-- A property of the task map that its operations keep, those of this service: a task is initialized only with
arguments that are allowed, a signature is submitted only after its check, and only a snapshot of tasks with the
property is restored. -/
structure CallInvariant (config : ServiceConfig) (allowed : InitArgs → Prop)
    (J : Tasks B → Prop) : Prop where
  init : ∀ ts a now, allowed a → J ts → J (ts.initTaskWithMessageConfig a now).2
  submit : ∀ ts id i sig pk now now', J ts →
    (config.verifyOnSubmit = true → ∀ t, ts.lookup id = some t →
      B.verifyWith t.signatureScheme pk t.message sig = true) →
    J (ts.submitSignature id i sig pk now now').2
  mark : ∀ ts id now, J ts → J (ts.markSubmitted id now).2
  remove : ∀ ts id, J ts → J (ts.removeTask id).2
  cleanup : ∀ ts keep, J ts → J (ts.cleanupWhere keep).2
  restore : ∀ ts ts₀ env env' ps, J ts → J ts₀ → ts.snapshot env = .ok ps →
    J (ts₀.restore ps env').2

abbrev TaskInvariant (config : ServiceConfig) (J : Tasks B → Prop) : Prop := CallInvariant config (fun _ => True) J

/-- The property holds between the operations of the program. -/
def Keeps {α : Type} (J : Tasks B → Prop) (p : ServiceProg B α) : Prop :=
  ∀ s, J s.tasks → wp (fun _ _ _ => True) (fun s => J s.tasks) (fun _ _ _ => True) p () s

/-- A snapshot of tasks with the property. -/
def Taken (J : Tasks B → Prop) (ps : List PersistedTaskState) : Prop :=
  ∃ ts env, J ts ∧ ts.snapshot env = .ok ps

section

variable {J : Tasks B → Prop} {α β : Type}

lemma Keeps.bind {p : ServiceProg B α} {f : α → ServiceProg B β} (hp : Keeps J p)
    (hf : ∀ a, Keeps J (f a)) : Keeps J (p >>= f) := by
  intro s hs
  exact wp_bind (wp_mono (hp s hs) fun c a s' hs' _ => hf a s' hs')

lemma Keeps.exceptBind {p : ServiceM B α} {f : α → ServiceM B β} (hp : Keeps J p.run)
    (hf : ∀ a, Keeps J (f a).run) : Keeps J (p >>= f).run := by
  intro s hs
  apply wp_except_bind
  refine wp_mono (hp s hs) ?_
  intro c r s' hs' _
  rcases r with e | a
  · trivial
  exact hf a s' hs'

lemma keeps_pure (a : α) : Keeps J (pure a : ServiceProg B α) := fun _ hs => wp_pure hs trivial

lemma keeps_backend {f : StepEnv → Service B → α × Service B}
    (hf : ∀ w s, (f w s).2.tasks = s.tasks) : Keeps J (atomic f) := by
  intro s hs
  refine wp_atomic (I := fun s : Service B => J s.tasks) hs fun w _ _ => ⟨?_, trivial⟩
  rw [hf]
  exact hs

lemma keeps_saveTask (task : PersistedTaskState) : Keeps J (saveTask (B := B) task) :=
  keeps_backend fun _ _ => rfl

lemma keeps_deleteTask (id : TaskId) : Keeps J (deleteTask (B := B) id) :=
  keeps_backend fun _ _ => rfl

lemma keeps_flush : Keeps J (flush (B := B)) := keeps_backend fun _ _ => rfl

lemma keeps_snapshot {f : Outcome ServiceError (List PersistedTaskState) → ServiceProg B β}
    (hok : ∀ ps, Taken J ps → Keeps J (f (.ok ps))) (herr : ∀ e, Keeps J (f (.error e))) :
    Keeps J (snapshot.run >>= f) := by
  intro s hs
  apply wp_bind
  refine wp_ask (I := fun s : Service B => J s.tasks) hs fun w _ _ => ?_
  rcases hps : s.tasks.snapshot w.snapshot with e | ps
  · exact herr _ s hs
  exact hok ps ⟨s.tasks, w.snapshot, hs, hps⟩ s hs

lemma keeps_snapshot_exceptBind {f : List PersistedTaskState → ServiceM B β}
    (h : ∀ ps, Taken J ps → Keeps J (f ps).run) : Keeps J (snapshot >>= f).run := by
  exact keeps_snapshot h fun e => keeps_pure _

end

section

variable {cfg : ServiceConfig} {allowed : InitArgs → Prop} {J : Tasks B → Prop}
  {before : List PersistedTaskState}

lemma CallInvariant.restoreSnapshot (hJ : CallInvariant cfg allowed J) (hb : Taken J before) :
    Keeps J (restoreSnapshot (B := B) before) := by
  intro s hs
  obtain ⟨ts, env, hts, hps⟩ := hb
  exact wp_atomic hs fun w c' _ => ⟨hJ.restore ts s.tasks env w.snapshot before hts hs hps, trivial⟩

lemma keeps_orPersistenceError {call : ServiceProg B (Except PersistenceError Unit)}
    (h : Keeps J call) : Keeps J (orPersistenceError call).run :=
  h.bind fun _ => keeps_pure _

lemma keeps_persistTask (id : TaskId) : Keeps J (persistTask (B := B) id).run := by
  apply keeps_snapshot_exceptBind
  intro ps _
  cases ps.find? (fun task => task.taskId = id) with
  | none => exact keeps_pure _
  | some task =>
    exact (keeps_orPersistenceError (keeps_saveTask task)).exceptBind fun _ =>
      keeps_orPersistenceError keeps_flush

lemma keeps_restorePersistedTask (before : List PersistedTaskState) (id : TaskId) :
    Keeps J (restorePersistedTask (B := B) before id) := by
  refine Keeps.bind ?_ fun result => ?_
  · cases before.find? (fun task => task.taskId = id) with
    | some task => exact keeps_saveTask task
    | none => exact keeps_deleteTask id
  · rcases result with e | u
    · exact keeps_pure _
    exact keeps_flush.bind fun _ => keeps_pure _

variable (tasks : List PersistedTaskState)

lemma keeps_saveTasks : Keeps J (saveTasks (B := B) tasks) := by
  induction tasks with
  | nil => exact keeps_pure _
  | cons task tasks ih => exact (keeps_saveTask task).bind fun _ => ih

lemma keeps_restorePersistedTasks : Keeps J (restorePersistedTasks (B := B) tasks) :=
  (keeps_saveTasks tasks).bind fun _ => keeps_flush.bind fun _ => keeps_pure _

lemma CallInvariant.persistOrRollback (hJ : CallInvariant cfg allowed J) (hb : Taken J before)
    (id : TaskId) : Keeps J (persistOrRollback (B := B) before id).run := by
  refine Keeps.bind (keeps_persistTask id) fun r => ?_
  rcases r with e | u
  · exact (keeps_restorePersistedTask before id).bind fun _ =>
      (hJ.restoreSnapshot hb).bind fun _ => keeps_pure _
  exact keeps_pure _

lemma keeps_change {α : Type} {f : StepEnv → Tasks B → Outcome ServiceError α × Tasks B}
    (hf : ∀ w ts, J ts → J (f w ts).2) : Keeps J (change f).run :=
  fun s hs => wp_change hs fun w _ _ => ⟨hf w s.tasks hs, trivial⟩

section

variable (hJ : CallInvariant cfg allowed J)

include hJ

lemma CallInvariant.initTask {a : InitArgs} (ha : allowed a) :
    Keeps J (initTaskWithMessageConfig (B := B) a).run := by
  apply keeps_snapshot_exceptBind
  intro before hb
  exact (keeps_change fun w ts hts => hJ.init ts a w.now ha hts).exceptBind fun _ =>
    hJ.persistOrRollback hb _

lemma CallInvariant.markSubmitted (id : TaskId) : Keeps J (markSubmitted (B := B) id).run := by
  apply keeps_snapshot_exceptBind
  intro before hb
  exact (keeps_change fun w ts hts => hJ.mark ts id w.now hts).exceptBind fun _ =>
    hJ.persistOrRollback hb _

lemma CallInvariant.submitSignature (req : SubmitSignatureRequest) :
    Keeps J (submitSignature (B := B) cfg req).run := by
  apply keeps_snapshot_exceptBind
  intro before hb s hs
  -- nothing up to the submission changes the state, so the check is about the task at hand
  apply wp_except_bind
  refine wp_checkOutput hs fun c r => ?_
  rcases r with e | u
  · trivial
  apply wp_except_bind
  refine wp_parsePoint hs (fun sig _ => ?_) fun _ => trivial
  apply wp_except_bind
  refine wp_parsePoint hs (fun pk _ => ?_) fun _ => trivial
  apply wp_except_bind
  refine wp_checkSignature hs (fun c hv => ?_) fun _ _ => trivial
  apply wp_except_bind
  refine wp_requireStatus hs fun c r => ?_
  rcases r with e | status
  · trivial
  apply wp_except_bind
  refine wp_change hs fun w c' _ => ?_
  have hnew := hJ.submit s.tasks req.taskId req.operatorIndex sig pk w.now w.now' hs hv
  refine ⟨hnew, ?_⟩
  split
  · exact (hJ.persistOrRollback hb req.taskId).exceptBind (fun _ => keeps_pure _) _ hnew
  · trivial

lemma CallInvariant.removeTask (id : TaskId) : Keeps J (removeTask (B := B) id) := by
  refine keeps_snapshot (fun before _ => ?_) fun e => keeps_pure _
  refine Keeps.bind (fun s hs => wp_ask hs fun _ _ _ => trivial) fun found => ?_
  split
  · exact keeps_pure _
  refine (keeps_deleteTask id).bind fun r => ?_
  rcases r with e | u
  · exact (keeps_restorePersistedTask before id).bind fun _ => keeps_pure _
  refine keeps_flush.bind fun r => ?_
  rcases r with e | u
  · exact (keeps_restorePersistedTask before id).bind fun _ => keeps_pure _
  exact fun s hs => wp_atomic hs fun w c' _ => ⟨hJ.remove s.tasks id hs, trivial⟩

lemma CallInvariant.deleteTasks (hb : Taken J before) (tasks done : List PersistedTaskState) :
    Keeps J (deleteTasks (B := B) before done tasks) := by
  -- over the loop; the records deleted so far differ from turn to turn
  induction tasks generalizing done with
  | nil => exact keeps_pure _
  | cons task tasks ih =>
    refine (keeps_deleteTask task.taskId).bind fun r => ?_
    rcases r with e | u
    · exact (keeps_restorePersistedTasks _).bind fun _ =>
        (hJ.restoreSnapshot hb).bind fun _ => keeps_pure _
    exact ih _

lemma CallInvariant.cleanupTasks (kind : CleanupKind) {ts : Tasks B} (hts : J ts) (now : TaskId → ℤ) :
    J (cleanupTasks cfg kind ts now).2 := by
  cases kind with
  | all | expired | submitted => exact hJ.cleanup ts _ hts

lemma CallInvariant.cleanupWithPersistence (kind : CleanupKind) :
    Keeps J (cleanupWithPersistence (B := B) cfg kind).run := by
  apply keeps_snapshot_exceptBind
  intro before hb
  refine Keeps.exceptBind (keeps_change fun w ts hts => hJ.cleanupTasks kind hts w.nowOf)
    fun removed => ?_
  split
  · exact keeps_pure _
  have hs : Keeps J (removedSince (B := B) before).run := by
    refine keeps_snapshot (fun after _ => keeps_pure _) fun e => ?_
    exact (hJ.restoreSnapshot hb).bind fun _ => keeps_pure _
  refine hs.exceptBind fun gone => ?_
  have hp : Keeps J (persistCleanup (B := B) before gone).run := by
    refine (hJ.deleteTasks hb gone []).exceptBind (p := ExceptT.mk _) fun _ => ?_
    refine keeps_flush.bind fun r => ?_
    rcases r with e | u
    · exact (keeps_restorePersistedTasks _).bind fun _ =>
        (hJ.restoreSnapshot hb).bind fun _ => keeps_pure _
    exact keeps_pure _
  exact hp.exceptBind fun _ => keeps_pure _

lemma CallInvariant.code {call : Call} (hc : ∀ a, call = .init a → allowed a) :
    Keeps J (call.code B cfg) := by
  cases call with
  | init a => exact (hJ.initTask (hc a rfl)).bind fun _ => keeps_pure _
  | submit req => exact (hJ.submitSignature req).bind fun _ => keeps_pure _
  | mark id => exact (hJ.markSubmitted id).bind fun _ => keeps_pure _
  | remove id => exact (hJ.removeTask id).bind fun _ => keeps_pure _
  | clean kind =>
    refine Keeps.bind ((hJ.cleanupWithPersistence kind).bind fun r => ?_) fun _ => keeps_pure _
    rcases r with e | removed <;> exact keeps_pure _

end

theorem TaskInvariant.code (hJ : TaskInvariant cfg J) (call : Call) : Keeps J (call.code B cfg) :=
  CallInvariant.code hJ fun _ _ => trivial

lemma wellFormed_invariant (cfg : ServiceConfig) :
    TaskInvariant cfg (Tasks.WellFormed (B := B)) where
  init ts a now _ h := Store.wellFormed_step (s := ⟨ts, []⟩) h (.init a now)
  submit ts id i sig pk now now' h _ :=
    Store.wellFormed_step (s := ⟨ts, []⟩) h (.submit id i sig pk now now')
  mark ts id now h := Store.wellFormed_step (s := ⟨ts, []⟩) h (.markSubmitted id now)
  remove ts id h := Store.wellFormed_step (s := ⟨ts, []⟩) h (.remove id)
  cleanup _ _ h := fun id t ht => h id t (Tasks.lookup_cleanupWhere ht)
  restore _ ts₀ _ env' ps _ h₀ _ := Store.wellFormed_step (s := ⟨ts₀, [ps]⟩) h₀ (.restore 0 env')

end

end Service

end Gadget.AggregationSvc
