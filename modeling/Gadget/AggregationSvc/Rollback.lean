import Gadget.AggregationSvc.Calls
import Gadget.AggregationSvc.RoundTrip

/-!
# Rolling back

The backend holds exactly the records of the tasks, a call runs, and at most one call of the
backend fails during it. Then a call that reports a failure has rolled back the backend and the
tasks, which come out of a snapshot; a call that succeeds leaves the backend with the records of
the new tasks.
-/

namespace Gadget.AggregationSvc

open Rust Lib.Program List PersistedTaskState

variable {B : Bn254}

def RecordOf (p : PersistedTaskState) (t : TaskState B) : Prop :=
  ∃ env : SnapshotEnv, env.Writes p t

namespace Service

def Persists (s : Service B) (ts : Tasks B) : Prop :=
  s.backend.Holds RecordOf fun id => ts.lookup id

def RolledBack (good : StepEnv → Prop) (ts ts' : Tasks B) : Prop :=
  ∃ w w' ps, good w ∧ good w' ∧ ts.snapshot w.snapshot = .ok ps ∧
    ts.restore ps w'.snapshot = (.ok (), ts')

def Undone (good : StepEnv → Prop) (ts : Tasks B) (s : Service B) : Prop :=
  (s.tasks = ts ∨ RolledBack good ts s.tasks) ∧ s.Persists ts

structure Before (good : StepEnv → Prop) (ps : List PersistedTaskState) (ts : Tasks B) : Prop where
  wellFormed : ts.WellFormed
  taken : ∃ w, good w ∧ ts.snapshot w.snapshot = .ok ps

lemma Before.records {good : StepEnv → Prop} {ps : List PersistedTaskState} {ts : Tasks B}
    (h : Before good ps ts) : Tasks.Records RecordOf ps ts := by
  obtain ⟨w, -, hps⟩ := h.taken
  obtain ⟨ps', hps', hrec⟩ := Tasks.snapshot_records h.wellFormed w.snapshot
  have hs : ps' = ps := Except.ok.inj (hps'.symm.trans hps)
  rw [← hs]
  exact hrec.mono fun p t hp => ⟨_, hp⟩

abbrev Ensures {α : Type} (good : StepEnv → Prop) (Q : Bool → α → Service B → Prop)
    (p : ServiceProg B α) (spent : Bool) (s : Service B) : Prop :=
  wp (oneFault good fun w => w.backend.failed) (fun _ => True) Q p spent s

variable {good : StepEnv → Prop} {s : Service B} {ts : Tasks B}

structure ChangesOnly (id : TaskId) (ts ts' : Tasks B) : Prop where
  wellFormed : ts'.WellFormed
  stored : ∃ t, ts'.lookup id = some t
  others : ∀ id', id' ≠ id → ts'.lookup id' = ts.lookup id'

def Settled {ε α : Type} (good : StepEnv → Prop) (ts : Tasks B) (r : Except ε α)
    (s : Service B) : Prop :=
  match r with
  | .ok _ => s.Persists s.tasks
  | .error _ => Undone good ts s

/-- The backend has the records of the tasks, up to a flush and apart from some. -/
abbrev Awaits (s : Service B) (ts : Tasks B) (ids : List TaskId) : Prop :=
  s.backend.PendingOutside RecordOf (fun id => ts.lookup id) ids

lemma settled_unchanged {ε α : Type} (hp : s.Persists s.tasks) (e : ε) :
    Settled good s.tasks (.error e : Except ε α) s :=
  ⟨.inl rfl, hp⟩

variable {spent : Bool}

variable {f : StepEnv → Service B → Service B}
  {Q : Bool → Except PersistenceError Unit → Service B → Prop} {before : List PersistedTaskState}

lemma ensures_call (hok : ∀ w spent', w.backend.failed = false → (spent = true → spent' = true) →
      Q spent' (.ok ()) (f w s)) (herr : ∀ w e, spent = false → Q true (.error e) (f w s)) :
    Ensures good Q (atomic fun w s => (w.backend.result, f w s)) spent s := by
  apply wp_atomic trivial
  intro w spent' hw
  obtain ⟨-, ho, rfl⟩ := hw
  refine ⟨trivial, ?_⟩
  show Q (spent || w.backend.failed) w.backend.result (f w s)
  rcases w.backend.ok_or_failed with ⟨hf, hr⟩ | ⟨hf, e, hr⟩
  · have hq := hok w (spent || w.backend.failed) hf (by rintro rfl; rfl)
    rw [hr]
    exact hq
  · have hs : spent = false := by simpa [hf] using ho
    have hq := herr w e hs
    rw [hr, hf, Bool.or_true]
    exact hq

lemma ensures_call_spent (hok : ∀ w, w.backend.failed = false → Q true (.ok ()) (f w s)) :
    Ensures good Q (atomic fun w s => (w.backend.result, f w s)) true s :=
  ensures_call (fun w spent' hf hs => hs rfl ▸ hok w hf) fun _ _ h => by cases h

lemma ensures_snapshot (hwf : s.tasks.WellFormed)
    {Q : Bool → Outcome ServiceError (List PersistedTaskState) → Service B → Prop}
    (h : ∀ spent' ps, (spent = true → spent' = true) → Before good ps s.tasks →
      Q spent' (.ok ps) s) : Ensures good Q (snapshot (B := B)).run spent s := by
  apply wp_ask trivial
  intro w spent' hw
  obtain ⟨hg, -, rfl⟩ := hw
  obtain ⟨ps, hps, -⟩ := Tasks.snapshot_records hwf w.snapshot
  rw [hps]
  exact h _ ps (by rintro rfl; rfl) ⟨hwf, w, hg, hps⟩

lemma wp_restoreSnapshot {κ : Type} {allow : κ → StepEnv → κ → Prop} {c : κ}
    (hb : Before good before ts) {Q : κ → Unit → Service B → Prop}
    (h : ∀ w c' ts', allow c w c' → (good w → RolledBack good ts ts') →
      Q c' () { s with tasks := ts' }) :
    wp allow (fun _ => True) Q (restoreSnapshot before) c s := by
  apply wp_atomic trivial
  intro w' c' hw'
  obtain ⟨w, hg, hps⟩ := hb.taken
  obtain ⟨ps, hps', hrec⟩ := Tasks.snapshot_records hb.wellFormed w.snapshot
  have hs : ps = before := Except.ok.inj (hps'.symm.trans hps)
  subst hs
  obtain ⟨ts', hts', -⟩ := hrec.restore hb.wellFormed w'.snapshot
  refine ⟨trivial, ?_⟩
  rw [hts' s.tasks]
  exact h w' c' ts' hw' fun hg' => ⟨w, w', ps, hg, hg', hps, hts' ts⟩

lemma ensures_restoreSnapshot (hb : Before good before ts) {Q : Bool → Unit → Service B → Prop}
    (h : ∀ spent' ts', RolledBack good ts ts' → Q spent' () { s with tasks := ts' }) :
    Ensures good Q (restoreSnapshot before) spent s :=
  wp_restoreSnapshot hb fun _ spent' ts' hw hts' => h spent' ts' (hts' hw.1)

section

variable {before : List PersistedTaskState}

variable {id : TaskId}

lemma ensures_restorePersistedTask (hb : Tasks.Records RecordOf before ts) (hs : s.Awaits ts [id]) :
    Ensures good (fun spent _ s' => spent = true ∧ s'.tasks = s.tasks ∧ s'.Persists ts)
      (restorePersistedTask before id) true s := by
  apply wp_bind
  -- whichever call it is, it leaves the backend matching the tasks up to the flush
  have hfl : ∀ s' : Service B, s'.tasks = s.tasks → s'.Awaits ts [] →
      Ensures good (fun spent _ s' => spent = true ∧ s'.tasks = s.tasks ∧ s'.Persists ts)
        (flush >>= fun _ => pure ()) true s' := by
    intro s' hta hs'
    apply wp_bind
    apply ensures_call_spent
    intro w hw
    exact wp_pure trivial ⟨rfl, hta, hs'.flush_ok hw⟩
  cases hf : before.find? (fun task => task.taskId = id) with
  | some p =>
    have hid : p.taskId = id := by simpa using find?_some hf
    obtain ⟨t, ht, hp⟩ := hb.sound p (mem_of_find?_eq_some hf)
    apply ensures_call_spent
    intro w hw
    refine hfl _ rfl ?_
    rw [← hid] at hs
    exact hs.save_ok hw ht hp
  | none =>
    have hn : ts.lookup id = none := by
      rcases ht : ts.lookup id with _ | t
      · rfl
      obtain ⟨p, hp, hid⟩ := hb.complete id t ht
      have hno := find?_eq_none.mp hf p hp
      simp [hid] at hno
    apply ensures_call_spent
    intro w hw
    exact hfl _ rfl (hs.delete_ok hw hn)

variable {tasks : List PersistedTaskState}

section

variable (hb : Tasks.Records RecordOf before ts) (hsub : ∀ p ∈ tasks, p ∈ before)
  (hs : s.Awaits ts (tasks.map taskId))

include hb hsub hs

lemma ensures_saveTasks :
    Ensures good (fun spent _ s' => spent = true ∧ s'.tasks = s.tasks ∧
        s'.Awaits ts [])
      (saveTasks tasks) true s := by
  induction tasks generalizing s with
  | nil => exact wp_pure trivial ⟨rfl, rfl, hs⟩
  | cons p tasks ih =>
    apply wp_bind
    apply ensures_call_spent
    intro w hw
    obtain ⟨t, ht, hp⟩ := hb.sound p (hsub p mem_cons_self)
    exact ih (s := { s with backend := s.backend.save p.taskId p w.backend })
      (fun q hq => hsub q (mem_cons_of_mem p hq)) (hs.save_ok hw ht hp)

lemma ensures_restorePersistedTasks :
    Ensures good (fun spent _ s' => spent = true ∧ s'.Persists ts)
      (restorePersistedTasks tasks) true s := by
  apply wp_bind
  refine wp_mono (ensures_saveTasks hb hsub hs) ?_
  rintro spent - s' - ⟨rfl, -, hs'⟩
  apply wp_bind
  apply ensures_call_spent
  intro w hw
  exact wp_pure trivial ⟨rfl, hs'.flush_ok hw⟩

end

structure Pending (ts : Tasks B) (id : TaskId) (s : Service B) : Prop where
  old : s.backend.PendingOutside RecordOf (fun id => ts.lookup id) [id]
  new : s.backend.PendingOutside RecordOf (fun id => s.tasks.lookup id) [id]

lemma wp_persistTask {κ : Type} {allow : κ → StepEnv → κ → Prop} {c : κ}
    {Q : κ → Outcome ServiceError Unit → Service B → Prop} (hwf : s.tasks.WellFormed)
    {t : TaskState B} (ht : s.tasks.lookup id = some t)
    (h : ∀ w c' p, allow c w c' → p.taskId = id → RecordOf p t → wp allow (fun _ => True) Q
        (orPersistenceError (saveTask p) >>= fun _ => orPersistenceError flush).run c' s) :
    wp allow (fun _ => True) Q (persistTask id).run c s := by
  apply wp_except_bind
  apply wp_ask trivial
  intro w c' hw
  obtain ⟨ps, hps, hrec⟩ := Tasks.snapshot_records hwf w.snapshot
  obtain ⟨p, hf, hid, hp⟩ := hrec.find ht
  simp only [hps, Except.mapError, hf]
  exact h w c' p hw hid ⟨_, hp⟩

lemma ensures_persistTask (hwf : s.tasks.WellFormed) {t : TaskState B}
    (ht : s.tasks.lookup id = some t) (hs : Pending ts id s) (spent : Bool) :
    Ensures good (fun spent r s' => s'.tasks = s.tasks ∧ match r with
        | .ok _ => s'.Persists s.tasks
        | .error _ => spent = true ∧
          s'.Awaits ts [id])
      (persistTask id).run spent s := by
  apply wp_persistTask hwf ht
  intro _ spent₁ p _ hid hp
  subst hid
  have hmem : p.taskId ∈ [p.taskId] := mem_singleton_self _
  apply wp_except_bind
  apply wp_bind
  apply ensures_call
  · -- the record is saved
    intro w spent₂ hw _
    apply wp_pure trivial
    apply wp_bind
    apply ensures_call
    · intro w' spent₃ hw' _
      exact wp_pure trivial ⟨rfl, (hs.new.save_ok hw ht hp).flush_ok hw'⟩
    · intro w' e _
      exact wp_pure trivial ⟨rfl, rfl, (hs.old.save hmem p w.backend).flush w'.backend⟩
  · intro w e _
    exact wp_pure trivial ⟨rfl, rfl, hs.old.save hmem p w.backend⟩

lemma ensures_persistOrRollback (hb : Before good before ts) (hc : ChangesOnly id ts s.tasks)
    (hs : Pending ts id s) (spent : Bool) :
    Ensures good (fun _ r s' => Settled good ts r s') (persistOrRollback before id).run
      spent s := by
  obtain ⟨t, ht⟩ := hc.stored
  apply wp_bind
  refine wp_mono (ensures_persistTask hc.wellFormed ht hs spent) ?_
  intro spent' r s' _ hr
  obtain ⟨hta, hr⟩ := hr
  cases r with
  | ok u =>
    refine wp_pure trivial ?_
    show s'.Persists s'.tasks
    rw [hta]
    exact hr
  | error e =>
    -- the one failure is spent, so both parts of the rollback succeed
    obtain ⟨rfl, hs'⟩ := hr
    apply wp_bind
    refine wp_mono (ensures_restorePersistedTask hb.records hs') ?_
    intro spent₁ _ s₁ _ hs₁
    apply wp_bind
    apply ensures_restoreSnapshot hb
    intro spent₂ ts' hts'
    exact wp_pure trivial ⟨.inr hts', hs₁.2.2⟩

end

section

variable {before : List PersistedTaskState} {α β : Type}

lemma ensures_change_bind (hp : s.Persists s.tasks) (id : TaskId)
    {f : StepEnv → Tasks B → Outcome ServiceError α × Tasks B} {k : α → ServiceM B β}
    (hf : ∀ w, (∃ e, f w s.tasks = (.error e, s.tasks)) ∨
      ∃ a ts', f w s.tasks = (.ok a, ts') ∧ ChangesOnly id s.tasks ts')
    (hk : ∀ a s' spent, ChangesOnly id s.tasks s'.tasks → Pending s.tasks id s' →
      Ensures good (fun _ r s'' => Settled good s.tasks r s'') (k a).run spent s')
    (spent : Bool) :
    Ensures good (fun _ r s' => Settled good s.tasks r s') (change f >>= k).run spent s := by
  apply wp_except_bind
  apply wp_change trivial
  intro w spent' _
  refine ⟨trivial, ?_⟩
  rcases hf w with ⟨e, he⟩ | ⟨a, ts', he, hts'⟩
  · rw [he]
    exact settled_unchanged hp e
  rw [he]
  refine hk a _ spent' hts' ⟨?_, ?_⟩
  · exact hp.pendingOutside fun _ _ => rfl
  · exact hp.pendingOutside fun id' hid' => hts'.others id' (by simpa using hid')

variable (hwf : s.tasks.WellFormed) (hp : s.Persists s.tasks)

include hwf hp

lemma ensures_initTask (a : InitArgs) (spent : Bool) :
    Ensures good (fun _ r s' => Settled good s.tasks r s') (initTaskWithMessageConfig a).run
      spent s := by
  apply wp_except_bind
  apply ensures_snapshot hwf
  intro spent₁ before _ hb
  refine ensures_change_bind hp a.taskId (fun w => ?_)
    (fun _ s' spent hc hs' => ensures_persistOrRollback hb hc hs' spent) spent₁
  rcases s.tasks.initTaskWithMessageConfig_cases a w.now
    with ⟨fault, he⟩ | ⟨t, ht, he⟩ | ⟨t, -, -, he⟩
  · rw [he]
    exact .inl ⟨_, rfl⟩
  · rw [he]
    exact .inr ⟨(), s.tasks, rfl, hwf, ⟨t, ht⟩, fun _ _ => rfl⟩
  · have hwf' := Store.wellFormed_step (s := ⟨s.tasks, []⟩) hwf (.init a w.now)
    simp only [Store.step, he] at hwf'
    rw [he]
    refine .inr ⟨(), _, rfl, hwf', ⟨t, Finmap.lookup_insert _⟩, fun id' hid' => ?_⟩
    exact Finmap.lookup_insert_of_ne _ hid'

lemma ensures_markSubmitted (id : TaskId) (spent : Bool) :
    Ensures good (fun _ r s' => Settled good s.tasks r s') (markSubmitted id).run spent s := by
  apply wp_except_bind
  apply ensures_snapshot hwf
  intro spent₁ before _ hb
  refine ensures_change_bind hp id (fun w => ?_)
    (fun _ s' spent hc hs' => ensures_persistOrRollback hb hc hs' spent) spent₁
  rcases s.tasks.markSubmitted_cases id w.now with ⟨-, he⟩ | ⟨t, -, he⟩
  · rw [he]
    exact .inl ⟨_, rfl⟩
  have hwf' := Store.wellFormed_step (s := ⟨s.tasks, []⟩) hwf (.markSubmitted id w.now)
  simp only [Store.step, he] at hwf'
  rw [he]
  refine .inr ⟨(), _, rfl, hwf', ⟨_, Finmap.lookup_insert _⟩, fun id' hid' => ?_⟩
  exact Finmap.lookup_insert_of_ne _ hid'

lemma ensures_submitSignature (cfg : ServiceConfig) (req : SubmitSignatureRequest) (spent : Bool) :
    Ensures good (fun _ r s' => Settled good s.tasks r s') (submitSignature cfg req).run
      spent s := by
  apply wp_except_bind
  apply ensures_snapshot hwf
  intro spent₁ before _ hb
  apply wp_except_bind
  refine wp_checkOutput trivial fun spent₂ r => ?_
  rcases r with e | u
  · exact settled_unchanged hp e
  apply wp_except_bind
  refine wp_parsePoint trivial (fun sig _ => ?_) fun e => settled_unchanged hp e
  apply wp_except_bind
  refine wp_parsePoint trivial (fun pk _ => ?_) fun e => settled_unchanged hp e
  apply wp_except_bind
  refine wp_checkSignature trivial (fun spent₃ _ => ?_) fun _ e => settled_unchanged hp e
  apply wp_except_bind
  refine wp_requireStatus trivial fun spent₄ r => ?_
  rcases r with e | status
  · exact settled_unchanged hp e
  refine ensures_change_bind hp req.taskId (fun w => ?_) (fun out s' spent hc hs' => ?_) spent₄
  · rcases s.tasks.submitSignature_cases req.taskId req.operatorIndex sig pk w.now w.now'
      with ⟨e, he⟩ | ⟨t, t', -, -, -, -, he⟩
    · rw [he]
      exact .inl ⟨_, rfl⟩
    have hwf' := Store.wellFormed_step (s := ⟨s.tasks, []⟩) hwf
      (.submit req.taskId req.operatorIndex sig pk w.now w.now')
    simp only [Store.step, he] at hwf'
    rw [he]
    refine .inr ⟨_, _, rfl, hwf', ⟨_, Finmap.lookup_insert _⟩, fun id' hid' => ?_⟩
    exact Finmap.lookup_insert_of_ne _ hid'
  · -- the response is made up after the write
    apply wp_except_bind
    refine wp_mono (ensures_persistOrRollback hb hc hs' spent) ?_
    intro spent₅ r s'' _ hr
    rcases r with e | u
    · exact hr
    exact wp_pure trivial hr

lemma ensures_removeTask (id : TaskId) (spent : Bool) :
    Ensures good (fun _ r s' => if r then s'.Persists s'.tasks else Undone good s.tasks s')
      (removeTask id) spent s := by
  apply wp_bind
  apply ensures_snapshot hwf
  intro spent₁ before _ hb
  have hold : s.Awaits s.tasks [id] := hp.pendingOutside fun _ _ => rfl
  -- both failures of the backend are answered in the same way
  have hu : ∀ s' : Service B, s'.tasks = s.tasks → s'.Awaits s.tasks [id] →
      Ensures good (fun _ r s' => if r then s'.Persists s'.tasks else Undone good s.tasks s')
        (restorePersistedTask before id >>= fun _ => pure false) true s' := by
    intro s' hta hs'
    apply wp_bind
    refine wp_mono (ensures_restorePersistedTask hb.records hs') ?_
    intro spent₂ _ s₂ _ hs₂
    exact wp_pure trivial ⟨.inl (hs₂.2.1.trans hta), hs₂.2.2⟩
  apply wp_bind
  apply wp_ask trivial
  intro w spent₂ _
  rcases ht : s.tasks.lookup id with _ | t
  · simp only [Tasks.getStatus, ht, Option.map_none, Option.isSome_none, Bool.not_false, if_true]
    exact wp_pure trivial ⟨.inl rfl, hp⟩
  simp only [Tasks.getStatus, ht, Option.map_some, Option.isSome_some, Bool.not_true,
    Bool.false_eq_true, if_false]
  apply wp_bind
  apply ensures_call
  · intro w₁ spent₃ hw₁ _
    apply wp_bind
    apply ensures_call
    · intro w₂ spent₄ hw₂ _
      apply wp_atomic trivial
      intro w₃ spent₅ _
      have hmem : id ∈ s.tasks.keys := (HashMap.mem_keys_iff_lookup _ id).mpr ⟨t, ht⟩
      refine ⟨trivial, ?_⟩
      simp only [Tasks.removeTask, hmem, decide_true, if_true]
      -- everything else matches, and the record of the removed task is gone
      have hnew : s.backend.PendingOutside RecordOf (fun id' => (s.tasks.erase id).lookup id')
          [id] := by
        refine hp.pendingOutside fun id' hid' => ?_
        exact Finmap.lookup_erase_ne (by simpa using hid')
      exact (hnew.delete_ok hw₁ (Finmap.lookup_erase _ _)).flush_ok hw₂
    · intro w₂ e _
      exact hu _ rfl ((hold.delete (by simp) w₁.backend).flush w₂.backend)
  · intro w₁ e _
    exact hu _ rfl (hold.delete (by simp) w₁.backend)

end

section

variable {before : List PersistedTaskState}

lemma ensures_deleteTasks (hb : Before good before ts) (tasks done : List PersistedTaskState)
    (hsub : ∀ p ∈ done ++ tasks, p ∈ before)
    (hg : ∀ p ∈ tasks, s.tasks.lookup p.taskId = none)
    (hold : s.Awaits ts (done.map taskId)) (hnew : s.Awaits s.tasks (tasks.map taskId)) (spent : Bool) :
    Ensures good (fun _ r s' => match r with
        | .ok _ => s'.tasks = s.tasks ∧ s'.Awaits ts ((done ++ tasks).map taskId) ∧
          s'.Awaits s.tasks []
        | .error _ => Undone good ts s')
      (deleteTasks before done tasks) spent s := by
  induction tasks generalizing done s spent with
  | nil =>
    refine wp_pure trivial ⟨rfl, ?_, hnew⟩
    rw [append_nil]
    exact hold
  | cons p tasks ih =>
    -- from here on the record of `p` may or may not be there
    have hwi : s.Awaits ts ((done ++ [p]).map taskId) :=
      hold.mono (map_subset _ (subset_append_left done [p]))
    have hmem : p.taskId ∈ (done ++ [p]).map taskId := mem_map_of_mem (by simp)
    apply wp_bind
    apply ensures_call
    · intro w spent' hw _
      have hr := ih (s := { s with backend := s.backend.delete p.taskId w.backend })
        (done ++ [p]) (by rwa [append_assoc]) (fun q hq => hg q (.tail p hq))
        (hwi.delete hmem w.backend) (hnew.delete_ok hw (hg p mem_cons_self)) spent'
      rwa [append_assoc] at hr
    · -- the records deleted so far, and maybe this one, are saved again
      intro w e _
      have hsub' : ∀ q ∈ done ++ [p], q ∈ before := by
        intro q hq
        apply hsub q
        rw [append_cons]
        exact mem_append_left tasks hq
      apply wp_bind
      refine wp_mono (ensures_restorePersistedTasks hb.records hsub' (hwi.delete hmem w.backend)) ?_
      intro spent₁ _ s₁ _ hs₁
      apply wp_bind
      apply ensures_restoreSnapshot hb
      intro spent₂ ts' hts'
      exact wp_pure trivial ⟨.inr hts', hs₁.2⟩

structure Cleaned (before removedTasks : List PersistedTaskState) (ts ts' : Tasks B) : Prop where
  sub : ∀ p ∈ removedTasks, p ∈ before
  gone : ∀ p ∈ removedTasks, ts'.lookup p.taskId = none
  others : ∀ id, id ∉ removedTasks.map PersistedTaskState.taskId → ts'.lookup id = ts.lookup id

lemma ensures_persistCleanup {removedTasks : List PersistedTaskState}
    (hb : Before good before ts) (hc : Cleaned before removedTasks ts s.tasks)
    (hp : s.Persists ts) (spent : Bool) :
    Ensures good (fun _ r s' => Settled good ts r s') (persistCleanup before removedTasks).run
      spent s := by
  have hd := ensures_deleteTasks (s := s) hb removedTasks [] hc.sub hc.gone
    (hp.pendingOutside fun _ _ => rfl) (hp.pendingOutside hc.others) spent
  apply wp_except_bind
  refine wp_mono hd ?_
  intro spent₁ r s₁ _ hr
  rcases r with e | u
  · exact hr
  obtain ⟨ht, hold, hnew⟩ := hr
  apply wp_bind
  apply ensures_call
  · intro w spent₂ hw _
    refine wp_pure trivial ?_
    rw [ht]
    exact hnew.flush_ok hw
  · intro w e _
    apply wp_bind
    refine wp_mono (ensures_restorePersistedTasks hb.records hc.sub (hold.flush w.backend)) ?_
    intro spent₂ _ s₂ _ hs₂
    apply wp_bind
    apply ensures_restoreSnapshot hb
    intro spent₃ ts' hts'
    exact wp_pure trivial ⟨.inr hts', hs₂.2⟩

lemma cleaned_filter {after : List PersistedTaskState} {ts ts' : Tasks B}
    (hb : Tasks.Records RecordOf before ts) (ha : Tasks.Records RecordOf after ts')
    (hk : ∀ id t, ts'.lookup id = some t → ts.lookup id = some t) :
    Cleaned before (before.filter fun task =>
      task.taskId ∉ (after.map taskId).toFinset) ts ts' := by
  have haf : ∀ id, id ∈ after.map taskId ↔ ∃ t, ts'.lookup id = some t := by
    intro id
    constructor
    · intro hid
      obtain ⟨q, hq, rfl⟩ := mem_map.mp hid
      obtain ⟨t, ht, -⟩ := ha.sound q hq
      exact ⟨t, ht⟩
    · intro ⟨t, ht⟩
      obtain ⟨q, hq, rfl⟩ := ha.complete id t ht
      exact mem_map_of_mem hq
  refine ⟨fun p hp => (mem_filter.mp hp).1, fun p hp => ?_, fun id hid => ?_⟩
  · have hnot : p.taskId ∉ after.map taskId := by
      simpa using (mem_filter.mp hp).2
    rcases ht : ts'.lookup p.taskId with _ | t
    · rfl
    exact absurd ((haf _).mpr ⟨t, ht⟩) hnot
  · cases ht' : ts'.lookup id with
    | some t => exact (hk id t ht').symm
    | none =>
      rcases ht : ts.lookup id with _ | t
      · rfl
      -- its record is not in the filtered list, so the task would have to be kept
      obtain ⟨p, hp, rfl⟩ := hb.complete id t ht
      exfalso
      apply hid
      refine mem_map_of_mem (mem_filter.mpr ⟨hp, ?_⟩)
      rw [decide_eq_true_eq, mem_toFinset, haf]
      intro ⟨t', ht''⟩
      rw [ht'] at ht''
      cases ht''

lemma cleanupTasks_eq (cfg : ServiceConfig) (kind : CleanupKind) (ts : Tasks B)
    (now : TaskId → ℤ) : ∃ keep, cleanupTasks cfg kind ts now = ts.cleanupWhere keep := by
  cases kind with
  | all | expired | submitted => exact ⟨_, rfl⟩

lemma ensures_cleanupWithPersistence (hwf : s.tasks.WellFormed) (hp : s.Persists s.tasks)
    (cfg : ServiceConfig) (kind : CleanupKind) (spent : Bool) :
    Ensures good (fun _ r s' => match r with
        | .ok removed => if removed = 0 then Undone good s.tasks s' else s'.Persists s'.tasks
        | .error _ => Undone good s.tasks s')
      (cleanupWithPersistence cfg kind).run spent s := by
  apply wp_except_bind
  apply ensures_snapshot hwf
  intro spent₁ before _ hb
  apply wp_except_bind
  apply wp_change trivial
  intro w spent₂ _
  refine ⟨trivial, ?_⟩
  obtain ⟨keep, hk⟩ := cleanupTasks_eq cfg kind s.tasks w.nowOf
  simp only [hk]
  by_cases hz : (s.tasks.cleanupWhere keep).1 = 0
  · -- the answer is 0, which counts as a failure, and nothing has changed
    rw [Tasks.cleanupWhere_eq_self hz, if_pos hz]
    exact wp_pure trivial ⟨.inl rfl, hp⟩
  rw [if_neg hz]
  have hwf' : (s.tasks.cleanupWhere keep).2.WellFormed :=
    (wellFormed_invariant cfg).cleanup s.tasks keep hwf
  apply wp_except_bind
  apply wp_bind
  apply ensures_snapshot (s := { s with tasks := (s.tasks.cleanupWhere keep).2 }) hwf'
  intro spent₃ after _ ha
  apply wp_pure trivial
  have hc := cleaned_filter hb.records ha.records fun id t ht => Tasks.lookup_cleanupWhere ht
  apply wp_except_bind
  refine wp_mono (ensures_persistCleanup
    (s := { s with tasks := (s.tasks.cleanupWhere keep).2 }) hb hc hp spent₃) ?_
  intro spent₄ r s₄ _ hr
  rcases r with e | u
  · exact hr
  refine wp_pure trivial ?_
  show if (s.tasks.cleanupWhere keep).1 = 0 then _ else _
  rw [if_neg hz]
  exact hr

end

theorem ensures_code (good : StepEnv → Prop) (hwf : s.tasks.WellFormed)
    (hp : s.Persists s.tasks) (cfg : ServiceConfig) (call : Call) :
    Ensures good (fun _ r s' => if r.failed then Undone good s.tasks s' else s'.Persists s'.tasks)
      (call.code B cfg) false s := by
  have hre : ∀ {α : Type} (r : Outcome ServiceError α) (s' : Service B), Settled good s.tasks r s' →
        if !r.toBool then Undone good s.tasks s' else s'.Persists s'.tasks := by
    intro α r s' hr
    rcases r with e | a
    · exact hr
    exact hr
  cases call with
  | init a =>
    refine wp_bind (wp_mono (ensures_initTask hwf hp a false) ?_)
    exact fun _ r s' _ hr => wp_pure trivial (hre r s' hr)
  | submit req =>
    refine wp_bind (wp_mono (ensures_submitSignature hwf hp cfg req false) ?_)
    exact fun _ r s' _ hr => wp_pure trivial (hre r s' hr)
  | mark id =>
    refine wp_bind (wp_mono (ensures_markSubmitted hwf hp id false) ?_)
    exact fun _ r s' _ hr => wp_pure trivial (hre r s' hr)
  | remove id =>
    refine wp_bind (wp_mono (ensures_removeTask hwf hp id false) ?_)
    intro _ r s' _ hr
    refine wp_pure trivial ?_
    rcases r with _ | _
    · exact hr
    exact hr
  | clean kind =>
    refine wp_bind (wp_bind (wp_mono (ensures_cleanupWithPersistence hwf hp cfg kind false) ?_))
    intro _ r s' _ hr
    rcases r with e | removed
    · exact wp_pure trivial (wp_pure trivial hr)
    refine wp_pure trivial (wp_pure trivial ?_)
    show if decide (removed = 0) = true then _ else _
    simpa using hr

end Service

/-! ## Calls under failures of the backend

The rules for single calls carried over to services that are reachable by any history of
calls. A rollback is exact but for the instants, which pass through milliseconds. -/

open Option Finmap

namespace Service

variable {good : StepEnv → Prop} {s : Service B} {ts : Tasks B}

def run (config : ServiceConfig) (s : Service B) (history : List (Call × (ℕ → StepEnv))) :
    Service B :=
  history.foldl (fun s c => (exec (c.1.code B config) c.2 s).2) s

def Reachable (config : ServiceConfig) (s : Service B) : Prop :=
  ∃ stored env s₀ history, withPersistence stored env = .ok s₀ ∧ s = run config s₀ history

lemma wellFormed_exec (cfg : ServiceConfig) (call : Call) (ans : ℕ → StepEnv)
    (hwf : s.tasks.WellFormed) : (exec (call.code B cfg) ans s).2.tasks.WellFormed := by
  have hk := wp_mono ((wellFormed_invariant cfg).code call s hwf)
    (R := fun _ _ s' => s'.tasks.WellFormed) fun _ _ _ h _ => h
  obtain ⟨-, h⟩ := exec_of_wp (c := fun _ => ()) ans hk fun _ => trivial
  exact h

lemma wellFormed_withPersistence {stored : HashMap TaskId PersistedTaskState}
    {env : SnapshotEnv} (h : withPersistence stored env = .ok s) : s.tasks.WellFormed := by
  have hwf := Store.wellFormed_step (B := B)
    (s := ⟨∅, [(env.tasks.entries stored).map Prod.snd]⟩) Store.wellFormed_empty (.restore 0 env)
  unfold withPersistence at h
  dsimp only at h
  split at h
  · cases h
  · rename_i tasks hr
    cases h
    simpa [Store.step, hr] using hwf

lemma Reachable.wellFormed {cfg : ServiceConfig} (h : s.Reachable cfg) : s.tasks.WellFormed := by
  obtain ⟨stored, env, s₀, history, hs₀, rfl⟩ := h
  exact Lib.Run.foldl_of_step (J := fun s : Service B => s.tasks.WellFormed)
    (fun _ c hs => wellFormed_exec cfg c.1 c.2 hs) (wellFormed_withPersistence hs₀) history

lemma RolledBack.sameUpTo {ts' : Tasks B} (h : RolledBack good ts ts') (hwf : ts.WellFormed) :
    ∃ w w', good w ∧ good w' ∧ ts.SameUpTo (w.snapshot.Moves w'.snapshot) ts' := by
  obtain ⟨w, w', ps, hw, hw', hps, hts'⟩ := h
  obtain ⟨ps', hps', hrec⟩ := Tasks.snapshot_records hwf w.snapshot
  have hs : ps' = ps := Except.ok.inj (hps'.symm.trans hps)
  subst hs
  obtain ⟨ts'', hts'', hm⟩ := hrec.restore hwf w'.snapshot
  rw [hts''] at hts'
  cases hts'
  exact ⟨w, w', hw, hw', hm⟩

lemma sameUpTo_refl {D : ℤ → ℤ → Prop} (hD : ∀ x, D x x) (ts : Tasks B) : ts.SameUpTo D ts := by
  have hr : ∀ o : Option ℤ, Option.Rel D o o := by
    intro o
    rcases o with _ | x
    · exact .none
    exact .some (hD x)
  intro id
  rcases ts.lookup id with _ | t
  · exact .none
  exact .some ⟨rfl, hr _, hD _, hr _⟩

section

variable {ans : ℕ → StepEnv} {before : List PersistedTaskState} {id : TaskId}
  {t : TaskState B} {n : ℕ}

lemma persistOrRollback_succeeds (hok : ∀ n, (ans n).backend.failed = false)
    (hwf : s.tasks.WellFormed) (ht : s.tasks.lookup id = some t) :
    wp (replays ans) (fun _ => True) (fun _ r s' => r = .ok () ∧ s'.tasks = s.tasks)
      (persistOrRollback before id).run n s := by
  have hr : ∀ n, (ans n).backend.result = .ok () := by
    intro n
    rcases (ans n).backend.ok_or_failed with ⟨-, h⟩ | ⟨h, -⟩
    · exact h
    · rw [hok n] at h
      cases h
  apply wp_bind
  apply wp_persistTask hwf ht
  intro _ n₁ p _ _ _
  apply wp_except_bind
  apply wp_bind
  refine wp_atomic trivial fun w n₂ hw => ⟨trivial, ?_⟩
  obtain ⟨rfl, rfl⟩ := hw
  rw [hr]
  refine wp_pure trivial (wp_bind (wp_atomic trivial fun w n₃ hw => ⟨trivial, ?_⟩))
  obtain ⟨rfl, rfl⟩ := hw
  rw [hr]
  exact wp_pure trivial (wp_pure trivial ⟨rfl, rfl⟩)

lemma persistOrRollback_fails (hf : (ans (n + 1)).backend.failed = true)
    (hb : Before (fun w => ∃ k, w = ans k) before ts) (hwf : s.tasks.WellFormed)
    (ht : s.tasks.lookup id = some t) :
    wp (replays ans) (fun _ => True)
      (fun _ r s' => r.toBool = false ∧ RolledBack (fun w => ∃ k, w = ans k) ts s'.tasks)
      (persistOrRollback before id).run n s := by
  apply wp_bind
  apply wp_persistTask hwf ht
  intro _ n₁ p hn₁ _ _
  obtain ⟨-, rfl⟩ := hn₁
  apply wp_except_bind
  apply wp_bind
  refine wp_atomic trivial fun w n₂ hw => ⟨trivial, ?_⟩
  obtain ⟨rfl, rfl⟩ := hw
  obtain ⟨e, he⟩ : ∃ e, (ans (n + 1)).backend.result = .error e := by
    rcases (ans (n + 1)).backend.ok_or_failed with ⟨h, -⟩ | ⟨-, h⟩
    · rw [hf] at h
      cases h
    · exact h
  rw [he]
  refine wp_pure trivial (wp_bind ?_)
  -- whatever becomes of the backend, the snapshot is put back into memory
  have hba := wp_of_all (replays ans) (Q := fun _ _ => True)
    (keeps_restorePersistedTask (J := fun _ => True) (B := B) before id
      { s with backend := s.backend.save p.taskId p (ans (n + 1)).backend } trivial)
  refine wp_mono (hba _) fun n₃ _ s₃ _ _ => ?_
  apply wp_bind
  apply wp_restoreSnapshot hb
  intro w n₄ ts' hw hts'
  exact wp_pure trivial ⟨rfl, hts' ⟨n₃, hw.1⟩⟩

lemma wp_firstSnapshot {α : Type} {f : List PersistedTaskState → ServiceM B α}
    {Q : ℕ → Outcome ServiceError α → Service B → Prop} (hwf : s.tasks.WellFormed)
    (h : ∀ ps, Before (fun w => ∃ k, w = ans k) ps s.tasks →
      wp (replays ans) (fun _ => True) Q (f ps).run (n + 1) s) :
    wp (replays ans) (fun _ => True) Q (snapshot >>= f).run n s := by
  apply wp_except_bind
  refine wp_ask trivial fun w n' hw => ?_
  obtain ⟨rfl, rfl⟩ := hw
  obtain ⟨ps, hps, -⟩ := Tasks.snapshot_records hwf (ans n).snapshot
  rw [hps]
  exact h ps ⟨hwf, _, ⟨n, rfl⟩, hps⟩

lemma exec_init (ans : ℕ → StepEnv) (cfg : ServiceConfig)
    (hok : ∀ n, (ans n).backend.failed = false) (hwf : s.tasks.WellFormed) {a : InitArgs}
    (hnew : s.tasks.lookup a.taskId = none)
    (ha : a.task B (ans 1).now = some t) :
    (exec ((Call.init a).code B cfg) ans s).1.failed = false ∧
      (exec ((Call.init a).code B cfg) ans s).2.tasks = s.tasks.insert a.taskId t := by
  have hi : s.tasks.initTaskWithMessageConfig a (ans 1).now
      = (.ok (), s.tasks.insert a.taskId t) := by
    rw [Tasks.initTaskWithMessageConfig, ha]
    simp [hnew]
  have hwf' := Store.wellFormed_step (s := ⟨s.tasks, []⟩) hwf (.init a (ans 1).now)
  simp only [Store.step, hi] at hwf'
  have hc : wp (replays ans) (fun _ => True)
      (fun _ r s' => r.failed = false ∧ s'.tasks = s.tasks.insert a.taskId t)
      ((Call.init a).code B cfg) 0 s := by
    apply wp_bind
    apply wp_firstSnapshot hwf
    intro ps _
    apply wp_except_bind
    refine wp_change trivial fun w n' hw => ⟨trivial, ?_⟩
    obtain ⟨rfl, rfl⟩ := hw
    simp only [Nat.zero_add, hi]
    refine wp_mono (persistOrRollback_succeeds
      (s := { s with tasks := s.tasks.insert a.taskId t }) hok hwf' (lookup_insert _)) ?_
    intro n r s' _ hr
    obtain ⟨rfl, ht⟩ := hr
    exact wp_pure trivial ⟨rfl, ht⟩
  obtain ⟨-, h⟩ := exec_of_replays hc
  exact h

lemma exec_mark_fails (ans : ℕ → StepEnv) (cfg : ServiceConfig)
    (hf : (ans 3).backend.failed = true) (hwf : s.tasks.WellFormed)
    (ht : s.tasks.lookup id = some t) :
    (exec ((Call.mark id).code B cfg) ans s).1.failed = true ∧
      RolledBack (fun w => ∃ k, w = ans k) s.tasks
        (exec ((Call.mark id).code B cfg) ans s).2.tasks := by
  have hm : ∀ now, s.tasks.markSubmitted id now
      = (.ok (), s.tasks.insert id { t with submitted := true, submittedAt := some now }) := by
    intro now
    rw [Tasks.markSubmitted, ht]
  have hwf' := Store.wellFormed_step (s := ⟨s.tasks, []⟩) hwf (.markSubmitted id (ans 1).now)
  simp only [Store.step, hm] at hwf'
  have hc : wp (replays ans) (fun _ => True)
      (fun _ r s' => r.failed = true ∧ RolledBack (fun w => ∃ k, w = ans k) s.tasks s'.tasks)
      ((Call.mark id).code B cfg) 0 s := by
    apply wp_bind
    apply wp_firstSnapshot hwf
    intro ps hb
    apply wp_except_bind
    refine wp_change trivial fun w n' hw => ⟨trivial, ?_⟩
    obtain ⟨rfl, rfl⟩ := hw
    simp only [Nat.zero_add, hm]
    refine wp_mono (persistOrRollback_fails (s := { s with tasks := s.tasks.insert id _ })
      hf hb hwf' (lookup_insert _)) ?_
    intro n r s' _ hr
    refine wp_pure trivial ⟨?_, hr.2⟩
    show (!r.toBool) = true
    rw [hr.1]
    rfl
  obtain ⟨-, h⟩ := exec_of_replays hc
  exact h

end

noncomputable def failedWrite (n : ℕ) : StepEnv :=
  if n = 3 then { calm with backend := ⟨.error (.backend "no space left"), false, fun _ => false⟩ }
  else calm

def opened (w : StepEnv) (ttl : ℕ) : Service Bn254.bytePoints :=
  run .default new [(.init (lasting ttl), fun _ => w)]

lemma failedWrite_snapshot (n : ℕ) : (failedWrite n).snapshot = calm.snapshot := by
  unfold failedWrite
  split <;> rfl

lemma calm_reads {n : ℕ} {id : TaskId} {r : Reading}
    (h : ((failedWrite n).snapshot.clock id).Reads r) : r = Reading.zero := by
  rw [failedWrite_snapshot] at h
  rcases h with h | h | h | h <;> exact h

lemma failedWrite_once (i j : ℕ) (hi : (failedWrite i).backend.failed = true)
    (hj : (failedWrite j).backend.failed = true) : i = j := by
  have h3 : ∀ n, (failedWrite n).backend.failed = true → n = 3 := by
    intro n hn
    by_contra hne
    rw [failedWrite, if_neg hne] at hn
    cases hn
  rw [h3 i hi, h3 j hj]

lemma withPersistence_empty (env : SnapshotEnv) : withPersistence ∅ env = .ok (new : Service B) := by
  have hn : env.tasks.entries (∅ : HashMap TaskId PersistedTaskState) = [] := by
    rw [eq_nil_iff_forall_not_mem]
    intro e he
    have hl := (env.tasks.mem_entries ∅ e.1 e.2).mp he
    rw [lookup_empty] at hl
    cases hl
  simp [withPersistence, hn, Tasks.restore, Tasks.recover, new]

lemma persists_new : (new : Service B).Persists new.tasks := by
  intro id
  have hn : (∅ : HashMap TaskId PersistedTaskState).lookup id = none := lookup_empty id
  simp only [new, hn, lookup_empty]
  exact ⟨.none, .none⟩

lemma opened_spec (w : StepEnv) (ttl : ℕ) (hok : w.backend.failed = false) (hnow : w.now = 0)
    (httl : (ttl : ℤ) < instantBound) :
    (opened w ttl).Reachable .default ∧ (opened w ttl).Persists (opened w ttl).tasks ∧
      ∃ t, (opened w ttl).tasks.lookup ⟨1, 1⟩ = some t ∧ t.submittedAt = none ∧ t.createdAt = 0 ∧
        t.expiresAt = some ↑ttl ∧ ∀ id, id ≠ ⟨1, 1⟩ → (opened w ttl).tasks.lookup id = none := by
  have hnew : withPersistence ∅ w.snapshot = .ok (new : Service Bn254.bytePoints) :=
    withPersistence_empty w.snapshot
  have hwf : (new : Service Bn254.bytePoints).tasks.WellFormed := wellFormed_withPersistence hnew
  have htk : ∃ t, (lasting ttl).task Bn254.bytePoints 0 = some t ∧ t.submittedAt = none ∧
      t.createdAt = 0 ∧ t.expiresAt = some ↑ttl := by
    have hadd : checkedAdd 0 ttl = some ↑ttl := by rw [checkedAdd, zero_add, if_pos httl]
    exact ⟨TaskState.create 1 1 [] [] .arkworksSha256 1 (.count 1) none (some ttl) 0,
      by simp [InitArgs.task, lasting, TaskState.withMessageConfig, hadd], rfl, rfl, rfl⟩
  obtain ⟨t, ht, hs, hc, hex⟩ := htk
  have he : ∀ id, (new : Service Bn254.bytePoints).tasks.lookup id = none :=
    fun id => lookup_empty id
  have hin := exec_init (fun _ => w) .default (fun _ => hok) hwf (he _) (hnow.symm ▸ ht)
  have hta : (opened w ttl).tasks = new.tasks.insert (lasting ttl).taskId t := by
    exact hin.2
  refine ⟨⟨∅, w.snapshot, new, _, hnew, rfl⟩, ?_, t, ?_, hs, hc, hex, ?_⟩
  · have hco := ensures_code (fun _ => True) hwf persists_new .default (.init (lasting ttl))
    obtain ⟨-, hend⟩ := exec_of_oneFault (fun _ => w) hco (fun _ => trivial)
      (fun i j hi _ => by rw [hok] at hi; cases hi)
    rw [hin.1, if_neg (by simp)] at hend
    exact hend
  · rw [hta]
    exact lookup_insert _
  · intro id hid
    have hne : id ≠ (lasting ttl).taskId := hid
    rw [hta, lookup_insert_of_ne _ hne]
    exact he id

/-- **Atomicity under failures of the backend.** The backend of a reachable service holds
exactly the records of its tasks, and a call runs during which at most one call of the backend
fails. If the call reports a failure, the backend holds exactly these records again, and the
tasks are what they were up to their instants; these have moved by less than two milliseconds
if the wall clock ran along with the monotonic clock and could stamp them. If the call
succeeds, the backend holds the records of the new tasks. -/
theorem call_atomic (config : ServiceConfig) (hreach : s.Reachable config)
    (hpersists : s.Persists s.tasks) (call : Call) {answers : ℕ → StepEnv}
    (honce : ∀ i j, (answers i).backend.failed = true → (answers j).backend.failed = true → i = j) :
    ((exec (call.code B config) answers s).1.failed = true →
      (exec (call.code B config) answers s).2.Persists s.tasks ∧
      s.tasks.SameUpTo (fun _ _ => True) (exec (call.code B config) answers s).2.tasks ∧
      ∀ off : ClockOffset, (∀ n, (answers n).snapshot.Coupled off) → s.tasks.Stampable off →
        s.tasks.SameUpTo WithinRounding (exec (call.code B config) answers s).2.tasks) ∧
    ((exec (call.code B config) answers s).1.failed = false →
      (exec (call.code B config) answers s).2.Persists
        (exec (call.code B config) answers s).2.tasks) := by
  have hwf := hreach.wellFormed
  -- the steps of this call are its answers
  have hco := ensures_code (fun w => ∃ n, w = answers n) hwf hpersists config call
  obtain ⟨-, hend⟩ := exec_of_oneFault answers hco (fun n => ⟨n, rfl⟩) honce
  constructor
  · intro hf
    rw [hf, if_pos rfl] at hend
    obtain ⟨hta, hb⟩ := hend
    rcases hta with hsa | hr
    · rw [hsa]
      refine ⟨hb, sameUpTo_refl (fun _ => trivial) _, fun _ _ _ => sameUpTo_refl ?_ _⟩
      intro x
      simp [WithinRounding, nsPerMs]
    · obtain ⟨-, -, ⟨n, rfl⟩, ⟨n', rfl⟩, hm⟩ := hr.sameUpTo hwf
      refine ⟨hb, hm.anyInstant, fun off hc hs => ?_⟩
      exact hm.mono fun id t ht x x' hx hmo =>
        hmo.withinRounding (hc n) (hc n') (hs id t ht x hx)
  · intro hok
    rw [hok, if_neg (by simp)] at hend
    exact hend

theorem call_atomic_failedWrite :
    (exec ((Call.mark ⟨1, 1⟩).code Bn254.bytePoints .default) failedWrite
      (opened calm (3600 * 10 ^ 9))).2.Persists (opened calm (3600 * 10 ^ 9)).tasks ∧
    (opened calm (3600 * 10 ^ 9)).tasks.SameUpTo WithinRounding
      (exec ((Call.mark ⟨1, 1⟩).code Bn254.bytePoints .default) failedWrite
        (opened calm (3600 * 10 ^ 9))).2.tasks := by
  obtain ⟨hre, hp, t, ht, hs, hc, he, ho⟩ :=
    opened_spec calm (3600 * 10 ^ 9) rfl rfl (by norm_num [instantBound])
  have hf := (exec_mark_fails failedWrite .default rfl hre.wellFormed ht).1
  obtain ⟨hb, -, hro⟩ := (call_atomic .default hre hp (.mark ⟨1, 1⟩) failedWrite_once).1 hf
  refine ⟨hb, hro ⟨0, by norm_num⟩ ?_ ?_⟩
  · intro n id r hr
    rw [calm_reads hr]
    norm_num [Coupled, Reading.zero, nsPerMs]
  · intro id t' ht' x hx
    by_cases hid : id = ⟨1, 1⟩
    · rw [hid, ht] at ht'
      cases ht'
      rcases hx with h | h | h
      · rw [hs] at h
        cases h
      · rw [← h, hc]
        norm_num [Stampable, nsPerMs]
      · rw [he, some.injEq] at h
        rw [← h]
        norm_num [Stampable, nsPerMs]
    · rw [ho id hid] at ht'
      cases ht'

/-- The write of a mark fails, for a task that lives for `2 ^ 64` milliseconds: its expiry comes
back as the present. -/
theorem rollback_expires_task : (opened calm (2 ^ 64 * 10 ^ 6)).Reachable .default ∧
    (opened calm (2 ^ 64 * 10 ^ 6)).Persists (opened calm (2 ^ 64 * 10 ^ 6)).tasks ∧
    (∀ i j, (failedWrite i).backend.failed = true → (failedWrite j).backend.failed = true → i = j) ∧
    (exec ((Call.mark ⟨1, 1⟩).code Bn254.bytePoints .default) failedWrite
      (opened calm (2 ^ 64 * 10 ^ 6))).1.failed = true ∧
    ¬ (opened calm (2 ^ 64 * 10 ^ 6)).tasks.SameUpTo WithinRounding
      (exec ((Call.mark ⟨1, 1⟩).code Bn254.bytePoints .default) failedWrite
        (opened calm (2 ^ 64 * 10 ^ 6))).2.tasks := by
  obtain ⟨hre, hp, t, ht, -, -, hex, -⟩ :=
    opened_spec calm (2 ^ 64 * 10 ^ 6) rfl rfl (by norm_num [instantBound])
  obtain ⟨hf, hro⟩ := exec_mark_fails failedWrite .default rfl hre.wellFormed ht
  refine ⟨hre, hp, failedWrite_once, hf, fun hrou => ?_⟩
  obtain ⟨w, w', ⟨k, rfl⟩, ⟨k', rfl⟩, hm⟩ := hro.sameUpTo hre.wellFormed
  -- the expiry of the task before and after
  have hs := hm ⟨1, 1⟩
  have hc := hrou ⟨1, 1⟩
  rw [ht] at hs hc
  obtain ⟨t', ht', hmo⟩ := optionRel_some_left hs
  rw [ht', rel_some_some] at hc
  have hem := hmo.expiresAt
  have he := hc.expiresAt
  rw [hex] at hem he
  obtain ⟨x, hx, id, id', r, r', hr, hr', rfl⟩ := optionRel_some_left hem
  rw [hx, rel_some_some, calm_reads hr, calm_reads hr'] at he
  have hz : millisToInstant Reading.zero
      (instantToMillis Reading.zero ↑(2 ^ 64 * 10 ^ 6 : ℕ)) = 0 := by
    decide
  rw [hz] at he
  norm_num [WithinRounding, nsPerMs] at he

end Service

end Gadget.AggregationSvc
