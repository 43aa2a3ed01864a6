import Gadget.Lib.Inventory
import Gadget.Lib.Run
import Gadget.Lib.UnaryCode
import Gadget.Rust.Utf8
import Mathlib.Logic.Equiv.List

/-!
# The deployment tracker

The tracker maps blueprint instances to the records of their infrastructure, and keeps a copy of the
map in a file. Its functions are asynchronous: a task runs from one `await` to the next, and a step of
the model is one such stretch of one task. Locks are held within a step only, except by `save_state`,
which reads the map and writes the file under the lock: a save is one step, which can be cut short.
Saves that overlap write the same text, so they are as good as one after the other.
-/

namespace Gadget.RemoteProviders

open Rust Lib.Inventory

inductive DeploymentType where
  | localDocker | localKubernetes | localHypervisor
  | awsEc2 | gcpGce | azureVm | digitalOceanDroplet | vultrInstance
  | awsEks | gcpGke | azureAks | digitalOceanDoks | vultrVke
  | lambdaLabsInstance | runPodInstance | vastAiInstance | coreWeaveWorkload | paperspaceMachine
  | fluidstackServer | tensorDockServer | akashLease | ioNetCluster | primeIntellectPod
  | renderDispersedNode | bittensorLiumMiner | hetznerServer | crusoeVm
  | sshRemote | bareMetal
  deriving DecidableEq

def DeploymentType.debug : DeploymentType → String
  | .localDocker => "LocalDocker"
  | .localKubernetes => "LocalKubernetes"
  | .localHypervisor => "LocalHypervisor"
  | .awsEc2 => "AwsEc2"
  | .gcpGce => "GcpGce"
  | .azureVm => "AzureVm"
  | .digitalOceanDroplet => "DigitalOceanDroplet"
  | .vultrInstance => "VultrInstance"
  | .awsEks => "AwsEks"
  | .gcpGke => "GcpGke"
  | .azureAks => "AzureAks"
  | .digitalOceanDoks => "DigitalOceanDoks"
  | .vultrVke => "VultrVke"
  | .lambdaLabsInstance => "LambdaLabsInstance"
  | .runPodInstance => "RunPodInstance"
  | .vastAiInstance => "VastAiInstance"
  | .coreWeaveWorkload => "CoreWeaveWorkload"
  | .paperspaceMachine => "PaperspaceMachine"
  | .fluidstackServer => "FluidstackServer"
  | .tensorDockServer => "TensorDockServer"
  | .akashLease => "AkashLease"
  | .ioNetCluster => "IoNetCluster"
  | .primeIntellectPod => "PrimeIntellectPod"
  | .renderDispersedNode => "RenderDispersedNode"
  | .bittensorLiumMiner => "BittensorLiumMiner"
  | .hetznerServer => "HetznerServer"
  | .crusoeVm => "CrusoeVm"
  | .sshRemote => "SshRemote"
  | .bareMetal => "BareMetal"

/-- The fields that the tracker reads, and the others as they are. -/
structure DeploymentRecord (Details : Type) where
  deploymentType : DeploymentType
  ttlSeconds : Option ℕ
  expiresAt : Option ℤ
  details : Details
  deriving DecidableEq

/-- The text of the map by `serde_json`, which is read back, unless a part of it is missing. -/
structure TrackerDeps where
  Details : Type
  decideDetails : DecidableEq Details
  toStringPretty : HashMap (List Char) (DeploymentRecord Details) → List Char
  fromStr : List Char → Except String (HashMap (List Char) (DeploymentRecord Details))
  fromStr_toStringPretty : ∀ m, fromStr (toStringPretty m) = .ok m
  fromStr_part : ∀ m n, n < (toStringPretty m).length → Failed (fromStr ((toStringPretty m).take n))
  toStringPretty_ne_nil : ∀ m, toStringPretty m ≠ []

variable (D : TrackerDeps)

instance : DecidableEq D.Details := D.decideDetails

abbrev TrackerDeps.Record := DeploymentRecord D.Details

abbrev TrackerDeps.Deployments := HashMap (List Char) D.Record

inductive TrackerError where
  | configuration (text : List Char)
  | cleanup (text : String)

/-- Where a task is between two awaits. -/
inductive Phase where
  | register (id : List Char) (record : D.Record)
  | saveRegistered (id : List Char) (record : D.Record)
  | sleep (id : List Char) (ttl : ℕ)
  | ttlExpiry (id : List Char)
  | terminate (id : List Char)
  | cleanup (id : List Char) (record : D.Record) (attempts : ℕ)
  | untrack (id : List Char)
  | saveUntracked
  | checkTtls
  | returned (result : Except TrackerError Unit)

/-- A task, with the ids that the periodic check has still to go through. -/
structure Task where
  phase : Phase D
  rest : Option (List (List Char))

structure Tracker where
  deployments : D.Deployments
  stateFile : Option Bytes
  tasks : List (Task D)

inductive Call where
  | registerDeployment (id : List Char) (record : D.Record)
  | handleTermination (id : List Char)
  | handleTtlExpiry (id : List Char)
  | checkAllTtls

/-- What a step finds outside: the time, the answer of the cleanup, what becomes of a write, the order of the map. -/
structure World where
  now : ℤ
  cleanup : Except String Unit
  write : WriteAttempt
  order : IterOrder (List Char)

variable {D}

def loadState (content : Bytes) : Except TrackerError D.Deployments :=
  match fromUtf8 content with
  | none =>
    .error (.configuration "Failed to read state: stream did not contain valid UTF-8".toList)
  | some text =>
    (D.fromStr text).mapError fun e => .configuration ("Failed to parse state: ".toList ++ e.toList)

variable (t : Tracker D)

/-- `save_state`, which writes the file in place. -/
def saveState : WriteAttempt → Tracker D × Except TrackerError Unit
  | .done => ({ t with stateFile := some (utf8 (D.toStringPretty t.deployments)) }, .ok ())
  | .refused text =>
    (t, .error (.configuration ("Failed to write state: ".toList ++ text.toList)))
  | .torn missing text =>
    ({ t with stateFile := some (cutOff (utf8 (D.toStringPretty t.deployments)) missing) },
      .error (.configuration ("Failed to write state: ".toList ++ text.toList)))

def Tracker.new (stateFile : Option Bytes) : Except TrackerError (Tracker D) :=
  match stateFile with
  | none => .ok ⟨∅, none, []⟩
  | some content => (loadState content).map fun deployments => ⟨deployments, some content, []⟩

def defaultHandlers : List DeploymentType :=
  [.localDocker, .localKubernetes, .localHypervisor, .awsEc2, .gcpGce, .azureVm, .digitalOceanDroplet,
    .vultrInstance, .awsEks, .gcpGke, .azureAks, .sshRemote]

def Task.finish (rest : Option (List (List Char))) (result : Except TrackerError Unit) : Task D :=
  match rest with
  | none => ⟨.returned result, none⟩
  | some [] => ⟨.returned (.ok ()), some []⟩
  | some (id :: ids) => ⟨.ttlExpiry id, some ids⟩

variable (id : List Char)

variable (now : ℤ) (record : D.Record)

def ttlTasks (result : Except TrackerError Unit) : List (Task D) :=
  match result, record.ttlSeconds with
  | .ok (), some ttl => [⟨.sleep id ttl, none⟩]
  | _, _ => []

def expired : Bool :=
  record.expiresAt.any fun expiry => expiry ≤ now

def checkExpiry (id : List Char) (rest : Option (List (List Char))) : Task D :=
  if (t.deployments.lookup id).any (expired now) then ⟨.terminate id, rest⟩
  else Task.finish rest (.ok ())

def startTermination (id : List Char) (rest : Option (List (List Char))) : Task D :=
  match t.deployments.lookup id with
  | none => Task.finish rest (.error (.configuration ("No deployment found for ".toList ++ id)))
  | some record => ⟨.cleanup id record 0, rest⟩

def cleanupFailed (attempts : ℕ) (e : String) (rest : Option (List (List Char))) : Task D :=
  if attempts + 1 ≥ 3 then Task.finish rest (.error (.cleanup e))
  else ⟨.cleanup id record (attempts + 1), rest⟩

def tryCleanup (attempts : ℕ) (result : Except String Unit) (rest : Option (List (List Char))) :
    Task D × Option (Deed (List Char) D.Record) :=
  if defaultHandlers.contains record.deploymentType then
    match result with
    | .ok () => (⟨.untrack id, rest⟩, some (.down id record))
    | .error e => (cleanupFailed id record attempts e rest, none)
  else
    (Task.finish rest (.error (.configuration
      ("No handler for ".toList ++ record.deploymentType.debug.toList))), none)

def findExpired (order : IterOrder (List Char)) : List (List Char) :=
  ((order.entries t.deployments).filter fun entry => expired now entry.2).map Prod.fst

def Tracker.setTask (i : ℕ) (task : Task D) : Tracker D :=
  { t with tasks := t.tasks.set i task }

/-- One stretch of a task, and what it brings up or takes down. -/
def Tracker.advance (i : ℕ) (world : World) (task : Task D) :
    Tracker D × Option (Deed (List Char) D.Record) :=
  match task.phase with
  | .register id record =>
    ({ t with deployments := t.deployments.insert id record }.setTask i
      ⟨.saveRegistered id record, task.rest⟩, some (.up id record))
  | .saveRegistered id record =>
    let (saved, result) := saveState t world.write
    ({ saved with
        tasks := saved.tasks.set i (Task.finish task.rest result) ++ ttlTasks id record result }, none)
  | .sleep id _ => (t.setTask i ⟨.ttlExpiry id, task.rest⟩, none)
  | .ttlExpiry id => (t.setTask i (checkExpiry t world.now id task.rest), none)
  | .terminate id => (t.setTask i (startTermination t id task.rest), none)
  | .cleanup id record attempts =>
    let (next, deed) := tryCleanup id record attempts world.cleanup task.rest
    (t.setTask i next, deed)
  | .untrack id =>
    ({ t with deployments := t.deployments.erase id }.setTask i ⟨.saveUntracked, task.rest⟩, none)
  | .saveUntracked =>
    let (saved, result) := saveState t world.write
    (saved.setTask i (Task.finish task.rest result), none)
  | .checkTtls =>
    (t.setTask i (Task.finish (some (findExpired t world.now world.order)) (.ok ())), none)
  | .returned _ => (t, none)

def Tracker.resume (i : ℕ) (world : World) : Tracker D × Option (Deed (List Char) D.Record) :=
  match t.tasks[i]? with
  | none => (t, none)
  | some task => t.advance i world task

def Call.start : Call D → Task D
  | .registerDeployment id record => ⟨.register id record, none⟩
  | .handleTermination id => ⟨.terminate id, none⟩
  | .handleTtlExpiry id => ⟨.ttlExpiry id, none⟩
  | .checkAllTtls => ⟨.checkTtls, none⟩

def Task.saving (task : Task D) : Bool :=
  match task.phase with
  | .saveRegistered _ _ => true
  | .saveUntracked => true
  | _ => false

def Tracker.fileAfterCrash : Option ℕ → Option Bytes
  | none => t.stateFile
  | some missing =>
    if t.tasks.any Task.saving then some (cutOff (utf8 (D.toStringPretty t.deployments)) missing)
    else t.stateFile

/-! ## No untracked infrastructure

A record that was registered is up until a cleanup of it has succeeded. The tracker is to know
every record that is up, to take none down twice, and to start again after a crash with all that
is up: `Safe`. -/

open Lib Lib.Run List

variable {D : TrackerDeps}

/-- A tracker, what is up, and whether the last save and the last start have failed. -/
structure TrackerRun (D : TrackerDeps) where
  tracker : Tracker D
  ledger : Ledger (List Char) D.Record
  saveFailed : Bool
  startError : Option TrackerError

inductive TrackerEvent (D : TrackerDeps) where
  | call (c : Call D)
  | resume (i : ℕ) (world : World)
  | crash (cut : Option ℕ)

def enterDeed (l : Ledger (List Char) D.Record) (deed : Option (Deed (List Char) D.Record)) :
    Ledger (List Char) D.Record :=
  match deed with
  | none => l
  | some deed => l.enter deed

def TrackerRun.restart (r : TrackerRun D) (stateFile : Option Bytes) : TrackerRun D :=
  match Tracker.new stateFile with
  | .ok tracker => { r with tracker := tracker }
  | .error e => { r with tracker := ⟨∅, stateFile, []⟩, startError := some e }

def TrackerRun.step (r : TrackerRun D) : TrackerEvent D → TrackerRun D
  | .call c => { r with tracker := { r.tracker with tasks := r.tracker.tasks ++ [c.start] } }
  | .resume i world =>
    { r with
      tracker := (r.tracker.resume i world).1,
      ledger := enterDeed r.ledger (r.tracker.resume i world).2
      saveFailed :=
        if r.tracker.tasks[i]?.any Task.saving then !(saveState r.tracker world.write).2.toBool
        else r.saveFailed }
  | .crash cut => r.restart (r.tracker.fileAfterCrash cut)

def TrackerRun.fresh : TrackerRun D := ⟨⟨∅, none, []⟩, ⟨∅, false⟩, false, none⟩

/-- The tracker knows what is up, and could be started. -/
structure Safe (r : TrackerRun D) : Prop where
  sound : Sound r.tracker.deployments r.ledger
  started : r.startError = none

/-- The file has this map. -/
def Stored (stateFile : Option Bytes) (m : D.Deployments) : Prop :=
  stateFile = none ∧ m = ∅ ∨ stateFile = some (utf8 (D.toStringPretty m))

/-- The file has a part of the text of a map. -/
def Torn (D : TrackerDeps) (stateFile : Option Bytes) : Prop :=
  ∃ (m : D.Deployments) (missing : ℕ), stateFile = some (cutOff (utf8 (D.toStringPretty m)) missing)

lemma failed_loadState_cutOff (m : D.Deployments) (missing : ℕ) :
    Failed (loadState (D := D) (cutOff (utf8 (D.toStringPretty m)) missing)) := by
  have hne : utf8 (D.toStringPretty m) ≠ [] := by
    intro h
    have ht := fromUtf8Lossy_utf8 (D.toStringPretty m)
    rw [h] at ht
    exact D.toStringPretty_ne_nil m ht.symm
  obtain ⟨n, hn, hcut⟩ := cutOff_eq_take hne missing
  rw [hcut, loadState]
  rcases utf8_cut (D.toStringPretty m) hn.le with
    ⟨s, rest, ht, hta, -⟩ | ⟨s, c, rest, j, -, hj, hlt, hta, -⟩
  · have hlen : s.length < (D.toStringPretty m).length := by
      by_contra hge
      have hr : rest = [] := by
        rw [ht, length_append] at hge
        exact length_eq_zero_iff.mp (by omega)
      rw [hr, append_nil] at ht
      have hl := congrArg length hta
      rw [← ht, length_take] at hl
      omega
    have hs : s = (D.toStringPretty m).take s.length := by
      rw [ht, take_left]
    obtain ⟨e, he⟩ := D.fromStr_part m s.length hlen
    rw [← hs] at he
    rw [hta, fromUtf8_utf8]
    dsimp only
    rw [he]
    exact failed_error _
  · rw [hta, fromUtf8_cut s c hj hlt]
    exact failed_error _

variable {stateFile : Option Bytes} {m : D.Deployments} {t : Tracker D} {r : TrackerRun D}
  {task : Task D}

lemma new_of_stored (h : Stored stateFile m) :
    Tracker.new stateFile = .ok (⟨m, stateFile, []⟩ : Tracker D) := by
  rcases h with ⟨rfl, rfl⟩ | rfl
  · rfl
  rw [Tracker.new, loadState, fromUtf8_utf8]
  dsimp only
  rw [D.fromStr_toStringPretty]
  rfl

lemma failed_new_of_torn (h : Torn D stateFile) :
    ∃ e, Tracker.new stateFile = (.error e : Except TrackerError (Tracker D)) := by
  obtain ⟨m, missing, rfl⟩ := h
  obtain ⟨e, he⟩ := failed_loadState_cutOff m missing
  exact ⟨e, by rw [Tracker.new, he]; rfl⟩

lemma saveState_deployments (t : Tracker D) (write : WriteAttempt) :
    (saveState t write).1.deployments = t.deployments := by
  cases write <;> rfl

lemma saveState_stored {write : WriteAttempt} (h : (saveState t write).2.toBool = true) :
    Stored (saveState t write).1.stateFile t.deployments := by
  cases write with
  | done => exact .inr rfl
  | refused | torn => cases h

/-- What a step of a task must not do. -/
def TaskKept (r : TrackerRun D) (world : World) : Phase D → Prop
  | .register id record => ∀ record', (id, record') ∈ r.ledger.live → record' = record
  | .cleanup id record _ =>
    defaultHandlers.contains record.deploymentType = true → world.cleanup = .ok () →
      (id, record) ∈ r.ledger.live
  | .untrack id => ∀ record, (id, record) ∉ r.ledger.live
  | _ => True

/-- A crash comes neither while a change is still to be saved nor after a save that has failed. -/
def Kept (r : TrackerRun D) : TrackerEvent D → Prop
  | .call _ => True
  | .resume i world => ∀ task, r.tracker.tasks[i]? = some task → TaskKept r world task.phase
  | .crash _ => r.tracker.tasks.any Task.saving = false ∧ r.saveFailed = false

/-- When no change is still to be saved and the last save has not failed, the file has the map. -/
def Filed (r : TrackerRun D) : Prop :=
  r.tracker.tasks.any Task.saving = false → r.saveFailed = false →
    Stored r.tracker.stateFile r.tracker.deployments

lemma sound_tryCleanup_iff (hs : Safe r) (id : List Char) (record : D.Record) (attempts : ℕ)
    (world : World) (rest : Option (List (List Char))) :
    Sound r.tracker.deployments
        (enterDeed r.ledger (tryCleanup id record attempts world.cleanup rest).2) ↔
      TaskKept r world (.cleanup id record attempts) := by
  rw [TaskKept]
  unfold tryCleanup
  by_cases hh : defaultHandlers.contains record.deploymentType = true
  · rw [if_pos hh]
    rcases world.cleanup with e | u
    · exact iff_of_true hs.sound nofun
    refine (sound_down_iff hs.sound id record).trans ?_
    exact ⟨fun h _ _ => h, fun h => h hh rfl⟩
  · rw [if_neg hh]
    exact iff_of_true hs.sound fun h => absurd h hh

lemma sound_advance_iff (hs : Safe r) (i : ℕ) (world : World) (task : Task D) :
    Sound (r.tracker.advance i world task).1.deployments
        (enterDeed r.ledger (r.tracker.advance i world task).2) ↔ TaskKept r world task.phase := by
  obtain ⟨phase, rest⟩ := task
  have hk := iff_of_true hs.sound trivial
  cases phase with
  | register id record => exact sound_up_iff hs.sound id record
  | saveRegistered | saveUntracked =>
    rw [← saveState_deployments r.tracker world.write] at hk
    exact hk
  | sleep | ttlExpiry | terminate | checkTtls | returned => exact hk
  | cleanup id record attempts => exact sound_tryCleanup_iff hs id record attempts world rest
  | untrack id => exact sound_erase_iff hs.sound id

lemma any_saving_of_set {tasks : List (Task D)} {i : ℕ} {next : Task D} (hi : tasks[i]? = some task)
    (ht : task.saving = false) (h : (tasks.set i next).any Task.saving = false) : tasks.any Task.saving = false := by
  rw [List.any_eq_false] at h ⊢
  intro other hm
  obtain ⟨j, hj⟩ := List.mem_iff_getElem?.mp hm
  by_cases hij : i = j
  · subst hij
    cases hi.symm.trans hj
    exact Bool.not_eq_true _ ▸ ht
  · exact h other (List.mem_iff_getElem?.mpr ⟨j, by rw [List.getElem?_set_ne hij]; exact hj⟩)

lemma any_saving_set {tasks : List (Task D)} {i : ℕ} (next : Task D) (hi : tasks[i]? = some task)
    (hn : next.saving = true) : (tasks.set i next).any Task.saving = true := by
  obtain ⟨hlt, -⟩ := List.getElem?_eq_some_iff.mp hi
  exact List.any_eq_true.mpr ⟨next, List.mem_iff_getElem?.mpr ⟨i, by simp [hlt]⟩, hn⟩

/-- A step of a task changes the map only where it goes on to save it. -/
lemma filed_resume (hf : Filed r) (i : ℕ) (world : World) : Filed (r.step (.resume i world)) := by
  intro hs hfail
  simp only [TrackerRun.step, Tracker.resume] at hs hfail ⊢
  cases hi : r.tracker.tasks[i]? with
  | none =>
    simp only [hi] at hs hfail ⊢
    exact hf hs hfail
  | some task =>
    obtain ⟨phase, rest⟩ := task
    simp only [hi, Option.any_some] at hs hfail ⊢
    cases phase with
    | register id record =>
      exact absurd (hs.symm.trans (any_saving_set ⟨.saveRegistered id record, rest⟩ hi rfl)) Bool.false_ne_true
    | untrack => exact absurd (hs.symm.trans (any_saving_set ⟨.saveUntracked, rest⟩ hi rfl)) Bool.false_ne_true
    | saveRegistered | saveUntracked =>
      have hok : (saveState r.tracker world.write).2.toBool = true := by simpa [Task.saving] using hfail
      have hst := saveState_stored hok
      rwa [← saveState_deployments r.tracker world.write] at hst
    | sleep | ttlExpiry | terminate | checkTtls | cleanup => exact hf (any_saving_of_set hi rfl hs) hfail
    | returned => exact hf hs hfail

lemma step_crash (hf : Filed r) {cut : Option ℕ} (hk : Kept r (.crash cut)) :
    r.step (.crash cut) = { r with tracker := ⟨r.tracker.deployments, r.tracker.stateFile, []⟩ } := by
  have hfile : r.tracker.fileAfterCrash cut = r.tracker.stateFile := by
    cases cut with
    | none => rfl
    | some missing => rw [Tracker.fileAfterCrash, hk.1, if_neg Bool.false_ne_true]
  rw [TrackerRun.step, hfile, TrackerRun.restart, new_of_stored (hf hk.1 hk.2)]

lemma safe_step (hf : Filed r) (hs : Safe r) {e : TrackerEvent D} (hk : Kept r e) :
    Filed (r.step e) ∧ Safe (r.step e) := by
  cases e with
  | call c =>
    refine ⟨fun hn hfail => hf ?_ hfail, hs.sound, hs.started⟩
    rw [TrackerRun.step, List.any_append, Bool.or_eq_false_iff] at hn
    exact hn.1
  | resume i world =>
    refine ⟨filed_resume hf i world, ?_, hs.started⟩
    rw [TrackerRun.step, Tracker.resume]
    cases ht : r.tracker.tasks[i]? with
    | none => exact hs.sound
    | some task => exact (sound_advance_iff hs i world task).mpr (hk task ht)
  | crash cut =>
    rw [step_crash hf hk]
    exact ⟨fun _ _ => hf hk.1 hk.2, hs.sound, hs.started⟩

instance : Countable DeploymentType :=
  Function.Injective.countable (Function.LeftInverse.injective DeploymentType.ofNat_ctorIdx)

instance {Details : Type} [Countable Details] : Countable (DeploymentRecord Details) := by
  refine Function.Injective.countable (f := fun record =>
    (record.deploymentType, record.ttlSeconds, record.expiresAt, record.details)) ?_
  intro record record' h
  cases record
  cases record'
  simpa using h

instance countableChar : Countable Char := Function.Injective.countable fun _ _ => Char.toNat_inj.mp

instance countableHashMap {κ ν : Type} [Countable κ] [Countable ν] : Countable (HashMap κ ν) :=
  Function.Injective.countable (f := Finmap.entries) fun _ _ => Finmap.ext

noncomputable instance encodableRecords : Encodable (HashMap (List Char) (DeploymentRecord ℕ)) :=
  Encodable.ofCountable _

noncomputable abbrev numbered : TrackerDeps where
  Details := ℕ
  decideDetails := inferInstance
  toStringPretty := UnaryCode.write '1' '0'
  fromStr := UnaryCode.read '1' '0'
  fromStr_toStringPretty := UnaryCode.read_write '1' '0'
  fromStr_part := UnaryCode.failed_read_take (by decide)
  toStringPretty_ne_nil := UnaryCode.write_ne_nil '1' '0'

abbrev container (number : ℕ) : DeploymentRecord ℕ := ⟨.localDocker, none, none, number⟩

noncomputable abbrev goodWorld : World := ⟨0, .ok (), .done, .alone ['b']⟩

noncomputable abbrev registered : List (TrackerEvent numbered) :=
  [.call (.registerDeployment ['b'] (container 1)), .resume 0 goodWorld, .resume 0 goodWorld]

/-- A crash in the middle of a save leaves a part of the text. -/
lemma not_safe_of_cut {r : TrackerRun D} {missing : ℕ} (h : r.tracker.tasks.any Task.saving = true) :
    ¬ Safe (r.step (.crash (some missing))) := by
  obtain ⟨e, he⟩ := failed_new_of_torn (D := D) ⟨r.tracker.deployments, missing, rfl⟩
  rw [TrackerRun.step, Tracker.fileAfterCrash, if_pos h, TrackerRun.restart, he]
  intro hs
  cases hs.started

end Gadget.RemoteProviders
