import Gadget.RemoteProviders.Tracker
import Gadget.Rust.Int

/-!
# The health monitor

Round after round the monitor checks the active deployments and replaces the instance of one that was
found unhealthy often enough. It addresses an instance by the `id` of the record. A step of the model
is the start of a round or the check of one deployment of the round; what the cloud answers is part of
the step.
-/

namespace Gadget.RemoteProviders

open Lib.Run Rust List

inductive InstanceStatus where
  | running
  | starting
  | stopping
  | stopped
  | terminated
  | unknown

inductive HealthStatus where
  | healthy
  | degraded
  | unhealthy
  | unknown

structure Instance where
  id : List Char
  active : Bool
  instanceId : Option (List Char)

abbrev Monitored := HashMap (List Char) (DeploymentRecord Instance)

def inUse (deployments : Monitored) : Set (List Char) :=
  { id | ∃ key d, deployments.lookup key = some d ∧ d.details.id = id }

structure Answers (ids : Set (List Char)) where
  status : Except String InstanceStatus
  provision : Except String { new : List Char // new ∉ ids }

structure MonitorConfig where
  maxConsecutiveFailures : ℕ := 3
  autoRecover : Bool := true

structure Monitor where
  deployments : Monitored
  failureCounts : HashMap (List Char) ℕ := ∅
  round : List (DeploymentRecord Instance) := []
  replaced : List (List Char × List Char) := []

def checkDeploymentHealth : Except String InstanceStatus → HealthStatus
  | .error _ => .unknown
  | .ok .running => .healthy
  | .ok .starting => .degraded
  | .ok .stopping | .ok .stopped | .ok .terminated => .unhealthy
  | .ok .unknown => .unknown

def updateInstanceId (deployments : Monitored) (oldId newId : List Char) : Monitored :=
  match deployments.lookup oldId with
  | some d =>
    (deployments.erase oldId).insert newId { d with details := { d.details with instanceId := some newId } }
  | none => deployments

namespace Monitor

variable {ids : Set (List Char)} (cfg : MonitorConfig) (s : Monitor)

def listActive (order : IterOrder (List Char)) : List (DeploymentRecord Instance) :=
  ((order.entries s.deployments).map Prod.snd).filter (·.details.active)

variable (id : List Char) (a : Answers ids)

def failures : ℕ := wrap32 ((s.failureCounts.lookup id).getD 0 + 1)

def attemptRecovery : Monitor :=
  match a.provision with
  | .ok new =>
    { s with
      deployments := updateInstanceId s.deployments id new
      replaced := (id, new.val) :: s.replaced }
  | .error _ => s

def check : Monitor :=
  match checkDeploymentHealth a.status with
  | .healthy => { s with failureCounts := s.failureCounts.erase id }
  | .degraded => { s with failureCounts := s.failureCounts.insert id (s.failures id) }
  | .unhealthy =>
    let counted : Monitor := { s with failureCounts := s.failureCounts.insert id (s.failures id) }
    if cfg.maxConsecutiveFailures ≤ s.failures id ∧ cfg.autoRecover then counted.attemptRecovery id a
    else counted
  | .unknown => s

inductive Event (ids : Set (List Char)) where
  | tick (order : IterOrder (List Char))
  | check (a : Answers ids)

def step : Event ids → Monitor
  | .tick order => if s.round = [] then { s with round := s.listActive order } else s
  | .check a =>
    match s.round with
    | d :: rest => { s.check cfg d.details.id a with round := rest }
    | [] => s

/-- Recovery converges: a replacement that was not itself replaced is tracked by exactly one record,
which addresses it from now on, and no instance is replaced twice. -/
structure Converges (s : Monitor) : Prop where
  tracked : ∀ p ∈ s.replaced, p.2 ∉ s.replaced.map Prod.fst →
    ∃! key, ∃ d, s.deployments.lookup key = some d ∧ d.details.id = p.2 ∧ d.details.instanceId = some p.2
  once : (s.replaced.map Prod.fst).Nodup

def Recovers : Prop :=
  checkDeploymentHealth a.status = .unhealthy ∧ cfg.maxConsecutiveFailures ≤ s.failures id ∧
    cfg.autoRecover = true ∧ ∃ new, a.provision = .ok new

def NoReplacement : Event ids → Prop
  | .tick _ => True
  | .check a => ∀ d ∈ s.round.head?, ¬ s.Recovers cfg d.details.id a

structure Stuck (ids : Set (List Char)) (s : Monitor) : Prop where
  deployments : inUse s.deployments ⊆ ids
  round : ∀ d ∈ s.round, d.details.id ∈ ids
  replaced : ∀ p ∈ s.replaced, p.1 ∈ ids

lemma inUse_updateInstanceId (deployments : Monitored) (oldId newId : List Char) :
    inUse (updateInstanceId deployments oldId newId) ⊆ inUse deployments := by
  unfold updateInstanceId
  split
  · rename_i old hold
    rintro id ⟨key, d, hd, rfl⟩
    rcases HashMap.lookup_insert_cases hd with ⟨-, rfl⟩ | hd
    · exact ⟨oldId, old, hold, rfl⟩
    rw [HashMap.lookup_erase_eq] at hd
    split at hd
    · cases hd
    · exact ⟨key, d, hd, rfl⟩
  · exact subset_rfl

variable {cfg}

lemma check_of_recovers {s : Monitor} {id : List Char} {a : Answers ids} (h : s.Recovers cfg id a) :
    ∃ new ∉ ids, (s.check cfg id a).deployments = updateInstanceId s.deployments id new ∧
      (s.check cfg id a).replaced = (id, new) :: s.replaced := by
  obtain ⟨hs, hf, ha, new, hnew⟩ := h
  refine ⟨new, new.property, ?_⟩
  simp [check, hs, hf, ha, attemptRecovery, hnew]

lemma check_of_not_recovers {s : Monitor} {id : List Char} {a : Answers ids} (h : ¬ s.Recovers cfg id a) :
    (s.check cfg id a).deployments = s.deployments ∧ (s.check cfg id a).replaced = s.replaced := by
  unfold check
  cases hs : checkDeploymentHealth a.status with
  | unhealthy =>
    dsimp only
    split
    · rename_i hdue
      unfold attemptRecovery
      split
      · rename_i new hnew
        exact absurd ⟨hs, hdue.1, hdue.2, new, hnew⟩ h
      · exact ⟨rfl, rfl⟩
    · exact ⟨rfl, rfl⟩
  | _ => exact ⟨rfl, rfl⟩

lemma Stuck.step {s : Monitor} (h : Stuck ids s) (e : Event ids) : Stuck ids (s.step cfg e) := by
  cases e with
  | tick ord =>
    simp only [Monitor.step]
    split
    · refine ⟨h.deployments, fun d hd => ?_, h.replaced⟩
      obtain ⟨⟨key, d'⟩, hmem, rfl⟩ := mem_map.mp (mem_of_mem_filter hd)
      exact h.deployments ⟨key, d', (ord.mem_entries _ _ _).mp hmem, rfl⟩
    · exact h
  | check a =>
    simp only [Monitor.step]
    split
    · rename_i d rest hro
      have hre : ∀ d' ∈ rest, d'.details.id ∈ ids := fun d' hd' => h.round d' (hro ▸ mem_cons_of_mem _ hd')
      by_cases hrec : s.Recovers cfg d.details.id a
      · obtain ⟨new, -, hde, hr⟩ := check_of_recovers hrec
        refine ⟨?_, hre, ?_⟩
        · rw [hde]
          exact (inUse_updateInstanceId _ _ _).trans h.deployments
        · rw [hr]
          exact forall_mem_cons.mpr ⟨h.round d (hro ▸ mem_cons_self), h.replaced⟩
      · obtain ⟨hde, hr⟩ := check_of_not_recovers hrec
        exact ⟨by rw [hde]; exact h.deployments, hre, by rw [hr]; exact h.replaced⟩
    · exact h

/-- **A replacement is never addressed.** In every run the monitor asks for, and replaces, only instances
of the start. -/
theorem always_stuck (deployments : Monitored) (es : List (Event (inUse deployments))) :
    Always (step cfg) (Stuck (inUse deployments)) { deployments } es :=
  always_of_step (fun _ e h => h.step e) ⟨subset_rfl, by simp, by simp⟩ es

/-- **Recovery converges** in exactly the runs that never replace an instance: a record never addresses
its replacement. -/
theorem always_converges_iff (deployments : Monitored) (es : List (Event (inUse deployments))) :
    Always (step cfg) Converges { deployments } es ↔ Each (step cfg) (NoReplacement cfg) { deployments } es := by
  have hs (s : Monitor) (e : Event (inUse deployments)) (h : Stuck (inUse deployments) s) (hc : s.Converges) :
      (s.step cfg e).Converges ↔ s.NoReplacement cfg e := by
    cases e with
    | tick order =>
      refine iff_of_true ?_ trivial
      simp only [step]
      split
      · exact ⟨hc.tracked, hc.once⟩
      · exact hc
    | check a =>
      rcases hro : s.round with _ | ⟨d, rest⟩
      · simpa [step, NoReplacement, hro] using hc
      have ha : Stuck _ (s.step cfg (.check a)) := h.step _
      simp only [step, NoReplacement, hro, head?_cons, Option.mem_def, Option.some.injEq, forall_eq'] at ha ⊢
      by_cases hrec : s.Recovers cfg d.details.id a
      · refine iff_of_false (fun hc' => ?_) (not_not_intro hrec)
        obtain ⟨new, hnew, -, hr⟩ := check_of_recovers hrec
        -- the replacement is nobody's: neither an instance that was replaced nor one of a record
        have ht := hc'.tracked (d.details.id, new) (hr ▸ mem_cons_self) fun hmem => ?_
        · obtain ⟨key, ⟨d', hd', hid, -⟩, -⟩ := ht
          exact hnew (ha.deployments ⟨key, d', hd', hid⟩)
        · obtain ⟨p, hp, hpn⟩ := mem_map.mp hmem
          have hold := ha.replaced p hp
          rw [hpn] at hold
          exact hnew hold
      · obtain ⟨hd, hr⟩ := check_of_not_recovers hrec
        refine iff_of_true ⟨?_, ?_⟩ hrec
        · simpa only [hd, hr] using hc.tracked
        · simpa only [hr] using hc.once
  apply always_iff_each (fun s e h _ => h.step e) hs
  · exact ⟨subset_rfl, by simp, by simp⟩
  · exact ⟨by simp, by simp⟩

abbrev onlyA : Monitored := (∅ : Monitored).insert ['a'] ⟨.awsEc2, none, none, ⟨['a'], true, none⟩⟩

abbrev goneForB : Answers (inUse onlyA) where
  status := .ok .terminated
  provision := .ok ⟨['b'], by
    rintro ⟨key, d, hd, hid⟩
    rw [HashMap.lookup_insert_eq] at hd
    split at hd <;> cases hd
    cases hid⟩

theorem replaced_every_round : ¬ Always (step {}) Converges { deployments := onlyA }
        [.tick (.alone ['a']), .check goneForB, .tick (.alone ['a']), .check goneForB, .tick (.alone ['a']),
          .check goneForB, .tick (.alone ['b']), .check goneForB] := by
  intro h
  exact not_nodup_pair ['a'] h.last.once

end Monitor

end Gadget.RemoteProviders
