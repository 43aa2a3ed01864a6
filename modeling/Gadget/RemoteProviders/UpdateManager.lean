import Gadget.Rust.Control
import Gadget.Rust.Int

/-!
# Updates and rollbacks of a deployment

An update deploys the new version beside the old one, checks its health and cleans one of the two up.
`CloudAdapter` is what the cloud answers during one operation; the `Trace` of an operation has the
deployments that it created and the cleanups that it asked for. Waiting is left out, and of a version
what is only handed to the cloud.
-/

namespace Gadget.RemoteProviders

/-- The state of a version in the history. -/
inductive VersionStatus where
  | active
  | inactive
  | failed
  | rolledBack
  | staging
  deriving DecidableEq

variable {Id : Type}

/-- A version of the history, with the deployment that it was deployed as. -/
structure DeploymentVersion (Id : Type) where
  version : List Char
  status : VersionStatus
  containerId : Option Id

/-- What the cloud answers during one operation; `timeout` is that of the blue-green health checks. -/
structure CloudAdapter (Id : Type) where
  deployBlueprint : Except String Id
  healthCheckBlueprint : ℕ → Except String Bool
  cleanupBlueprint : Id → Except String Unit
  timeout : Bool

/-- The history of versions, with the trace of the operation that runs. -/
structure UpdateManager (Id : Type) where
  versions : List (DeploymentVersion Id)
  activeVersion : Option (List Char)
  created : List Id := []
  cleanups : List Id := []
  removed : List Id := []

def maxVersionHistory : ℕ := 10

namespace UpdateManager

variable (m : UpdateManager Id)

/-- Append a version; a full history loses its oldest one. -/
def addVersion (v : DeploymentVersion Id) : UpdateManager Id :=
  { m with versions := (if maxVersionHistory ≤ m.versions.length then m.versions.tail else m.versions) ++ [v] }

/-- The first version of that name. -/
def getVersion (version : List Char) : Option (DeploymentVersion Id) :=
  m.versions.find? (·.version = version)

/-- Set the status of the first version of that name. -/
def setStatus (version : List Char) (status : VersionStatus) : UpdateManager Id :=
  { m with versions := m.versions.modify (m.versions.findIdx (·.version = version)) ({ · with status }) }

/-- Set the status of the active version. -/
def retire (status : VersionStatus) : UpdateManager Id :=
  match m.activeVersion with
  | some version => m.setStatus version status
  | none => m

/-- The deployment that is recorded as active. -/
def activeDeployment : Option Id :=
  (m.activeVersion.bind m.getVersion).bind (·.containerId)

/-- A deployment is created. -/
def create (d : Id) : UpdateManager Id := { m with created := m.created ++ [d] }

variable (a : CloudAdapter Id)

/-- Ask the cloud for a cleanup. -/
def cleanup (m : UpdateManager Id) (d : Id) : Except String Unit × UpdateManager Id :=
  let m := { m with cleanups := m.cleanups ++ [d] }
  match a.cleanupBlueprint d with
  | .ok () => (.ok (), { m with removed := m.removed ++ [d] })
  | .error e => (.error e, m)

/-- Clean a new deployment up and give up; an error of the cleanup comes first. -/
def cleanupThen (m : UpdateManager Id) (d : Id) (message : String) : Except String Id × UpdateManager Id :=
  match m.cleanup a d with
  | (.ok (), m) => (.error message, m)
  | (.error e, m) => (.error e, m)

/-- Up to 30 health checks, where an error counts as unhealthy. -/
def waitForHealthy : Bool :=
  (List.range 30).any fun attempt =>
    match a.healthCheckBlueprint attempt with
    | .ok healthy => healthy
    | .error _ => false

/-- Record the new deployment as the active version. -/
def complete (version : List Char) (d : Id) : Except String Id × UpdateManager Id :=
  (.ok d, { m.addVersion ⟨version, .active, some d⟩ with activeVersion := some version })

/-- `blue_green_update` -/
def blueGreenUpdate (m : UpdateManager Id) (version : List Char) (old : Id) :
    Except String Id × UpdateManager Id :=
  match a.deployBlueprint with
  | .error e => (.error e, m)
  | .ok green =>
    let m := (m.create green).addVersion ⟨version, .staging, some green⟩
    if !a.timeout && waitForHealthy a then
      let m := { (m.setStatus version .active).retire .inactive with activeVersion := some version }
      -- a failed cleanup only reaches the log
      (.ok green, (m.cleanup a old).2)
    else (m.setStatus version .failed).cleanupThen a green "Green deployment health check failed"

/-- `rolling_update` -/
def rollingUpdate (m : UpdateManager Id) (version : List Char) (old : Id) :
    Except String Id × UpdateManager Id :=
  match a.deployBlueprint with
  | .error e => (.error e, m)
  | .ok new =>
    let m := m.create new
    if waitForHealthy a then
      match m.cleanup a old with
      | (.error e, m) => (.error e, m)
      | (.ok (), m) => m.complete version new
    else m.cleanupThen a new "New deployment failed health check"

/-- The loop of `canary_update`: `none` when the rounds do not suffice, else the error or the end. -/
def canaryLoop (increment : ℕ) : ℕ → ℕ → ℕ → Option (Except (String ⊕ ℕ) Unit)
  | 0, _, _ => none
  | rounds + 1, checks, percentage =>
    if percentage < 100 then
      match a.healthCheckBlueprint checks with
      | .error e => some (.error (.inl e))
      | .ok false => some (.error (.inr percentage))
      | .ok true => canaryLoop increment rounds (checks + 1) (min ((percentage + increment) % 2 ^ 8) 100)
    else some (.ok ())

/-- `canary_update` -/
def canaryUpdate (m : UpdateManager Id) (version : List Char) (old : Id) (initial increment rounds : ℕ) :
    Option (Except String Id × UpdateManager Id) :=
  match a.deployBlueprint with
  | .error e => some (.error e, m)
  | .ok canary =>
    let m := m.create canary
    (canaryLoop a increment rounds 0 initial).map fun
      | .error (.inl e) => (.error e, m)
      | .error (.inr percentage) => m.cleanupThen a canary ("Canary failed at " ++ toString percentage ++ "%")
      | .ok () =>
        match m.cleanup a old with
        | (.error e, m) => (.error e, m)
        | (.ok (), m) => m.complete version canary

/-- `rollback` -/
def rollback (m : UpdateManager Id) (target : List Char) (old : Id) : Except String Id × UpdateManager Id :=
  match m.getVersion target with
  | none => (.error ("Version " ++ String.ofList target ++ " not found"), m)
  | some version =>
    if version.status = .failed then (.error "Cannot rollback to a failed version", m)
    else
      match a.deployBlueprint with
      | .error e => (.error e, m)
      | .ok new =>
        let m := m.create new
        if waitForHealthy a then
          match m.cleanup a old with
          | (.error e, m) => (.error e, m)
          | (.ok (), m) =>
            (.ok new, { (m.retire .rolledBack).setStatus target .active with activeVersion := some target })
        else m.cleanupThen a new "Rollback failed health check"

/-! ## What an operation owes -/

/-- After an error the old deployment is there and a cleanup of every new one was asked for; after `Ok`
only the returned deployment runs, and it is the active one. -/
structure Safe (old : Id) (r : Except String Id × UpdateManager Id) : Prop where
  error : ∀ e, r.1 = .error e → old ∉ r.2.removed ∧ ∀ d ∈ r.2.created, d ∈ r.2.cleanups
  ok : ∀ d, r.1 = .ok d →
    r.2.created = [d] ∧ old ∈ r.2.removed ∧ d ∉ r.2.removed ∧ r.2.activeDeployment = some d

/-- The condition on the cloud. Once the new deployment is healthy, the cleanup of the old one succeeds and
the new one is recorded; a cloud that hands out the id of the old one again must refuse to clean it up. -/
def Replaces (a : CloudAdapter Id) (old : Id) (healthy : Prop) (recorded : Id → Prop) : Prop :=
  ∀ d, a.deployBlueprint = .ok d →
    (d = old → a.cleanupBlueprint old ≠ .ok ()) ∧
      (d ≠ old → healthy → a.cleanupBlueprint old = .ok () ∧ recorded d)

/-- The versions that are left when one is added. -/
def kept : List (DeploymentVersion Id) :=
  if maxVersionHistory ≤ m.versions.length then m.versions.tail else m.versions

/-- A version of that name in the history, if there is one, was recorded with the same deployment. -/
def RecordedAs (versions : List (DeploymentVersion Id)) (version : List Char) (d : Id) : Prop :=
  ∀ v ∈ versions.find? (·.version = version), v.containerId = some d

/-- The percentage after so many healthy checks. -/
def canaryPercentage (initial increment : ℕ) : ℕ → ℕ
  | 0 => initial
  | checks + 1 => min ((canaryPercentage initial increment checks + increment) % 2 ^ 8) 100

/-- The loop gets to its round `n`: every check before was made and healthy. -/
def CanaryReaches (a : CloudAdapter Id) (initial increment n : ℕ) : Prop :=
  ∀ k < n, canaryPercentage initial increment k < 100 ∧ a.healthCheckBlueprint k = .ok true

/-- The loop ends in its round `n`. -/
def CanaryStops (a : CloudAdapter Id) (initial increment n : ℕ) : Prop :=
  CanaryReaches a initial increment n ∧
    (canaryPercentage initial increment n < 100 → a.healthCheckBlueprint n ≠ .ok true)

def containerOf (version : List Char) : Option Id :=
  (m.getVersion version).bind (·.containerId)

/-- A status is no part of what a version is recorded with. -/
lemma containerOf_setStatus (v version : List Char) (status : VersionStatus) :
    (m.setStatus v status).containerOf version = m.containerOf version := by
  obtain ⟨versions, -, -, -, -⟩ := m
  simp only [containerOf, getVersion, setStatus]
  induction versions with
  | nil => rfl
  | cons first rest ih =>
    by_cases hv : first.version = v <;>
      by_cases hve : first.version = version <;> simp_all [List.findIdx_cons]

lemma retire_spec (status : VersionStatus) (version : List Char) :
    (m.retire status).containerOf version = m.containerOf version ∧ (m.retire status).created = m.created ∧
      (m.retire status).removed = m.removed := by
  unfold retire
  split
  · exact ⟨containerOf_setStatus _ _ _ _, rfl, rfl⟩
  · exact ⟨rfl, rfl, rfl⟩

/-- A new version is found unless an older one of its name is, which then has to agree with it. -/
lemma containerOf_addVersion (version : List Char) (status : VersionStatus) (d : Id) :
    (m.addVersion ⟨version, status, some d⟩).containerOf version = some d ↔
      RecordedAs m.kept version d := by
  simp only [containerOf, getVersion, addVersion, RecordedAs, List.find?_append]
  change ((m.kept.find? (·.version = version)).or _).bind (·.containerId) = some d ↔ _
  cases m.kept.find? (·.version = version) with
  | none => simp
  | some v => simp

variable {a} {old d : Id}

lemma safe_error {m : UpdateManager Id} {e : String} (hc : m.created = []) (hr : m.removed = []) :
    Safe old (.error e, m) :=
  ⟨fun _ _ => by simp [hc, hr], nofun⟩

lemma safe_cleanupThen_iff {m : UpdateManager Id} {msg : String} (hc : m.created = [d])
    (hr : m.removed = []) :
    Safe old (m.cleanupThen a d msg) ↔ (d = old → a.cleanupBlueprint old ≠ .ok ()) := by
  unfold cleanupThen cleanup
  constructor
  · rintro h rfl hok
    rw [hok] at h
    exact (h.error msg rfl).1 (by simp [hr])
  · intro h
    cases hd : a.cleanupBlueprint d with
    | error e => constructor <;> simp [hc, hr]
    | ok =>
      have hne : old ≠ d := fun he => h he.symm (he ▸ hd)
      constructor <;> simp [hc, hr, hne]

lemma safe_ok_iff {m : UpdateManager Id} (hc : m.created = [d]) (hr : m.removed = [old]) :
    Safe old (.ok d, m) ↔ d ≠ old ∧ m.activeDeployment = some d := by
  constructor
  · intro h
    obtain ⟨-, -, hd, ha⟩ := h.ok d rfl
    exact ⟨by simpa [hr] using hd, ha⟩
  · rintro ⟨hne, ha⟩
    refine ⟨nofun, ?_⟩
    rintro _ ⟨rfl⟩
    exact ⟨hc, by simp [hr], by simp [hr, hne], ha⟩

/-- An error after the cleanup of the old deployment: only a new one of the same id was cleaned up. -/
lemma safe_error_iff {m : UpdateManager Id} {e : String} (hc : m.created = [d]) (hcl : m.cleanups = [old])
    (hr : m.removed = []) : Safe old (.error e, m) ↔ d = old := by
  constructor
  · intro h
    simpa [hcl] using (h.error e rfl).2 d (by simp [hc])
  · rintro rfl
    exact ⟨fun _ _ => by simp [hc, hcl, hr], nofun⟩

/-- What is owed for one deployment, from what the branches of an operation owe. -/
lemma replaces_iff {healthy : Prop} {recorded : Id → Prop} (hd : a.deployBlueprint = .ok d) :
    Replaces a old healthy recorded ↔ (d = old → a.cleanupBlueprint old ≠ .ok ()) ∧
      (d ≠ old → healthy → a.cleanupBlueprint old = .ok () ∧ recorded d) := by
  simp [Replaces, hd]

lemma replaces_of_error {healthy : Prop} {recorded : Id → Prop} {e : String}
    (hd : a.deployBlueprint = .error e) : Replaces a old healthy recorded := by
  simp [Replaces, hd]

section Operations

variable {versions : List (DeploymentVersion Id)} {activeVersion : Option (List Char)} {version : List Char}

lemma safe_rollback_iff {target : List Char} :
    Safe old (({ versions, activeVersion } : UpdateManager Id).rollback a target old) ↔
      ∀ v ∈ versions.find? (·.version = target), v.status ≠ .failed →
        Replaces a old (waitForHealthy a) fun d => v.containerId = some d := by
  unfold rollback
  cases hv : getVersion ⟨versions, activeVersion, [], [], []⟩ target with
  | none =>
    have hv' : versions.find? (·.version = target) = none := hv
    simp only [hv', Option.mem_def, reduceCtorEq, false_imp_iff, implies_true, iff_true]
    exact safe_error rfl rfl
  | some v =>
    have hv' : versions.find? (·.version = target) = some v := hv
    simp only [hv', Option.mem_def, Option.some.injEq, forall_eq']
    by_cases hf : v.status = .failed
    · rw [if_pos hf]
      exact iff_of_true (safe_error rfl rfl) fun h => absurd hf h
    rw [if_neg hf, imp_iff_right hf]
    cases hd : a.deployBlueprint with
    | error e => exact iff_of_true (safe_error rfl rfl) (replaces_of_error hd)
    | ok d =>
      rw [replaces_iff hd]
      dsimp only
      split_ifs with hh
      · obtain ⟨hc, hcr, hr⟩ := retire_spec ⟨versions, activeVersion, [d], [old], [old]⟩ .rolledBack target
        have hrec : containerOf ⟨versions, activeVersion, [d], [old], [old]⟩ target = v.containerId := by
          simp [containerOf, getVersion, hv']
        cases hok : a.cleanupBlueprint old with
        | error e =>
          simp only [cleanup, hok]
          refine (safe_error_iff rfl rfl rfl).trans ?_
          simp [hh]
        | ok =>
          simp only [cleanup, hok]
          refine Iff.trans (safe_ok_iff ?_ ?_) ?_
          · exact hcr
          · exact hr
          have ha := (containerOf_setStatus (retire ⟨versions, activeVersion, [d], [old], [old]⟩ .rolledBack)
            target target .active).trans (hc.trans hrec)
          refine (and_congr_right fun _ => (Eq.congr_left ha)).trans ?_
          simp only [hh]
          tauto
      · refine (safe_cleanupThen_iff rfl rfl).trans ?_
        simp [hh]

lemma safe_blueGreenUpdate_iff :
    Safe old (({ versions, activeVersion } : UpdateManager Id).blueGreenUpdate a version old) ↔
      Replaces a old (!a.timeout && waitForHealthy a)
        (RecordedAs (kept ⟨versions, activeVersion, [], [], []⟩) version) ∧
      ((!a.timeout && waitForHealthy a) → a.deployBlueprint ≠ .ok old) := by
  unfold blueGreenUpdate
  cases hd : a.deployBlueprint with
  | error e => exact iff_of_true (safe_error rfl rfl) ⟨replaces_of_error hd, by simp⟩
  | ok d =>
    rw [replaces_iff hd]
    dsimp only
    split_ifs with hh
    · obtain ⟨hc, hcr, hr⟩ := retire_spec (setStatus (addVersion
        ⟨versions, activeVersion, [d], [], []⟩ ⟨version, .staging, some d⟩) version .active) .inactive version
      have ha := (hc.trans (containerOf_setStatus _ _ _ _)).congr_left.trans
        (containerOf_addVersion ⟨versions, activeVersion, [d], [], []⟩ version .staging d)
      cases hok : a.cleanupBlueprint old with
      | error e =>
        simp only [cleanup, create, hok]
        refine iff_of_false (fun h => ?_) (by simp [hh])
        have ho : old ∈ (retire (setStatus (addVersion ⟨versions, activeVersion, [d], [], []⟩
          ⟨version, .staging, some d⟩) version .active) .inactive).removed := (h.ok d rfl).2.1
        rw [hr] at ho
        cases ho
      | ok =>
        simp only [cleanup, create, hok]
        refine Iff.trans (safe_ok_iff ?_ ?_) ?_
        · exact hcr
        · exact congrArg (· ++ [old]) hr
        refine (and_congr_right fun _ => ha).trans ?_
        change _ ∧ RecordedAs (kept ⟨versions, activeVersion, [], [], []⟩) version d ↔ _
        simp only [hh, ne_eq, Except.ok.injEq]
        tauto
    · refine (safe_cleanupThen_iff rfl rfl).trans ?_
      simp [hh]

/-- The end of the rolling and of the canary update. -/
lemma safe_complete_iff :
    Safe old (match (({ versions, activeVersion } : UpdateManager Id).create d).cleanup a old with
      | (.error e, m) => (.error e, m)
      | (.ok (), m) => m.complete version d) ↔
    (d = old → a.cleanupBlueprint old ≠ .ok ()) ∧ (d ≠ old → a.cleanupBlueprint old = .ok () ∧
      RecordedAs (kept ⟨versions, activeVersion, [], [], []⟩) version d) := by
  cases hok : a.cleanupBlueprint old with
  | error e =>
    simp only [cleanup, hok]
    refine (safe_error_iff rfl rfl rfl).trans ?_
    simp
  | ok =>
    simp only [cleanup, hok]
    refine (safe_ok_iff rfl rfl).trans ?_
    have ha := containerOf_addVersion ⟨versions, activeVersion, [d], [old], [old]⟩ version .active d
    refine (and_congr_right fun _ => ha).trans ?_
    change _ ∧ RecordedAs (kept ⟨versions, activeVersion, [], [], []⟩) version d ↔ _
    tauto

lemma safe_rollingUpdate_iff :
    Safe old (({ versions, activeVersion } : UpdateManager Id).rollingUpdate a version old) ↔
      Replaces a old (waitForHealthy a) (RecordedAs (kept ⟨versions, activeVersion, [], [], []⟩) version) := by
  unfold rollingUpdate
  cases hd : a.deployBlueprint with
  | error e => exact iff_of_true (safe_error rfl rfl) (replaces_of_error hd)
  | ok d =>
    rw [replaces_iff hd]
    dsimp only
    split_ifs with hh
    · refine safe_complete_iff.trans ?_
      simp [hh]
    · refine (safe_cleanupThen_iff rfl rfl).trans ?_
      simp [hh]

end Operations

/-! ## The rounds of a canary update -/

/-- The round in which the loop ends is unique. -/
lemma CanaryStops.unique {initial increment n k : ℕ} (hn : CanaryStops a initial increment n)
    (hk : CanaryStops a initial increment k) : n = k := by
  have hle {i j : ℕ} (hi : CanaryStops a initial increment i) (hj : CanaryStops a initial increment j) :
      ¬ i < j := fun hlt => hi.2 (hj.1 i hlt).1 (hj.1 i hlt).2
  exact le_antisymm (not_lt.mp (hle hk hn)) (not_lt.mp (hle hn hk))

/-- The loop ends in the round where it stops, with what the health check says there. -/
lemma canaryLoop_stops {initial increment rounds : ℕ} (checks : ℕ) {out : Except (String ⊕ ℕ) Unit}
    (hc : CanaryReaches a initial increment checks)
    (h : canaryLoop a increment rounds checks (canaryPercentage initial increment checks) = some out) :
    ∃ n, CanaryStops a initial increment n ∧
      ((100 ≤ canaryPercentage initial increment n ∧ out = .ok ()) ∨
        (canaryPercentage initial increment n < 100 ∧ a.healthCheckBlueprint n = .ok false ∧
          ∃ p, out = .error (.inr p)) ∨
        (canaryPercentage initial increment n < 100 ∧ ∃ e, a.healthCheckBlueprint n = .error e ∧
          out = .error (.inl e))) := by
  induction rounds generalizing checks with
  | zero => cases h
  | succ rounds ih =>
    rw [canaryLoop] at h
    split_ifs at h with hlt
    · cases hk : a.healthCheckBlueprint checks with
      | error e =>
        rw [hk] at h
        cases h
        exact ⟨checks, ⟨hc, by simp [hk]⟩, .inr (.inr ⟨hlt, e, hk, rfl⟩)⟩
      | ok healthy =>
        rw [hk] at h
        cases healthy with
        | false =>
          cases h
          exact ⟨checks, ⟨hc, by simp [hk]⟩, .inr (.inl ⟨hlt, hk, _, rfl⟩)⟩
        | true =>
          refine ih (checks + 1) (fun k hle => ?_) h
          rcases Nat.lt_succ_iff_lt_or_eq.mp hle with hle | rfl
          · exact hc k hle
          · exact ⟨hlt, hk⟩
    · cases h
      exact ⟨checks, ⟨hc, fun hlt' => absurd hlt' hlt⟩, .inl ⟨not_lt.mp hlt, rfl⟩⟩

lemma safe_canaryUpdate_iff {versions : List (DeploymentVersion Id)} {activeVersion : Option (List Char)}
    {version : List Char} {initial increment rounds : ℕ} {r : Except String Id × UpdateManager Id}
    (hr : ({ versions, activeVersion } : UpdateManager Id).canaryUpdate a version old initial increment rounds
      = some r) :
    Safe old r ↔ ∀ n, CanaryStops a initial increment n →
      (canaryPercentage initial increment n < 100 → ∀ d, a.deployBlueprint = .ok d →
        a.healthCheckBlueprint n = .ok false) ∧
      Replaces a old (100 ≤ canaryPercentage initial increment n)
        (RecordedAs (kept ⟨versions, activeVersion, [], [], []⟩) version) := by
  unfold canaryUpdate at hr
  cases hd : a.deployBlueprint with
  | error e =>
    rw [hd] at hr
    cases hr
    exact iff_of_true (safe_error rfl rfl) fun n _ => ⟨by simp, replaces_of_error hd⟩
  | ok d =>
    rw [hd] at hr
    obtain ⟨out, ho, rfl⟩ := Option.map_eq_some_iff.mp hr
    obtain ⟨n, hn, hout⟩ := canaryLoop_stops 0 nofun ho
    have hone (P : ℕ → Prop) : (∀ k, CanaryStops a initial increment k → P k) ↔ P n :=
      ⟨fun h => h n hn, fun h k hk => hn.unique hk ▸ h⟩
    rw [hone, replaces_iff hd]
    rcases hout with ⟨hge, rfl⟩ | ⟨hlt, hk, p, rfl⟩ | ⟨hlt, e, hk, rfl⟩
    · refine safe_complete_iff.trans ?_
      simp [hge]
    · refine (safe_cleanupThen_iff rfl rfl).trans ?_
      simp [hlt, hk]
    · refine iff_of_false (fun h => ?_) (by simp [hlt, hk])
      simpa [create] using (h.error e rfl).2 d (by simp [create])

/-- **Safe operations.** Each operation is safe exactly when the cloud replaces the old deployment: the
blue-green update, which returns `Ok` whatever the cleanup says, also needs a new id; the canary update ends
with no error of a health check; the rollback needs the deployment that is recorded of its version. -/
theorem operations_safe_iff (a : CloudAdapter Id) (old : Id) (versions : List (DeploymentVersion Id))
    (activeVersion : Option (List Char)) (version target : List Char) :
    (Safe old (({ versions, activeVersion } : UpdateManager Id).blueGreenUpdate a version old) ↔
      Replaces a old (!a.timeout && waitForHealthy a)
        (RecordedAs (kept ⟨versions, activeVersion, [], [], []⟩) version) ∧
      ((!a.timeout && waitForHealthy a) → a.deployBlueprint ≠ .ok old)) ∧
    (Safe old (({ versions, activeVersion } : UpdateManager Id).rollingUpdate a version old) ↔
      Replaces a old (waitForHealthy a) (RecordedAs (kept ⟨versions, activeVersion, [], [], []⟩) version)) ∧
    (∀ initial increment rounds r,
      ({ versions, activeVersion } : UpdateManager Id).canaryUpdate a version old initial increment rounds
        = some r →
      (Safe old r ↔ ∀ n, CanaryStops a initial increment n →
        (canaryPercentage initial increment n < 100 → ∀ d, a.deployBlueprint = .ok d →
          a.healthCheckBlueprint n = .ok false) ∧
        Replaces a old (100 ≤ canaryPercentage initial increment n)
          (RecordedAs (kept ⟨versions, activeVersion, [], [], []⟩) version))) ∧
    (Safe old (({ versions, activeVersion } : UpdateManager Id).rollback a target old) ↔
      ∀ v ∈ versions.find? (·.version = target), v.status ≠ .failed →
        Replaces a old (waitForHealthy a) fun d => v.containerId = some d) :=
  ⟨safe_blueGreenUpdate_iff, safe_rollingUpdate_iff, fun _ _ _ _ => safe_canaryUpdate_iff,
    safe_rollback_iff⟩

abbrev healthyCloud (cleanup : Except String Unit) : CloudAdapter ℕ := ⟨.ok 1, fun _ => .ok true, fun _ => cleanup, false⟩

/-- A cleanup of the old deployment that fails: a blue-green update returns `Ok` with both deployments
running, a rolling update returns an error and leaves the new one; a rollback records the deployment
that its version had before. -/
theorem failed_cleanup_unsafe :
    ¬ Safe 0 (({ versions := [], activeVersion := none } : UpdateManager ℕ).blueGreenUpdate
        (healthyCloud (.error "busy")) ['v'] 0) ∧
    ¬ Safe 0 (({ versions := [], activeVersion := none } : UpdateManager ℕ).rollingUpdate
        (healthyCloud (.error "busy")) ['v'] 0) ∧
    ¬ Safe 0 (({ versions := [⟨['v'], .inactive, some 7⟩], activeVersion := none } : UpdateManager ℕ).rollback
        (healthyCloud (.ok ())) ['v'] 0) := by
  refine ⟨fun h => ?_, fun h => ?_, fun h => ?_⟩
  · exact absurd (h.ok 1 (by decide)).2.1 (by decide)
  · exact absurd ((h.error "busy" (by decide)).2 1) (by decide)
  · exact absurd (h.ok 1 (by decide)).2.2.2 (by decide)

/-! ## The percentages of a canary update -/

/-- What a canary update owes: so many rounds suffice; at a healthy check the next percentage is computed
without overflow, rises and stays within 100; the old deployment is cleaned up at 100 only. -/
structure RollsOut (a : CloudAdapter Id) (m : UpdateManager Id) (old : Id) (initial increment bound : ℕ) :
    Prop where
  terminates : ∀ version, (m.canaryUpdate a version old initial increment bound).isSome
  percentage : ∀ d n, a.deployBlueprint = .ok d → CanaryReaches a initial increment (n + 1) →
    let p := canaryPercentage initial increment
    p n + increment < 2 ^ 8 ∧ p n < p (n + 1) ∧ p (n + 1) ≤ 100
  cleanup : ∀ version rounds r, m.canaryUpdate a version old initial increment rounds = some r →
    old ∈ r.2.cleanups → a.deployBlueprint = .ok old ∨
      ∃ n, CanaryStops a initial increment n ∧ canaryPercentage initial increment n = 100

/-- Without overflow at the first check there is none later: then the percentage has passed the increment. -/
lemma canaryPercentage_fits {initial increment : ℕ}
    (hfit : initial + increment < 2 ^ 8) {n : ℕ} (hn : ∀ k < n, canaryPercentage initial increment k < 100) :
    canaryPercentage initial increment n < 100 → canaryPercentage initial increment n + increment < 2 ^ 8 := by
  induction n with
  | zero => exact fun _ => hfit
  | succ n ih =>
    have hlt := hn n (by omega)
    have hf := ih (fun k hk => hn k (by omega)) hlt
    rw [canaryPercentage, Nat.mod_eq_of_lt hf]
    omega

lemma canaryPercentage_le {initial increment : ℕ} (hi : initial ≤ 100) (n : ℕ) :
    canaryPercentage initial increment n ≤ 100 := by
  cases n with
  | zero => exact hi
  | succ n => exact min_le_right _ _

lemma canaryLoop_isSome {increment rounds checks percentage : ℕ} (hpos : 0 < increment)
    (hfit : percentage < 100 → percentage + increment < 2 ^ 8) (h : 100 - percentage < rounds) :
    (canaryLoop a increment rounds checks percentage).isSome := by
  induction rounds generalizing checks percentage with
  | zero => omega
  | succ rounds ih =>
    rw [canaryLoop]
    split
    · have hf := hfit ‹_›
      split
      · rfl
      · rfl
      · exact ih (by omega) (by omega)
    · rfl

/-- The loop makes no second check where the first one is not healthy. -/
lemma canaryLoop_isSome_of_first {increment rounds percentage : ℕ}
    (h : percentage < 100 → a.healthCheckBlueprint 0 ≠ .ok true) :
    (canaryLoop a increment (rounds + 1) 0 percentage).isSome := by
  rw [canaryLoop]
  split_ifs with hp
  · cases hk : a.healthCheckBlueprint 0 with
    | error e => rfl
    | ok healthy =>
      cases healthy with
      | false => rfl
      | true => exact absurd hk (h hp)
  · rfl

/-- **Canary updates.** The traffic rolls out exactly when no healthy first check meets an increment of 0
or one that overflows on the initial percentage. -/
theorem rollsOut_iff (a : CloudAdapter Id) (versions : List (DeploymentVersion Id))
    (activeVersion : Option (List Char)) (old : Id) (initial increment : ℕ) (hi : initial ≤ 100) :
    RollsOut a { versions, activeVersion } old initial increment (101 - initial) ↔
      (initial < 100 → a.healthCheckBlueprint 0 = .ok true → ∀ d, a.deployBlueprint = .ok d →
        0 < increment ∧ initial + increment < 2 ^ 8) := by
  constructor
  · intro h hlt hk d hd
    obtain ⟨hfit, hrise, -⟩ := h.percentage d 0 hd fun k hk0 => by
      obtain rfl : k = 0 := by omega
      exact ⟨hlt, hk⟩
    simp only [canaryPercentage] at hfit hrise
    omega
  · intro h
    refine ⟨fun version => ?_, fun d n hd hn => ?_, fun version rounds r hr hm => ?_⟩
    · unfold canaryUpdate
      cases hd : a.deployBlueprint with
      | error e => rfl
      | ok d =>
        rw [Option.isSome_map]
        by_cases hf : initial < 100 ∧ a.healthCheckBlueprint 0 = .ok true
        · obtain ⟨hpos, hfit⟩ := h hf.1 hf.2 d hd
          exact canaryLoop_isSome hpos (fun _ => hfit) (by omega)
        · obtain ⟨rounds, hr⟩ : ∃ rounds, 101 - initial = rounds + 1 := ⟨100 - initial, by omega⟩
          rw [hr]
          exact canaryLoop_isSome_of_first fun hlt hk => hf ⟨hlt, hk⟩
    · obtain ⟨hlt, hk⟩ := hn 0 (by omega)
      obtain ⟨hpos, hfit⟩ := h hlt hk d hd
      have hn' := (hn n (by omega)).1
      have hf := canaryPercentage_fits hfit (fun k hk => (hn k (by omega)).1) hn'
      refine ⟨hf, ?_, canaryPercentage_le hi _⟩
      rw [canaryPercentage]
      omega
    · unfold canaryUpdate at hr
      cases hd : a.deployBlueprint with
      | error e =>
        rw [hd] at hr
        cases hr
        cases hm
      | ok d =>
        rw [hd] at hr
        obtain ⟨out, ho, rfl⟩ := Option.map_eq_some_iff.mp hr
        obtain ⟨n, hn, hout⟩ := canaryLoop_stops 0 nofun ho
        rcases hout with ⟨hge, rfl⟩ | ⟨hlt, hk, p, rfl⟩ | ⟨hlt, e, hk, rfl⟩
        · exact .inr ⟨n, hn, le_antisymm (canaryPercentage_le hi n) hge⟩
        · cases hc : a.cleanupBlueprint d <;> simp_all [cleanupThen, cleanup, create]
        · cases hm

abbrev rollOut (increment bound : ℕ) : Prop :=
  RollsOut (healthyCloud (.ok ())) { versions := [], activeVersion := none } 0 10 increment bound

theorem rollOut_by_200 : rollOut 200 91 :=
  (rollsOut_iff _ [] none 0 10 200 (by decide)).mpr fun _ _ _ _ => by decide

/-- With an increment of 0 the loop does not end; with 250 the percentage goes from 10 over 255. -/
theorem not_rollOut : ¬ (∃ bound, rollOut 0 bound) ∧ ¬ ∃ bound, rollOut 250 bound := by
  constructor
  · rintro ⟨bound, h⟩
    have hn (rounds checks : ℕ) : canaryLoop (healthyCloud (.ok ())) 0 rounds checks 10 = none := by
      induction rounds generalizing checks with
      | zero => rfl
      | succ rounds ih => exact ih (checks + 1)
    simpa [canaryUpdate, hn] using h.terminates []
  · rintro ⟨bound, h⟩
    have hr : CanaryReaches (healthyCloud (.ok ())) 10 250 1 := fun k hk => by
      obtain rfl : k = 0 := by omega
      exact ⟨by decide, rfl⟩
    exact absurd (h.percentage 1 0 rfl hr).1 (by decide)

end UpdateManager

end Gadget.RemoteProviders
