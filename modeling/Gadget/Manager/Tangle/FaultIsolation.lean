import Gadget.Lib.Run
import Gadget.Manager.Tangle.EventHandler
import Gadget.Rust.BigEndian

/-!
# Failures while a block is handled

The logs of a block are handled one after the other, and afterwards the watcher is told which
blueprints the block's upgrade events are about. A failure of one log is to have no effect on the
others, or on the notification. After a log that terminates a service, the service is to be gone: no
longer active, asked to stop, no longer tracked.
-/

namespace Gadget.Manager

open Rust Lib.Run List

structure EventSelectors where
  binaryVersionPublished : B256
  binaryActiveVersionChanged : B256
  binaryVersionDeprecated : B256
  operatorBinaryAcked : B256
  serviceUpgradePolicySet : B256

structure ProtocolLog where
  topics : List B256
  event : EventHandler.BlockLog

def blueprintOfTopic (topic : B256) : ℕ := ofBeBytes (topic.val.drop 24)

def noteLog (selectors : EventSelectors) (noted : Finset ℕ × Bool) (log : ProtocolLog) :
    Finset ℕ × Bool :=
  match log.topics with
  | [] => noted
  | topic0 :: rest =>
    if topic0 = selectors.binaryVersionPublished ∨ topic0 = selectors.binaryActiveVersionChanged ∨
        topic0 = selectors.binaryVersionDeprecated then
      match rest.head? with
      | some topic => (insert (blueprintOfTopic topic) noted.1, noted.2)
      | none => noted
    else if topic0 = selectors.operatorBinaryAcked ∨
        topic0 = selectors.serviceUpgradePolicySet then (noted.1, true)
    else noted

def maybeNotifyUpgradeWatcher (selectors : EventSelectors) (logs : List ProtocolLog) :
    Option (Finset ℕ) :=
  let noted := logs.foldl (noteLog selectors) (∅, false)
  if noted.2 then some ∅ else if noted.1 = ∅ then none else some noted.1

namespace EventHandler

structure BlockOutcome where
  result : Except ManagerError Unit
  handler : EventHandler
  signal : Option (Finset ℕ)

/-- `handle_event` with the signal to the watcher. -/
def handleBlock (selectors : EventSelectors) (m : EventHandler) (logs : List ProtocolLog) (now : ℤ) :
    BlockOutcome :=
  match m.handleEvent (logs.map ProtocolLog.event) now with
  -- the question mark: neither the watcher nor the swaps are reached
  | (.error e, m) => ⟨.error e, m, none⟩
  | (.ok (), m) => ⟨.ok (), m, maybeNotifyUpgradeWatcher selectors logs⟩

/-- The logs that are reached, each with the handler that it finds. -/
def handledLogs : EventHandler → List BlockLog → List (EventHandler × BlockLog)
  | _, [] => []
  | m, log :: logs =>
    (m, log) ::
      match m.handleLog log with
      | (.error _, _) => []
      | (.ok (), m) => handledLogs m logs

variable (m : EventHandler)

def stopRequests : BlockLog → List (ℕ × ℕ)
  | .serviceTerminated serviceId (.ok blueprintId) _ =>
    if (blueprintId, serviceId) ∈ m.active then [(blueprintId, serviceId)] else []
  | _ => []

structure Terminated (m : EventHandler) (log : BlockLog) (serviceId : ℕ) : Prop where
  inactive : ∀ blueprintId, (blueprintId, serviceId) ∉ (m.handleLog log).2.active
  asked : ∀ blueprintId, (blueprintId, serviceId) ∈ m.active →
    (blueprintId, serviceId) ∈ m.stopRequests log
  untracked : ∀ blueprintId, (blueprintId, serviceId) ∉ (m.handleLog log).2.watcher.tracked

def TerminatesService (log : BlockLog) : Prop :=
  ∀ serviceId answer shutdown, log = .serviceTerminated serviceId answer shutdown →
    m.Terminated log serviceId

/-- Every log of the block is handled, the watcher is told what the block says, and services that are
terminated are gone. -/
structure FaultIsolated (selectors : EventSelectors) (m : EventHandler) (logs : List ProtocolLog)
    (now : ℤ) : Prop where
  everyLog : (m.handledLogs (logs.map ProtocolLog.event)).map Prod.snd = logs.map ProtocolLog.event
  notified : (m.handleBlock selectors logs now).signal = maybeNotifyUpgradeWatcher selectors logs
  terminated : ∀ entry ∈ m.handledLogs (logs.map ProtocolLog.event), entry.1.TerminatesService entry.2

def EndsBlock : BlockLog → Prop
  | .serviceActivated _ metadata _ => Failed metadata
  | .serviceTerminated serviceId answer shutdown =>
    ∃ blueprintId, answer = .ok blueprintId ∧ (blueprintId, serviceId) ∈ m.active ∧ Failed shutdown
  | .operatorPreRegistered _ metadata env =>
    Failed metadata ∨ ∃ blueprint, metadata = .ok (some blueprint) ∧
        (blueprint.blueprintId, blueprint.serviceId) ∉ m.active ∧ Failed (launch blueprint env)
  | .other => False

/-- A log that terminates a service finds it where the chain says, and nowhere else, and the shutdown
of a tracked process does not fail; or, when the chain does not answer, finds nothing of it. -/
def StopsCleanly : BlockLog → Prop
  | .serviceTerminated serviceId (.error _) _ =>
    ∀ blueprintId, (blueprintId, serviceId) ∉ m.active ∧ (blueprintId, serviceId) ∉ m.watcher.tracked
  | .serviceTerminated serviceId (.ok blueprintId) shutdown =>
    (∀ other, other ≠ blueprintId →
        (other, serviceId) ∉ m.active ∧ (other, serviceId) ∉ m.watcher.tracked) ∧
      ((blueprintId, serviceId) ∈ m.active → (blueprintId, serviceId) ∈ m.watcher.tracked →
        shutdown = .ok ())
  | _ => True

def after (logs : List BlockLog) : EventHandler :=
  logs.foldl (fun m log => (m.handleLog log).2) m

variable (m : EventHandler) (blueprintId serviceId : ℕ)

lemma failed_ensureServiceRunning_iff (bp : BlueprintMetadata) (env : LaunchEnv) :
    Failed (m.ensureServiceRunning bp env).1 ↔
      (bp.blueprintId, bp.serviceId) ∉ m.active ∧ Failed (launch bp env) := by
  unfold ensureServiceRunning
  by_cases hkey : (bp.blueprintId, bp.serviceId) ∈ m.active
  · simp only [if_pos hkey]
    exact iff_of_false (not_failed_ok ()) fun h => h.1 hkey
  simp only [if_neg hkey]
  rw [and_iff_right hkey]
  rcases launch bp env with e | bs
  · exact iff_of_true (failed_error e) (failed_error e)
  exact iff_of_false (not_failed_ok ()) (not_failed_ok bs)

lemma failed_stopService_iff (shutdown : Except ManagerError Unit) :
    Failed (m.stopService blueprintId serviceId shutdown).1 ↔
      (blueprintId, serviceId) ∈ m.active ∧ Failed shutdown := by
  unfold stopService
  by_cases hkey : (blueprintId, serviceId) ∈ m.active
  · simp only [hkey, if_true, true_and]
    rcases shutdown with e | done
    · exact iff_of_true (failed_error e) (failed_error e)
    exact iff_of_false (not_failed_ok ()) (not_failed_ok done)
  · simp only [hkey, if_false, false_and]
    exact iff_of_false (not_failed_ok ()) id

lemma failed_handleLog_iff (log : BlockLog) : Failed (m.handleLog log).1 ↔ m.EndsBlock log := by
  cases log with
  | serviceActivated serviceId md env =>
    rcases md with e | found
    · exact iff_of_true (failed_error e) (failed_error e)
    refine iff_of_false ?_ (not_failed_ok found)
    rcases found with _ | bp <;> exact not_failed_ok ()
  | serviceTerminated serviceId answer shutdown =>
    rcases answer with e | blueprintId
    · simp [handleLog, EndsBlock, not_failed_ok]
    simp [handleLog, EndsBlock, failed_stopService_iff]
  | operatorPreRegistered blueprintId md env =>
    rcases md with e | found
    · exact iff_of_true (failed_error e) (.inl (failed_error e))
    simp only [EndsBlock, not_failed_ok, false_or, Except.ok.injEq]
    rcases found with _ | bp
    · simp [handleLog, not_failed_ok]
    simp [handleLog, failed_ensureServiceRunning_iff]
  | other => exact iff_of_false (not_failed_ok ()) id

lemma mem_active_stopService (other : ℕ) (shutdown : Except ManagerError Unit) :
    (other, serviceId) ∈ (m.stopService blueprintId serviceId shutdown).2.active ↔
      other ≠ blueprintId ∧ (other, serviceId) ∈ m.active := by
  have he : (other, serviceId) ∈ m.active.erase (blueprintId, serviceId) ↔
      other ≠ blueprintId ∧ (other, serviceId) ∈ m.active := by
    simp [Finmap.mem_erase]
  unfold stopService
  by_cases hkey : (blueprintId, serviceId) ∈ m.active
  · simp only [hkey, if_true]
    rcases shutdown with e | done <;> exact he
  simp only [hkey, if_false]
  -- nothing was active under the blueprint
  refine ⟨fun h => ⟨?_, h⟩, fun h => h.2⟩
  rintro rfl
  exact hkey h

lemma mem_tracked_stopService (other : ℕ) (shutdown : Except ManagerError Unit) :
    (other, serviceId) ∈ (m.stopService blueprintId serviceId shutdown).2.watcher.tracked ↔
      (other, serviceId) ∈ m.watcher.tracked ∧
        (other = blueprintId → (blueprintId, serviceId) ∈ m.active ∧ shutdown ≠ .ok ()) := by
  have he : ∀ kept : EventHandler, kept.watcher.tracked = m.watcher.tracked →
      ((other, serviceId) ∈ (kept.onServiceStopped blueprintId serviceId).watcher.tracked ↔
        (other, serviceId) ∈ m.watcher.tracked ∧ other ≠ blueprintId) := by
    intro kept hk
    simp only [onServiceStopped, hk, Finset.mem_erase, ne_eq, Prod.mk.injEq, and_true]
    exact and_comm
  unfold stopService
  by_cases hkey : (blueprintId, serviceId) ∈ m.active
  · simp only [hkey, if_true, true_and]
    rcases shutdown with e | done
    · refine (and_iff_left fun _ hok => ?_).symm
      cases hok
    refine (he { m with active := m.active.erase (blueprintId, serviceId) } rfl).trans ?_
    exact and_congr_right fun _ => ⟨fun hne heq => absurd heq hne, fun h heq => h heq rfl⟩
  · simp only [hkey, if_false, false_and]
    exact he m rfl

lemma terminated_iff (answer : Except String ℕ) (shutdown : Except ManagerError Unit) :
    m.Terminated (.serviceTerminated serviceId answer shutdown) serviceId ↔
      m.StopsCleanly (.serviceTerminated serviceId answer shutdown) := by
  cases answer with
  | error e =>
    -- the log has no effect
    constructor
    · intro h blueprintId
      exact ⟨h.inactive blueprintId, h.untracked blueprintId⟩
    · intro h
      refine ⟨fun blueprintId => (h blueprintId).1, fun blueprintId hmem => ?_,
        fun blueprintId => (h blueprintId).2⟩
      exact absurd hmem (h blueprintId).1
  | ok blueprintId =>
    constructor
    · intro h
      refine ⟨fun other hne => ⟨fun hmem => ?_, fun hmem => ?_⟩, fun ha ht => ?_⟩
      · exact h.inactive other ((mem_active_stopService ..).mpr ⟨hne, hmem⟩)
      · exact h.untracked other ((mem_tracked_stopService ..).mpr ⟨hmem, fun heq => absurd heq hne⟩)
      · by_contra hf
        exact h.untracked blueprintId ((mem_tracked_stopService ..).mpr ⟨ht, fun _ => ⟨ha, hf⟩⟩)
    · rintro ⟨ho, hs⟩
      refine ⟨fun other hmem => ?_, fun other hmem => ?_, fun other hmem => ?_⟩
      · obtain ⟨hne, hmem⟩ := (mem_active_stopService ..).mp hmem
        exact (ho other hne).1 hmem
      · have heq : other = blueprintId := by
          by_contra hne
          exact (ho other hne).1 hmem
        subst heq
        simp only [stopRequests, hmem, if_true]
        exact mem_singleton_self _
      · obtain ⟨hmem, hk⟩ := (mem_tracked_stopService ..).mp hmem
        by_cases heq : other = blueprintId
        · obtain ⟨ha, hf⟩ := hk heq
          rw [heq] at hmem
          exact hf (hs ha hmem)
        · exact (ho other heq).2 hmem

lemma terminatesService_iff (log : BlockLog) : m.TerminatesService log ↔ m.StopsCleanly log := by
  cases log with
  | serviceTerminated serviceId answer shutdown =>
    rw [← terminated_iff]
    constructor
    · intro h
      exact h serviceId answer shutdown rfl
    · rintro h _ _ _ heq
      cases heq
      exact h
  | _ =>
    refine iff_of_true (fun _ _ _ heq => ?_) trivial
    cases heq

structure LogsIsolated (quiet : Prop) (m : EventHandler) (logs : List BlockLog) : Prop where
  everyLog : (m.handledLogs logs).map Prod.snd = logs
  notified : Failed (m.handleLogs logs).1 → quiet
  terminated : ∀ entry ∈ m.handledLogs logs, entry.1.TerminatesService entry.2

variable {m' : EventHandler} {log : BlockLog} {logs : List BlockLog}

lemma logsIsolated_cons_of_error {quiet : Prop} {m : EventHandler} {e : ManagerError}
    (h : m.handleLog log = (.error e, m')) :
    LogsIsolated quiet m (log :: logs) ↔ (logs = [] ∧ quiet) ∧ m.TerminatesService log := by
  have hh : m.handledLogs (log :: logs) = [(m, log)] := by
    rw [handledLogs, h]
  have hr : (m.handleLogs (log :: logs)).1 = .error e := by
    rw [handleLogs, h]
  constructor
  · intro hi
    have heq := hi.everyLog
    rw [hh] at heq
    refine ⟨⟨?_, hi.notified ⟨e, hr⟩⟩, ?_⟩
    · exact (cons.inj heq).2.symm
    · refine hi.terminated (m, log) ?_
      rw [hh]
      exact mem_cons_self
  · rintro ⟨⟨rfl, hq⟩, ht⟩
    refine ⟨by rw [hh]; rfl, fun _ => hq, ?_⟩
    rw [hh]
    intro entry he
    cases mem_singleton.mp he
    exact ht

lemma logsIsolated_cons_of_ok {quiet : Prop} {m : EventHandler} (h : m.handleLog log = (.ok (), m')) :
    LogsIsolated quiet m (log :: logs) ↔ m.TerminatesService log ∧ LogsIsolated quiet m' logs := by
  have hh : m.handledLogs (log :: logs) = (m, log) :: m'.handledLogs logs := by
    rw [handledLogs, h]
  have hr : (m.handleLogs (log :: logs)).1 = (m'.handleLogs logs).1 := by
    rw [handleLogs, h]
  constructor
  · intro hi
    have heq := hi.everyLog
    have ht := hi.terminated
    have hn := hi.notified
    rw [hh] at heq ht
    rw [hr] at hn
    rw [forall_mem_cons] at ht
    exact ⟨ht.1, (cons.inj heq).2, hn, ht.2⟩
  · rintro ⟨hte, hi⟩
    refine ⟨?_, ?_, ?_⟩
    · rw [hh]
      exact congrArg (log :: ·) hi.everyLog
    · rw [hr]
      exact hi.notified
    · rw [hh, forall_mem_cons]
      exact ⟨hte, hi.terminated⟩

lemma logsIsolated_iff (quiet : Prop) (m : EventHandler) (logs : List BlockLog) :
    LogsIsolated quiet m logs ↔ ∀ before log rest, logs = before ++ log :: rest →
        ((m.after before).EndsBlock log → rest = [] ∧ quiet) ∧
          (m.after before).StopsCleanly log := by
  induction logs generalizing m with
  | nil =>
    refine iff_of_true ⟨rfl, fun h => absurd h (not_failed_ok ()), fun entry hen => ?_⟩ ?_
    · exact absurd hen not_mem_nil
    · exact fun before log rest h => absurd h (nil_ne_split before log rest)
  | cons log logs ih =>
    refine Iff.trans ?_ forall_split_cons.symm
    have he := failed_handleLog_iff m log
    have hs := terminatesService_iff m log
    rcases hlog : m.handleLog log with ⟨result, m'⟩
    rw [hlog] at he
    cases result with
    | error e =>
      rw [logsIsolated_cons_of_error hlog, hs]
      constructor
      · rintro ⟨⟨rfl, hq⟩, hc⟩
        refine ⟨⟨fun _ => ⟨rfl, hq⟩, hc⟩, fun before log' rest h => ?_⟩
        exact absurd h (nil_ne_split before log' rest)
      · rintro ⟨⟨hend, hc⟩, -⟩
        exact ⟨hend (he.mp (failed_error e)), hc⟩
    | ok done =>
      have hg : ¬ m.EndsBlock log := fun h => not_failed_ok done (he.mpr h)
      -- the later logs are handled in the state that this one leaves
      have ha : ∀ before, m.after (log :: before) = m'.after before := by
        intro before
        simp [after, hlog]
      rw [logsIsolated_cons_of_ok hlog, hs, ih m']
      simp only [ha]
      constructor
      · rintro ⟨hc, hr⟩
        exact ⟨⟨fun h => absurd h hg, hc⟩, hr⟩
      · rintro ⟨⟨-, hc⟩, hr⟩
        exact ⟨hc, hr⟩

/-- **Fault isolation.** A block is handled as if its failures concerned their own logs only, and the
services that it terminates are gone, exactly when no log ends the block except the last one of a block
without notification, and every log that terminates a service stops it cleanly. -/
theorem faultIsolated_iff (selectors : EventSelectors) (m : EventHandler) (logs : List ProtocolLog)
    (now : ℤ) :
    FaultIsolated selectors m logs now ↔
      ∀ before log rest, logs.map ProtocolLog.event = before ++ log :: rest →
        ((m.after before).EndsBlock log →
            rest = [] ∧ maybeNotifyUpgradeWatcher selectors logs = none) ∧
          (m.after before).StopsCleanly log := by
  rw [← logsIsolated_iff]
  have hs : (m.handleBlock selectors logs now).signal = maybeNotifyUpgradeWatcher selectors logs ↔
      (Failed (m.handleLogs (logs.map ProtocolLog.event)).1 →
        maybeNotifyUpgradeWatcher selectors logs = none) := by
    unfold handleBlock handleEvent
    rcases m.handleLogs (logs.map ProtocolLog.event) with ⟨result, m'⟩
    rcases result with e | done
    · exact ⟨fun h _ => h.symm, fun h => (h (failed_error e)).symm⟩
    exact iff_of_true rfl fun h => absurd h (not_failed_ok done)
  constructor
  · intro h
    exact ⟨h.everyLog, hs.mp h.notified, h.terminated⟩
  · intro h
    exact ⟨h.everyLog, hs.mpr h.notified, h.terminated⟩

abbrev plainSelectors : EventSelectors where
  binaryVersionPublished := ⟨List.replicate 31 0 ++ [1], rfl⟩
  binaryActiveVersionChanged := ⟨List.replicate 31 0 ++ [2], rfl⟩
  binaryVersionDeprecated := ⟨List.replicate 31 0 ++ [3], rfl⟩
  operatorBinaryAcked := ⟨List.replicate 31 0 ++ [4], rfl⟩
  serviceUpgradePolicySet := ⟨List.replicate 31 0 ++ [5], rfl⟩

abbrev threeServices : EventHandler where
  active := (((∅ : HashMap (ℕ × ℕ) Process).insert (0, 7) ⟨[1]⟩).insert (0, 8) ⟨[1]⟩).insert (0, 9) ⟨[1]⟩
  watcher :=
    { upgrade := .new, authz := ∅, tracked := {(0, 7), (0, 8), (0, 9)}, files := fun _ => none,
      queue := [], closed := false }

abbrev failingBlock : List ProtocolLog :=
  [⟨[], .serviceTerminated 7 (.error "timeout") (.ok ())⟩,
    ⟨[], .serviceTerminated 8 (.ok 0) (.error (.other "no such container"))⟩,
    ⟨[], .serviceTerminated 9 (.ok 0) (.ok ())⟩,
    ⟨[plainSelectors.binaryVersionPublished, B256.zero], .other⟩]

/-- Service 7 goes on, service 8 is still tracked, service 9 goes on because of service 8, and the
watcher is not told of the new version. -/
theorem failed_shutdown_skips_block :
    (0, 7) ∈ (threeServices.handleBlock plainSelectors failingBlock 0).handler.active ∧
      (0, 8) ∈ (threeServices.handleBlock plainSelectors failingBlock 0).handler.watcher.tracked ∧
      (0, 9) ∈ (threeServices.handleBlock plainSelectors failingBlock 0).handler.active ∧
      (threeServices.handleBlock plainSelectors failingBlock 0).signal = none ∧
      maybeNotifyUpgradeWatcher plainSelectors failingBlock = some {0} ∧
      ¬ FaultIsolated plainSelectors threeServices failingBlock 0 := by
  have hno : maybeNotifyUpgradeWatcher plainSelectors failingBlock = some {0} := by decide +kernel
  have hs : (threeServices.handleBlock plainSelectors failingBlock 0).signal = none := rfl
  refine ⟨by decide +kernel, by decide +kernel, by decide +kernel, hs, hno, fun h => ?_⟩
  have hn := h.notified
  rw [hs, hno] at hn
  cases hn

end EventHandler

end Gadget.Manager
