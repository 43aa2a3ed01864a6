import Gadget.Lib.Run

/-!
# A running service: its health and the status of its process

`Service::start` returns a future that waits for the service's first ping over its bridge, with a
timeout. The ping travels through a oneshot channel whose sender lives in the bridge's task.
`ProcessHandle::status` reports how a native process fares: its task sends what happens through
a channel, and the handle reads at most one message of it a call.
-/

namespace Gadget.Manager.Rt

open Lib.Run List

/-! ## The health future -/

inductive Runtime where
  | hypervisor
  | container
  | remote
  | native (started : Bool)

inductive Oneshot where
  | empty
  | sent
  | closed
  deriving DecidableEq

structure Service where
  runtime : Runtime
  aliveRx : Bool := true
  channel : Oneshot := .empty
  bridge : Bool := true
  elapsed : Bool := false
  health : Option (Option (Except String Unit)) := none
  pinged : Bool := false

namespace Service

variable (s : Service)

def start (launched : Except String Unit) : Service :=
  if s.aliveRx then
    let s := { s with aliveRx := false }
    match s.runtime, launched with
    | .native true, _ => s
    | _, .error _ => s
    -- a remote service does not connect to the local bridge: there is no future
    | .remote, .ok () => s
    | .native false, .ok () => { s with runtime := .native true, health := some none }
    | _, .ok () => { s with health := some none }
  else s

def ping : Service :=
  if s.bridge then
    { s with
      channel := if s.channel = .empty then .sent else s.channel
      pinged := s.pinged || !s.elapsed }
  else s

def endBridge : Service :=
  { s with bridge := false, channel := if s.channel = .empty then .closed else s.channel }

def timeout : Option (Except String Unit) :=
  match s.channel with
  | .sent | .closed => some (.ok ())
  | .empty => if s.elapsed then some (.error "Bridge connection timeout") else none

def poll : Service :=
  if s.health = some none then { s with health := some s.timeout } else s

inductive Event where
  | start (launched : Except String Unit)
  | ping
  | processExits
  | bridgeEnds
  | timerFires
  | poll

def step : Event → Service
  | .start launched => s.start launched
  | .ping => s.ping
  | .processExits => s
  | .bridgeEnds => s.endBridge
  | .timerFires => { s with elapsed := s.health.isSome }
  | .poll => s.poll

def HealthMeansAlive : Prop := s.health = some (some (.ok ())) → s.pinged = true

/-- A poll of the pending future does not find the sender dropped without a ping, or a ping that
came after the timer had fired. -/
def PolledInTime : Event → Prop
  | .poll => s.health = some none → s.channel ≠ .empty → s.pinged = true
  | _ => True

lemma healthMeansAlive_start {s : Service} (h : s.HealthMeansAlive) (launched : Except String Unit) :
    (s.start launched).HealthMeansAlive := by
  unfold start
  split
  · dsimp only
    split <;> simp_all [HealthMeansAlive]
  · exact h

lemma healthMeansAlive_ping {s : Service} (h : s.HealthMeansAlive) : s.ping.HealthMeansAlive := by
  unfold ping
  split
  · intro hok
    simp [h hok]
  · exact h

lemma healthMeansAlive_poll_iff {s : Service} (h : s.HealthMeansAlive) :
    s.poll.HealthMeansAlive ↔ s.PolledInTime .poll := by
  by_cases hp : s.health = some none
  · simp only [HealthMeansAlive, poll, timeout, PolledInTime, hp, if_true]
    cases hc : s.channel with
    | empty => cases s.elapsed <;> simp
    | sent | closed => simp
  · simp [PolledInTime, poll, hp, h]

/-- **Health means alive** in exactly the runs where no poll finds the sender dropped without a
ping, or a ping later than the timer. -/
theorem always_healthMeansAlive_iff (runtime : Runtime) (es : List Event) :
    Always step HealthMeansAlive { runtime } es ↔ Each step PolledInTime { runtime } es := by
  have hs (s : Service) (e : Event) (_ : True) (h : s.HealthMeansAlive) :
      (step s e).HealthMeansAlive ↔ s.PolledInTime e := by
    cases e with
    | poll => exact healthMeansAlive_poll_iff h
    | start launched => exact iff_of_true (healthMeansAlive_start h launched) trivial
    | ping => exact iff_of_true (healthMeansAlive_ping h) trivial
    | _ => exact iff_of_true h trivial
  exact always_iff_each (fun _ _ _ _ => trivial) hs trivial (fun h => by cases h) es

theorem healthy_without_ping :
    ¬ Always step HealthMeansAlive { runtime := .native false } [.start (.ok ()), .bridgeEnds, .poll] :=
  fun h => Bool.false_ne_true (h.last rfl)

end Service

/-! ## The status of a native process -/

inductive Status where
  | notStarted
  | pending
  | running
  | finished
  | error
  | unknown
  deriving DecidableEq

inductive WaitResult where
  | exited (success : Bool)
  | failed

def WaitResult.status : WaitResult → Status
  | .exited _ => .finished
  | .failed => .error

inductive Task where
  | spawned
  | waiting
  | done (result : WaitResult)

structure Process where
  task : Task := .spawned
  channel : List Status := []
  /-- `cached_status` of the `ProcessHandle`, once there is one. -/
  cachedStatus : Option Status := none
  reports : List Status := []

namespace Process

inductive Event where
  | taskStarts
  | waitEnds (result : WaitResult)
  /-- `ProcessHandle::new`. -/
  | newHandle
  /-- `ProcessHandle::status`. -/
  | status

def step (p : Process) : Event → Process
  | .taskStarts =>
    match p.task with
    | .spawned => { p with task := .waiting, channel := p.channel ++ [.running] }
    | _ => p
  | .waitEnds result =>
    match p.task with
    | .waiting => { p with task := .done result, channel := p.channel ++ [result.status] }
    | _ => p
  | .newHandle =>
    match p.cachedStatus with
    | none => { p with cachedStatus := some (p.channel.head?.getD .running), channel := p.channel.tail }
    | some _ => p
  | .status =>
    match p.cachedStatus with
    | some cached =>
      { p with channel := p.channel.tail, reports := p.channel.head?.getD cached :: p.reports }
    | none => p

/-- The exit of the process, once reported, is what every later call reports, and a process that
has exited with a failure is not reported as finished. -/
structure Truthful (p : Process) : Prop where
  stable : p.reports.Pairwise fun newer older => older ≠ .running → newer = older
  honest : p.task = .done (.exited false) → .finished ∉ p.reports

def NotAsked (p : Process) : Event → Prop
  | .status =>
    (∀ st ∈ p.reports, st = .running) ∧ (p.task = .done (.exited false) → p.channel ≠ [.finished])
  | _ => True

inductive Unread : Task → Option Status → List Status → Prop
  | spawned {cached : Option Status} : Unread .spawned cached []
  | waiting {cached : Option Status} : Unread .waiting cached [.running]
  | waitingRead : Unread .waiting (some .running) []
  | done (result : WaitResult) {cached : Option Status} : Unread (.done result) cached [.running, result.status]
  | doneRead (result : WaitResult) : Unread (.done result) (some .running) [result.status]

inductive Reached : Process → Prop
  | quiet {task : Task} {channel : List Status} {cached : Option Status} {reports : List Status}
      (unread : Unread task cached channel) (cached_running : ∀ st ∈ cached, st = .running)
      (running : ∀ st ∈ reports, st = .running) : Reached ⟨task, channel, cached, reports⟩
  | reported {result : WaitResult} {reports : List Status} (exit : result.status ∈ reports) :
      Reached ⟨.done result, [], some .running, reports⟩

lemma status_ne_running (result : WaitResult) : result.status ≠ .running := by
  cases result <;> simp [WaitResult.status]

lemma truthful_of_running {p : Process} (h : ∀ st ∈ p.reports, st = .running) : p.Truthful where
  stable := List.pairwise_iff_forall_sublist.mpr fun hsub hne => absurd (h _ (hsub.subset (by simp))) hne
  honest _ hmem := nomatch h _ hmem

lemma Reached.step {p : Process} (h : Reached p) (e : Event) : Reached (p.step e) := by
  cases h with
  | reported exit =>
    cases e with
    | status => exact .reported (mem_cons_of_mem _ exit)
    | _ => exact .reported exit
  | @quiet task channel cached reports unread hc running =>
    have hk : Reached ⟨task, channel, cached, reports⟩ := .quiet unread hc running
    cases e with
    | taskStarts =>
      cases unread with
      | spawned => exact .quiet .waiting hc running
      | _ => exact hk
    | waitEnds result =>
      cases unread with
      | waiting => exact .quiet (.done result) hc running
      | waitingRead => exact .quiet (.doneRead result) hc running
      | _ => exact hk
    | newHandle =>
      cases cached with
      | some _ => exact hk
      | none =>
        cases unread with
        | spawned => exact .quiet .spawned (by simp) running
        | waiting => exact .quiet .waitingRead (by simp) running
        | done result => exact .quiet (.doneRead result) (by simp) running
    | status =>
      rcases cached with _ | st
      · exact hk
      obtain rfl := hc st rfl
      have ha : ∀ st ∈ Status.running :: reports, st = .running := forall_mem_cons.mpr ⟨rfl, running⟩
      cases unread with
      | spawned => exact .quiet .spawned hc ha
      | waiting | waitingRead => exact .quiet .waitingRead hc ha
      | done result => exact .quiet (.doneRead result) hc ha
      | doneRead result => exact .reported mem_cons_self

lemma reports_step {p : Process} {e : Event} (he : e ≠ .status) : (p.step e).reports = p.reports := by
  cases e with
  | status => exact absurd rfl he
  | _ => dsimp only [step]; split <;> rfl

lemma truthful_status_iff {p : Process} (h : Reached p) (ht : p.Truthful) :
    (p.step .status).Truthful ↔ p.NotAsked .status := by
  cases h with
  | @reported result reports exit =>
    refine iff_of_false (fun h => ?_) fun h => status_ne_running result (h.1 _ exit)
    exact status_ne_running result ((pairwise_cons.mp h.stable).1 _ exit (status_ne_running result)).symm
  | @quiet task channel cached reports unread hc running =>
    rcases cached with _ | st
    · refine iff_of_true ht ⟨running, ?_⟩
      cases unread <;> simp
    obtain rfl := hc st rfl
    have ha : ∀ st ∈ Status.running :: reports, st = .running := forall_mem_cons.mpr ⟨rfl, running⟩
    cases unread with
    | doneRead result =>
      constructor
      · rintro ⟨-, honest⟩
        refine ⟨running, fun hf hfi => honest hf ?_⟩
        exact mem_cons.mpr (.inl (head_eq_of_cons_eq hfi).symm)
      · rintro ⟨-, hu⟩
        refine ⟨pairwise_cons.mpr ⟨fun st hst hne => absurd (running st hst) hne, ht.stable⟩, ?_⟩
        rintro hf hmem
        cases hf
        exact hu rfl rfl
    | _ => exact iff_of_true (truthful_of_running ha) ⟨running, by simp⟩

/-- **The status is truthful and monotone** in exactly the runs that never ask again after the exit
has been reported, and never for the exit of a process that has failed. -/
theorem always_truthful_iff (es : List Event) : Always step Truthful {} es ↔ Each step NotAsked {} es := by
  have hs (p : Process) (e : Event) (h : Reached p) (ht : p.Truthful) :
      (p.step e).Truthful ↔ p.NotAsked e := by
    cases e with
    | status => exact truthful_status_iff h ht
    | _ =>
      refine iff_of_true ?_ trivial
      rcases h with ⟨_, _, running⟩ | _
      · exact truthful_of_running (by rwa [reports_step (by simp)])
      exact ht
  apply always_iff_each (fun p e h _ => h.step e) hs
  · exact .quiet .spawned (by simp) (by simp)
  · exact truthful_of_running (by simp)

/-- The exit is reported by the first call after it and forgotten by the next; a process that has
exited with a failure is reported as finished. -/
theorem exit_forgotten_and_failure_finished :
    ¬ Always step Truthful {} [.newHandle, .taskStarts, .status, .waitEnds .failed, .status, .status] ∧
    ¬ Always step Truthful {} [.taskStarts, .newHandle, .waitEnds (.exited false), .status] := by
  constructor
  · intro h
    exact absurd ((pairwise_cons.mp h.last.stable).1 .error (by decide) (by decide)) (by decide)
  · intro h
    exact h.last.honest rfl (by decide)

end Process

end Gadget.Manager.Rt
