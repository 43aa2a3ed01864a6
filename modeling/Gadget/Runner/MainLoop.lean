import Gadget.Lib.Run
import Gadget.Lib.SelectAll
import Gadget.Router.Routing

/-!
# The main loop of the runner

`FinalizedBlueprintRunner::run` selects between the merged stream of its producers, the tasks it
has spawned, the status of its background services and the channel to the shutdown task. The select
may complete with any branch that is ready, and the outside may move between any two steps, so a run
is a list of events: those of the outside (a producer has an item, a service reports, a task ends,
the shutdown task is polled) and those of the runner (the select looks at a branch, a consumer takes
a result, a local is dropped on the way out).
-/

namespace Gadget.Core

def JobId.toU32 (id : JobId) : UInt32 := id.limb3.toUInt32

end Gadget.Core

namespace Gadget.Runner

open Rust Gadget.Core Routing Lib List SelectAll

variable {ε : Type}

inductive Error (ε : Type) where
  | backgroundService (text : List Char)
  | producerFailed (e : ε)
  | streamEnded
  | consumer (e : ε)
  | jobFailed (e : ε)
  | jobDidntFinish

structure Producer (ε : Type) where
  queue : List (Except ε JobCall)
  ended : Bool
  handedOut : List (Except ε JobCall)

inductive UnfoldState where
  | value
  | future
  | empty
  deriving DecidableEq

structure Unfold (ε : Type) where
  state : UnfoldState
  producer : Producer ε

def Unfold.new : Unfold ε := ⟨.value, [], false, []⟩

def Unfold.pollNext (u : Unfold ε) : Option (Except ε JobCall) × Unfold ε :=
  match u.state, u.producer.queue with
  | .empty, _ => (none, u)
  | _, item :: rest =>
    (some item, ⟨.value, rest, u.producer.ended, u.producer.handedOut ++ [item]⟩)
  | _, [] => (none, ⟨if u.producer.ended then .empty else .future, u.producer⟩)

/-- One poll of the merged stream, `futures::stream::select_all`, when the `i`-th producer is the one
that is woken: nothing yet, an item, or the end of all streams. -/
def pollProducers (streams : List (Unfold ε)) (i : ℕ) :
    Option (Option (Except ε JobCall)) × List (Unfold ε) :=
  match streams[i]? with
  | none => (if streams.all (·.state = .empty) then some none else none, streams)
  -- a stream that has ended is left out, and without streams the merged one ends
  | some u =>
    let streams' := streams.set i u.pollNext.2
    match u.pollNext.1 with
    | some item => (some (some item), streams')
    | none => (if streams'.all (·.state = .empty) then some none else none, streams')

abbrev Executor (ε : Type) := JobCall → Except ε JobResult

inductive Worker (ε : Type) where
  | faas (executor : Executor ε)
  | router

inductive JoinError where
  | cancelled
  | panicked

abbrev Joined (ε : Type) := Except JoinError (Except ε (Option (List JobResult)))

structure Task (ε : Type) where
  call : JobCall
  worker : Worker ε
  outcome : Option (Joined ε)

def maxConcurrentJobs : ℕ := 1024

structure Consumer where
  received : List JobResult
  sending : Option (List JobResult)

abbrev Report (ε : Type) := Option (Except (Error ε) Unit)

def Report.status : Report ε → Except (Error ε) Unit
  | none => .error (.backgroundService "channel closed".toList)
  | some _ => .ok ()

inductive StatusFuture where
  | ready
  | service (i : ℕ)

def StatusFuture.poll (services : List (Option (Report ε))) :
    StatusFuture → Option (Except (Error ε) Unit)
  | .ready => some (.ok ())
  | .service i => (services[i]?.join).map Report.status

def selectAll (futures : List StatusFuture) : Option (List StatusFuture) :=
  if futures = [] then none else some futures

structure FinalizedBlueprintRunner (ε : Type) where
  producers : ℕ
  consumers : ℕ
  backgroundServices : ℕ
  router : Router ε
  faasRegistry : HashMap UInt32 (Executor ε)
  shutdownHandler : Option ℕ

inductive Local where
  | pendingJobs
  | statusFutures
  | producers
  | shutdownTx
  | backgroundServices
  | consumers
  deriving DecidableEq

def locals : List Local :=
  [.pendingJobs, .statusFutures, .producers, .shutdownTx, .backgroundServices, .consumers]

inductive Phase (ε : Type) where
  | selecting
  | broadcasting
  | returned (result : Except (Error ε) Unit) (left : List Local)
  | panicked

inductive Signal where
  | unsent
  | sent
  | senderDropped
  deriving DecidableEq

inductive ShutdownTask where
  | waiting
  | running (polls : ℕ)
  | finished
  | gone
  deriving DecidableEq

structure State (ε : Type) where
  streams : List (Unfold ε)
  pendingJobs : List (Task ε)
  consumers : List Consumer
  services : List (Option (Report ε))
  statusFutures : List StatusFuture
  phase : Phase ε
  shutdown : Signal
  shutdownTask : ShutdownTask
  handlerRuns : ℕ
  taken : List JobCall
  executed : List JobCall
  collected : List (JobCall × Joined ε)

def State.Running (s : State ε) : Prop := s.phase = .selecting ∨ s.phase = .broadcasting

inductive Branch where
  | producers (i : ℕ)
  | pendingJobs (i : ℕ)
  | backgroundServices
  | closed

inductive Event (ε : Type) where
  | produce (i : ℕ) (item : Except ε JobCall)
  | close (i : ℕ)
  | report (i : ℕ) (report : Report ε)
  | finish (i : ℕ) (order : FinishOrder (Except ε (Option JobResult)))
  | fail (i : ℕ) (e : JoinError)
  | pollShutdownTask
  | dropShutdownTask
  | select (branch : Branch)
  | accept (consumer : ℕ)
  | flush (consumer : ℕ)
  | refuse (consumer : ℕ) (e : ε)
  | drop

namespace State

variable (s : State ε) (i : ℕ)

def produce (item : Except ε JobCall) : State ε :=
  { s with streams := s.streams.modify i fun u =>
      if u.producer.ended then u
      else { u with producer := { u.producer with queue := u.producer.queue ++ [item] } } }

def close : State ε :=
  { s with streams := s.streams.modify i fun u => { u with producer := { u.producer with ended := true } } }

def report (report : Report ε) : State ε :=
  match s.services[i]? with
  | some none => { s with services := s.services.set i (some report) }
  | _ => s

def join (outcome : Task ε → Joined ε) : State ε :=
  match s.pendingJobs[i]? with
  | some ⟨call, worker, none⟩ =>
    { s with
      pendingJobs := s.pendingJobs.set i ⟨call, worker, some (outcome ⟨call, worker, none⟩)⟩
      executed := s.executed ++ [call] }
  | _ => s

variable (handler : Option ℕ)

def pollHandler (s : State ε) (polls : ℕ) : State ε :=
  if handler = some polls then
    { s with shutdownTask := .finished, handlerRuns := s.handlerRuns + 1 }
  else { s with shutdownTask := .running (polls + 1) }

def pollShutdownTask (s : State ε) : State ε :=
  match s.shutdownTask with
  -- `let _ = shutdown_rx.await`: a sender that is dropped wakes the task as well
  | .waiting => if s.shutdown = .unsent then s else pollHandler handler s 0
  | .running polls => pollHandler handler s polls
  | .finished => s
  | .gone => s

def dropShutdownTask : State ε :=
  { s with shutdownTask := if s.shutdownTask = .finished then .finished else .gone }

def leave (signal : Bool) (result : Except (Error ε) Unit) : State ε :=
  { s with
    phase := .returned result locals
    shutdown := if signal then .sent else s.shutdown }

def broadcastPhase (consumers : List Consumer) : Phase ε :=
  if consumers.all (·.sending.isNone) then .selecting else .broadcasting

def broadcast (results : List JobResult) : State ε :=
  let consumers := s.consumers.map fun c => { c with sending := some results }
  { s with consumers := consumers, phase := broadcastPhase consumers }

def accept : State ε :=
  match s.consumers[i]? with
  | some ⟨received, some (result :: rest)⟩ =>
    { s with consumers := s.consumers.set i ⟨received ++ [result], some rest⟩ }
  | _ => s

def flush : State ε :=
  match s.consumers[i]? with
  | some ⟨received, some []⟩ =>
    let consumers := s.consumers.set i ⟨received, none⟩
    { s with consumers := consumers, phase := broadcastPhase consumers }
  | _ => s

def refuse (e : ε) : State ε :=
  match s.consumers[i]? with
  | some ⟨_, some _⟩ => s.leave true (.error (.consumer e))
  | _ => s

def drop : State ε :=
  match s.phase with
  | .returned result (l :: left) =>
    { s with
      phase := .returned result left
      shutdown := if l = .shutdownTx ∧ s.shutdown = .unsent then .senderDropped else s.shutdown }
  | _ => s

end State

namespace FinalizedBlueprintRunner

variable (r : FinalizedBlueprintRunner ε)

def workerFor (call : JobCall) : Worker ε :=
  match r.faasRegistry.lookup call.jobId.toU32 with
  | some executor => .faas executor
  | none => .router

def execute (task : Task ε) (order : FinishOrder (Except ε (Option JobResult))) :
    Except ε (Option (List JobResult)) :=
  match task.worker with
  | .faas executor =>
    match executor task.call with
    | .ok result => .ok (some [result])
    | .error e => .error e
  | .router => r.router.call order task.call

variable (s : State ε)

def selectProducers (i : ℕ) : State ε :=
  if s.pendingJobs.length < maxConcurrentJobs then
    let s' := { s with streams := (pollProducers s.streams i).2 }
    match (pollProducers s.streams i).1 with
    | none => s'
    | some (some (.ok call)) =>
      { s' with
        pendingJobs := s.pendingJobs ++ [⟨call, r.workerFor call, none⟩]
        taken := s.taken ++ [call] }
    | some (some (.error e)) => s'.leave true (.error (.producerFailed e))
    | some none => s'.leave true (.error .streamEnded)
  else s

def jobFinished : Joined ε → State ε
  | .ok (.ok (some results)) => s.broadcast results
  | .ok (.ok none) => s
  -- the one failure on which nothing is sent to the shutdown task
  | .ok (.error e) => s.leave false (.error (.jobFailed e))
  | .error _ => s.leave true (.error .jobDidntFinish)

def selectPendingJobs (i : ℕ) : State ε :=
  match s.pendingJobs[i]? with
  | some ⟨call, _, some joined⟩ =>
    jobFinished
      { s with
        pendingJobs := s.pendingJobs.eraseIdx i
        collected := s.collected ++ [(call, joined)] }
      joined
  | _ => s

def selectBackgroundServices : State ε :=
  match SelectAll.poll (StatusFuture.poll s.services) s.statusFutures with
  | none => s
  | some (.error e, _) => { s with statusFutures := [] }.leave true (.error e)
  | some (.ok (), remaining) =>
    -- `continue`: the select that is over is polled again, and is pending forever
    if remaining = [] then { s with statusFutures := [] }
    else
      match selectAll remaining with
      | some futures => { s with statusFutures := futures }
      | none => { s with phase := .panicked }

def selectClosed : State ε :=
  if s.shutdownTask = .waiting then s else s.leave false (.ok ())

def select : Branch → State ε
  | .producers i => r.selectProducers s i
  | .pendingJobs i => selectPendingJobs s i
  | .backgroundServices => selectBackgroundServices s
  | .closed => selectClosed s

def step : Event ε → State ε
  | .produce i item => s.produce i item
  | .close i => s.close i
  | .report i report => s.report i report
  | .finish i order => s.join i fun task => .ok (r.execute task order)
  | .fail i e => s.join i fun _ => .error e
  | .pollShutdownTask => s.pollShutdownTask r.shutdownHandler
  | .dropShutdownTask => s.dropShutdownTask
  | .select branch =>
    match s.phase with
    | .selecting => r.select s branch
    | _ => s
  | .accept i =>
    match s.phase with
    | .broadcasting => s.accept i
    | _ => s
  | .flush i =>
    match s.phase with
    | .broadcasting => s.flush i
    | _ => s
  | .refuse i e =>
    match s.phase with
    | .broadcasting => s.refuse i e
    | _ => s
  | .drop => s.drop

def start : State ε where
  streams := List.replicate r.producers .new
  pendingJobs := []
  consumers := List.replicate r.consumers ⟨[], none⟩
  services := List.replicate r.backgroundServices none
  statusFutures :=
    if r.backgroundServices = 0 then [.ready] else (List.range r.backgroundServices).map .service
  phase := .selecting
  shutdown := .unsent
  shutdownTask := .waiting
  handlerRuns := 0
  taken := []
  executed := []
  collected := []

end FinalizedBlueprintRunner

def callsHandedOut (streams : List (Unfold ε)) : List JobCall :=
  streams.flatMap fun u => u.producer.handedOut.filterMap Except.toOption

def callOf : Option (Option (Except ε JobCall)) → List JobCall
  | some (some (.ok call)) => [call]
  | _ => []

lemma Unfold.handedOut_pollNext (u : Unfold ε) :
    u.pollNext.2.producer.handedOut = u.producer.handedOut ++ u.pollNext.1.toList := by
  obtain ⟨st, queue, ended, handedOut⟩ := u
  cases st with
  | empty => exact (append_nil _).symm
  | value | future =>
    rcases queue with _ | ⟨item, rest⟩
    · exact (append_nil _).symm
    rfl

lemma callsHandedOut_set {ss : List (Unfold ε)} {i : ℕ} {u u' : Unfold ε}
    (h : ss[i]? = some u) {items : List (Except ε JobCall)}
    (hu : u'.producer.handedOut = u.producer.handedOut ++ items) :
    (callsHandedOut (ss.set i u')).Perm (callsHandedOut ss ++ items.filterMap Except.toOption) := by
  obtain ⟨front, back, hl, hset, -⟩ := exists_split h
  rw [hset u', hl]
  simp only [callsHandedOut, flatMap_append, flatMap_cons, hu, filterMap_append, append_assoc]
  exact ((perm_append_comm.append_left _).append_left _)

/-- **The merged stream.** Every call that a producer hands out is answered by the poll that asked for
it. -/
theorem callsHandedOut_pollProducers (ss : List (Unfold ε)) (i : ℕ) :
    (callsHandedOut (pollProducers ss i).2).Perm
      (callsHandedOut ss ++ callOf (pollProducers ss i).1) := by
  have hend : ∀ b : Bool, callOf (if b then some none else none : Option (Option (Except ε JobCall)))
      = [] := by
    intro b
    rcases b with _ | _ <;> rfl
  unfold pollProducers
  rcases hu : ss[i]? with _ | u
  · simp only [hend, append_nil]
    exact .refl _
  have hset := callsHandedOut_set hu u.handedOut_pollNext
  simp only
  rcases hi : u.pollNext.1 with _ | item
  · rw [hi] at hset
    simp only [hend]
    exact hset
  rw [hi] at hset
  rcases item with e | call <;> exact hset

variable (r : FinalizedBlueprintRunner ε)

inductive Change (s : State ε) : Event ε → State ε → Prop
  | streams (e : Event ε) (streams : List (Unfold ε)) (he : ∀ i report, e ≠ .report i report)
      (h : (callsHandedOut streams).Perm (callsHandedOut s.streams)) :
      Change s e { s with streams := streams }
  | report (i : ℕ) (report : Report ε) (h : s.services[i]? = some none) :
      Change s (.report i report) { s with services := s.services.set i (some report) }
  | join (e : Event ε) (front back : List (Task ε)) (call : JobCall) (worker : Worker ε)
      (joined : Joined ε) (he : ∀ i report, e ≠ .report i report)
      (h : s.pendingJobs = front ++ ⟨call, worker, none⟩ :: back)
      (hjoined : ∀ answer, joined = .ok answer →
        ∃ order, answer = r.execute ⟨call, worker, none⟩ order) :
      Change s e { s with
        pendingJobs := front ++ ⟨call, worker, some joined⟩ :: back
        executed := s.executed ++ [call] }
  | pollShutdownTask : Change s .pollShutdownTask (s.pollShutdownTask r.shutdownHandler)
  | dropShutdownTask : Change s .dropShutdownTask s.dropShutdownTask
  | take (i : ℕ) (streams : List (Unfold ε)) (call : JobCall) (hphase : s.phase = .selecting)
      (hroom : s.pendingJobs.length < maxConcurrentJobs)
      (h : (callsHandedOut streams).Perm (callsHandedOut s.streams ++ [call])) :
      Change s (.select (.producers i)) { s with
        streams := streams
        pendingJobs := s.pendingJobs ++ [⟨call, r.workerFor call, none⟩]
        taken := s.taken ++ [call] }
  | producersEnd (i : ℕ) (streams : List (Unfold ε)) (error : Error ε)
      (hphase : s.phase = .selecting)
      (herror : error = .streamEnded ∨ ∃ e, error = .producerFailed e)
      (h : (callsHandedOut streams).Perm (callsHandedOut s.streams)) :
      Change s (.select (.producers i)) ({ s with streams := streams }.leave true (.error error))
  | collect (i : ℕ) (front back : List (Task ε)) (call : JobCall) (worker : Worker ε)
      (joined : Joined ε) (hphase : s.phase = .selecting)
      (h : s.pendingJobs = front ++ ⟨call, worker, some joined⟩ :: back) :
      Change s (.select (.pendingJobs i)) (FinalizedBlueprintRunner.jobFinished
        { s with pendingJobs := front ++ back, collected := s.collected ++ [(call, joined)] } joined)
  | serviceEnded (f : StatusFuture) (futures : List StatusFuture) (hphase : s.phase = .selecting)
      (hf : f.poll s.services = some (.ok ())) (h : s.statusFutures.Perm (f :: futures)) :
      Change s (.select .backgroundServices) { s with statusFutures := futures }
  | serviceFailed (f : StatusFuture) (error : Error ε) (hphase : s.phase = .selecting)
      (hf : f.poll s.services = some (.error error)) (h : f ∈ s.statusFutures) :
      Change s (.select .backgroundServices)
        ({ s with statusFutures := [] }.leave true (.error error))
  | closed (hphase : s.phase = .selecting) (h : s.shutdownTask ≠ .waiting) :
      Change s (.select .closed) (s.leave false (.ok ()))
  | accept (i : ℕ) (front back : List Consumer) (received rest : List JobResult) (result : JobResult)
      (hphase : s.phase = .broadcasting)
      (h : s.consumers = front ++ ⟨received, some (result :: rest)⟩ :: back) :
      Change s (.accept i)
        { s with consumers := front ++ ⟨received ++ [result], some rest⟩ :: back }
  | flush (i : ℕ) (front back : List Consumer) (received : List JobResult)
      (hphase : s.phase = .broadcasting) (h : s.consumers = front ++ ⟨received, some []⟩ :: back) :
      Change s (.flush i) { s with
        consumers := front ++ ⟨received, none⟩ :: back
        phase := State.broadcastPhase (front ++ ⟨received, none⟩ :: back) }
  | refuse (i : ℕ) (e : ε) (hphase : s.phase = .broadcasting) :
      Change s (.refuse i e) (s.leave true (.error (.consumer e)))
  | drop (result : Except (Error ε) Unit) (l : Local) (left : List Local)
      (hphase : s.phase = .returned result (l :: left)) :
      Change s .drop { s with
        phase := .returned result left
        shutdown :=
          if l = .shutdownTx ∧ s.shutdown = .unsent then .senderDropped else s.shutdown }

variable {r}

lemma pollShutdownTask_eq (handler : Option ℕ) (s : State ε) :
    ∃ task runs, s.pollShutdownTask handler
      = { s with shutdownTask := task, handlerRuns := runs } := by
  have hp : ∀ polls, ∃ task runs, s.pollHandler handler polls
      = { s with shutdownTask := task, handlerRuns := runs } := by
    intro polls
    unfold State.pollHandler
    by_cases hd : handler = some polls
    · rw [if_pos hd]
      exact ⟨_, _, rfl⟩
    · rw [if_neg hd]
      exact ⟨_, _, rfl⟩
  unfold State.pollShutdownTask
  cases ht : s.shutdownTask with
  | waiting =>
    by_cases hu : s.shutdown = .unsent
    · simp only [if_pos hu]
      exact ⟨s.shutdownTask, s.handlerRuns, rfl⟩
    · simp only [if_neg hu]
      exact hp 0
  | running polls => exact hp polls
  | finished | gone => exact ⟨s.shutdownTask, s.handlerRuns, rfl⟩

lemma jobFinished_eq (s : State ε) (joined : Joined ε) :
    ∃ consumers phase shutdown, FinalizedBlueprintRunner.jobFinished s joined
      = { s with consumers := consumers, phase := phase, shutdown := shutdown } := by
  match joined with
  | .ok (.ok (some results)) => exact ⟨_, _, _, rfl⟩
  | .ok (.ok none) => exact ⟨s.consumers, s.phase, s.shutdown, rfl⟩
  | .ok (.error e) => exact ⟨s.consumers, _, _, rfl⟩
  | .error e => exact ⟨s.consumers, _, _, rfl⟩

variable {s : State ε}

lemma State.not_running {result : Except (Error ε) Unit} {left : List Local}
    (h : s.phase = .returned result left) : ¬ s.Running := by
  rintro (hp | hp)
  · rw [h] at hp
    cases hp
  · rw [h] at hp
    cases hp

lemma State.shutdown_of_sent (h : s.shutdown = .sent) (l : Local) :
    (if l = .shutdownTx ∧ s.shutdown = .unsent then .senderDropped else s.shutdown) = .sent := by
  have hne : ¬ (l = .shutdownTx ∧ s.shutdown = .unsent) := by simp [h]
  rw [if_neg hne]
  exact h

lemma running_of_phase_broadcastPhase {cs : List Consumer}
    (h : s.phase = State.broadcastPhase cs) : s.Running := by
  unfold State.broadcastPhase at h
  by_cases hall : cs.all (·.sending.isNone)
  · rw [if_pos hall] at h
    exact .inl h
  · rw [if_neg hall] at h
    exact .inr h

lemma callsHandedOut_modify {streams : List (Unfold ε)} {i : ℕ} {f : Unfold ε → Unfold ε}
    (hf : ∀ u, (f u).producer.handedOut = u.producer.handedOut) :
    callsHandedOut (streams.modify i f) = callsHandedOut streams := by
  induction streams generalizing i with
  | nil => cases i with
    | zero | succ => rfl
  | cons u rest ih =>
    rcases i with _ | i
    · rw [modify_zero_cons]
      simp [callsHandedOut, flatMap_cons, hf]
    rw [modify_succ_cons]
    simp only [callsHandedOut, flatMap_cons] at ih ⊢
    rw [ih]

lemma join_change (s : State ε) (e : Event ε) (he : ∀ i report, e ≠ .report i report) (i : ℕ)
    (out : Task ε → Joined ε)
    (ho : ∀ task answer, out task = .ok answer → ∃ order, answer = r.execute task order) :
    s.join i out = s ∨ Change r s e (s.join i out) := by
  unfold State.join
  rcases ht : s.pendingJobs[i]? with _ | task
  · exact .inl rfl
  obtain ⟨call, wk, ended⟩ := task
  cases ended with
  | some joined => exact .inl rfl
  | none =>
    obtain ⟨front, back, hl, hset, -⟩ := exists_split ht
    right
    simp only [hset]
    exact .join e front back call wk _ he hl (ho _)

lemma selectProducers_change (hp : s.phase = .selecting) (i : ℕ) :
    r.selectProducers s i = s ∨ Change r s (.select (.producers i)) (r.selectProducers s i) := by
  have hc := callsHandedOut_pollProducers s.streams i
  unfold FinalizedBlueprintRunner.selectProducers
  by_cases hr : s.pendingJobs.length < maxConcurrentJobs
  · right
    rw [if_pos hr]
    rcases hi : (pollProducers s.streams i).1 with _ | answer
    · rw [hi] at hc
      exact .streams _ _ nofun (by simpa [callOf] using hc)
    rcases answer with _ | item
    · rw [hi] at hc
      exact .producersEnd i _ _ hp (.inl rfl) (by simpa [callOf] using hc)
    rcases item with e | call
    · rw [hi] at hc
      exact .producersEnd i _ _ hp (.inr ⟨e, rfl⟩) (by simpa [callOf] using hc)
    rw [hi] at hc
    exact .take i _ call hp hr hc
  · rw [if_neg hr]
    exact .inl rfl

lemma selectPendingJobs_change (hp : s.phase = .selecting) (i : ℕ) :
    FinalizedBlueprintRunner.selectPendingJobs s i = s ∨
      Change r s (.select (.pendingJobs i)) (FinalizedBlueprintRunner.selectPendingJobs s i) := by
  unfold FinalizedBlueprintRunner.selectPendingJobs
  rcases ht : s.pendingJobs[i]? with _ | task
  · exact .inl rfl
  obtain ⟨call, wk, ended⟩ := task
  rcases ended with _ | joined
  · exact .inl rfl
  obtain ⟨front, back, hl, -, he⟩ := exists_split ht
  right
  simp only [he]
  exact .collect i front back call wk joined hp hl

lemma StatusFuture.poll_eq_error {svcs : List (Option (Report ε))} {f : StatusFuture}
    {err : Error ε} (h : f.poll svcs = some (.error err)) :
    ∃ i : ℕ, svcs[i]? = some (some none) ∧ err = .backgroundService "channel closed".toList := by
  rcases f with _ | i
  · cases h
  obtain ⟨report, hr, hs⟩ := Option.map_eq_some_iff.mp h
  rcases report with _ | answer
  · exact ⟨i, Option.join_eq_some_iff.mp hr, (Except.error.inj hs).symm⟩
  cases hs

lemma selectBackgroundServices_cases (s : State ε) :
    (FinalizedBlueprintRunner.selectBackgroundServices s = s ∧
        ∀ f ∈ s.statusFutures, f.poll s.services = none) ∨
      (∃ f err, f ∈ s.statusFutures ∧ f.poll s.services = some (.error err) ∧
        FinalizedBlueprintRunner.selectBackgroundServices s
          = { s with statusFutures := [] }.leave true (.error err)) ∨
      ∃ f futures, f.poll s.services = some (.ok ()) ∧ s.statusFutures.Perm (f :: futures) ∧
        FinalizedBlueprintRunner.selectBackgroundServices s
          = { s with statusFutures := futures } := by
  unfold FinalizedBlueprintRunner.selectBackgroundServices
  rcases hp : poll (StatusFuture.poll s.services) s.statusFutures with _ | answer
  · exact .inl ⟨rfl, firstReady_eq_none_iff.mp (Option.map_eq_none_iff.mp hp)⟩
  obtain ⟨result, remaining⟩ := answer
  obtain ⟨f, hf, hpe⟩ := poll_eq_some hp
  rcases result with err | ended
  · exact .inr (.inl ⟨f, err, hpe.mem_iff.mpr mem_cons_self, hf, rfl⟩)
  refine .inr (.inr ⟨f, remaining, hf, hpe, ?_⟩)
  simp only
  by_cases he : remaining = []
  · rw [if_pos he, he]
  · rw [if_neg he, selectAll, if_neg he]

lemma selectBackgroundServices_change (hp : s.phase = .selecting) :
    FinalizedBlueprintRunner.selectBackgroundServices s = s ∨
      Change r s (.select .backgroundServices)
        (FinalizedBlueprintRunner.selectBackgroundServices s) := by
  obtain ⟨heq, -⟩ | ⟨f, err, hmem, hf, heq⟩ | ⟨f, futs, hf, hpe, heq⟩ :=
    selectBackgroundServices_cases s
  · exact .inl heq
  · rw [heq]
    exact .inr (.serviceFailed f err hp hf hmem)
  · rw [heq]
    exact .inr (.serviceEnded f futs hp hf hpe)

lemma selectClosed_change (hp : s.phase = .selecting) :
    FinalizedBlueprintRunner.selectClosed s = s ∨
      Change r s (.select .closed) (FinalizedBlueprintRunner.selectClosed s) := by
  unfold FinalizedBlueprintRunner.selectClosed
  by_cases hw : s.shutdownTask = .waiting
  · rw [if_pos hw]
    exact .inl rfl
  · rw [if_neg hw]
    exact .inr (.closed hp hw)

section

variable (hp : s.phase = .broadcasting) (i : ℕ)

include hp

lemma accept_change : s.accept i = s ∨ Change r s (.accept i) (s.accept i) := by
  unfold State.accept
  rcases hc : s.consumers[i]? with _ | con
  · exact .inl rfl
  obtain ⟨rcv, sending⟩ := con
  obtain ⟨front, back, hl, hset, -⟩ := exists_split hc
  match sending, hl with
  | none, _ => exact .inl rfl
  | some [], _ => exact .inl rfl
  | some (result :: rest), hl =>
    right
    simp only [hset]
    exact .accept i front back rcv rest result hp hl

lemma flush_change : s.flush i = s ∨ Change r s (.flush i) (s.flush i) := by
  unfold State.flush
  rcases hc : s.consumers[i]? with _ | con
  · exact .inl rfl
  obtain ⟨rcv, sending⟩ := con
  obtain ⟨front, back, hl, hset, -⟩ := exists_split hc
  match sending, hl with
  | none, _ => exact .inl rfl
  | some (result :: rest), _ => exact .inl rfl
  | some [], hl =>
    right
    simp only [hset]
    exact .flush i front back rcv hp hl

lemma refuse_change (e : ε) : s.refuse i e = s ∨ Change r s (.refuse i e) (s.refuse i e) := by
  unfold State.refuse
  rcases hc : s.consumers[i]? with _ | con
  · exact .inl rfl
  obtain ⟨rcv, sending⟩ := con
  rcases sending with _ | todo
  · exact .inl rfl
  exact .inr (.refuse i e hp)

end

lemma drop_change (s : State ε) : s.drop = s ∨ Change r s .drop s.drop := by
  unfold State.drop
  match hp : s.phase with
  | .selecting => exact .inl rfl
  | .broadcasting => exact .inl rfl
  | .panicked => exact .inl rfl
  | .returned result [] => exact .inl rfl
  | .returned result (l :: left) => exact .inr (.drop result l left hp)

theorem step_change (s : State ε) (e : Event ε) : r.step s e = s ∨ Change r s e (r.step s e) := by
  cases e with
  | produce i item =>
    refine .inr (.streams _ _ nofun ?_)
    rw [callsHandedOut_modify]
    intro u
    by_cases he : u.producer.ended
    · rw [if_pos he]
    · rw [if_neg he]
  | close i =>
    refine .inr (.streams _ _ nofun ?_)
    rw [callsHandedOut_modify]
    intro u
    rfl
  | report i report =>
    simp only [FinalizedBlueprintRunner.step, State.report]
    rcases hi : s.services[i]? with _ | sent
    · exact .inl rfl
    rcases sent with _ | earlier
    · exact .inr (.report i report hi)
    exact .inl rfl
  | finish i order =>
    have ha : ∀ task answer, (.ok (r.execute task order) : Joined ε) = .ok answer →
        ∃ order, answer = r.execute task order :=
      fun task answer h => ⟨order, (Except.ok.inj h).symm⟩
    exact join_change s (.finish i order) nofun i _ ha
  | fail i e =>
    have ha : ∀ (task : Task ε) answer, (.error e : Joined ε) = .ok answer →
        ∃ order, answer = r.execute task order :=
      nofun
    exact join_change s (.fail i e) nofun i _ ha
  | pollShutdownTask => exact .inr .pollShutdownTask
  | dropShutdownTask => exact .inr .dropShutdownTask
  | select branch =>
    simp only [FinalizedBlueprintRunner.step]
    cases hp : s.phase with
    | selecting =>
      cases branch with
      | producers i => exact selectProducers_change hp i
      | pendingJobs i => exact selectPendingJobs_change hp i
      | backgroundServices => exact selectBackgroundServices_change hp
      | closed => exact selectClosed_change hp
    | _ => exact .inl rfl
  | accept i =>
    simp only [FinalizedBlueprintRunner.step]
    cases hp : s.phase with
    | broadcasting => exact accept_change hp i
    | _ => exact .inl rfl
  | flush i =>
    simp only [FinalizedBlueprintRunner.step]
    cases hp : s.phase with
    | broadcasting => exact flush_change hp i
    | _ => exact .inl rfl
  | refuse i e =>
    simp only [FinalizedBlueprintRunner.step]
    cases hp : s.phase with
    | broadcasting => exact refuse_change hp i e
    | _ => exact .inl rfl
  | drop => exact drop_change s

lemma State.running_of_step {e : Event ε} (h : (r.step s e).Running) : s.Running := by
  rcases step_change (r := r) s e with heq | hc
  · rwa [heq] at h
  generalize r.step s e = s' at h hc
  cases hc with
  | streams | report | join | dropShutdownTask | take => exact h
  | pollShutdownTask =>
    obtain ⟨task, runs, heq⟩ := pollShutdownTask_eq r.shutdownHandler s
    rwa [heq] at h
  | producersEnd i streams error hp | collect i front back call worker joined hp => exact .inl hp
  | serviceEnded f futures hp | serviceFailed f error hp | closed hp => exact .inl hp
  | accept i front back received rest result hp | flush i front back received hp => exact .inr hp
  | refuse i e hp => exact .inr hp
  | drop result l left => exact absurd h (State.not_running rfl)

lemma State.running_of_foldl {es : List (Event ε)} (h : (es.foldl r.step s).Running) :
    s.Running := by
  induction es generalizing s with
  | nil => exact h
  | cons e es ih => exact State.running_of_step (ih h)

end Gadget.Runner
