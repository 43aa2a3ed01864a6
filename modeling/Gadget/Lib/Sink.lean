import Gadget.Lib.Run

/-!
# A sink that works off its items one at a time

Accepted items wait in a buffer. A flush takes them out in order and runs one task for each;
a task that is not done yet is polled again by the next flush. What the tasks answer is
decided outside: a call receives the results of the tasks that complete during it, and the
task polled after the last of them is pending.

Two decisions differ between sinks: whether a task that has failed is let go, and whether
closing goes on flushing while items wait.
-/

namespace Gadget.Lib.Sink

open Lib.Run List

variable {ι α ε : Type}

/-- What a poll of the sink answers. A task that has already completed must not be polled
again; a sink that does it ends there. -/
inductive Reply (ε : Type) where
  | pending
  | ready
  | failed (e : ε)
  | repolled

/-- The task of a sink: none, one that runs, or one that has completed and is still held. -/
inductive Phase (α : Type) where
  | idle
  | running (item : α)
  | spent (item : α)

structure Queue (α : Type) where
  buffer : List α
  phase : Phase α

structure Policy where
  dropsFailed : Bool
  closeFlushes : Bool

/-- A call of a sink: its reply, the state it leaves and the items whose task it completed. -/
structure Effect (α ε : Type) where
  reply : Reply ε
  queue : Queue α
  completed : List α

namespace Queue

def new : Queue α := ⟨[], .idle⟩

section

variable (q : Queue α)

def push (item : α) : Queue α := { q with buffer := q.buffer ++ [item] }

def work (policy : Policy) : List (Except ε Unit) → α → List α → Effect α ε
  | [], item, rest => ⟨.pending, ⟨rest, .running item⟩, []⟩
  | .error e :: _, item, rest =>
    ⟨.failed e, ⟨rest, if policy.dropsFailed then .idle else .spent item⟩, [item]⟩
  | .ok () :: _, item, [] => ⟨.ready, ⟨[], .idle⟩, [item]⟩
  | .ok () :: answers, item, next :: rest =>
    let later := work policy answers next rest
    { later with completed := item :: later.completed }

variable (policy : Policy)

def flush (q : Queue α) (answers : List (Except ε Unit)) : Effect α ε :=
  match q.phase with
  | .idle =>
    match q.buffer with
    | [] => ⟨.ready, q, []⟩
    | item :: rest => work policy answers item rest
  | .running item => work policy answers item q.buffer
  | .spent _ => ⟨.repolled, q, []⟩

def close (q : Queue α) (answers : List (Except ε Unit)) : Effect α ε :=
  match q.buffer with
  | [] => ⟨.ready, q, []⟩
  | _ :: _ => if policy.closeFlushes then flush policy q answers else ⟨.pending, q, []⟩

/-- The items that are accepted and whose task has not completed, oldest first. -/
def held : List α :=
  match q.phase with
  | .running item => item :: q.buffer
  | .idle => q.buffer
  | .spent _ => q.buffer

def isSpent : Bool :=
  match q.phase with
  | .spent _ => true
  | _ => false

def isRunning : Bool :=
  match q.phase with
  | .running _ => true
  | _ => false

end

section

variable (policy : Policy) (q : Queue α) (answers : List (Except ε Unit))

@[simp] lemma held_push (item : α) : (q.push item).held = q.held ++ [item] := by
  rcases q with ⟨buf, phase⟩
  cases phase with
  | idle | running | spent => rfl

/-! ## What a call completes and keeps -/

lemma held_work (item : α) (rest : List α) : item :: rest
      = (work policy answers item rest).completed ++ (work policy answers item rest).queue.held := by
  -- one more answer, one more item
  induction answers generalizing item rest with
  | nil => rfl
  | cons answer answers ih =>
    rcases answer with e | u
    · rcases hd : policy.dropsFailed with _ | _ <;> simp [work, held, hd]
    rcases rest with _ | ⟨next, rest⟩
    · rfl
    have hn := ih next rest
    simp only [work, cons_append]
    rw [← hn]

/-- **Conservation.** A flush completes a first part of the held items and keeps the rest. -/
theorem held_flush :
    q.held = (flush policy q answers).completed ++ (flush policy q answers).queue.held := by
  rcases q with ⟨buf, phase⟩
  cases phase with
  | idle =>
    rcases buf with _ | ⟨item, rest⟩
    · rfl
    exact held_work policy answers item rest
  | running item => exact held_work policy answers item buf
  | spent item => rfl

lemma held_close :
    q.held = (close policy q answers).completed ++ (close policy q answers).queue.held := by
  rcases hb : q.buffer with _ | ⟨item, rest⟩
  · simp [close, hb]
  rcases hc : policy.closeFlushes with _ | _
  · simp [close, hb, hc]
  simp only [close, hb, hc, if_true]
  exact held_flush policy q answers

/-! ## Replies -/

lemma reply_work_ne_repolled (item : α) (rest : List α) :
    (work policy answers item rest).reply ≠ .repolled := by
  induction answers generalizing item rest with
  | nil => simp [work]
  | cons answer answers ih =>
    rcases answer with e | u
    · simp [work]
    rcases rest with _ | ⟨next, rest⟩
    · simp [work]
    exact ih next rest

lemma reply_flush_repolled_iff : (flush policy q answers).reply = .repolled ↔ q.isSpent = true := by
  rcases q with ⟨buf, phase⟩
  cases phase with
  | idle =>
    rcases buf with _ | ⟨item, rest⟩
    · simp [flush, isSpent]
    simp [flush, isSpent, reply_work_ne_repolled]
  | running item => simp [flush, isSpent, reply_work_ne_repolled]
  | spent item => simp [flush, isSpent]

end

section

variable {policy : Policy} {q : Queue α}

lemma held_work_of_ready {answers : List (Except ε Unit)} {item : α} {rest : List α}
    (h : (work policy answers item rest).reply = .ready) :
    (work policy answers item rest).queue.held = [] := by
  induction answers generalizing item rest with
  | nil => simp [work] at h
  | cons answer answers ih =>
    rcases answer with e | u
    · simp [work] at h
    rcases rest with _ | ⟨next, rest⟩
    · rfl
    exact ih h

lemma held_flush_of_ready {answers : List (Except ε Unit)}
    (h : (flush policy q answers).reply = .ready) : (flush policy q answers).queue.held = [] := by
  rcases q with ⟨buf, phase⟩
  cases phase with
  | idle =>
    rcases buf with _ | ⟨item, rest⟩
    · rfl
    exact held_work_of_ready h
  | running item => exact held_work_of_ready h
  | spent item => simp [flush] at h

/-! ## Sinks that let go of failed tasks -/

variable (hp : policy.dropsFailed = true)

include hp

lemma isSpent_work (answers : List (Except ε Unit)) (item : α) (rest : List α) :
    (work policy answers item rest).queue.isSpent = false := by
  induction answers generalizing item rest with
  | nil => rfl
  | cons answer answers ih =>
    rcases answer with e | u
    · simp [work, hp, isSpent]
    rcases rest with _ | ⟨next, rest⟩
    · rfl
    exact ih next rest

lemma isSpent_flush (hq : q.isSpent = false) (answers : List (Except ε Unit)) :
    (flush policy q answers).queue.isSpent = false := by
  rcases q with ⟨buf, phase⟩
  cases phase with
  | idle =>
    rcases buf with _ | ⟨item, rest⟩
    · rfl
    exact isSpent_work hp answers item rest
  | running item => exact isSpent_work hp answers item buf
  | spent item => cases hq

lemma isSpent_close (hq : q.isSpent = false) (answers : List (Except ε Unit)) :
    (close policy q answers).queue.isSpent = false := by
  rw [close]
  split
  · exact hq
  · split
    · exact isSpent_flush hp hq answers
    · exact hq

end

end Queue

/-! ## Runs -/

inductive Call (ι ε : Type) where
  | startSend (item : ι)
  | pollFlush (answers : List (Except ε Unit))
  | pollClose (answers : List (Except ε Unit))

/-- A sink in use: its state, what it has accepted, what it has completed, and what the last
poll answered. -/
structure Ledger (α ε : Type) where
  queue : Queue α
  accepted : List α
  completed : List α
  reply : Option (Reply ε)

namespace Ledger

def new : Ledger α ε := ⟨.new, [], [], none⟩

variable (s : Ledger α ε)

def record (effect : Effect α ε) : Ledger α ε :=
  { s with
    queue := effect.queue
    completed := s.completed ++ effect.completed
    reply := some effect.reply }

def step (accept : ι → Option α) (policy : Policy) (s : Ledger α ε) : Call ι ε → Ledger α ε
  | .startSend item =>
    match accept item with
    | some a => { s with queue := s.queue.push a, accepted := s.accepted ++ [a], reply := none }
    | none => { s with reply := none }
  | .pollFlush answers => s.record (s.queue.flush policy answers)
  | .pollClose answers => s.record (s.queue.close policy answers)

def Conserves : Prop := s.accepted = s.completed ++ s.queue.held

/-- Nothing is lost, repeated or reordered; no completed task has been polled again; and when
the last poll was ready, every accepted item is completed. -/
def Complete : Prop :=
  s.Conserves ∧ s.reply ≠ some .repolled ∧ (s.reply = some .ready → s.completed = s.accepted)

/-- The calls that keep a sink complete: a poll of the task meets none that has completed, and
closing an empty buffer meets none that runs. -/
def Safe (policy : Policy) (s : Ledger α ε) : Call ι ε → Prop
  | .startSend _ => True
  | .pollFlush _ => s.queue.isSpent = false
  | .pollClose _ =>
    if s.queue.buffer = [] then s.queue.isRunning = false
    else policy.closeFlushes = true → s.queue.isSpent = false

def ClosesIdle : Call ι ε → Prop
  | .pollClose _ => s.queue.buffer = [] → s.queue.isRunning = false
  | _ => True

lemma complete_new : (new : Ledger α ε).Complete := by
  refine ⟨rfl, ?_, ?_⟩ <;> simp [new]

variable {s : Ledger α ε} {accept : ι → Option α} {policy : Policy}

lemma complete_record_iff {effect : Effect α ε} (hs : s.Conserves)
    (he : s.queue.held = effect.completed ++ effect.queue.held) :
    (s.record effect).Complete ↔
      effect.reply ≠ .repolled ∧ (effect.reply = .ready → effect.queue.held = []) := by
  have hc : (s.record effect).Conserves := by
    rw [Conserves, record, hs, he, append_assoc]
  have hall : (s.record effect).completed = (s.record effect).accepted
      ↔ effect.queue.held = [] := by
    rw [hc, self_eq_append_right]
    rfl
  simp only [Complete, hall, hc, true_and]
  simp [record]

lemma complete_flush_iff (hs : s.Conserves) (policy : Policy) (answers : List (Except ε Unit)) :
    (s.record (s.queue.flush policy answers)).Complete ↔ s.queue.isSpent = false := by
  rw [complete_record_iff hs (Queue.held_flush policy s.queue answers), ne_eq,
    Queue.reply_flush_repolled_iff, Bool.not_eq_true]
  exact and_iff_left Queue.held_flush_of_ready

lemma complete_close_nil_iff (hs : s.Conserves) (policy : Policy) (answers : List (Except ε Unit))
    (hb : s.queue.buffer = []) :
    (s.record (s.queue.close policy answers)).Complete ↔ s.queue.isRunning = false := by
  have hc : s.queue.close policy answers = ⟨.ready, s.queue, []⟩ := by
    simp [Queue.close, hb]
  have hh : s.queue.held = [] ↔ s.queue.isRunning = false := by
    rw [Queue.held, Queue.isRunning]
    cases s.queue.phase with
    | idle | spent => simp [hb]
    | running item => simp
  rw [complete_record_iff hs (Queue.held_close policy s.queue answers), hc]
  simpa using hh

theorem complete_step_iff (hs : s.Conserves) (call : Call ι ε) :
    (s.step accept policy call).Complete ↔ s.Safe policy call := by
  cases call with
  | startSend item =>
    simp only [Safe, iff_true]
    rcases ha : accept item with _ | a
    · simpa [step, ha, Complete, Conserves] using hs
    rw [Conserves] at hs
    simp [step, ha, Complete, Conserves, hs]
  | pollFlush answers => exact complete_flush_iff hs policy answers
  | pollClose answers =>
    by_cases hb : s.queue.buffer = []
    · simp only [Safe, hb, if_true]
      exact complete_close_nil_iff hs policy answers hb
    simp only [Safe, hb, if_false, step]
    obtain ⟨item, rest, hco⟩ := exists_cons_of_ne_nil hb
    cases hc : policy.closeFlushes with
    | true =>
      have hcl : s.queue.close policy answers = s.queue.flush policy answers := by
        simp [Queue.close, hco, hc]
      rw [hcl, complete_flush_iff hs policy answers]
      simp
    | false =>
      have hcl : s.queue.close policy answers = ⟨.pending, s.queue, []⟩ := by
        simp [Queue.close, hco, hc]
      rw [complete_record_iff hs (Queue.held_close policy s.queue answers), hcl]
      simp

theorem always_complete_iff (accept : ι → Option α) (policy : Policy) (calls : List (Call ι ε)) :
    Always (step accept policy) Complete new calls ↔ Each (step accept policy) (Safe policy) new
      calls :=
  always_iff_each (I := Complete) (C := Safe policy) (J := fun _ => True)
    (fun _ _ _ _ => trivial) (fun _ call _ hi => complete_step_iff hi.1 call) trivial complete_new
    calls

lemma isSpent_step (hp : policy.dropsFailed = true) (hs : s.queue.isSpent = false)
    (call : Call ι ε) : (s.step accept policy call).queue.isSpent = false := by
  cases call with
  | startSend item =>
    simp only [step]
    split <;> exact hs
  | pollFlush answers => exact Queue.isSpent_flush hp hs answers
  | pollClose answers => exact Queue.isSpent_close hp hs answers

/-- Without a completed task, only closing can be unsafe. -/
lemma safe_iff_closesIdle (hs : s.queue.isSpent = false) (call : Call ι ε) :
    s.Safe policy call ↔ s.ClosesIdle call := by
  cases call with
  | startSend item => exact Iff.rfl
  | pollFlush answers => simp [Safe, ClosesIdle, hs]
  | pollClose answers =>
    by_cases hb : s.queue.buffer = []
    · simp [Safe, ClosesIdle, hb]
    · simp [Safe, ClosesIdle, hb, hs]

/-- **Runs of a sink that lets go of failed tasks.** It stays complete exactly when it is never
closed with an empty buffer while a task runs. -/
theorem always_complete_iff_closesIdle (accept : ι → Option α) (hp : policy.dropsFailed = true)
    (calls : List (Call ι ε)) :
    Always (step accept policy) Complete new calls ↔ Each (step accept policy) ClosesIdle new
      calls :=
  always_iff_each (I := Complete) (C := ClosesIdle) (J := fun s => s.queue.isSpent = false)
    (fun _ call hs _ => isSpent_step hp hs call)
    (fun _ call hs hi => (complete_step_iff hi.1 call).trans (safe_iff_closesIdle hs call)) rfl
    complete_new calls

lemma not_complete_close_pending {item : ι} {a : α} (h : accept item = some a) (policy : Policy) :
    ¬ Always (step accept policy) (Complete (ε := ε)) new
      [.startSend item, .pollFlush [], .pollClose []] := by
  intro hrun
  obtain ⟨_, _, hr⟩ := hrun.last
  simp [step, new, record, h, Queue.push, Queue.new, Queue.flush, Queue.work, Queue.close] at hr

lemma not_complete_flush_failed {item : ι} {a : α} (h : accept item = some a)
    (hp : policy.dropsFailed = false) (e : ε) :
    ¬ Always (step accept policy) Complete new
      [.startSend item, .pollFlush [.error e], .pollFlush []] := by
  intro hrun
  obtain ⟨_, hr, _⟩ := hrun.last
  simp [step, new, record, h, hp, Queue.push, Queue.new, Queue.flush, Queue.work] at hr

end Ledger

end Gadget.Lib.Sink
