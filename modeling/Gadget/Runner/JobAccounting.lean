import Gadget.Runner.MainLoop

/-!
# Job calls and results in the main loop

Every job call that the loop takes from its producers becomes one task, and the loop sees the outcome of
a task once. The results of a finished job are broadcast to all consumers, and the loop does not go on
before every consumer has all of them, in order.
-/

namespace Gadget.Runner

open Gadget.Core Lib.Run List FinalizedBlueprintRunner Option

variable {ε : Type} {r : FinalizedBlueprintRunner ε} {s : State ε}

def FinalizedBlueprintRunner.Answers (r : FinalizedBlueprintRunner ε) (call : JobCall)
    (answer : Except ε (Option (List JobResult))) : Prop :=
  ∃ order, answer = r.execute ⟨call, r.workerFor call, none⟩ order

def unfinished (tasks : List (Task ε)) : List JobCall :=
  (tasks.filter (·.outcome.isNone)).map (·.call)

namespace State

/-- Where the calls are that producers have handed out: the loop has taken them, each of them is a task
that is pending or was collected, and each of them was executed once or is being executed. -/
structure CallsAccounted (r : FinalizedBlueprintRunner ε) (s : State ε) : Prop where
  limit : s.pendingJobs.length ≤ maxConcurrentJobs
  drawn : (callsHandedOut s.streams).Perm s.taken
  tasks : s.taken.Perm (s.collected.map (·.1) ++ s.pendingJobs.map (·.call))
  executed : s.taken.Perm (s.executed ++ unfinished s.pendingJobs)
  workers : ∀ task ∈ s.pendingJobs, task.worker = r.workerFor task.call
  outcomes : ∀ task ∈ s.pendingJobs, ∀ answer, task.outcome = some (.ok answer) →
    r.Answers task.call answer
  collected : ∀ entry ∈ s.collected, ∀ answer, entry.2 = .ok answer → r.Answers entry.1 answer

def resultsOf : Joined ε → List JobResult
  | .ok (.ok (some results)) => results
  | _ => []

def results (s : State ε) : List JobResult := s.collected.flatMap fun entry => resultsOf entry.2

def earlierResults (s : State ε) : List JobResult :=
  s.collected.dropLast.flatMap fun entry => resultsOf entry.2

def lastResults (s : State ε) : List JobResult :=
  (s.collected.getLast?.map fun entry => resultsOf entry.2).getD []

lemma earlierResults_append_lastResults (s : State ε) :
    s.earlierResults ++ s.lastResults = s.results := by
  unfold earlierResults lastResults results
  rcases eq_nil_or_concat s.collected with hnil | ⟨front, entry, hc⟩
  · rw [hnil]
    rfl
  · rw [hc, concat_eq_append, dropLast_concat, getLast?_concat, flatMap_append]
    simp

def HasPart (s : State ε) (c : Consumer) (part : List JobResult) : Prop :=
  c.received = s.earlierResults ++ part

def Delivered (s : State ε) : Prop :=
  match s.phase with
  | .selecting => ∀ c ∈ s.consumers, c.received = s.results
  | .broadcasting =>
    ∀ c ∈ s.consumers, ∃ part, s.HasPart c part ∧ part ++ c.sending.getD [] = s.lastResults
  | .returned (.error (.consumer _)) _ =>
    s.shutdown = .sent ∧ ∀ c ∈ s.consumers, ∃ part, s.HasPart c part ∧ part <+: s.lastResults
  | .returned _ _ => ∀ c ∈ s.consumers, c.received = s.results
  | .panicked => False

variable {call : JobCall} {result : Except (Error ε) Unit} {left : List Local}

section

variable (h : s.CallsAccounted r)

include h

variable {front back : List (Task ε)} {wk : Worker ε} {joined : Joined ε}

lemma CallsAccounted.join (hp : s.pendingJobs = front ++ ⟨call, wk, none⟩ :: back)
    (hj : ∀ answer, joined = .ok answer → ∃ ord, answer = r.execute ⟨call, wk, none⟩ ord) :
    ({ s with
      pendingJobs := front ++ ⟨call, wk, some joined⟩ :: back
      executed := s.executed ++ [call] } : State ε).CallsAccounted r := by
  have hmem : ∀ task ∈ front ++ ⟨call, wk, some joined⟩ :: back,
      task = ⟨call, wk, some joined⟩ ∨ task ∈ s.pendingJobs := by
    intro task ht
    rw [hp]
    simp only [mem_append, mem_cons] at ht ⊢
    tauto
  have hw : wk = r.workerFor call := by
    refine h.workers ⟨call, wk, none⟩ ?_
    rw [hp]
    exact mem_append_right _ mem_cons_self
  refine ⟨?_, h.drawn, ?_, ?_, ?_, ?_, h.collected⟩
  · have hl := h.limit
    rw [hp] at hl
    simpa using hl
  · have hta := h.tasks
    rw [hp] at hta
    simpa using hta
  · -- the call moves from the tasks that run to those that were executed
    have he := h.executed
    rw [hp] at he
    have hb : unfinished (front ++ ⟨call, wk, none⟩ :: back)
        = unfinished front ++ call :: unfinished back := by simp [unfinished]
    have haf : unfinished (front ++ ⟨call, wk, some joined⟩ :: back)
        = unfinished front ++ unfinished back := by simp [unfinished]
    rw [hb] at he
    simp only [haf, append_assoc, singleton_append]
    exact he.trans (perm_middle.append_left _)
  · intro task ht
    rcases hmem task ht with rfl | ht
    · exact hw
    · exact h.workers task ht
  · intro task ht answer ha
    rcases hmem task ht with rfl | ht
    · obtain ⟨ord, ho⟩ := hj answer (some.inj ha)
      rw [hw] at ho
      exact ⟨ord, ho⟩
    · exact h.outcomes task ht answer ha

lemma CallsAccounted.take {streams : List (Unfold ε)}
    (hr : s.pendingJobs.length < maxConcurrentJobs)
    (hs : (callsHandedOut streams).Perm (callsHandedOut s.streams ++ [call])) :
    ({ s with
      streams := streams
      pendingJobs := s.pendingJobs ++ [⟨call, r.workerFor call, none⟩]
      taken := s.taken ++ [call] } : State ε).CallsAccounted r := by
  refine ⟨?_, hs.trans (h.drawn.append_right _), ?_, ?_, ?_, ?_, h.collected⟩
  · simp only [length_append, length_singleton]
    omega
  · simp only [map_append, map_cons, map_nil, ← append_assoc]
    exact h.tasks.append_right _
  · have hnew : unfinished (s.pendingJobs ++ [⟨call, r.workerFor call, none⟩])
        = unfinished s.pendingJobs ++ [call] := by simp [unfinished]
    simp only [hnew, ← append_assoc]
    exact h.executed.append_right _
  · intro task ht
    rcases mem_append.mp ht with ht | ht
    · exact h.workers task ht
    · rw [mem_singleton.mp ht]
  · intro task ht answer ha
    rcases mem_append.mp ht with ht | ht
    · exact h.outcomes task ht answer ha
    · rw [mem_singleton.mp ht] at ha
      cases ha

lemma CallsAccounted.collect (hp : s.pendingJobs = front ++ ⟨call, wk, some joined⟩ :: back) :
    ({ s with
      pendingJobs := front ++ back
      collected := s.collected ++ [(call, joined)] } : State ε).CallsAccounted r := by
  have hmem : ∀ task ∈ front ++ back, task ∈ s.pendingJobs := by
    intro task ht
    rw [hp]
    simp only [mem_append, mem_cons] at ht ⊢
    tauto
  refine ⟨?_, h.drawn, ?_, ?_, fun task ht => h.workers task (hmem task ht),
    fun task ht => h.outcomes task (hmem task ht), ?_⟩
  · have hl := h.limit
    rw [hp] at hl
    simp only [length_append, length_cons] at hl ⊢
    omega
  · -- the call moves from the pending tasks to the collected ones
    have hta := h.tasks
    rw [hp] at hta
    simp only [map_append, map_cons, map_nil, append_assoc, singleton_append] at hta ⊢
    exact hta.trans (perm_middle.append_left _)
  · have hex := h.executed
    rw [hp] at hex
    have hs : unfinished (front ++ ⟨call, wk, some joined⟩ :: back)
        = unfinished (front ++ back) := by simp [unfinished]
    rwa [hs] at hex
  · intro entry he answer ha
    rcases mem_append.mp he with he | he
    · exact h.collected entry he answer ha
    rw [mem_singleton.mp he] at ha ⊢
    refine h.outcomes ⟨call, wk, some joined⟩ ?_ answer (congrArg some ha)
    rw [hp]
    exact mem_append_right _ mem_cons_self

lemma CallsAccounted.step (e : Event ε) : (r.step s e).CallsAccounted r := by
  rcases step_change (r := r) s e with heq | hc
  · rw [heq]
    exact h
  generalize r.step s e = s' at hc
  cases hc with
  | streams e streams he hs =>
    exact ⟨h.limit, hs.trans h.drawn, h.tasks, h.executed, h.workers, h.outcomes, h.collected⟩
  | join e front back call worker joined he hp hj => exact h.join hp hj
  | take i streams call hph hr hs => exact h.take hr hs
  | producersEnd i streams error hph her hs =>
    exact ⟨h.limit, hs.trans h.drawn, h.tasks, h.executed, h.workers, h.outcomes, h.collected⟩
  | collect i front back call worker joined hph hp =>
    obtain ⟨consumers, phase, shutdown, heq⟩ := jobFinished_eq
      { s with pendingJobs := front ++ back, collected := s.collected ++ [(call, joined)] } joined
    have h' := h.collect hp
    rw [heq]
    exact ⟨h'.limit, h'.drawn, h'.tasks, h'.executed, h'.workers, h'.outcomes, h'.collected⟩
  | pollShutdownTask =>
    obtain ⟨task, runs, heq⟩ := pollShutdownTask_eq r.shutdownHandler s
    rw [heq]
    exact ⟨h.limit, h.drawn, h.tasks, h.executed, h.workers, h.outcomes, h.collected⟩
  | _ => exact ⟨h.limit, h.drawn, h.tasks, h.executed, h.workers, h.outcomes, h.collected⟩

end

lemma delivered_of_selecting (hp : s.phase = .selecting) :
    s.Delivered ↔ ∀ c ∈ s.consumers, c.received = s.results := by
  simp [Delivered, hp]

lemma delivered_of_broadcasting (hp : s.phase = .broadcasting) : s.Delivered ↔
      ∀ c ∈ s.consumers, ∃ part, s.HasPart c part ∧ part ++ c.sending.getD [] = s.lastResults := by
  simp [Delivered, hp]

lemma delivered_of_returned (hp : s.phase = .returned result left)
    (hr : ∀ e, result ≠ .error (.consumer e)) :
    s.Delivered ↔ ∀ c ∈ s.consumers, c.received = s.results := by
  unfold Delivered
  rw [hp]
  match result with
  | .ok () => exact Iff.rfl
  | .error (.consumer e) => exact absurd rfl (hr e)
  | .error (.backgroundService text) => exact Iff.rfl
  | .error (.producerFailed e) => exact Iff.rfl
  | .error .streamEnded => exact Iff.rfl
  | .error (.jobFailed e) => exact Iff.rfl
  | .error .jobDidntFinish => exact Iff.rfl

lemma delivered_of_consumer {e : ε} (hp : s.phase = .returned (.error (.consumer e)) left) :
    s.Delivered ↔
      s.shutdown = .sent ∧ ∀ c ∈ s.consumers, ∃ part, s.HasPart c part ∧ part <+: s.lastResults := by
  simp [Delivered, hp]

lemma Delivered.leave (hall : ∀ c ∈ s.consumers, c.received = s.results) (signal : Bool)
    (hr : ∀ e, result ≠ .error (.consumer e)) : (s.leave signal result).Delivered := by
  have hp : (s.leave signal result).phase = .returned result locals := rfl
  exact (delivered_of_returned hp hr).mpr hall

lemma delivered_of_broadcastPhase (hp : s.phase = broadcastPhase s.consumers)
    (hpa : ∀ c ∈ s.consumers, ∃ part, s.HasPart c part ∧ part ++ c.sending.getD [] = s.lastResults) :
    s.Delivered := by
  unfold broadcastPhase at hp
  by_cases hall : s.consumers.all (·.sending.isNone)
  · rw [if_pos hall] at hp
    rw [delivered_of_selecting hp]
    intro c hc
    obtain ⟨part, hpt, hl⟩ := hpa c hc
    have hs : c.sending = none := isNone_iff_eq_none.mp (all_eq_true.mp hall c hc)
    rw [hs, getD_none, append_nil] at hl
    rw [hpt, hl, earlierResults_append_lastResults]
  · rw [if_neg hall] at hp
    exact (delivered_of_broadcasting hp).mpr hpa

lemma Delivered.collect (hp : s.phase = .selecting) (h : s.Delivered) (call : JobCall)
    (joined : Joined ε) (pend : List (Task ε)) :
    (jobFinished
      { s with pendingJobs := pend, collected := s.collected ++ [(call, joined)] }
      joined).Delivered := by
  have hall := (delivered_of_selecting hp).mp h
  have hn : ∀ joined : Joined ε, resultsOf joined = [] → ∀ c ∈ s.consumers,
      c.received = (s.collected ++ [(call, joined)]).flatMap fun entry => resultsOf entry.2 := by
    intro joined he c hc
    rw [flatMap_append, flatMap_singleton, he, append_nil]
    exact hall c hc
  match joined with
  | .ok (.ok (some results)) =>
    refine delivered_of_broadcastPhase rfl fun c hc => ⟨[], ?_, ?_⟩
    · obtain ⟨c', hc', rfl⟩ := mem_map.mp hc
      simp only [HasPart, earlierResults, jobFinished, broadcast, dropLast_concat, append_nil]
      exact hall c' hc'
    · obtain ⟨c', hc', rfl⟩ := mem_map.mp hc
      simp [lastResults, jobFinished, broadcast, resultsOf]
  | .ok (.ok none) =>
    refine (delivered_of_selecting ?_).mpr ?_
    · exact hp
    · exact hn _ rfl
  | .ok (.error e) =>
    refine Delivered.leave ?_ false nofun
    exact hn _ rfl
  | .error e =>
    refine Delivered.leave ?_ true nofun
    exact hn _ rfl

section

variable (hph : s.phase = .broadcasting) (h : s.Delivered) {front back : List Consumer}

include hph h

lemma Delivered.accept {rcv rest : List JobResult} {result : JobResult}
    (hco : s.consumers = front ++ ⟨rcv, some (result :: rest)⟩ :: back) :
    ({ s with consumers := front ++ ⟨rcv ++ [result], some rest⟩ :: back } :
      State ε).Delivered := by
  have hp := (delivered_of_broadcasting hph).mp h
  rw [hco] at hp
  refine (delivered_of_broadcasting ?_).mpr fun c hc => ?_
  · exact hph
  rcases mem_append.mp hc with hc | hc
  · exact hp c (mem_append_left _ hc)
  rcases mem_cons.mp hc with rfl | hc
  · -- the result moves from what is to be sent to what was taken
    obtain ⟨part, hpa, hl⟩ := hp _ (mem_append_right _ mem_cons_self)
    refine ⟨part ++ [result], ?_, ?_⟩
    · have hr : rcv = s.earlierResults ++ part := hpa
      simp only [HasPart, hr, append_assoc]
      rfl
    · exact (append_assoc part [result] rest).trans hl
  · exact hp c (mem_append_right _ (mem_cons_of_mem _ hc))

lemma Delivered.flush {rcv : List JobResult} (hco : s.consumers = front ++ ⟨rcv, some []⟩ :: back) :
    ({ s with
      consumers := front ++ ⟨rcv, none⟩ :: back
      phase := broadcastPhase (front ++ ⟨rcv, none⟩ :: back) } : State ε).Delivered := by
  have hp := (delivered_of_broadcasting hph).mp h
  rw [hco] at hp
  refine delivered_of_broadcastPhase rfl fun c hc => ?_
  rcases mem_append.mp hc with hc | hc
  · exact hp c (mem_append_left _ hc)
  · rcases mem_cons.mp hc with rfl | hc
    · exact hp ⟨rcv, some []⟩ (mem_append_right _ mem_cons_self)
    · exact hp c (mem_append_right _ (mem_cons_of_mem _ hc))

end

lemma Delivered.refuse (hp : s.phase = .broadcasting) (h : s.Delivered) (e : ε) :
    (s.leave true (.error (.consumer e))).Delivered := by
  have hpa := (delivered_of_broadcasting hp).mp h
  refine ⟨rfl, fun c hc => ?_⟩
  obtain ⟨part, hpt, hl⟩ := hpa c hc
  exact ⟨part, hpt, ⟨_, hl⟩⟩

lemma Delivered.drop (h : s.Delivered) {l : Local} (hp : s.phase = .returned result (l :: left)) :
    ({ s with
      phase := .returned result left
      shutdown := if l = .shutdownTx ∧ s.shutdown = .unsent then .senderDropped else s.shutdown } :
        State ε).Delivered := by
  by_cases hr : ∃ e, result = .error (.consumer e)
  · obtain ⟨e, rfl⟩ := hr
    obtain ⟨hs, hpa⟩ := (delivered_of_consumer hp).mp h
    exact (delivered_of_consumer rfl).mpr ⟨shutdown_of_sent hs l, hpa⟩
  · have ho : ∀ e, result ≠ .error (.consumer e) := not_exists.mp hr
    exact (delivered_of_returned rfl ho).mpr ((delivered_of_returned hp ho).mp h)

lemma Delivered.step (h : s.Delivered) (e : Event ε) : (r.step s e).Delivered := by
  rcases step_change (r := r) s e with heq | hch
  · rw [heq]
    exact h
  generalize r.step s e = s' at hch
  cases hch with
  | streams | report | join | dropShutdownTask | take | serviceEnded => exact h
  | pollShutdownTask =>
    obtain ⟨task, runs, heq⟩ := pollShutdownTask_eq r.shutdownHandler s
    rw [heq]
    exact h
  | producersEnd i streams error hp her =>
    refine Delivered.leave ((delivered_of_selecting hp).mp h) true fun e he => ?_
    rcases her with rfl | ⟨e', rfl⟩ <;> cases he
  | collect i front back call worker joined hp => exact Delivered.collect hp h call joined _
  | serviceFailed f error hp hf =>
    obtain ⟨i, -, rfl⟩ := StatusFuture.poll_eq_error hf
    refine Delivered.leave ?_ true nofun
    exact (delivered_of_selecting hp).mp h
  | closed hp =>
    exact Delivered.leave ((delivered_of_selecting hp).mp h) false nofun
  | accept i front back received rest result hp hc => exact h.accept hp hc
  | flush i front back received hp hc => exact h.flush hp hc
  | refuse i e hp => exact h.refuse hp e
  | drop result l left hp => exact h.drop hp

structure Accounted (r : FinalizedBlueprintRunner ε) (s : State ε) : Prop where
  calls : s.CallsAccounted r
  delivered : s.Delivered

lemma callsHandedOut_replicate (n : ℕ) :
    callsHandedOut (replicate n (Unfold.new : Unfold ε)) = [] := by
  induction n with
  | zero => rfl
  | succ n ih => exact ih

/-- **Job accounting.** In every run of the loop, each call that producers have handed out was taken, is
or was one task and is executed once, at most 1024 tasks are pending, and every consumer has every
result of the collected jobs in order, except that the failure of a consumer ends the last broadcast,
the loop, and nothing else. -/
theorem always_accounted (r : FinalizedBlueprintRunner ε) (es : List (Event ε)) :
    Always r.step (Accounted r) r.start es := by
  refine always_of_step (fun s e h => ⟨h.calls.step e, h.delivered.step e⟩) ⟨?_, ?_⟩ es
  · refine ⟨Nat.zero_le _, ?_, .refl _, .refl _, nofun, nofun,
      nofun⟩
    simp only [start, callsHandedOut_replicate]
    exact .refl _
  · intro c hc
    have hc' : c ∈ replicate r.consumers (⟨[], none⟩ : Consumer) := hc
    rw [eq_of_mem_replicate hc']
    rfl

def HandedToAll (s : State ε) : Prop :=
  s.phase ≠ .broadcasting → ∀ c ∈ s.consumers, c.received = s.results

end State

abbrev twoConsumers : FinalizedBlueprintRunner String where
  producers := 1
  consumers := 2
  backgroundServices := 0
  router := Routing.Router.new.setFallback fun _ => .ok (some (.ok ∅ [1]))
  faasRegistry := ∅
  shutdownHandler := none

abbrev failedSend : List (Event String) :=
  [.produce 0 (.ok ⟨.ofU8 0, ∅, []⟩), .select (.producers 0), .finish 0 (.started _),
    .select (.pendingJobs 0), .refuse 0 "sink closed"]

theorem failing_consumer_ends_broadcast :
    (failedSend.foldl twoConsumers.step twoConsumers.start).phase
        = .returned (.error (.consumer "sink closed")) locals ∧
      (failedSend.foldl twoConsumers.step twoConsumers.start).results = [.ok ∅ [1]] ∧
      (failedSend.foldl twoConsumers.step twoConsumers.start).consumers.map Consumer.received
        = [[], []] ∧
      ¬ Always twoConsumers.step State.HandedToAll twoConsumers.start failedSend := by
  refine ⟨rfl, rfl, rfl, fun h => ?_⟩
  have hr := h.last nofun _ (mem_cons_of_mem _ mem_cons_self)
  cases hr

end Gadget.Runner
