import Gadget.Runner.MainLoop

/-!
# The shutdown handler and the way out

`with_shutdown_handler` documents that the handler runs before the runner terminates producers,
consumers and background services. The handler is in a task of its own, which waits for a signal. The
loop sends the signal on most of its ways out and then returns, and what it owns is dropped without
waiting for that task. On two ways out it sends nothing, and the task only learns of the end when the
sender is dropped, after the producers.
-/

namespace Gadget.Runner

open Lib.Run FinalizedBlueprintRunner

variable {ε : Type} {r : FinalizedBlueprintRunner ε} {s : State ε}

namespace State

def Dropped (s : State ε) (l : Local) : Prop :=
  ∃ result left, s.phase = .returned result left ∧ l ∉ left

def HasReturned (s : State ε) : Prop := ∃ result, s.phase = .returned result []

/-- The order that is documented: the handler has run before any producer, consumer or background
service is dropped, and it has run once. -/
structure HandlerFirst (s : State ε) : Prop where
  before : ∀ l ∈ [Local.producers, .consumers, .backgroundServices],
    s.Dropped l → s.shutdownTask = .finished
  once : s.HasReturned → s.handlerRuns = 1

end State

def signals : Except (Error ε) Unit → Bool
  | .ok () => false
  | .error (.jobFailed _) => false
  | .error _ => true

def turnsBefore : ℕ → List (Event ε) → Option ℕ
  | _, [] => none
  | 0, .drop :: _ => some 0
  | n + 1, .drop :: es => turnsBefore n es
  | n, .pollShutdownTask :: es => (turnsBefore n es).map (· + 1)
  | n, .dropShutdownTask :: es => (turnsBefore n es).map fun _ => 0
  | n, _ :: es => turnsBefore n es

variable {e : Event ε}

lemma turnsBefore_cons (hd : e ≠ .drop) (hp : e ≠ .pollShutdownTask)
    (ht : e ≠ .dropShutdownTask) (n : ℕ) (es : List (Event ε)) :
    turnsBefore n (e :: es) = turnsBefore n es := by
  cases e with
  | drop => exact absurd rfl hd
  | pollShutdownTask => exact absurd rfl hp
  | dropShutdownTask => exact absurd rfl ht
  | _ =>
    rcases n with _ | n <;> rfl

def InTime (r : FinalizedBlueprintRunner ε) (s : State ε) (result : Except (Error ε) Unit)
    (after : List (Event ε)) : Prop :=
  ∀ turns, turnsBefore 2 after = some turns →
    signals result ∧ s.shutdownTask = .waiting ∧ ∃ n, r.shutdownHandler = some n ∧ n < turns

namespace State

lemma shutdownTask_step (hp : e ≠ .pollShutdownTask) (hd : e ≠ .dropShutdownTask) :
    (r.step s e).shutdownTask = s.shutdownTask ∧ (r.step s e).handlerRuns = s.handlerRuns := by
  rcases step_change (r := r) s e with heq | hc
  · rw [heq]
    exact ⟨rfl, rfl⟩
  generalize r.step s e = s' at hc
  cases hc with
  | pollShutdownTask => exact absurd rfl hp
  | dropShutdownTask => exact absurd rfl hd
  | collect i front back call wk joined =>
    obtain ⟨cs, phase, shutdown, heq⟩ := jobFinished_eq
      { s with pendingJobs := front ++ back, collected := s.collected ++ [(call, joined)] } joined
    rw [heq]
    exact ⟨rfl, rfl⟩
  | _ => exact ⟨rfl, rfl⟩

variable {result : Except (Error ε) Unit}

lemma phase_step_of_returned {left : List Local} (hp : s.phase = .returned result left)
    (hd : e ≠ .drop) : (r.step s e).phase = s.phase ∧ (r.step s e).shutdown = s.shutdown := by
  have hne : s.phase ≠ .selecting ∧ s.phase ≠ .broadcasting := by
    rw [hp]
    exact ⟨nofun, nofun⟩
  rcases step_change (r := r) s e with heq | hc
  · rw [heq]
    exact ⟨rfl, rfl⟩
  generalize r.step s e = s' at hc
  cases hc with
  | streams | report | join | dropShutdownTask => exact ⟨rfl, rfl⟩
  | pollShutdownTask =>
    obtain ⟨task, runs, heq⟩ := pollShutdownTask_eq r.shutdownHandler s
    rw [heq]
    exact ⟨rfl, rfl⟩
  | take i streams call h | producersEnd i streams error h => exact absurd h hne.1
  | collect i front back call worker joined h | serviceEnded f futures h => exact absurd h hne.1
  | serviceFailed f error h | closed h => exact absurd h hne.1
  | accept i front back received rest result h | flush i front back received h | refuse i e h =>
    exact absurd h hne.2
  | drop => exact absurd rfl hd

structure HandlerState (r : FinalizedBlueprintRunner ε) (s : State ε) : Prop where
  finished : s.shutdownTask = .finished → s.handlerRuns = 1
  notFinished : s.shutdownTask ≠ .finished → s.handlerRuns = 0
  running : ∀ polls n, s.shutdownTask = .running polls → r.shutdownHandler = some n → polls ≤ n

def Enough (r : FinalizedBlueprintRunner ε) (s : State ε) (turns : ℕ) : Prop :=
  match s.shutdownTask with
  | .finished => True
  | .gone => False
  | .waiting => s.shutdown ≠ .unsent ∧ ∃ n, r.shutdownHandler = some n ∧ n < turns
  | .running polls => ∃ n, r.shutdownHandler = some n ∧ n < polls + turns

section

variable (h : s.HandlerState r)

include h

lemma enough_zero_iff : s.Enough r 0 ↔ s.shutdownTask = .finished := by
  unfold Enough
  cases ht : s.shutdownTask with
  | waiting | finished | gone => simp
  | running polls =>
    simp only [Nat.add_zero, reduceCtorEq, iff_false, not_exists, not_and, not_lt]
    intro n hn
    exact h.running polls n ht hn

lemma HandlerState.pollHandler (polls : ℕ) (ht : s.shutdownTask ≠ .finished)
    (hp : ∀ n, r.shutdownHandler = some n → polls ≤ n) :
    (s.pollHandler r.shutdownHandler polls).HandlerState r ∧
      ∀ turns, (s.pollHandler r.shutdownHandler polls).Enough r turns ↔
        ∃ n, r.shutdownHandler = some n ∧ n < polls + (turns + 1) := by
  have hr : s.handlerRuns = 0 := h.notFinished ht
  unfold State.pollHandler
  by_cases hd : r.shutdownHandler = some polls
  · rw [if_pos hd]
    refine ⟨⟨fun _ => ?_, fun h => absurd rfl h, nofun⟩, fun turns => ?_⟩
    · simp [hr]
    · refine iff_of_true trivial ⟨polls, hd, ?_⟩
      omega
  · rw [if_neg hd]
    refine ⟨⟨nofun, fun _ => hr, fun k n hk hn => ?_⟩, fun turns => ?_⟩
    · cases hk
      have hle : polls ≤ n := hp n hn
      have hne : polls ≠ n := fun heq => hd (hn.trans (congrArg some heq.symm))
      omega
    · have hsum : polls + 1 + turns = polls + (turns + 1) := by omega
      simp [Enough, hsum]

lemma HandlerState.poll : (r.step s .pollShutdownTask).HandlerState r ∧
      ∀ turns, (r.step s .pollShutdownTask).Enough r turns ↔ s.Enough r (turns + 1) := by
  simp only [step, State.pollShutdownTask]
  cases ht : s.shutdownTask with
  | waiting =>
    by_cases hu : s.shutdown = .unsent
    · simp only [if_pos hu]
      refine ⟨h, fun turns => ?_⟩
      simp [Enough, ht, hu]
    simp only [if_neg hu]
    have hne : s.shutdownTask ≠ .finished := by
      simp [ht]
    obtain ⟨hs, he⟩ := h.pollHandler 0 hne fun n _ => Nat.zero_le n
    refine ⟨hs, fun turns => ?_⟩
    rw [he turns]
    simp [Enough, ht, hu]
  | running polls =>
    have hne : s.shutdownTask ≠ .finished := by
      simp [ht]
    obtain ⟨hs, he⟩ := h.pollHandler polls hne fun n hn => h.running polls n ht hn
    refine ⟨hs, fun turns => ?_⟩
    rw [he turns]
    simp [Enough, ht]
  | finished | gone =>
    refine ⟨h, fun turns => ?_⟩
    simp [Enough, ht]

lemma HandlerState.drop : (r.step s .dropShutdownTask).HandlerState r ∧
      ∀ turns, (r.step s .dropShutdownTask).Enough r turns ↔ s.Enough r 0 := by
  simp only [step, State.dropShutdownTask]
  by_cases ht : s.shutdownTask = .finished
  · simp only [if_pos ht]
    refine ⟨⟨fun _ => h.finished ht, fun h => absurd rfl h, ?_⟩, fun turns => ?_⟩
    · intro polls n hr
      cases hr
    · simp [Enough, ht]
  · simp only [if_neg ht]
    refine ⟨⟨?_, fun _ => h.notFinished ht, ?_⟩, fun turns => ?_⟩
    · intro hf
      cases hf
    · intro polls n hr
      cases hr
    · rw [enough_zero_iff h]
      simp [Enough, ht]

lemma HandlerState.congr {s' : State ε} (ht : s'.shutdownTask = s.shutdownTask)
    (hr : s'.handlerRuns = s.handlerRuns) : s'.HandlerState r := by
  refine ⟨?_, ?_, ?_⟩
  · rw [ht, hr]
    exact h.finished
  · rw [ht, hr]
    exact h.notFinished
  · rw [ht]
    exact h.running

lemma HandlerState.step (hd : e ≠ .drop) (hsh : (r.step s e).shutdown = s.shutdown) :
    (r.step s e).HandlerState r ∧ ∃ f : ℕ → ℕ,
      (∀ n es, turnsBefore n (e :: es) = (turnsBefore n es).map f) ∧
        ∀ turns, (r.step s e).Enough r turns ↔ s.Enough r (f turns) := by
  by_cases hp : e = .pollShutdownTask
  · subst hp
    obtain ⟨hs, he⟩ := h.poll
    refine ⟨hs, (· + 1), fun n es => ?_, he⟩
    rw [turnsBefore]
  by_cases ht : e = .dropShutdownTask
  · subst ht
    obtain ⟨hs, he⟩ := h.drop
    refine ⟨hs, fun _ => 0, fun n es => ?_, he⟩
    rw [turnsBefore]
  · obtain ⟨ht', hr'⟩ := shutdownTask_step (r := r) (s := s) hp ht
    refine ⟨h.congr ht' hr', id, fun n es => ?_, fun turns => ?_⟩
    · rw [turnsBefore_cons hd hp ht, Option.map_id, id]
    · simp [Enough, ht', hsh, id]

end

lemma always_of_finished (ht : s.shutdownTask = .finished) (hr : s.handlerRuns = 1)
    (es : List (Event ε)) : Always r.step HandlerFirst s es := by
  have hk : Always r.step (fun s => s.shutdownTask = .finished ∧ s.handlerRuns = 1) s es := by
    refine always_of_step ?_ ⟨ht, hr⟩ es
    rintro s e ⟨ht, hr⟩
    by_cases hp : e = .pollShutdownTask
    · subst hp
      simp only [step, State.pollShutdownTask, ht]
      exact ⟨trivial, hr⟩
    by_cases hd : e = .dropShutdownTask
    · subst hd
      simp only [step, State.dropShutdownTask, ht, if_true]
      exact ⟨trivial, hr⟩
    · obtain ⟨ht', hr'⟩ := shutdownTask_step (r := r) (s := s) hp hd
      exact ⟨ht'.trans ht, hr'.trans hr⟩
  exact hk.mono fun s h => ⟨fun _ _ _ => h.1, fun _ => h.2⟩

lemma handlerFirst_of_left {n : ℕ} (hn : n ≤ 2)
    (hp : s.phase = .returned result (locals.drop (2 - n))) : s.HandlerFirst := by
  have hk : ∀ l ∈ [Local.producers, .consumers, .backgroundServices], l ∈ locals.drop (2 - n) := by
    match n, hn with
    | 0, _ => decide
    | 1, _ => decide
    | 2, _ => decide
  refine ⟨fun l hl hd => ?_, fun hr => ?_⟩
  · obtain ⟨res', left, hp', hle⟩ := hd
    rw [hp] at hp'
    cases hp'
    exact absurd (hk l hl) hle
  · obtain ⟨res', hp'⟩ := hr
    have hmem := hk .producers List.mem_cons_self
    rw [hp] at hp'
    injection hp' with _ hle
    rw [hle] at hmem
    cases hmem

lemma step_drop {l : Local} {left : List Local} (hp : s.phase = .returned result (l :: left))
    (hl : l ≠ .shutdownTx) : r.step s .drop = { s with phase := .returned result left } := by
  have hne : ¬ (l = .shutdownTx ∧ s.shutdown = .unsent) := fun h => hl h.1
  simp [step, State.drop, hp, if_neg hne]

lemma always_drop_producers_iff (hp : s.phase = .returned result (locals.drop 2))
    (h : s.HandlerState r) (es : List (Event ε)) :
    Always r.step HandlerFirst (r.step s .drop) es ↔ s.shutdownTask = .finished := by
  have hs : r.step s .drop = { s with phase := .returned result (locals.drop 3) } :=
    step_drop hp (by decide)
  rw [hs]
  constructor
  · intro ha
    refine ha.head.before .producers List.mem_cons_self ?_
    exact ⟨result, locals.drop 3, rfl, by decide⟩
  · intro ht
    have ht' : ({ s with phase := .returned result (locals.drop 3) } : State ε).shutdownTask
        = .finished := ht
    exact always_of_finished ht' (h.finished ht) es

/-- **After the return**, with `n` locals to drop before the producers: the order is kept exactly when
the polls that come before are enough. -/
theorem always_handlerFirst_after (n : ℕ) (hn : n ≤ 2)
    (hp : s.phase = .returned result (locals.drop (2 - n))) (h : s.HandlerState r)
    (es : List (Event ε)) :
    Always r.step HandlerFirst s es ↔
      ∀ turns, turnsBefore n es = some turns → s.Enough r turns := by
  induction es generalizing n s with
  | nil => exact iff_of_true (handlerFirst_of_left hn hp) nofun
  | cons e es ih =>
    have hf : s.HandlerFirst := handlerFirst_of_left hn hp
    have ha : Always r.step HandlerFirst s (e :: es) ↔
        Always r.step HandlerFirst (r.step s e) es := and_iff_right hf
    rw [ha]
    by_cases hd : e = .drop
    · subst hd
      match n, hn with
      | 0, _ =>
        rw [always_drop_producers_iff hp h, ← enough_zero_iff h]
        simp [turnsBefore, forall_eq']
      | 1, _ =>
        have hs : r.step s .drop = { s with phase := .returned result (locals.drop 2) } :=
          step_drop hp (by decide)
        rw [hs]
        exact ih 0 (Nat.zero_le 2) rfl (h.congr rfl rfl)
      | 2, _ =>
        have hs : r.step s .drop = { s with phase := .returned result (locals.drop 1) } :=
          step_drop hp (by decide)
        rw [hs]
        exact ih 1 (by decide) rfl (h.congr rfl rfl)
    · obtain ⟨hp', hsh⟩ := phase_step_of_returned (r := r) hp hd
      obtain ⟨hst, f, ht, he⟩ := h.step hd hsh
      rw [ih n hn (hp'.trans hp) hst, ht]
      simp only [he]
      rcases turnsBefore n es with _ | turns <;> simp

structure Idle (s : State ε) : Prop where
  running : s.Running
  unsent : s.shutdown = .unsent
  task : s.shutdownTask = .waiting ∨ s.shutdownTask = .gone
  runs : s.handlerRuns = 0

lemma Idle.not_finished (h : s.Idle) : s.shutdownTask ≠ .finished := by
  rcases h.task with ht | ht <;> simp [ht]

lemma Idle.not_polled (h : s.Idle) (polls : ℕ) : s.shutdownTask ≠ .running polls := by
  rcases h.task with ht | ht <;> simp [ht]

structure Left (s : State ε) (result : Except (Error ε) Unit) (s' : State ε) : Prop where
  phase : s'.phase = .returned result locals
  shutdown : s'.shutdown = if signals result then .sent else .unsent
  task : s'.shutdownTask = s.shutdownTask
  runs : s'.handlerRuns = s.handlerRuns

lemma Idle.step (h : s.Idle) (e : Event ε) :
    (r.step s e).Idle ∨ ∃ result, Left s result (r.step s e) := by
  rcases step_change (r := r) s e with heq | hc
  · rw [heq]
    exact .inl h
  generalize r.step s e = s' at hc
  cases hc with
  | streams | report | join | take | serviceEnded | accept =>
    exact .inl ⟨h.running, h.unsent, h.task, h.runs⟩
  | pollShutdownTask =>
    -- there is nothing to receive yet
    have hpo : s.pollShutdownTask r.shutdownHandler = s := by
      unfold State.pollShutdownTask
      rcases h.task with ht | ht
      · simp [ht, h.unsent]
      · simp [ht]
    rw [hpo]
    exact .inl h
  | dropShutdownTask =>
    exact .inl ⟨h.running, h.unsent, .inr (if_neg h.not_finished), h.runs⟩
  | producersEnd i streams error hp he =>
    rcases he with rfl | ⟨e, rfl⟩ <;> exact .inr ⟨_, rfl, rfl, rfl, rfl⟩
  | collect i front back call worker joined hp =>
    match joined with
    | .ok (.ok (some results)) =>
      exact .inl ⟨running_of_phase_broadcastPhase rfl, h.unsent, h.task, h.runs⟩
    | .ok (.ok none) => exact .inl ⟨h.running, h.unsent, h.task, h.runs⟩
    | .ok (.error e) => exact .inr ⟨_, rfl, h.unsent, rfl, rfl⟩
    | .error e => exact .inr ⟨_, rfl, rfl, rfl, rfl⟩
  | serviceFailed f error hp hf =>
    obtain ⟨i, -, rfl⟩ := StatusFuture.poll_eq_error hf
    exact .inr ⟨_, rfl, rfl, rfl, rfl⟩
  | closed => exact .inr ⟨_, rfl, h.unsent, rfl, rfl⟩
  | flush => exact .inl ⟨running_of_phase_broadcastPhase rfl, h.unsent, h.task, h.runs⟩
  | refuse => exact .inr ⟨_, rfl, rfl, rfl, rfl⟩
  | drop result l left hp => exact absurd h.running (not_running hp)

lemma Idle.handlerFirst (h : s.Idle) : s.HandlerFirst := by
  refine ⟨fun l _ hd => ?_, fun hr => ?_⟩
  · obtain ⟨result, left, hp, -⟩ := hd
    exact absurd h.running (not_running hp)
  · obtain ⟨result, hp⟩ := hr
    exact absurd h.running (not_running hp)

lemma Left.always_iff (h : s.Idle) {s' : State ε} (hl : Left s result s') (es : List (Event ε)) :
    Always r.step HandlerFirst s' es ↔ InTime r s result es := by
  have hru : s'.handlerRuns = 0 := hl.runs.trans h.runs
  have hs : s'.HandlerState r := by
    refine ⟨fun hf => ?_, fun _ => hru, fun polls n hr _ => ?_⟩
    · exact absurd (hl.task.symm.trans hf) h.not_finished
    · exact absurd (hl.task.symm.trans hr) (h.not_polled polls)
  have he : ∀ turns, s'.Enough r turns ↔
      signals result ∧ s.shutdownTask = .waiting ∧ ∃ n, r.shutdownHandler = some n ∧ n < turns := by
    intro turns
    unfold Enough
    rw [hl.task, hl.shutdown]
    rcases h.task with ht | ht
    · rw [ht]
      rcases signals result with _ | _ <;> simp
    · rw [ht]
      simp
  rw [always_handlerFirst_after 2 (Nat.le_refl 2) hl.phase hs, InTime]
  simp [he]

def LeavesInTime (r : FinalizedBlueprintRunner ε) (s : State ε) (e : Event ε)
    (after : List (Event ε)) : Prop :=
  s.Running → ∀ result left, (r.step s e).phase = .returned result left → InTime r s result after

lemma Idle.always_iff_leavesInTime (h : s.Idle) (es : List (Event ε)) :
    Always r.step HandlerFirst s es ↔ ∀ before e after, es = before ++ e :: after →
        LeavesInTime r (before.foldl r.step s) e after := by
  induction es generalizing s with
  | nil =>
    refine iff_of_true h.handlerFirst fun before e after hes => ?_
    exact absurd hes (nil_ne_split before e after)
  | cons e es ih =>
    have ha : Always r.step HandlerFirst s (e :: es) ↔
        Always r.step HandlerFirst (r.step s e) es := and_iff_right h.handlerFirst
    refine ha.trans (Iff.trans ?_ forall_split_cons.symm)
    rcases h.step (r := r) e with hi | ⟨result, hl⟩
    · refine (ih hi).trans (and_iff_right ?_).symm
      intro _ result left hp
      exact absurd hi.running (not_running hp)
    rw [hl.always_iff h]
    constructor
    · intro hin
      refine ⟨fun _ result' left hp => ?_, fun before e' after _ hr => ?_⟩
      · have hp' : (r.step s e).phase = .returned result' left := hp
        rw [hl.phase] at hp'
        cases hp'
        exact hin
      · -- the loop leaves once
        have hb : (r.step s e).Running := running_of_foldl (r := r) hr
        exact absurd hb (not_running hl.phase)
    · intro hall
      exact hall.1 h.running result locals hl.phase

/-- **The documented order**, in every run: it is kept exactly when, at the step with which the loop
leaves, the shutdown is signalled and the handler's task is there and gets enough polls before the
producers are dropped. -/
theorem always_handlerFirst_iff (r : FinalizedBlueprintRunner ε) (es : List (Event ε)) :
    Always r.step HandlerFirst r.start es ↔ ∀ before e after, es = before ++ e :: after →
        LeavesInTime r (before.foldl r.step r.start) e after :=
  Idle.always_iff_leavesInTime ⟨.inl rfl, rfl, .inl rfl, rfl⟩ es

end State

abbrev failingJob : FinalizedBlueprintRunner String where
  producers := 1
  consumers := 1
  backgroundServices := 1
  router := Routing.Router.new.setFallback fun _ => .error "out of gas"
  faasRegistry := ∅
  shutdownHandler := some 0

abbrev failedJob : List (Event String) :=
  [.produce 0 (.ok ⟨.ofU8 0, ∅, []⟩), .select (.producers 0), .finish 0 (.started _),
    .select (.pendingJobs 0), .pollShutdownTask, .drop, .pollShutdownTask, .drop, .pollShutdownTask,
    .drop]

theorem failed_job_skips_handler : (failedJob.foldl failingJob.step failingJob.start).phase
        = .returned (.error (.jobFailed "out of gas"))
          [.shutdownTx, .backgroundServices, .consumers] ∧
      (failedJob.foldl failingJob.step failingJob.start).shutdown = .unsent ∧
      (failedJob.foldl failingJob.step failingJob.start).shutdownTask = .waiting ∧
      ¬ Always failingJob.step State.HandlerFirst failingJob.start failedJob := by
  have hp : (failedJob.foldl failingJob.step failingJob.start).phase
      = .returned (.error (.jobFailed "out of gas"))
        [.shutdownTx, .backgroundServices, .consumers] := rfl
  refine ⟨hp, rfl, rfl, fun h => ?_⟩
  have ht := h.last.before .producers List.mem_cons_self ⟨_, _, hp, by decide⟩
  cases ht

end Gadget.Runner
