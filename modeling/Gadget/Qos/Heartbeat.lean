import Gadget.Lib.Run
import Gadget.Rust.HashMap

/-!
# Heartbeats

The values of a service share the flag, the handle and the loops. A start sets the flag, waits for the jitter, spawns
the loop and then stores its handle. A stop clears the flag and then takes the handle. The other operations can come
in between, and a loop that is running when it is aborted goes on to its next await.
-/

namespace Gadget.Qos

open Rust Lib.Run

/-- A spawned task. -/
structure Loop where
  id : ℕ
  /-- It has seen the flag set and goes on to send a heartbeat. -/
  checked : Bool := false
  /-- It is being polled. -/
  active : Bool := false
  aborted : Bool := false

inductive LoopEvent where
  | wake
  | check
  | send
  /-- It comes to an await that is not ready, in which an aborted task ends. -/
  | rest

namespace Loop

variable (l : Loop)

/-- One event of a task, which may end with it. -/
def step (running : Bool) : LoopEvent → Option Loop
  | .wake => some { l with active := true }
  | .check =>
    if l.active && !l.checked then if running then some { l with checked := true } else none else some l
  | .send => some { l with checked := l.checked && !l.active }
  | .rest => if l.aborted then none else some { l with active := false }

/-- A task that is not being polled is never polled again. -/
def abort : Option Loop := if l.active then some { l with aborted := true } else none

variable {l} {l' : Loop} {running : Bool} {e : LoopEvent}

lemma step_eq_some (h : l.step running e = some l') : l'.id = l.id ∧ l'.aborted = l.aborted := by
  cases e <;> simp only [step, Option.some.injEq] at h <;> (try split_ifs at h) <;> cases h <;> exact ⟨rfl, rfl⟩

lemma step_isSome (ha : l.aborted = false) : ∃ l', l.step true e = some l' := by
  cases e with
  | check =>
    by_cases hc : (l.active && !l.checked) = true
    · exact ⟨_, by rw [step, if_pos hc, if_pos rfl]⟩
    · exact ⟨_, by rw [step, if_neg hc]⟩
  | rest => exact ⟨_, by rw [step, ha, if_neg Bool.false_ne_true]⟩
  | wake | send => exact ⟨_, rfl⟩

end Loop

structure HeartbeatService where
  running : Bool := false
  taskHandle : Option ℕ := none
  loops : List Loop := []
  spawned : ℕ := 0
  /-- The starts that wait for the jitter. -/
  starting : ℕ := 0
  /-- The loops whose handle is not yet stored. -/
  storing : List ℕ := []
  /-- The stops that have cleared the flag and not yet taken the handle. -/
  stopping : ℕ := 0
  clones : ℕ := 1
  /-- Which of `Ok(())` from a start and from a stop came last, if no start or stop has begun since. -/
  started : Option Bool := none
  /-- A heartbeat was sent after a stop and before the next start. -/
  late : Bool := false

inductive HeartbeatStep where
  | start
  | spawn
  | store (i : ℕ)
  | stop
  | take
  | clone
  /-- The handle may be locked. -/
  | drop (locked : Bool)
  | loop (i : ℕ) (e : LoopEvent)

namespace HeartbeatService

variable (w : HeartbeatService)

def onLoop (i : ℕ) (f : Loop → Option Loop) : List Loop :=
  w.loops.filterMap fun l => if l.id = i then f l else some l

def abort : HeartbeatService :=
  match w.taskHandle with
  | none => w
  | some i => { w with taskHandle := none, loops := w.onLoop i Loop.abort }

/-- The loop is about to send a heartbeat. -/
def sends (i : ℕ) : Bool := w.loops.any fun l => l.id == i && l.active && l.checked

/-- `start_heartbeat` from one await to the next, `stop_heartbeat` likewise, `clone`, `drop`, and what the loops do. -/
def step : HeartbeatStep → HeartbeatService
  | .start =>
    if w.clones = 0 ∨ w.running then w
    else { w with running := true, starting := w.starting + 1, started := none }
  | .spawn =>
    if w.starting = 0 then w
    else { w with
      loops := { id := w.spawned } :: w.loops, storing := w.spawned :: w.storing, spawned := w.spawned + 1
      starting := w.starting - 1 }
  | .store i =>
    if i ∈ w.storing then { w with taskHandle := some i, storing := w.storing.erase i, started := some true } else w
  | .stop =>
    if w.clones = 0 ∨ !w.running then w
    else { w with running := false, stopping := w.stopping + 1, started := none }
  | .take => if w.stopping = 0 then w else { w.abort with stopping := w.stopping - 1, started := some false }
  | .clone => if w.clones = 0 then w else { w with clones := w.clones + 1 }
  | .drop locked =>
    if w.clones = 0 then w
    else if locked then { w with clones := w.clones - 1 } else { w.abort with clones := w.clones - 1 }
  | .loop i e =>
    { w with
      loops := w.onLoop i (·.step w.running e)
      late := w.late || (w.started == some false && w.sends i && e matches .send) }

/-- One loop at a time, from a start to the next stop, and no heartbeat after a stop. -/
structure Lifecycle : Prop where
  atMostOne : w.loops.length ≤ 1
  started : w.started = some true → w.clones ≠ 0 → ∃ l ∈ w.loops, l.aborted = false
  stopped : w.late = false

/-- No start, stop or drop comes while a start or a stop is under way, the handle is taken while the loop waits, and no
value is dropped while there is another. -/
def Alone : HeartbeatStep → Prop
  | .start => w.stopping = 0
  | .stop => w.starting = 0 ∧ w.storing = []
  | .take => ∀ l ∈ w.loops, l.active = false
  | .drop _ => w.starting = 0 ∧ w.storing = [] ∧ w.stopping = 0 ∧ w.clones ≤ 1
  | _ => True

/-- The stages that a service goes through. -/
inductive Stage : Prop
  | idle (hr : w.running = false) (hl : w.loops = []) (hs : w.starting = 0) (hi : w.storing = []) (ht : w.stopping = 0)
      (hn : w.started ≠ some true)
  | starting (hr : w.running = true) (hl : w.loops = []) (hs : w.starting = 1) (hi : w.storing = [])
      (ht : w.stopping = 0) (hn : w.started = none)
  | storing {l : Loop} (hr : w.running = true) (hl : w.loops = [l]) (ha : l.aborted = false) (hs : w.starting = 0)
      (hi : w.storing = [l.id]) (ht : w.stopping = 0) (hn : w.started = none)
  | looping {l : Loop} (hr : w.running = true) (hl : w.loops = [l]) (ha : l.aborted = false) (hs : w.starting = 0)
      (hi : w.storing = []) (ht : w.stopping = 0) (hh : w.taskHandle = some l.id) (hn : w.started = some true)
  | stopping {i : ℕ} (hr : w.running = false) (hl : w.loops.length ≤ 1) (hid : ∀ l ∈ w.loops, l.id = i)
      (hs : w.starting = 0) (hi : w.storing = []) (ht : w.stopping = 1) (hh : w.taskHandle = some i)
      (hn : w.started = none)
  | dropped (hc : w.clones = 0) (hl : w.loops.length ≤ 1) (hs : w.starting = 0) (hi : w.storing = [])
      (ht : w.stopping = 0) (hn : w.started = some false → w.loops = [])

/-- The stage of the service; nothing was sent after a stop. -/
structure Tidy : Prop where
  stage : w.Stage
  stopped : w.late = false

variable {w}

lemma Tidy.lifecycle (h : w.Tidy) : w.Lifecycle := by
  refine ⟨?_, fun hs hc => ?_, h.stopped⟩
  · cases h.stage with
    | idle _ hl | starting _ hl | storing _ hl | looping _ hl => simp [hl]
    | stopping _ hl | dropped _ hl => exact hl
  · cases h.stage with
    | looping _ hl ha => exact ⟨_, by rw [hl]; exact List.mem_cons_self .., ha⟩
    | _ => simp_all

lemma length_onLoop_le (i : ℕ) (f : Loop → Option Loop) : (w.onLoop i f).length ≤ w.loops.length :=
  List.length_filterMap_le ..

/-- A loop that is not aborted goes on as long as the flag is set. -/
lemma onLoop_step {l : Loop} (hl : w.loops = [l]) (ha : l.aborted = false) (i : ℕ) (e : LoopEvent) :
    ∃ l', w.onLoop i (·.step true e) = [l'] ∧ l'.id = l.id ∧ l'.aborted = false := by
  obtain ⟨l', hl'⟩ := Loop.step_isSome (e := e) ha
  obtain ⟨hid, hab⟩ := Loop.step_eq_some hl'
  by_cases hi : l.id = i
  · exact ⟨l', by simp [onLoop, hl, hi, hl'], hid, hab.trans ha⟩
  · exact ⟨l, by simp [onLoop, hl, hi], rfl, ha⟩

lemma id_of_mem_onLoop {i j : ℕ} {running : Bool} {e : LoopEvent} (hid : ∀ l ∈ w.loops, l.id = j) :
    ∀ l ∈ w.onLoop i (·.step running e), l.id = j := by
  intro l hm
  obtain ⟨l', hm', hl⟩ := List.mem_filterMap.mp hm
  split_ifs at hl
  · rw [(Loop.step_eq_some hl).1, hid l' hm']
  · cases hl
    exact hid _ hm'

lemma abort_eq (w : HeartbeatService) :
    w.abort = { w with taskHandle := none, loops := w.abort.loops } := by
  unfold abort
  split
  · rename_i h
    rw [← h]
  · rfl

lemma abort_late : w.abort.late = w.late := by
  unfold abort
  split <;> rfl

lemma length_abort_loops_le : w.abort.loops.length ≤ w.loops.length := by
  unfold abort
  split
  · exact le_rfl
  · exact length_onLoop_le ..

/-- Taking the handle ends a loop that waits. -/
lemma abort_loops_eq_nil {i : ℕ} (hh : w.taskHandle = some i) (hid : ∀ l ∈ w.loops, l.id = i)
    (hw : ∀ l ∈ w.loops, l.active = false) : w.abort.loops = [] := by
  simp only [abort, hh, onLoop, List.filterMap_eq_nil_iff]
  intro l hl
  rw [if_pos (hid l hl), Loop.abort, hw l hl]
  rfl

lemma Stage.loop (h : w.Stage) (i : ℕ) (e : LoopEvent) : (w.step (.loop i e)).Stage := by
  cases h with
  | idle hr hl hs hi ht hn => exact .idle hr (by simp [HeartbeatService.step, onLoop, hl]) hs hi ht hn
  | starting hr hl hs hi ht hn => exact .starting hr (by simp [HeartbeatService.step, onLoop, hl]) hs hi ht hn
  | storing hr hl ha hs hi ht hn =>
    obtain ⟨l', hl', hid, ha'⟩ := onLoop_step hl ha i e
    exact .storing hr (by rw [← hl', ← hr]; rfl) ha' hs (by rw [hid]; exact hi) ht hn
  | looping hr hl ha hs hi ht hh hn =>
    obtain ⟨l', hl', hid, ha'⟩ := onLoop_step hl ha i e
    exact .looping hr (by rw [← hl', ← hr]; rfl) ha' hs hi ht (by rw [hid]; exact hh) hn
  | stopping hr hl hid hs hi ht hh hn =>
    exact .stopping hr ((length_onLoop_le ..).trans hl) (id_of_mem_onLoop hid) hs hi ht hh hn
  | dropped hc hl hs hi ht hn =>
    exact .dropped hc ((length_onLoop_le ..).trans hl) hs hi ht fun hf => by
      simp [HeartbeatService.step, onLoop, hn hf]

lemma Stage.step (h : w.Stage) {e : HeartbeatStep} (he : w.Alone e) : (w.step e).Stage := by
  cases e with
  | loop i e => exact h.loop i e
  | start =>
    simp only [HeartbeatService.step]
    split_ifs with hc
    · exact h
    · cases h with
      | idle hr hl hs hi ht hn => exact .starting rfl hl (by rw [hs]) hi ht rfl
      | _ => simp_all [Alone]
  | spawn =>
    simp only [HeartbeatService.step]
    split_ifs with hs
    · exact h
    · cases h with
      | starting hr hl hs' hi ht hn =>
        exact .storing hr (by rw [hl]) rfl (by rw [hs']) (by rw [hi]) ht hn
      | _ => contradiction
  | store i =>
    simp only [HeartbeatService.step]
    split_ifs with hs
    · cases h with
      | storing hr hl ha hst hi ht hn =>
        rw [hi, List.mem_singleton] at hs
        exact .looping hr hl ha hst (by simp [hi, hs]) ht (by rw [hs]) rfl
      | _ => simp_all
    · exact h
  | stop =>
    simp only [HeartbeatService.step]
    split_ifs with hc
    · exact h
    · cases h with
      | looping hr hl ha hs hi ht hh hn =>
        exact .stopping rfl (by simp [hl]) (by simp [hl]) hs hi (by rw [ht]) hh rfl
      | _ => simp_all [Alone]
  | take =>
    simp only [HeartbeatService.step]
    split_ifs with hc
    · exact h
    · cases h with
      | stopping hr hl hid hs hi ht hh hn =>
        rw [abort_eq, abort_loops_eq_nil hh hid he]
        exact .idle hr rfl hs hi (by rw [ht]) (by simp)
      | _ => contradiction
  | clone =>
    simp only [HeartbeatService.step]
    split_ifs with hc
    · exact h
    · cases h with
      | idle hr hl hs hi ht hn => exact .idle hr hl hs hi ht hn
      | starting hr hl hs hi ht hn => exact .starting hr hl hs hi ht hn
      | storing hr hl ha hs hi ht hn => exact .storing hr hl ha hs hi ht hn
      | looping hr hl ha hs hi ht hh hn => exact .looping hr hl ha hs hi ht hh hn
      | stopping hr hl hid hs hi ht hh hn => exact .stopping hr hl hid hs hi ht hh hn
      | dropped hc' => contradiction
  | drop locked =>
    obtain ⟨hs, hi, ht, hc⟩ := he
    have hle : w.loops.length ≤ 1 ∧ (w.started = some false → w.loops = []) := by
      cases h <;> simp_all
    have hz : w.clones - 1 = 0 := Nat.sub_eq_zero_of_le hc
    simp only [HeartbeatService.step]
    split_ifs
    · exact h
    · exact .dropped hz hle.1 hs hi ht hle.2
    · rw [abort_eq]
      refine .dropped hz (length_abort_loops_le.trans hle.1) hs hi ht fun hf => ?_
      exact List.eq_nil_of_length_eq_zero (Nat.le_zero.mp (length_abort_loops_le.trans_eq (by rw [hle.2 hf]; rfl)))

lemma late_step {e : HeartbeatStep} (h : w.Tidy) : (w.step e).late = false := by
  cases e with
  | loop i e =>
    -- after a stop there is no loop
    have hl : w.started = some false → w.sends i = false := by
      intro hf
      have hn : w.loops = [] := by cases h.stage <;> simp_all
      rw [sends, hn]
      rfl
    by_cases hf : w.started = some false <;> simp [step, h.stopped, hf, hl]
  | take | drop =>
    simp only [step]
    split_ifs
    all_goals first | exact h.stopped | exact abort_late.trans h.stopped
  | _ =>
    simp only [step]
    split_ifs <;> exact h.stopped

/-- **Heartbeat lifecycle.** One loop runs from a start to the next stop or to the drop of the last value, and sends
nothing after the stop, when starts, stops and drops do not overlap, the loop waits when its handle is taken and no
value is dropped while there is another. -/
theorem lifecycle_of_alone (es : List HeartbeatStep) (h : Each step Alone {} es) : Always step Lifecycle {} es :=
  always_of_each (J := Tidy) (fun _ _ h he => ⟨h.stage.step he, late_step h⟩) (fun _ h => h.lifecycle)
    ⟨.idle rfl rfl rfl rfl rfl nofun, rfl⟩ h

theorem lifecycle_restart :
    Always step Lifecycle {} [.start, .spawn, .store 0, .loop 0 .wake, .loop 0 .check, .loop 0 .send, .loop 0 .rest,
      .stop, .take, .start, .spawn, .store 1, .drop false] :=
  lifecycle_of_alone _ (by simp [Each, Alone, step, abort, onLoop, Loop.step, Loop.abort])

/-- Dropping a clone ends the loop; a start that waits while the service is stopped and started again
spawns a second loop; a loop that is stopped before its handle is stored sends a heartbeat. -/
theorem lifecycle_broken :
    ¬ Always step Lifecycle {} [.start, .spawn, .store 0, .clone, .drop false] ∧
      ¬ Always step Lifecycle {} [.start, .stop, .take, .start, .spawn, .spawn] ∧
      ¬ Always step Lifecycle {} [.start, .spawn, .loop 0 .wake, .loop 0 .check, .stop, .take, .loop 0 .send] := by
  refine ⟨fun h => ?_, fun h => absurd h.last.atMostOne (by decide), fun h => absurd h.last.stopped (by decide)⟩
  obtain ⟨l, hl, -⟩ := h.last.started rfl nofun
  cases hl

end HeartbeatService

/-! ## On-chain metrics

Metrics are kept until a heartbeat is confirmed. Each value has the number of its recording. -/

/-- The metrics in a heartbeat, and how many recordings there were when it read them. -/
structure Submission where
  metrics : HashMap (List Char) (ℕ × ℕ)
  count : ℕ

structure Metrics where
  onChainMetrics : HashMap (List Char) (ℕ × ℕ) := ∅
  latest : HashMap (List Char) (ℕ × ℕ) := ∅
  count : ℕ := 0
  sending : List Submission := []
  confirmed : List Submission := []

inductive MetricsStep where
  | addOnChainMetric (key : List Char) (value : ℕ)
  | getCustomMetrics
  /-- An error, a reverted transaction, or a confirmed one after which the metrics are cleared. -/
  | finish (i : ℕ) (status : Bool)

namespace Metrics

variable (w : Metrics)

def step : MetricsStep → Metrics
  | .addOnChainMetric key value => { w with
    onChainMetrics := w.onChainMetrics.insert key (value, w.count)
    latest := w.latest.insert key (value, w.count)
    count := w.count + 1 }
  | .getCustomMetrics => { w with sending := ⟨w.onChainMetrics, w.count⟩ :: w.sending }
  | .finish i status =>
    match w.sending[i]? with
    | none => w
    | some s =>
      let w := { w with sending := w.sending.eraseIdx i }
      if status then { w with onChainMetrics := ∅, confirmed := s :: w.confirmed } else w

/-- The latest recording of each metric, which has overwritten the earlier ones, is stored or confirmed. -/
def Kept : Prop :=
  ∀ key r, w.latest.lookup key = some r →
    w.onChainMetrics.lookup key = some r ∨ ∃ s ∈ w.confirmed, s.metrics.lookup key = some r

/-- Nothing was recorded since the heartbeat read the metrics. -/
def ClearsSent : MetricsStep → Prop
  | .finish i true => ∀ s ∈ w.sending[i]?, s.count = w.count
  | _ => True

structure Consistent : Prop where
  kept : w.Kept
  read : ∀ s ∈ w.sending, s.count ≤ w.count ∧ (s.count = w.count →
    ∀ key r, w.onChainMetrics.lookup key = some r → s.metrics.lookup key = some r)

variable {w}

lemma Consistent.step (h : w.Consistent) {e : MetricsStep} (he : w.ClearsSent e) : (w.step e).Consistent := by
  cases e with
  | addOnChainMetric key value =>
    refine ⟨fun key' r hr => ?_, fun s hs => ?_⟩
    · simp only [Metrics.step, HashMap.lookup_insert_eq] at hr ⊢
      split_ifs at hr ⊢
      · exact .inl hr
      · exact h.kept key' r hr
    · have hle := (h.read s hs).1
      exact ⟨Nat.le_succ_of_le hle, fun hn => absurd hn (Nat.lt_succ_of_le hle).ne⟩
  | getCustomMetrics => exact ⟨h.kept, List.forall_mem_cons.mpr ⟨⟨le_rfl, fun _ _ _ hl => hl⟩, h.read⟩⟩
  | finish i status =>
    simp only [Metrics.step]
    split
    · exact h
    · rename_i sent hi
      have hrest s (hs : s ∈ w.sending.eraseIdx i) := h.read s (List.mem_of_mem_eraseIdx hs)
      cases status with
      | false => exact ⟨h.kept, hrest⟩
      | true =>
        refine ⟨fun key r hr => .inr ?_, fun s hs => ⟨(hrest s hs).1, fun _ _ _ hl => by simp at hl⟩⟩
        rcases h.kept key r hr with hl | ⟨s, hs, hl⟩
        · -- what is cleared is in the heartbeat
          have hsent := (h.read sent (List.mem_of_getElem? hi)).2 (he sent hi) key r hl
          exact ⟨sent, List.mem_cons_self .., hsent⟩
        · exact ⟨s, List.mem_cons_of_mem _ hs, hl⟩

/-- **Metrics in flight.** No recorded value is lost, when nothing is recorded from the time a heartbeat
reads the metrics until it clears them. -/
theorem kept_of_clearsSent (es : List MetricsStep) (h : Each step ClearsSent {} es) : Always step Kept {} es :=
  always_of_each (J := Consistent) (fun _ _ h he => h.step he) (fun _ h => h.kept) ⟨nofun, nofun⟩ h

theorem kept_heartbeat : Always step Kept {} [.addOnChainMetric ['m'] 5, .getCustomMetrics, .finish 0 true] :=
  kept_of_clearsSent _ (by simp [Each, ClearsSent, step])

/-- A value that is recorded after the heartbeat has read the metrics is cleared. -/
theorem cleared_unsent :
    ¬ Always step Kept {} [.getCustomMetrics, .addOnChainMetric ['m'] 5, .finish 0 true] := by
  intro h
  have hk := h.last ['m'] (5, 0) (by simp [step])
  simp [step] at hk

end Metrics

end Gadget.Qos
