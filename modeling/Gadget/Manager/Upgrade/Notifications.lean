import Gadget.Manager.Upgrade.SwapGate
import Mathlib.Data.Prod.Lex

/-!
# Dropped notifications

The event handler tells the watcher of upgrades through a bounded channel, and drops a notification
when the channel is full. The watcher takes one signal at a time and reconciles the tracked services of
the blueprints in it, or all of them where it names none. Notifications are numbered, and a service is
known by the number of notifications made before it was last reconciled. A service is reconciled after a
notification exactly when a signal taken since then reads the chain for it (`le_reconciled_iff`).
-/

namespace Gadget.Manager

open Rust Lib.Run

/-- A signal to the watcher. No blueprints means all of them. -/
structure Notification where
  blueprints : Finset ℕ
  number : ℕ

/-- The watcher with its channel, and what happened so far. -/
structure SignalRun where
  watcher : Watcher
  channel : List Notification
  count : ℕ
  dropped : List Notification
  /-- The number of notifications there were when the chain was last read for a service. -/
  reconciled : ℕ × ℕ → ℕ
  behind : ∀ service, reconciled service ≤ count

inductive SignalStep where
  | notifyBlock (blueprints : Finset ℕ)
  | notifyReconcileAll
  | track (service : ℕ × ℕ)
  | untrack (service : ℕ × ℕ)
  | process (order : IterOrder (ℕ × ℕ)) (env : ℕ × ℕ → ReconcileEnv)

/-- `reconcile_one` gets the policy and the effective version, or that there is no version. -/
def ReconcileEnv.readable (env : ReconcileEnv) (blueprintId : ℕ) : Bool :=
  match env.serviceUpgradePolicy, env.effectiveBinaryVersion blueprintId with
  | .ok _, .ok _ => true
  | .ok _, .error (.noVersionsPublished _) => true
  | _, _ => false

/-- The capacity that `UpgradeWatcher::spawn` gives the channel. -/
def channelCapacity : ℕ := 64

namespace SignalRun

variable (config : WatcherConfig) (s : SignalRun)

def send (blueprints : Finset ℕ) : SignalRun :=
  { s with
    channel := s.channel ++ [⟨blueprints, s.count + 1⟩]
    count := s.count + 1
    behind := fun service => (s.behind service).trans (Nat.le_succ _) }

def drop (blueprints : Finset ℕ) : SignalRun :=
  { s with
    count := s.count + 1
    dropped := ⟨blueprints, s.count + 1⟩ :: s.dropped
    behind := fun service => (s.behind service).trans (Nat.le_succ _) }

def step : SignalStep → SignalRun
  | .notifyBlock blueprints =>
    -- `try_send`
    if s.channel.length < channelCapacity then s.send blueprints else s.drop blueprints
  -- waits until there is room
  | .notifyReconcileAll => if s.channel.length < channelCapacity then s.send ∅ else s
  | .track service => { s with watcher.tracked := insert service s.watcher.tracked }
  | .untrack service => { s with watcher.tracked := s.watcher.tracked.erase service }
  | .process order env =>
    match s.channel with
    | [] => s
    | signal :: channel =>
      -- a service that cannot be read is only logged
      { s with
        watcher := s.watcher.reconcile config order signal.blueprints env
        channel := channel
        reconciled := fun service =>
          if service ∈ s.watcher.concerned order signal.blueprints ∧ (env service).readable service.1
          then s.count else s.reconciled service
        behind := by
          intro service
          split_ifs
          · exact le_rfl
          · exact s.behind service }

/-- A signal is taken that was sent after the dropped notification, which concerns the tracked service. -/
def Missed (d : Notification) (service : ℕ × ℕ) : SignalStep → Prop
  | .process _ _ => d ∈ s.dropped ∧ service ∈ s.watcher.tracked ∧ service.1 ∈ d.blueprints ∧
    ∃ signal ∈ s.channel.head?, d.number < signal.number
  | _ => False

/-- After the step, the services that are concerned have been reconciled since the notification. -/
def CaughtUp (e : SignalStep) : Prop :=
  ∀ d service, s.Missed d service e → d.number ≤ (s.step config e).reconciled service

/-- A signal is taken that names the service's blueprint, or none, and the chain can be read for the service. -/
def Reads (service : ℕ × ℕ) : SignalStep → Prop
  | .process _ env => service ∈ s.watcher.tracked ∧ (env service).readable service.1 = true ∧
    ∃ signal ∈ s.channel.head?, signal.blueprints = ∅ ∨ service.1 ∈ signal.blueprints
  | _ => False

/-- A watcher that has not been told of anything. -/
def start (watcher : Watcher) : SignalRun := ⟨watcher, [], 0, [], fun _ => 0, fun _ => le_rfl⟩

variable {s}

/-- One step reconciles the service exactly where it reads the chain for it. -/
lemma le_reconciled_step_iff {n : ℕ} {service : ℕ × ℕ} {e : SignalStep} :
    n ≤ (s.step config e).reconciled service ↔
      n ≤ s.reconciled service ∨ s.Reads service e ∧ n ≤ s.count := by
  cases e with
  | process order env =>
    cases hc : s.channel with
    | nil => simp [step, Reads, hc]
    | cons signal channel =>
      have hm : service ∈ s.watcher.concerned order signal.blueprints ∧ (env service).readable service.1 = true ↔
          s.Reads service (.process order env) := by
        simp [Reads, hc, Watcher.concerned, order.mem]
        tauto
      simp only [step, hc, ← hm]
      split_ifs with hr
      · simp only [hr, and_self, true_and]
        exact ⟨.inr, fun h => h.elim (fun hn => hn.trans (s.behind service)) id⟩
      · simp [hr]
  | notifyBlock | notifyReconcileAll =>
    simp only [step, Reads, false_and, or_false]
    split_ifs <;> rfl
  | track | untrack => simp [step, Reads]

/-- Over a run: the service was reconciled before, or a signal has read the chain for it. -/
lemma le_reconciled_iff {n : ℕ} {service : ℕ × ℕ} {es : List SignalStep} :
    n ≤ (es.foldl (step config) s).reconciled service ↔ n ≤ s.reconciled service ∨
      ∃ before e after, es = before ++ e :: after ∧
        (before.foldl (step config) s).Reads service e ∧ n ≤ (before.foldl (step config) s).count := by
  induction es generalizing s with
  | nil => simp
  | cons e es ih =>
    rw [List.foldl_cons, ih, le_reconciled_step_iff, or_assoc, exists_split_cons
      (P := fun before e => (before.foldl (step config) s).Reads service e ∧ n ≤ (before.foldl (step config) s).count)]
    rfl

lemma number_pos_of_dropped (watcher : Watcher) (es : List SignalStep) :
    ∀ d ∈ (es.foldl (step config) (start watcher)).dropped, 0 < d.number := by
  refine foldl_of_step (J := fun s : SignalRun => ∀ d ∈ s.dropped, 0 < d.number) (fun s e h => ?_) (by simp [start]) es
  cases e with
  | notifyBlock blueprints =>
    simp only [step]
    split_ifs
    · exact h
    · exact List.forall_mem_cons.mpr ⟨Nat.succ_pos _, h⟩
  | notifyReconcileAll =>
    simp only [step]
    split_ifs <;> exact h
  | track | untrack => exact h
  | process =>
    simp only [step]
    split <;> exact h

def pairOrder : IterOrder (ℕ × ℕ) where
  toList s := ((s.map toLex.toEmbedding).sort (· ≤ ·)).map ofLex
  nodup s := ((s.map toLex.toEmbedding).sort_nodup (· ≤ ·)).map ofLex.injective
  mem s a := by simp

def taken : SignalStep := .process pairOrder fun _ => WatcherRun.ackedEnv

def trackedRun : SignalRun := start { WatcherRun.freshWatcher with tracked := {(1, 7)} }

/-- The channel is filled for blueprint 2, a notification for blueprint 1 is dropped, and another one
for blueprint 2 is sent. -/
def crowded : List SignalStep :=
  List.replicate 64 (.notifyBlock {2}) ++ [.notifyBlock {1}, taken, .notifyBlock {2}]
    ++ List.replicate 64 taken

end SignalRun

end Gadget.Manager
