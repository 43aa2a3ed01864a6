import Gadget.Lib.Run
import Mathlib.Data.Nat.Notation
import Mathlib.Tactic.Common

/-!
# The listener of the pricing engine

`poll_once` asks for the logs from its cursor on, moves the cursor past each log and then sends the
event of the log. The event of an activation needs a call to the node. When that call fails, the
cursor has already passed the log.
-/

namespace Gadget.PricingEngine

inductive BlockchainEvent where
  | serviceActivated (serviceId blueprintId : ℕ)
  | serviceTerminated (serviceId : ℕ)

inductive LogEvent where
  | serviceActivated (serviceId : ℕ)
  | serviceTerminated (serviceId : ℕ)

structure Log where
  blockNumber : Option ℕ
  event : LogEvent

structure EvmEventListener where
  lastBlock : ℕ
  sent : List BlockchainEvent

namespace EvmEventListener

variable (getService : ℕ → Option ℕ) (l : EvmEventListener)

def decodeEvent : LogEvent → Option BlockchainEvent
  | .serviceActivated id => (getService id).map (.serviceActivated id)
  | .serviceTerminated id => some (.serviceTerminated id)

def onLog (log : Log) : EvmEventListener where
  lastBlock := match log.blockNumber with
    | some block => block + 1
    | none => l.lastBlock
  sent := l.sent ++ (decodeEvent getService log.event).toList

def pollOnce (getLogs : ℕ → Option (List Log)) : EvmEventListener :=
  match getLogs l.lastBlock with
  | none => l
  | some logs => logs.foldl (onLog getService) l

end EvmEventListener

open EvmEventListener List Lib.Run

structure World where
  blocks : List (List LogEvent)
  listener : EvmEventListener

def blockLogs (b : ℕ) (events : List LogEvent) : List Log := events.map fun e => ⟨some b, e⟩

def logsFrom (b : ℕ) : List (List LogEvent) → List Log
  | [] => []
  | events :: blocks => blockLogs b events ++ logsFrom (b + 1) blocks

inductive Event where
  | grow (events : List LogEvent)
  | poll (logsAnswered : Bool) (getService : ℕ → Option ℕ)

def World.step (w : World) : Event → World
  | .grow events => { w with blocks := w.blocks ++ [events] }
  | .poll logsAnswered getService => { w with
      listener := w.listener.pollOnce getService fun fromBlock =>
        if logsAnswered then some (logsFrom fromBlock (w.blocks.drop fromBlock)) else none }

def World.start : World := ⟨[], ⟨0, []⟩⟩

variable (blueprintOf : ℕ → ℕ)

/-- The events in the blocks below `b`. -/
def eventsBelow (blocks : List (List LogEvent)) (b : ℕ) : List BlockchainEvent :=
  (blocks.take b).flatten.flatMap fun e => (decodeEvent (some ∘ blueprintOf) e).toList

def Event.Answered : Event → Prop
  | .grow _ => True
  | .poll _ getService => getService = some ∘ blueprintOf

variable {blueprintOf}

lemma foldl_blockLogs (b : ℕ) (events : List LogEvent) (l : EvmEventListener) :
    (blockLogs b events).foldl (onLog (some ∘ blueprintOf)) l
      = ⟨if events = [] then l.lastBlock else b + 1,
        l.sent ++ events.flatMap fun e => (decodeEvent (some ∘ blueprintOf) e).toList⟩ := by
  induction events generalizing l with
  | nil => simp [blockLogs]
  | cons e events ih =>
    rw [blockLogs, map_cons, foldl_cons, ← blockLogs, ih]
    simp [onLog]

structure Delivered (blueprintOf : ℕ → ℕ) (blocks : List (List LogEvent)) (b : ℕ)
    (l : EvmEventListener) : Prop where
  le : l.lastBlock ≤ b
  sent : l.sent = eventsBelow blueprintOf blocks b
  below : eventsBelow blueprintOf blocks l.lastBlock = eventsBelow blueprintOf blocks b

lemma delivered_of_logsFrom {blocks rest : List (List LogEvent)} {b : ℕ} {l : EvmEventListener}
    (h : Delivered blueprintOf blocks b l) (hrest : blocks.drop b = rest) :
    Delivered blueprintOf blocks (b + rest.length)
      ((logsFrom b rest).foldl (onLog (some ∘ blueprintOf)) l) := by
  induction rest generalizing b l with
  | nil => exact h
  | cons events rest ih =>
    have hb : blocks[b]? = some events := by
      rw [← head?_drop, hrest, head?_cons]
    have hnext : eventsBelow blueprintOf blocks (b + 1) = eventsBelow blueprintOf blocks b
        ++ events.flatMap fun e => (decodeEvent (some ∘ blueprintOf) e).toList := by
      rw [eventsBelow, take_add_one, hb]
      simp [eventsBelow]
    rw [logsFrom, foldl_append, foldl_blockLogs, length_cons, Nat.add_comm rest.length,
      ← Nat.add_assoc]
    refine ih ⟨?_, ?_, ?_⟩ (by rw [← tail_drop, hrest, tail_cons])
    · dsimp only
      have := h.le
      split_ifs <;> omega
    · rw [hnext, h.sent]
    · by_cases he : events = []
      · rw [if_pos he, hnext, he, h.below, flatMap_nil, append_nil]
      · rw [if_neg he]

/-- The events of all blocks before the next one to read were sent, in order. -/
structure World.UpToDate (blueprintOf : ℕ → ℕ) (w : World) : Prop where
  le : w.listener.lastBlock ≤ w.blocks.length
  sent : w.listener.sent = eventsBelow blueprintOf w.blocks w.listener.lastBlock

lemma World.UpToDate.step {w : World} {e : Event} (h : w.UpToDate blueprintOf)
    (he : e.Answered blueprintOf) : (w.step e).UpToDate blueprintOf := by
  cases e with
  | grow events =>
    constructor
    · rw [World.step, length_append]
      exact Nat.le_add_right_of_le h.le
    · rw [World.step, h.sent, eventsBelow, eventsBelow, take_append_of_le_length h.le]
  | poll logsAnswered getService =>
    obtain rfl : getService = some ∘ blueprintOf := he
    cases logsAnswered with
    | false => exact h
    | true =>
      have hd := delivered_of_logsFrom ⟨Nat.le_refl _, h.sent, rfl⟩ rfl
      rw [length_drop, Nat.add_sub_cancel' h.le] at hd
      exact ⟨hd.le, hd.sent.trans hd.below.symm⟩

/-- As long as every call to `get_service` is answered, the events sent are those of the blocks below
the cursor, once and in the order of the chain. -/
theorem listener_delivers (blueprintOf : ℕ → ℕ) (es : List Event)
    (hanswered : ∀ e ∈ es, e.Answered blueprintOf) :
    (es.foldl World.step .start).listener.sent
      = eventsBelow blueprintOf (es.foldl World.step .start).blocks
          (es.foldl World.step .start).listener.lastBlock := by
  have hall : Always World.step (World.UpToDate blueprintOf) .start es :=
    always_of_each (C := fun _ e => e.Answered blueprintOf) (fun _ _ h he => h.step he) (fun _ h => h)
      ⟨Nat.le_refl 0, rfl⟩ (each_of_forall_mem hanswered)
  exact hall.last.sent

def activation : Event := .grow [.serviceActivated 7]

theorem listener_delivers_activation :
    (∀ e ∈ [activation, .poll true (some ∘ id)], e.Answered id) ∧
      ([activation, .poll true (some ∘ id)].foldl World.step .start).listener.sent
        = [.serviceActivated 7 7] := by
  have ha : ∀ e ∈ [activation, .poll true (some ∘ id)], e.Answered id := by
    simp [activation, Event.Answered]
  exact ⟨ha, listener_delivers id _ ha⟩

/-- The call for the service fails once. The cursor is past the block, and no later poll sends the
activation. -/
theorem activation_lost :
    ([activation, .poll true fun _ => none, .poll true (some ∘ id)].foldl World.step .start).listener
      = ⟨1, []⟩ ∧
    eventsBelow id [[.serviceActivated 7]] 1 = [.serviceActivated 7 7] :=
  ⟨rfl, rfl⟩

end Gadget.PricingEngine
