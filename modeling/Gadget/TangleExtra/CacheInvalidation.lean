import Gadget.Lib.Run
import Gadget.Rust.HashMap

/-!
# Invalidation of the service cache

`get_operator_weights` and `get_service_operators` look into their map, query the chain on a miss and
store the answer, in three steps between which other calls run. What the chain answers is known by the
number of events of the service it was given after.
-/

namespace Gadget.TangleExtra

open Rust Lib.Run Function

inductive CacheKind where
  | operatorWeights
  | serviceOperators
  deriving DecidableEq

inductive CacheInvalidationEvent where
  | operatorJoined (serviceId : ℕ)
  | operatorLeft (serviceId : ℕ)
  | serviceTerminated (serviceId : ℕ)
  | serviceActivated (serviceId : ℕ)

def CacheInvalidationEvent.invalidates : CacheInvalidationEvent → Option ℕ
  | operatorJoined serviceId | operatorLeft serviceId | serviceTerminated serviceId => some serviceId
  | serviceActivated _ => none

structure CacheGet where
  kind : CacheKind
  serviceId : ℕ
  handled : ℕ
  fetched : Option ℕ

structure CacheState where
  emitted : ℕ → ℕ
  handled : ℕ → ℕ
  caches : CacheKind → HashMap ℕ ℕ
  gets : ℕ → Option CacheGet
  /-- For each get that returned: the events handled when it started, and those behind its answer. -/
  returned : List (ℕ × ℕ)

inductive CacheStep where
  | emit (serviceId : ℕ)
  /-- `handle_event` for the event with this number among those of its service. -/
  | handleEvent (event : CacheInvalidationEvent) (number : ℕ)
  | lookup (id : ℕ) (kind : CacheKind) (serviceId : ℕ) (expired : Bool)
  | query (id : ℕ) (answered : Bool)
  | store (id : ℕ)

namespace CacheState

variable (s : CacheState)

def lookup (id : ℕ) (kind : CacheKind) (serviceId : ℕ) (expired : Bool) : CacheState :=
  match (s.caches kind).lookup serviceId, expired with
  | some value, false => { s with returned := s.returned ++ [(s.handled serviceId, value)] }
  | _, _ =>
    { s with gets := Function.update s.gets id (some ⟨kind, serviceId, s.handled serviceId, none⟩) }

def query (id : ℕ) (answered : Bool) : CacheState :=
  match s.gets id, answered with
  | some g, true =>
    { s with gets := Function.update s.gets id (some { g with fetched := some (s.emitted g.serviceId) }) }
  | _, _ => { s with gets := Function.update s.gets id none }

def store (id : ℕ) : CacheState :=
  match s.gets id with
  | some ⟨kind, serviceId, handled, some value⟩ =>
    { s with
      caches := Function.update s.caches kind ((s.caches kind).insert serviceId value)
      gets := Function.update s.gets id none
      returned := s.returned ++ [(handled, value)] }
  | _ => s

def handleEvent (event : CacheInvalidationEvent) (number : ℕ) : CacheState :=
  match event.invalidates with
  | none => s
  | some serviceId =>
    if number ≤ s.emitted serviceId then
      { s with
        caches := fun kind => (s.caches kind).erase serviceId
        handled := Function.update s.handled serviceId (max (s.handled serviceId) number) }
    else s

def step : CacheStep → CacheState
  | .emit serviceId =>
    { s with emitted := Function.update s.emitted serviceId (s.emitted serviceId + 1) }
  | .handleEvent event number => s.handleEvent event number
  | .lookup id kind serviceId expired => s.lookup id kind serviceId expired
  | .query id answered => s.query id answered
  | .store id => s.store id

def start : CacheState := ⟨fun _ => 0, fun _ => 0, fun _ => ∅, fun _ => none, []⟩

/-- Nothing is stored that was fetched before an event handled since. -/
def StoresFresh : CacheStep → Prop
  | .store id => ∀ g value, s.gets id = some g → g.fetched = some value →
    s.handled g.serviceId ≤ value
  | _ => True

structure Fresh : Prop where
  handled : ∀ serviceId, s.handled serviceId ≤ s.emitted serviceId
  cached : ∀ kind serviceId value, (s.caches kind).lookup serviceId = some value →
    s.handled serviceId ≤ value
  started : ∀ id g, s.gets id = some g → g.handled ≤ s.handled g.serviceId
  fetched : ∀ id g value, s.gets id = some g → g.fetched = some value → g.handled ≤ value
  returned : ∀ r ∈ s.returned, r.1 ≤ r.2

variable {s}

lemma Fresh.setGet (h : s.Fresh) (id : ℕ) (g : Option CacheGet)
    (hg : ∀ g' ∈ g, g'.handled ≤ s.handled g'.serviceId ∧
      ∀ value ∈ g'.fetched, g'.handled ≤ value) :
    Fresh { s with gets := Function.update s.gets id g } := by
  refine { h with started := fun i g' hi => ?_, fetched := fun i g' value hi hv => ?_ } <;>
    rcases eq_or_ne i id with rfl | hne
  · exact (hg g' (by simpa using hi)).1
  · exact h.started i g' (by simpa [hne] using hi)
  · exact (hg g' (by simpa using hi)).2 value hv
  · exact h.fetched i g' value (by simpa [hne] using hi) hv

lemma Fresh.addReturned (h : s.Fresh) {r : ℕ × ℕ} (hr : r.1 ≤ r.2) :
    Fresh { s with returned := s.returned ++ [r] } := by
  refine { h with returned := fun r' hm => ?_ }
  rcases List.mem_append.mp hm with hm | hm
  · exact h.returned r' hm
  · rwa [List.mem_singleton.mp hm]

lemma Fresh.handleEvent (h : s.Fresh) (event : CacheInvalidationEvent) (number : ℕ) :
    (s.handleEvent event number).Fresh := by
  unfold CacheState.handleEvent
  split
  · exact h
  next serviceId _ =>
    split_ifs with hn
    · have hle : ∀ i, s.handled i ≤ update s.handled serviceId
          (max (s.handled serviceId) number) i := by
        intro i
        rcases eq_or_ne i serviceId with rfl | hne
        · simp
        · simp [hne]
      refine ⟨fun i => ?_, fun kind i value hv => ?_,
        fun id g hg => (h.started id g hg).trans (hle _), h.fetched, h.returned⟩
      · rcases eq_or_ne i serviceId with rfl | hne
        · simpa using ⟨h.handled i, hn⟩
        · simpa [hne] using h.handled i
      · rcases eq_or_ne i serviceId with rfl | hne
        · rw [Finmap.lookup_erase] at hv
          cases hv
        · rw [Finmap.lookup_erase_ne hne] at hv
          simpa [hne] using h.cached kind i value hv
    · exact h

lemma Fresh.store (h : s.Fresh) {id : ℕ} (hs : s.StoresFresh (.store id)) : (s.store id).Fresh := by
  unfold CacheState.store
  split
  next kind serviceId handled value hg =>
    have hr := (h.setGet id none (by simp)).addReturned (r := (handled, value))
      (h.fetched id _ value hg rfl)
    refine { hr with cached := fun kind' i value' hv => ?_ }
    dsimp only at hv ⊢
    rcases eq_or_ne kind' kind with rfl | hk
    · rw [update_self] at hv
      rcases HashMap.lookup_insert_cases hv with ⟨rfl, rfl⟩ | hv
      · exact hs _ value hg rfl
      · exact h.cached kind' i value' hv
    · rw [update_of_ne hk] at hv
      exact h.cached kind' i value' hv
  next => exact h

lemma Fresh.step (h : s.Fresh) {e : CacheStep} (hs : s.StoresFresh e) : (s.step e).Fresh := by
  cases e with
  | emit serviceId =>
    refine { h with handled := fun i => (h.handled i).trans ?_ }
    rcases eq_or_ne i serviceId with rfl | hne
    · simp [CacheState.step]
    · simp [CacheState.step, hne]
  | handleEvent event number => exact h.handleEvent event number
  | lookup id kind serviceId expired =>
    unfold CacheState.step CacheState.lookup
    dsimp only
    split
    next hv => exact h.addReturned (h.cached kind serviceId _ hv)
    next => exact h.setGet id _ (by simp)
  | query id answered =>
    unfold CacheState.step CacheState.query
    dsimp only
    split
    next g hg =>
      have hst := h.started id g hg
      exact h.setGet id _ (by simpa using ⟨hst, hst.trans (h.handled _)⟩)
    next => exact h.setGet id none (by simp)
  | store id => exact h.store hs

end CacheState

open CacheState

/-- When nothing is stored that was fetched before an event handled in the meantime, no get returns
what was fetched before an event that had been handled when it started. -/
theorem invalidation_final (es : List CacheStep)
    (hstores : Each CacheState.step StoresFresh start es) :
    ∀ r ∈ (es.foldl CacheState.step start).returned, r.1 ≤ r.2 := by
  have hstart : start.Fresh := by
    constructor <;> simp [start]
  exact (always_of_each (fun _ _ h hs => h.step hs) (fun _ h => h) hstart hstores).last.returned

def lateGet (handledAfter : Bool) : List CacheStep :=
  [.lookup 0 .serviceOperators 0 false, .query 0 true, .emit 0] ++
    (if handledAfter then [.store 0, .handleEvent (.operatorLeft 0) 1]
    else [.handleEvent (.operatorLeft 0) 1, .store 0])

theorem invalidation_final_handledAfter :
    Each CacheState.step StoresFresh start (lateGet true) ∧
      ∀ r ∈ ((lateGet true).foldl CacheState.step start).returned, r.1 ≤ r.2 := by
  have hs : Each CacheState.step StoresFresh start (lateGet true) := by
    refine ⟨trivial, trivial, trivial, ?_, trivial, trivial⟩
    rintro g value - -
    exact Nat.zero_le _
  exact ⟨hs, invalidation_final _ hs⟩

/-- The late store puts the operators back that the event removed, and the next get returns them. -/
theorem removed_operators_return :
    (1, 0) ∈ ((lateGet false ++ [CacheStep.lookup 1 .serviceOperators 0 false]).foldl CacheState.step
      start).returned := by
  decide

end Gadget.TangleExtra
