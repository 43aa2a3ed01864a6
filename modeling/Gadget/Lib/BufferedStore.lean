import Gadget.Rust.HashMap

/-!
# A buffered key-value store whose calls can fail

The store has a buffer of what it was told and a medium it writes to. A call that fails may
or may not have taken effect, and at any call any part of the buffer may reach the medium;
only a flush that succeeds writes all of it.

`PendingOutside ids target` says that the buffer matches the target at all keys but `ids`. It
is what a sequence of calls keeps until the last flush turns it into `Holds`: buffer and
medium match the target.
-/

namespace Gadget.Lib.BufferedStore

open Rust Finmap

structure Buffered (κ ν : Type) where
  pending : HashMap κ ν
  stored : HashMap κ ν

/-- How a call ends: its result, whether it took effect although it failed, and which keys are
written to the medium during it. -/
structure Answer (κ ε : Type) where
  result : Except ε Unit
  applied : Bool
  written : κ → Bool

def Answer.failed {κ ε : Type} (a : Answer κ ε) : Bool :=
  match a.result with
  | .ok _ => false
  | .error _ => true

lemma Answer.ok_or_failed {κ ε : Type} (a : Answer κ ε) :
    (a.failed = false ∧ a.result = .ok ()) ∨ (a.failed = true ∧ ∃ e, a.result = .error e) := by
  unfold Answer.failed
  rcases a.result with e | u
  · exact .inr ⟨rfl, e, rfl⟩
  exact .inl ⟨rfl, rfl⟩

variable {κ ν τ ε : Type} [DecidableEq κ]

namespace Buffered

def writeThrough (written : κ → Bool) (pending stored : HashMap κ ν) : HashMap κ ν :=
  HashMap.retain pending (fun k _ => written k) ∪ HashMap.retain stored (fun k _ => !written k)

def write (change : HashMap κ ν → HashMap κ ν) (a : Answer κ ε) (s : Buffered κ ν) : Buffered κ ν :=
  let pending := if a.failed && !a.applied then s.pending else change s.pending
  ⟨pending, writeThrough a.written pending s.stored⟩

def save (k : κ) (v : ν) : Answer κ ε → Buffered κ ν → Buffered κ ν :=
  write fun m => m.insert k v

def delete (k : κ) : Answer κ ε → Buffered κ ν → Buffered κ ν :=
  write fun m => m.erase k

def flush (a : Answer κ ε) (s : Buffered κ ν) : Buffered κ ν :=
  ⟨s.pending, if a.failed then writeThrough a.written s.pending s.stored else s.pending⟩

variable (R : ν → τ → Prop) (target : κ → Option τ)

def PendingOutside (ids : List κ) (s : Buffered κ ν) : Prop :=
  ∀ k, k ∉ ids → Option.Rel R (s.pending.lookup k) (target k)

def Holds (s : Buffered κ ν) : Prop :=
  ∀ k, Option.Rel R (s.pending.lookup k) (target k) ∧ Option.Rel R (s.stored.lookup k) (target k)

variable {R : ν → τ → Prop} {target target' : κ → Option τ} {ids : List κ} {s : Buffered κ ν}

lemma Holds.pendingOutside (h : s.Holds R target) (hs : ∀ k, k ∉ ids → target' k = target k) :
    s.PendingOutside R target' ids := by
  intro k hk
  rw [hs k hk]
  exact (h k).1

lemma PendingOutside.mono {ids' : List κ} (h : s.PendingOutside R target ids)
    (hids : ids ⊆ ids') : s.PendingOutside R target ids' :=
  fun k hk => h k fun hm => hk (hids hm)

variable {k : κ} {a : Answer κ ε}

section

variable (h : s.PendingOutside R target ids)

include h

lemma PendingOutside.save (hk : k ∈ ids) (v : ν) (a : Answer κ ε) :
    (s.save k v a).PendingOutside R target ids := by
  intro k' hk'
  have hne : k' ≠ k := fun he => hk' (he ▸ hk)
  unfold Buffered.save write
  split
  · exact h k' hk'
  · rw [lookup_insert_of_ne _ hne]
    exact h k' hk'

lemma PendingOutside.delete (hk : k ∈ ids) (a : Answer κ ε) :
    (s.delete k a).PendingOutside R target ids := by
  intro k' hk'
  have hne : k' ≠ k := fun he => hk' (he ▸ hk)
  unfold Buffered.delete write
  split
  · exact h k' hk'
  · rw [lookup_erase_ne hne]
    exact h k' hk'

lemma PendingOutside.flush (a : Answer κ ε) : (s.flush a).PendingOutside R target ids := h

end

section

variable (h : s.PendingOutside R target (k :: ids)) (ha : a.failed = false)

include h ha

lemma PendingOutside.save_ok {v : ν} {t : τ} (ht : target k = some t) (hv : R v t) :
    (s.save k v a).PendingOutside R target ids := by
  intro k' hk'
  simp only [Buffered.save, write, ha, Bool.false_and, Bool.false_eq_true, if_false]
  by_cases he : k' = k
  · subst he
    rw [lookup_insert, ht]
    exact .some hv
  · rw [lookup_insert_of_ne _ he]
    exact h k' (by simp [he, hk'])

lemma PendingOutside.delete_ok (ht : target k = none) :
    (s.delete k a).PendingOutside R target ids := by
  intro k' hk'
  simp only [Buffered.delete, write, ha, Bool.false_and, Bool.false_eq_true, if_false]
  by_cases he : k' = k
  · subst he
    rw [lookup_erase, ht]
    exact .none
  · rw [lookup_erase_ne he]
    exact h k' (by simp [he, hk'])

end

lemma PendingOutside.flush_ok (h : s.PendingOutside R target []) (ha : a.failed = false) :
    (s.flush a).Holds R target := by
  intro k
  have hk := h k List.not_mem_nil
  simp only [Buffered.flush, ha, Bool.false_eq_true, if_false]
  exact ⟨hk, hk⟩

end Buffered

end Gadget.Lib.BufferedStore
