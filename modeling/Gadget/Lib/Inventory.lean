import Gadget.Rust.HashMap

/-!
# What is up, and what a map knows of it

Things with keys are brought up and taken down. A ledger has those that are up, and whether one was
taken down that was not up. Beside it, some map is to know everything that is up: a thing is forgotten
if its key is given to another one, or taken out, while it is up.
-/

namespace Gadget.Lib.Inventory

open Rust Finmap Finset

variable {κ ν : Type} [DecidableEq κ] [DecidableEq ν]

structure Ledger (κ ν : Type) where
  live : Finset (κ × ν)
  again : Bool

inductive Deed (κ ν : Type) where
  | up (k : κ) (v : ν)
  | down (k : κ) (v : ν)

def Ledger.enter (l : Ledger κ ν) : Deed κ ν → Ledger κ ν
  | .up k v => { l with live := insert (k, v) l.live }
  | .down k v => ⟨l.live.erase (k, v), l.again || !decide ((k, v) ∈ l.live)⟩

def Covers (m : HashMap κ ν) (l : Ledger κ ν) : Prop :=
  ∀ k v, (k, v) ∈ l.live → m.lookup k = some v

structure Sound (m : HashMap κ ν) (l : Ledger κ ν) : Prop where
  covers : Covers m l
  once : l.again = false

variable {m : HashMap κ ν} {l : Ledger κ ν}

/-- Something is brought up and entered in the map: what was up with this key must have been that. -/
lemma sound_up_iff (h : Sound m l) (k : κ) (v : ν) :
    Sound (m.insert k v) (l.enter (.up k v)) ↔ ∀ v', (k, v') ∈ l.live → v' = v := by
  constructor
  · intro hup v' hv'
    have hl := hup.covers k v' (mem_insert_of_mem hv')
    rw [lookup_insert, Option.some.injEq] at hl
    exact hl.symm
  · intro hs
    refine ⟨fun k' v' hv' => ?_, h.once⟩
    rw [HashMap.lookup_insert_eq]
    rcases mem_insert.mp hv' with heq | hli
    · cases heq
      rw [if_pos rfl]
    by_cases hk : k' = k
    · subst hk
      rw [if_pos rfl, hs v' hli]
    · rw [if_neg hk]
      exact h.covers k' v' hli

lemma sound_down_iff (h : Sound m l) (k : κ) (v : ν) :
    Sound m (l.enter (.down k v)) ↔ (k, v) ∈ l.live := by
  have hc : Covers m (l.enter (.down k v)) :=
    fun k' v' hv' => h.covers k' v' (mem_of_mem_erase hv')
  constructor
  · intro hd
    have ho : (l.again || !decide ((k, v) ∈ l.live)) = false := hd.once
    simpa [h.once] using ho
  · intro hl
    refine ⟨hc, ?_⟩
    show (l.again || !decide ((k, v) ∈ l.live)) = false
    simp [h.once, hl]

omit [DecidableEq ν] in
lemma sound_erase_iff (h : Sound m l) (k : κ) : Sound (m.erase k) l ↔ ∀ v, (k, v) ∉ l.live := by
  constructor
  · intro he v hv
    have hl := he.covers k v hv
    rw [lookup_erase] at hl
    cases hl
  · intro hn
    refine ⟨fun k' v' hv' => ?_, h.once⟩
    have hk : k' ≠ k := fun hk => hn v' (hk ▸ hv')
    rw [lookup_erase_ne hk]
    exact h.covers k' v' hv'

end Gadget.Lib.Inventory
