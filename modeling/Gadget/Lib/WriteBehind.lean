import Gadget.Lib.Run

/-!
# Records that are written behind their changes

Each key has a record in memory and one on disk. A call changes the record in memory, takes the new
record with it, and writes it to disk later, or fails to. The calls in flight stand in the order in
which they changed the memory.

The calls of a key lead from its record on disk to the one in memory, as long as they are written in
that order and a call that fails has changed nothing. Disk and memory then agree when no call is in
flight.
-/

namespace Gadget.Lib.WriteBehind

open Lib.Run List

variable {κ ν : Type*} [DecidableEq κ]

/-- A call in flight, with its record before and after the change. -/
structure Pending (κ ν : Type*) where
  key : κ
  before : ν
  after : ν

/-- The records, the calls in flight and the calls that have failed. -/
structure Store (κ ν : Type*) where
  memory : κ → ν
  disk : κ → ν
  pending : List (Pending κ ν)
  failed : List (Pending κ ν)

/-- A change of a record; `none` leaves it and writes nothing. The call at a position of the list in
flight ends its write. -/
inductive Event (κ ν : Type*) where
  | change (key : κ) (f : ν → Option ν)
  | finish (position : ℕ) (written : Bool)

namespace Store

variable (s : Store κ ν)

def step : Event κ ν → Store κ ν
  | .change key f =>
    match f (s.memory key) with
    | none => s
    | some after =>
      { s with
        memory := Function.update s.memory key after
        pending := s.pending ++ [⟨key, s.memory key, after⟩] }
  | .finish position written =>
    match s.pending[position]? with
    | none => s
    | some p =>
      let pending := s.pending.take position ++ s.pending.drop (position + 1)
      if written then { s with disk := Function.update s.disk p.key p.after, pending := pending }
      else { s with pending := pending, failed := s.failed ++ [p] }

/-- Disk and memory agree when no call is in flight, and no call that failed had changed a record. -/
structure Sound (s : Store κ ν) : Prop where
  agree : s.pending = [] → s.disk = s.memory
  unchanged : ∀ p ∈ s.failed, p.before = p.after

/-- A call is written after the calls of its key that came before it, and fails only if it changed nothing. -/
def InOrder : Event κ ν → Prop
  | .change _ _ => True
  | .finish position written => ∀ p, s.pending[position]? = some p →
    if written = true then ∀ q ∈ s.pending.take position, q.key ≠ p.key else p.before = p.after

/-! ## What the calls in flight have in common -/

/-- Each of the calls finds the record that the one before it has left. -/
def Links : ν → List (Pending κ ν) → ν → Prop
  | a, [], b => a = b
  | a, p :: ps, b => p.before = a ∧ Links p.after ps b

omit [DecidableEq κ] in
lemma links_append {a b : ν} {ps qs : List (Pending κ ν)} :
    Links a (ps ++ qs) b ↔ ∃ m, Links a ps m ∧ Links m qs b := by
  induction ps generalizing a with
  | nil => simp [Links]
  | cons p ps ih => simp [Links, ih, and_assoc]

/-- The calls of one key. -/
def callsOf (key : κ) (ps : List (Pending κ ν)) : List (Pending κ ν) :=
  ps.filter fun p => p.key = key

@[simp] lemma callsOf_append (key : κ) (ps qs : List (Pending κ ν)) :
    callsOf key (ps ++ qs) = callsOf key ps ++ callsOf key qs := List.filter_append ..

/-- The calls in flight lead from the record on disk to the one in memory. -/
def Chained : Prop :=
  ∀ key, Links (s.disk key) (callsOf key s.pending) (s.memory key)

omit [DecidableEq κ] in
lemma split_pending {ps : List (Pending κ ν)} {position : ℕ} {p : Pending κ ν}
    (h : ps[position]? = some p) : ps = ps.take position ++ p :: ps.drop (position + 1) := by
  obtain ⟨hlt, rfl⟩ := List.getElem?_eq_some_iff.mp h
  rw [List.getElem_cons_drop, List.take_append_drop]

variable {s : Store κ ν} {e : Event κ ν}

lemma Chained.change (h : s.Chained) (key : κ) (f : ν → Option ν) :
    (s.step (.change key f)).Chained := by
  intro k
  rcases hf : f (s.memory key) with _ | after
  · simpa only [step, hf] using h k
  simp only [step, hf, callsOf_append]
  rw [links_append]
  refine ⟨s.memory k, h k, ?_⟩
  by_cases hk : k = key
  · subst hk
    simp [callsOf, Links]
  · have hne : ¬ key = k := fun h => hk h.symm
    simp [callsOf, Links, hk, hne]

lemma Chained.written (h : s.Chained) {position : ℕ} (hs : s.InOrder (.finish position true)) :
    (s.step (.finish position true)).Chained := by
  intro k
  rcases hp : s.pending[position]? with _ | p
  · simpa only [step, hp] using h k
  have hk := h k
  rw [split_pending hp, callsOf_append, links_append] at hk
  obtain ⟨m, hf, hb⟩ := hk
  simp only [step, hp, if_true, callsOf_append]
  rw [links_append]
  by_cases hkey : p.key = k
  · -- the calls of this key start with the one that is written
    subst hkey
    have hn : callsOf p.key (s.pending.take position) = [] := by
      rw [callsOf, filter_eq_nil_iff]
      intro q hq
      simpa using hs p hp q hq
    rw [hn, Function.update_self]
    refine ⟨p.after, rfl, ?_⟩
    simp only [callsOf, filter_cons] at hb ⊢
    simpa [Links] using hb.2
  · have hne : ¬ k = p.key := fun h => hkey h.symm
    rw [Function.update_of_ne hne]
    refine ⟨m, hf, ?_⟩
    simpa [callsOf, hkey] using hb

lemma Chained.failed (h : s.Chained) {position : ℕ} (hs : s.InOrder (.finish position false)) :
    (s.step (.finish position false)).Chained := by
  intro k
  rcases hp : s.pending[position]? with _ | p
  · simpa only [step, hp] using h k
  have hk := h k
  rw [split_pending hp, callsOf_append, links_append] at hk
  obtain ⟨m, hf, hb⟩ := hk
  simp only [step, hp, Bool.false_eq_true, if_false, callsOf_append]
  rw [links_append]
  refine ⟨m, hf, ?_⟩
  by_cases hkey : p.key = k
  · have hl : p.before = m ∧ Links p.after (callsOf k (s.pending.drop (position + 1))) (s.memory k) := by
      simpa [callsOf, hkey, Links] using hb
    have hsame : p.before = p.after := by simpa using hs p hp
    rw [← hl.1, hsame]
    exact hl.2
  · simpa [callsOf, hkey] using hb

lemma Chained.step (h : s.Chained) (hs : s.InOrder e) : (s.step e).Chained := by
  rcases e with ⟨key, f⟩ | ⟨position, written⟩
  · exact h.change key f
  rcases written with _ | _
  · exact h.failed hs
  exact h.written hs

/-- When no call is in flight, the memory holds what is on disk. -/
lemma Chained.agree (h : s.Chained) (hn : s.pending = []) : s.disk = s.memory := by
  funext key
  have hkey := h key
  rw [hn] at hkey
  exact hkey

/-! ## Runs -/

lemma mem_failed_step {p : Pending κ ν} (h : p ∈ (s.step e).failed) :
    p ∈ s.failed ∨ ∃ position, e = .finish position false ∧ s.pending[position]? = some p := by
  rcases e with ⟨key, f⟩ | ⟨position, written⟩
  · rcases hf : f (s.memory key) with _ | after <;>
      exact .inl (by simpa only [Store.step, hf] using h)
  rcases hp : s.pending[position]? with _ | q
  · exact .inl (by simpa only [Store.step, hp] using h)
  rcases written with _ | _
  · have hmem : p ∈ s.failed ++ [q] := by simpa [Store.step, hp] using h
    refine (mem_append.mp hmem).imp id fun hq => ⟨position, rfl, ?_⟩
    rw [hp, mem_singleton.mp hq]
  exact .inl (by simpa [Store.step, hp] using h)

/-- **Write-behind rule.** From records that agree, with no call in flight, a run is sound when the calls of a key are
written in the order of their changes and no call that had changed a record fails. -/
theorem always_sound (hn : s.pending = []) (hd : s.disk = s.memory) (hf : s.failed = []) {es : List (Event κ ν)}
    (h : Each Store.step InOrder s es) : Always Store.step Sound s es := by
  refine always_of_each (J := fun s => s.Chained ∧ ∀ p ∈ s.failed, p.before = p.after) (fun t e ht he => ⟨ht.1.step he, ?_⟩)
    (fun t ht => ⟨ht.1.agree, ht.2⟩) ⟨fun key => by rw [hn, hd]; rfl, by simp [hf]⟩ h
  intro p hp
  rcases mem_failed_step hp with hold | ⟨position, rfl, hca⟩
  · exact ht.2 p hold
  · simpa using he p hca

end Store

end Gadget.Lib.WriteBehind
