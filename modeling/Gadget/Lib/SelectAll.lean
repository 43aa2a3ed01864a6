import Mathlib.Data.List.Perm.Basic

/-!
# Waiting for the first of several futures

`select_all` polls its futures in order and completes with the first one that is ready. The others
are handed back, with the last one moved to the place of the finished one. `poll` is one poll of it,
for futures that are given by what they are ready with.
-/

namespace Gadget.Lib.SelectAll

variable {φ α : Type*}

lemma exists_split {l : List φ} {i : ℕ} {f : φ} (h : l[i]? = some f) :
    ∃ front back, l = front ++ f :: back ∧ (∀ g, l.set i g = front ++ g :: back) ∧
      l.eraseIdx i = front ++ back := by
  induction l generalizing i with
  | nil => cases h
  | cons first rest ih =>
    rcases i with _ | i
    · cases h
      exact ⟨[], rest, rfl, fun g => rfl, rfl⟩
    obtain ⟨front, back, hl, hset, he⟩ := ih h
    refine ⟨first :: front, back, congrArg _ hl, fun g => ?_, ?_⟩
    · exact congrArg (first :: ·) (hset g)
    · exact congrArg (first :: ·) he

def swapRemove (l : List φ) (i : ℕ) : List φ :=
  match l.getLast? with
  | none => []
  | some last => (l.set i last).dropLast

/-- The finished future and the others are all of them. -/
lemma perm_swapRemove (front : List φ) (f : φ) (back : List φ) :
    (front ++ f :: back).Perm (f :: swapRemove (front ++ f :: back) front.length) := by
  rcases List.eq_nil_or_concat back with rfl | ⟨middle, last, rfl⟩
  · have hr : swapRemove (front ++ [f]) front.length = front := by
      simp [swapRemove]
    rw [hr]
    exact List.perm_append_singleton f front
  have hl : (front ++ f :: (middle ++ [last])).getLast? = some last := by
    rw [← List.cons_append, ← List.append_assoc, List.getLast?_concat]
  have hr : swapRemove (front ++ f :: (middle ++ [last])) front.length
      = front ++ last :: middle := by
    simp only [swapRemove, hl]
    rw [List.set_append_right _ _ (Nat.le_refl _), Nat.sub_self, List.set_cons_zero,
      ← List.cons_append, ← List.append_assoc, List.dropLast_concat]
  rw [List.concat_eq_append, hr]
  refine List.perm_middle.trans (List.Perm.cons f ?_)
  exact (List.perm_append_singleton last middle).append_left front

def firstReady (ready : φ → Option α) : List φ → Option (ℕ × α)
  | [] => none
  | f :: rest =>
    match ready f with
    | some a => some (0, a)
    | none => (firstReady ready rest).map fun found => (found.1 + 1, found.2)

def poll (ready : φ → Option α) (l : List φ) : Option (α × List φ) :=
  (firstReady ready l).map fun found => (found.2, swapRemove l found.1)

variable {ready : φ → Option α} {l : List φ}

lemma firstReady_eq_none_iff : firstReady ready l = none ↔ ∀ f ∈ l, ready f = none := by
  induction l with
  | nil => simp [firstReady]
  | cons f rest ih =>
    rw [firstReady, List.forall_mem_cons]
    rcases hf : ready f with _ | a
    · simp [ih]
    simp

lemma firstReady_eq_some {i : ℕ} {a : α} (h : firstReady ready l = some (i, a)) :
    ∃ front f back, l = front ++ f :: back ∧ front.length = i ∧ ready f = some a := by
  induction l generalizing i with
  | nil => cases h
  | cons f rest ih =>
    rw [firstReady] at h
    cases hf : ready f with
    | some b =>
      rw [hf] at h
      cases h
      exact ⟨[], f, rest, rfl, rfl, hf⟩
    | none =>
      rw [hf] at h
      obtain ⟨⟨j, b⟩, hfo, heq⟩ := Option.map_eq_some_iff.mp h
      cases heq
      obtain ⟨front, g, back, rfl, rfl, hg⟩ := ih hfo
      exact ⟨f :: front, g, back, rfl, rfl, hg⟩

lemma poll_eq_some {a : α} {rest : List φ} (h : poll ready l = some (a, rest)) :
    ∃ f, ready f = some a ∧ l.Perm (f :: rest) := by
  obtain ⟨⟨i, b⟩, hfo, heq⟩ := Option.map_eq_some_iff.mp h
  cases heq
  obtain ⟨front, f, back, rfl, rfl, hf⟩ := firstReady_eq_some hfo
  exact ⟨f, hf, perm_swapRemove front f back⟩

end Gadget.Lib.SelectAll
