import Mathlib.Data.Option.Basic
import Mathlib.Data.List.Basic

/-!
# Replicas

One entry of a map that is kept in several places, one after the other: the places are written and
emptied in order until one of them fails, and read in order until one of them has something.
`Views` says that everything that can be seen of the entry agrees with one value. Which failed
operations preserve that is `views_writing_iff` and `first_emptying`.
-/

namespace Gadget.Lib.Replicas

/-- What one place has: nothing, a value, or something that cannot be read. -/
inductive Cell (ν : Type) where
  | absent
  | holds (v : ν)
  | torn

/-- What an operation does in one place: it succeeds, fails without a trace, or fails and leaves
something that cannot be read. -/
inductive Attempt where
  | done
  | refused
  | torn
  deriving DecidableEq

variable {ν : Type}

/-! ## Views -/

def contains (cells : List (Cell ν)) : Prop := ∃ c ∈ cells, c ≠ .absent

def lists (cells : List (Cell ν)) : Prop := ∃ v, Cell.holds v ∈ cells

def first : List (Cell ν) → Cell ν
  | [] => .absent
  | .absent :: cells => first cells
  | c :: _ => c

def cellOf : Option ν → Cell ν
  | none => .absent
  | some v => .holds v

structure Views (cells : List (Cell ν)) (value : Option ν) : Prop where
  contains : contains cells ↔ value.isSome = true
  lists : lists cells ↔ value.isSome = true
  first : first cells = cellOf value

variable {value : Option ν} {cells : List (Cell ν)}

lemma cellOf_inj {value' : Option ν} : cellOf value = cellOf value' ↔ value = value' := by
  rcases value with _ | v
  · rcases value' with _ | w
    · simp
    simp [cellOf]
  rcases value' with _ | w <;> simp [cellOf]

lemma first_eq_absent_iff : first cells = .absent ↔ ¬ contains cells := by
  induction cells with
  | nil => simp [first, contains]
  | cons c cells ih =>
    cases c with
    | absent =>
      rw [first, ih]
      simp [contains]
    | holds | torn => simp [first, contains]

lemma mem_of_first {c : Cell ν} (h : first cells = c) (hc : c ≠ .absent) : c ∈ cells := by
  induction cells with
  | nil => exact absurd h.symm hc
  | cons d cells ih =>
    cases d with
    | absent => exact List.mem_cons_of_mem _ (ih h)
    | holds | torn =>
      rw [← h]
      exact List.mem_cons_self

lemma views_iff : Views cells value ↔ first cells = cellOf value := by
  constructor
  · exact Views.first
  · intro h
    rcases value with _ | v
    · have hnot : ¬ contains cells := first_eq_absent_iff.mp h
      have hl : ¬ lists cells := fun h => h.elim fun v hv => hnot ⟨_, hv, by simp⟩
      exact ⟨by simpa using hnot, by simpa using hl, h⟩
    have hmem : Cell.holds v ∈ cells := mem_of_first h (by simp)
    exact ⟨by simpa using ⟨_, hmem, by simp⟩, by simpa using ⟨v, hmem⟩, h⟩

/-! ## Operations -/

/-- An operation in one place after the other, until one fails. `f` says what a place has after it, and
whether it succeeded there. -/
def runAll (f : Attempt → Cell ν → Cell ν × Bool) : List (Attempt × Cell ν) → List (Cell ν) × Bool
  | [] => ([], true)
  | (attempt, c) :: cells =>
    if (f attempt c).2 = true then ((f attempt c).1 :: (runAll f cells).1, (runAll f cells).2)
    else ((f attempt c).1 :: cells.map Prod.snd, false)

def writing (v : ν) : Attempt → Cell ν → Cell ν × Bool
  | .done, _ => (.holds v, true)
  | .refused, c => (c, false)
  | .torn, _ => (.torn, false)

lemma views_writing {v : ν} {cells : List (Attempt × Cell ν)} (hne : cells ≠ [])
    (h : (runAll (writing v) cells).2 = true) : Views (runAll (writing v) cells).1 (some v) := by
  rcases cells with _ | ⟨c, cells⟩
  · exact absurd rfl hne
  obtain ⟨attempt, c⟩ := c
  cases attempt with
  | done => exact views_iff.mpr rfl
  | refused | torn => cases h

/-- A write that fails is not seen if the first place refused it, or the value was there already and
the first place took it. -/
lemma views_writing_iff {v : ν} {attempt : Attempt} {c : Cell ν} {cells : List (Attempt × Cell ν)}
    (hv : Views (c :: cells.map Prod.snd) value) :
    Views (runAll (writing v) ((attempt, c) :: cells)).1 value ↔
      attempt = .refused ∨ attempt = .done ∧ value = some v := by
  cases attempt with
  | done =>
    rw [views_iff]
    show Cell.holds v = cellOf value ↔ _
    rcases value with _ | w
    · simp [cellOf]
    simp [cellOf, eq_comm]
  | refused => simpa [runAll, writing] using hv
  | torn =>
    rw [views_iff]
    show Cell.torn = cellOf value ↔ _
    rcases value with _ | w <;> simp [cellOf]

def Cell.isAbsent : Cell ν → Bool
  | .absent => true
  | _ => false

def emptying (attempt : Attempt) (c : Cell ν) : Cell ν × Bool :=
  if attempt = .done ∨ c.isAbsent = true then (.absent, true) else (c, false)

def stoppedAt : List (Attempt × Cell ν) → Cell ν
  | [] => .absent
  | (attempt, c) :: cells =>
    if attempt = .done ∨ c.isAbsent = true then stoppedAt cells else c

/-- What is seen after a removal is what it has stopped at, which is nothing if it succeeds. -/
lemma first_emptying (cells : List (Attempt × Cell ν)) :
    first (runAll emptying cells).1 = stoppedAt cells ∧
      ((runAll emptying cells).2 = true → stoppedAt cells = .absent) := by
  induction cells with
  | nil => exact ⟨rfl, fun _ => rfl⟩
  | cons c cells ih =>
    obtain ⟨attempt, c⟩ := c
    rw [runAll, stoppedAt, emptying]
    by_cases h : attempt = .done ∨ c.isAbsent = true
    · rw [if_pos h, if_pos rfl, if_pos h]
      exact ih
    rw [if_neg h, if_neg Bool.false_ne_true, if_neg h]
    refine ⟨?_, fun hd => absurd hd Bool.false_ne_true⟩
    cases c with
    | absent => exact absurd (.inr rfl) h
    | holds | torn => rfl

end Gadget.Lib.Replicas
