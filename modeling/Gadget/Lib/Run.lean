import Mathlib.Data.List.Basic

/-!
# Runs of a deterministic transition function

A component is a state type `σ`, an event type `ε` and a function `step : σ → ε → σ`; what
the environment decides (a clock reading, a failure, an answer of a peer) is part of the
event. A run is the list of its events.

`Always` says that an invariant holds in every state of a run, `Each` that a condition on
the state before and the event holds at every step of it. `always_iff_each` connects the
two: when a step keeps the invariant exactly under the condition, a run keeps it exactly
when all of its steps meet the condition.
-/

namespace Gadget.Lib.Run

variable {σ ε : Type*}

/-- The invariant holds in every state of the run. -/
def Always (step : σ → ε → σ) (I : σ → Prop) : σ → List ε → Prop
  | s, [] => I s
  | s, e :: es => I s ∧ Always step I (step s e) es

/-- The condition holds at every step of the run. -/
def Each (step : σ → ε → σ) (C : σ → ε → Prop) : σ → List ε → Prop
  | _, [] => True
  | s, e :: es => C s e ∧ Each step C (step s e) es

variable {step : σ → ε → σ} {I J : σ → Prop} {C : σ → ε → Prop}

variable {s : σ} {es : List ε}

lemma Always.head (h : Always step I s es) : I s := by
  rcases es with _ | ⟨e, es⟩
  · exact h
  exact h.1

lemma Always.last (h : Always step I s es) : I (es.foldl step s) := by
  induction es generalizing s with
  | nil => exact h
  | cons e es ih => exact ih h.2

lemma each_congr {D : σ → ε → Prop} (h : ∀ s e, C s e ↔ D s e) (s : σ) (es : List ε) :
    Each step C s es ↔ Each step D s es := by
  induction es generalizing s with
  | nil => exact Iff.rfl
  | cons e es ih => exact and_congr (h s e) (ih _)

lemma Each.mono {D : σ → ε → Prop} (hCD : ∀ s e, C s e → D s e) (h : Each step C s es) :
    Each step D s es := by
  induction es generalizing s with
  | nil => trivial
  | cons e es ih => exact ⟨hCD s e h.1, ih h.2⟩

lemma each_of_forall_mem {P : ε → Prop} (h : ∀ e ∈ es, P e) : Each step (fun _ e => P e) s es := by
  induction es generalizing s with
  | nil => trivial
  | cons e es ih =>
    rw [List.forall_mem_cons] at h
    exact ⟨h.1, ih h.2⟩

/-- An invariant that every step keeps holds along every run. -/
lemma always_of_step (hst : ∀ s e, J s → J (step s e)) (hs : J s) (es : List ε) :
    Always step J s es := by
  induction es generalizing s with
  | nil => exact hs
  | cons e es ih => exact ⟨hs, ih (hst s e hs)⟩

lemma foldl_of_step (hst : ∀ s e, J s → J (step s e)) (hs : J s) (es : List ε) :
    J (es.foldl step s) := by
  induction es generalizing s with
  | nil => exact hs
  | cons e es ih => exact ih (hst s e hs)

lemma Always.mono (h : ∀ s, I s → J s) (ha : Always step I s es) : Always step J s es := by
  induction es generalizing s with
  | nil => exact h s ha
  | cons e es ih => exact ⟨h s ha.1, ih ha.2⟩

lemma Always.and (hi : Always step I s es) (hj : Always step J s es) :
    Always step (fun s => I s ∧ J s) s es := by
  induction es generalizing s with
  | nil => exact ⟨hi, hj⟩
  | cons e es ih => exact ⟨⟨hi.1, hj.1⟩, ih hi.2 hj.2⟩

/-- An invariant that the steps of a run keep, because they meet `C`, holds along the run. -/
lemma always_of_each (hst : ∀ s e, J s → C s e → J (step s e)) (hI : ∀ s, J s → I s) (hs : J s)
    (h : Each step C s es) : Always step I s es := by
  induction es generalizing s with
  | nil => exact hI s hs
  | cons e es ih => exact ⟨hI s hs, ih (hst s e hs h.1) h.2⟩

/-- A condition that follows from the invariant before and after a step holds at every step of
a run that keeps it. -/
lemma each_of_always (h : ∀ s e, I s → I (step s e) → C s e) (ha : Always step I s es) :
    Each step C s es := by
  induction es generalizing s with
  | nil => trivial
  | cons e es ih => exact ⟨h s e ha.1 ha.2.head, ih ha.2⟩

/-- Invariants that agree where `J` holds, which every step keeps, agree along every run. -/
lemma always_congr (hJ : ∀ s e, J s → J (step s e)) {I' : σ → Prop} (h : ∀ s, J s → (I s ↔ I' s))
    (hs : J s) (es : List ε) : Always step I s es ↔ Always step I' s es := by
  induction es generalizing s with
  | nil => exact h s hs
  | cons e es ih => exact and_congr (h s hs) (ih (hJ s e hs))

/-- **Exact run rule.** Steps keep `J` as long as `I` holds. From a state in `J` and `I`, a
step keeps `I` exactly when it meets `C`. Then a run stays in `I` exactly when all of its
steps meet `C`. -/
theorem always_iff_each (hJ : ∀ s e, J s → I s → J (step s e))
    (hI : ∀ s e, J s → I s → (I (step s e) ↔ C s e)) (hs : J s) (hi : I s) (es : List ε) :
    Always step I s es ↔ Each step C s es := by
  -- over the run, for every start in `J` and `I`
  induction es generalizing s with
  | nil => exact ⟨fun _ => trivial, fun _ => hi⟩
  | cons e es ih =>
    constructor
    · rintro ⟨_, hes⟩
      have hi' : I (step s e) := hes.head
      exact ⟨(hI s e hs hi).mp hi', (ih (hJ s e hs hi) hi').mp hes⟩
    · rintro ⟨hc, hes⟩
      have hi' : I (step s e) := (hI s e hs hi).mpr hc
      exact ⟨hi, (ih (hJ s e hs hi) hi').mpr hes⟩

lemma always_iff_each_of_each {H : σ → ε → Prop}
    (hI : ∀ s e, H s e → I s → (I (step s e) ↔ C s e)) (hi : I s) (h : Each step H s es) :
    Always step I s es ↔ Each step C s es := by
  induction es generalizing s with
  | nil => exact ⟨fun _ => trivial, fun _ => hi⟩
  | cons e es ih =>
    have hiff := hI s e h.1 hi
    constructor
    · rintro ⟨_, hes⟩
      have hi' : I (step s e) := hes.head
      exact ⟨hiff.mp hi', (ih hi' h.2).mp hes⟩
    · rintro ⟨hc, hes⟩
      have hi' : I (step s e) := hiff.mpr hc
      exact ⟨hi, (ih hi' h.2).mpr hes⟩

section Simulation

variable {τ δ : Type*} {step' : τ → δ → τ} {view : σ → τ} {act : ε → δ}

lemma always_iff_of_simulation (hv : ∀ s e, view (step s e) = step' (view s) (act e))
    {I' : τ → Prop} (s : σ) (es : List ε) :
    Always step (fun s => I' (view s)) s es ↔ Always step' I' (view s) (es.map act) := by
  induction es generalizing s with
  | nil => exact Iff.rfl
  | cons e es ih =>
    have hr := ih (step s e)
    rw [hv] at hr
    exact and_congr Iff.rfl hr

lemma each_iff_of_simulation (hv : ∀ s e, view (step s e) = step' (view s) (act e))
    {C' : τ → δ → Prop} (s : σ) (es : List ε) :
    Each step (fun s e => C' (view s) (act e)) s es ↔ Each step' C' (view s) (es.map act) := by
  induction es generalizing s with
  | nil => exact Iff.rfl
  | cons e es ih =>
    have hr := ih (step s e)
    rw [hv] at hr
    exact and_congr Iff.rfl hr

end Simulation

/-- A statement about every event of a run, with what is before and after it. -/
lemma forall_split_cons {P : List ε → ε → List ε → Prop} {e : ε} :
    (∀ before e' after, e :: es = before ++ e' :: after → P before e' after) ↔
      P [] e es ∧ ∀ before e' after, es = before ++ e' :: after → P (e :: before) e' after := by
  constructor
  · intro h
    exact ⟨h [] e es rfl, fun before e' after hes => h (e :: before) e' after (congrArg (e :: ·) hes)⟩
  · rintro ⟨hf, hr⟩ before e' after hes
    rcases before with _ | ⟨e'', before⟩
    · cases hes
      exact hf
    cases hes
    exact hr before e' after rfl

lemma exists_split_cons {P : List ε → ε → Prop} {e : ε} :
    (∃ before e' after, e :: es = before ++ e' :: after ∧ P before e') ↔
      P [] e ∨ ∃ before e' after, es = before ++ e' :: after ∧ P (e :: before) e' := by
  constructor
  · intro hp
    by_contra hn
    obtain ⟨before, e', after, hes, hp⟩ := hp
    refine (forall_split_cons (P := fun before e' _ => ¬ P before e')).mpr ⟨fun hf => hn (.inl hf), fun b e' a hes hp => hn (.inr ⟨b, e', a, hes, hp⟩)⟩ before e' after hes hp
  · rintro (hp | ⟨before, e', after, rfl, hp⟩)
    · exact ⟨[], e, es, rfl, hp⟩
    · exact ⟨e :: before, e', after, rfl, hp⟩

lemma nil_ne_split (before : List ε) (e : ε) (after : List ε) : [] ≠ before ++ e :: after :=
  (List.append_ne_nil_of_right_ne_nil _ (List.cons_ne_nil _ _)).symm

/-- A condition at every step, in the state that the events before it lead to. -/
lemma each_iff_split : Each step C s es ↔
    ∀ before e after, es = before ++ e :: after → C (before.foldl step s) e := by
  induction es generalizing s with
  | nil => exact ⟨fun _ before e after h => absurd h (nil_ne_split before e after), fun _ => trivial⟩
  | cons e es ih =>
    rw [forall_split_cons (P := fun before e _ => C (before.foldl step s) e)]
    exact and_congr Iff.rfl ih

end Gadget.Lib.Run
