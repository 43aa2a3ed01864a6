import Gadget.Lib.Run

/-!
# Programs of atomic steps

A program is a tree of atomic steps over a shared state `σ`. What the environment decides in a
step (a clock reading, whether a call fails) is the answer `w : ω` that the step gets.

* `exec` runs a program alone, on a stream of answers.
* `System` runs programs under one lock: a program owns the lock from its first to its last
  step, and in between anybody may look at the state.
* `wp` is the weakest precondition of a program, for answers that an automaton `allow` admits
  and with an invariant `I` of every state in between. `exec_of_wp` and `System.invariant`
  carry it over to the two ways of running.
-/

namespace Gadget.Lib.Program

open Lib.Run

inductive Prog (ω σ α : Type) where
  | ret (a : α)
  | step (act : ω → σ → σ) (next : ω → σ → Prog ω σ α)

variable {ω σ α β κ γ : Type}

def Prog.bind : Prog ω σ α → (α → Prog ω σ β) → Prog ω σ β
  | .ret a, f => f a
  | .step act next, f => .step act fun w s => (next w s).bind f

instance : Monad (Prog ω σ) where
  pure := .ret
  bind := .bind

def atomic (f : ω → σ → α × σ) : Prog ω σ α :=
  .step (fun w s => (f w s).2) fun w s => .ret (f w s).1

def ask (f : ω → σ → α) : Prog ω σ α := .step (fun _ s => s) fun w s => .ret (f w s)

def exec : Prog ω σ α → (ℕ → ω) → σ → α × σ
  | .ret a, _, s => (a, s)
  | .step act next, env, s => exec (next (env 0) s) (fun n => env (n + 1)) (act (env 0) s)

/-! ## Weakest preconditions -/

section

variable {allow : κ → ω → κ → Prop} {I : σ → Prop} {Q R : κ → α → σ → Prop}

/-- From the state `s` and the state `c` of the automaton, every state on the way is in `I`,
and the program ends in `Q`. -/
def wp (allow : κ → ω → κ → Prop) (I : σ → Prop) (Q : κ → α → σ → Prop) :
    Prog ω σ α → κ → σ → Prop
  | .ret a, c, s => I s ∧ Q c a s
  | .step act next, c, s =>
    I s ∧ ∀ w c', allow c w c' → wp allow I Q (next w s) c' (act w s)

variable {p : Prog ω σ α} {c : κ} {s : σ}

lemma wp_inv (h : wp allow I Q p c s) : I s := by
  rcases p with a | ⟨act, next⟩ <;> exact h.1

lemma wp_mono (h : wp allow I Q p c s) (hQ : ∀ c a s, I s → Q c a s → R c a s) :
    wp allow I R p c s := by
  induction p generalizing c s with
  | ret a => exact ⟨h.1, hQ c a s h.1 h.2⟩
  | step act next ih => exact ⟨h.1, fun w c' hw => ih w s (h.2 w c' hw)⟩

lemma wp_bind {f : α → Prog ω σ β} {Q : κ → β → σ → Prop}
    (h : wp allow I (fun c a s => wp allow I Q (f a) c s) p c s) : wp allow I Q (p >>= f) c s := by
  induction p generalizing c s with
  | ret a => exact h.2
  | step act next ih => exact ⟨h.1, fun w c' hw => ih w s (h.2 w c' hw)⟩

lemma wp_pure {a : α} (hi : I s) (hq : Q c a s) : wp allow I Q (pure a : Prog ω σ α) c s := ⟨hi, hq⟩

lemma wp_atomic {f : ω → σ → α × σ} (hi : I s)
    (h : ∀ w c', allow c w c' → I (f w s).2 ∧ Q c' (f w s).1 (f w s).2) :
    wp allow I Q (atomic f) c s :=
  ⟨hi, h⟩

lemma wp_ask {f : ω → σ → α} (hi : I s) (h : ∀ w c', allow c w c' → Q c' (f w s) s) :
    wp allow I Q (ask f) c s :=
  ⟨hi, fun w c' hw => ⟨hi, h w c' hw⟩⟩

lemma wp_except_bind {ε : Type} {p : ExceptT ε (Prog ω σ) α} {f : α → ExceptT ε (Prog ω σ) β}
    {Q : κ → Except ε β → σ → Prop} (h : wp allow I (fun c r s => match r with
      | .ok a => wp allow I Q (f a).run c s
      | .error e => Q c (.error e) s) p.run c s) : wp allow I Q (p >>= f).run c s := by
  -- an error is handed on by a program without a step
  refine wp_bind (wp_mono h ?_)
  intro c r s hi hr
  rcases r with e | a
  · exact wp_pure hi hr
  exact hr

/-- A program that is run alone ends in its postcondition, if the automaton admits the
answers. -/
lemma exec_of_wp {c : ℕ → κ} (env : ℕ → ω) (h : wp allow I Q p (c 0) s)
    (henv : ∀ n, allow (c n) (env n) (c (n + 1))) :
    ∃ c', Q c' (exec p env s).1 (exec p env s).2 := by
  induction p generalizing c s env with
  | ret a => exact ⟨c 0, h.2⟩
  | step act next ih =>
    -- the rest runs on the shifted stream
    exact ih _ _ (c := fun n => c (n + 1)) _ (h.2 _ _ (henv 0)) fun n => henv (n + 1)

end

/-! ## Special automata -/

variable {I : σ → Prop} {p : Prog ω σ α}

/-- What holds for all answers holds for those an automaton admits. -/
lemma wp_of_all (allow : κ → ω → κ → Prop) {Q : α → σ → Prop} {s : σ}
    (h : wp (fun _ _ _ => True) I (fun _ a s => Q a s) p () s) (c : κ) :
    wp allow I (fun _ a s => Q a s) p c s := by
  induction p generalizing c s with
  | ret a => exact h
  | step act next ih => exact ⟨h.1, fun w c' _ => ih w s (h.2 w () trivial) c'⟩

/-- The automaton that admits a single stream of answers. -/
def replays (env : ℕ → ω) (n : ℕ) (w : ω) (n' : ℕ) : Prop := w = env n ∧ n' = n + 1

lemma exec_of_replays {Q : ℕ → α → σ → Prop} {s : σ} {env : ℕ → ω}
    (h : wp (replays env) I Q p 0 s) : ∃ n, Q n (exec p env s).1 (exec p env s).2 :=
  exec_of_wp (c := fun n => n) env h fun _ => ⟨rfl, rfl⟩

section

variable {good : ω → Prop} {fault : ω → Bool}

/-- Answers are good, and at most one of them is a failure; the state says whether it has
happened. -/
def oneFault (good : ω → Prop) (fault : ω → Bool) (spent : Bool) (w : ω) (spent' : Bool) : Prop :=
  good w ∧ (spent && fault w) = false ∧ spent' = (spent || fault w)

/-- A stream of good answers with at most one failure is admitted. -/
lemma exec_of_oneFault {Q : Bool → α → σ → Prop} {s : σ} (env : ℕ → ω)
    (h : wp (oneFault good fault) I Q p false s) (hg : ∀ n, good (env n))
    (ho : ∀ i j, fault (env i) = true → fault (env j) = true → i = j) :
    ∃ spent, Q spent (exec p env s).1 (exec p env s).2 := by
  classical
  -- before the answer `n` the failure is spent when an earlier answer was one
  refine exec_of_wp (c := fun n => decide (∃ i < n, fault (env i) = true)) env (by simpa using h) ?_
  intro n
  refine ⟨hg n, ?_, ?_⟩
  · rw [Bool.and_eq_false_iff, decide_eq_false_iff_not]
    by_contra hb
    rw [not_or, not_not, Bool.not_eq_false] at hb
    obtain ⟨⟨i, hi, hf⟩, hn⟩ := hb
    exact absurd (ho i n hf hn) (by omega)
  · rw [← Bool.decide_coe (fault (env n)), ← Bool.decide_or, decide_eq_decide]
    constructor
    · rintro ⟨i, hi, hf⟩
      rcases Nat.lt_succ_iff_lt_or_eq.mp hi with hlt | rfl
      · exact .inl ⟨i, hlt, hf⟩
      · exact .inr hf
    · rintro (⟨i, hi, hf⟩ | hf)
      · exact ⟨i, by omega, hf⟩
      · exact ⟨n, by omega, hf⟩

end

/-! ## Programs under a lock -/

structure System (ω σ α : Type) where
  state : σ
  holder : Option (Prog ω σ α)

inductive Event (γ ω : Type) where
  | acquire (call : γ)
  | work (answer : ω)

namespace System

/-- The holder takes its next step, or gives the lock back at its end. A call that finds the
lock taken waits. -/
def step (code : γ → Prog ω σ α) : System ω σ α → Event γ ω → System ω σ α
  | ⟨s, none⟩, .acquire call => ⟨s, some (code call)⟩
  | ⟨s, some (.step act next)⟩, .work w => ⟨act w s, some (next w s)⟩
  | ⟨s, some (.ret _)⟩, .work _ => ⟨s, none⟩
  | sys, _ => sys

private def Safe (I : σ → Prop) (sys : System ω σ α) : Prop :=
  I sys.state ∧ ∀ p, sys.holder = some p →
    wp (fun _ _ _ => True) I (fun _ _ _ => True) p () sys.state

private lemma safe_step {code : γ → Prog ω σ α}
    (hc : ∀ call s, I s → wp (fun _ _ _ => True) I (fun _ _ _ => True) (code call) () s)
    (sys : System ω σ α) (e : Event γ ω) (h : Safe I sys) : Safe I (step code sys e) := by
  obtain ⟨s, holder⟩ := sys
  obtain ⟨hi, hs⟩ := h
  cases e with
  | acquire call =>
    cases holder with
    | none =>
      refine ⟨hi, fun p hp => ?_⟩
      cases hp
      exact hc call s hi
    -- the call waits
    | some p => cases p <;> exact ⟨hi, hs⟩
  | work w =>
    rcases holder with _ | p
    · exact ⟨hi, hs⟩
    rcases p with a | ⟨act, next⟩
    · exact ⟨hi, fun p hp => by cases hp⟩
    have hn := (hs _ rfl).2 w () trivial
    refine ⟨wp_inv hn, fun p hp => ?_⟩
    cases hp
    exact hn

/-- **Invariants under a lock.** When every call keeps the invariant in all of its states, it
holds in every state of the system, also in the middle of a call. -/
theorem invariant (code : γ → Prog ω σ α)
    (hc : ∀ call s, I s → wp (fun _ _ _ => True) I (fun _ _ _ => True) (code call) () s) {s : σ}
    (hs : I s) (es : List (Event γ ω)) : I (es.foldl (step code) ⟨s, none⟩).state := by
  have hsa : Safe I (es.foldl (step code) ⟨s, none⟩) :=
    foldl_of_step (safe_step hc) ⟨hs, fun p hp => by cases hp⟩ es
  exact hsa.1

end System

end Gadget.Lib.Program
