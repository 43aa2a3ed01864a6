import Gadget.Core.Job

/-!
# The router

A router sends a job call to the job registered for its id and to all jobs that are always
called; a fallback is only called when there is neither. The jobs of a call run side by side, so
their outcomes arrive in any order, and the first one that fails makes the whole call fail.
-/

namespace Gadget.Routing

open Rust Gadget.Core List Option Except

variable {ε : Type}

abbrev Route (ε : Type) := JobCall → Except ε (Option JobResult)

structure FinishOrder (α : Type) where
  arrange : List α → List α
  perm : ∀ l, (arrange l).Perm l

def FinishOrder.started (α : Type) : FinishOrder α := ⟨id, fun _ => .refl _⟩

structure Router (ε : Type) where
  routes : HashMap JobId (Route ε)
  alwaysRoutes : List (Route ε)
  fallback : Option (Route ε)

namespace Router

def new : Router ε := ⟨∅, [], none⟩

variable (router : Router ε)

def route (jobId : JobId) (job : Route ε) : Router ε :=
  { router with routes := router.routes.insert jobId job }

def always (job : Route ε) : Router ε :=
  { router with alwaysRoutes := router.alwaysRoutes ++ [job], fallback := none }

def setFallback (job : Route ε) : Router ε := { router with fallback := some job }

def layer (wrap : Route ε → Route ε) : Router ε where
  routes := HashMap.filterMap router.routes fun _ job => some (wrap job)
  alwaysRoutes := router.alwaysRoutes.map wrap
  fallback := router.fallback.map wrap

def matched (call : JobCall) : Option (List (Route ε)) :=
  match router.routes.lookup call.jobId with
  | some job => some (job :: router.alwaysRoutes)
  | none =>
    -- the fallback is for calls that nothing else takes
    if router.alwaysRoutes = [] then router.fallback.map fun job => [job]
    else some router.alwaysRoutes

def collect : List (Except ε (Option JobResult)) → Except ε (List JobResult)
  | [] => .ok []
  | .ok (some job) :: rest =>
    match collect rest with
    | .ok results => .ok (job :: results)
    | .error e => .error e
  | .ok none :: rest => collect rest
  -- the jobs that have not arrived yet are dropped
  | .error e :: _ => .error e

def call (order : FinishOrder (Except ε (Option JobResult))) (call : JobCall) :
    Except ε (Option (List JobResult)) :=
  match router.matched call with
  | none => .ok none
  | some jobs =>
    match collect (order.arrange (jobs.map fun job => job call)) with
    | .ok results => .ok (some results)
    | .error e => .error e

def Fails (call : JobCall) : Prop :=
  ∃ jobs, router.matched call = some jobs ∧ ∃ job ∈ jobs, ∃ e, job call = .error e

def Answers (call : JobCall) (result : JobResult) : Prop :=
  ∃ jobs, router.matched call = some jobs ∧ ∃ job ∈ jobs, job call = .ok (some result)

lemma collect_eq_ok {outcomes : List (Except ε (Option JobResult))} {results : List JobResult} :
    collect outcomes = .ok results ↔
      (∀ e, .error e ∉ outcomes) ∧ results = outcomes.filterMap fun o => o.toOption.join := by
  induction outcomes generalizing results with
  | nil => simp [collect, eq_comm]
  | cons out rest ih =>
    cases out with
    | error e =>
      constructor
      · intro h
        cases h
      · rintro ⟨h, -⟩
        exact absurd mem_cons_self (h e)
    | ok answer =>
      have hno : (∀ e, .error e ∉ ok answer :: rest) ↔ ∀ e, .error e ∉ rest := by simp
      rw [hno]
      rcases answer with _ | job
      · rw [collect, ih]
        rfl
      cases hr : collect rest with
      | error e =>
        have hf : ¬ ∀ e, error e ∉ rest := by
          intro h
          rw [ih.mpr ⟨h, rfl⟩] at hr
          cases hr
        simp only [collect, hr]
        exact iff_of_false nofun fun h => hf h.1
      | ok tail =>
        obtain ⟨hok, ht⟩ := ih.mp hr
        simp only [collect, hr, ok.injEq]
        rw [and_iff_right hok, ht]
        exact eq_comm

variable {rt : Router ε} {ord : FinishOrder (Except ε (Option JobResult))} {jobCall : JobCall}

lemma mem_arrange {jobs : List (Route ε)} {o : Except ε (Option JobResult)} :
    o ∈ ord.arrange (jobs.map fun job => job jobCall) ↔ ∃ job ∈ jobs, job jobCall = o := by
  rw [(ord.perm _).mem_iff, List.mem_map]

lemma call_eq_ok_some_iff {results : List JobResult} :
    rt.call ord jobCall = .ok (some results) ↔ ∃ jobs, rt.matched jobCall = some jobs ∧
        collect (ord.arrange (jobs.map fun job => job jobCall)) = .ok results := by
  unfold Router.call
  rcases rt.matched jobCall with _ | jobs
  · simp
  simp only [some.injEq, exists_eq_left']
  cases collect (ord.arrange (jobs.map fun job => job jobCall)) with
  | error | ok => simp

lemma call_eq_ok_some {results : List JobResult} (h : rt.call ord jobCall = .ok (some results)) :
    ¬ rt.Fails jobCall ∧ ∀ result, result ∈ results ↔ rt.Answers jobCall result := by
  obtain ⟨jobs, hm, hc⟩ := call_eq_ok_some_iff.mp h
  obtain ⟨hok, rfl⟩ := collect_eq_ok.mp hc
  refine ⟨?_, fun result => ?_⟩
  · rintro ⟨jobs', hm', job, hjob, e, he⟩
    rw [hm] at hm'
    cases hm'
    exact hok e (mem_arrange.mpr ⟨job, hjob, he⟩)
  · rw [mem_filterMap]
    constructor
    · rintro ⟨o, ho, hr⟩
      obtain ⟨job, hjob, rfl⟩ := mem_arrange.mp ho
      exact ⟨jobs, hm, job, hjob, toOption_eq_some.mp (join_eq_some_iff.mp hr)⟩
    · rintro ⟨jobs', hm', job, hjob, ha⟩
      rw [hm] at hm'
      cases hm'
      exact ⟨.ok (some result), mem_arrange.mpr ⟨job, hjob, ha⟩, rfl⟩

lemma call_ne_ok_some (h : ∀ results, rt.call ord jobCall ≠ .ok (some results)) :
    rt.matched jobCall = none ∨ rt.Fails jobCall := by
  rcases hm : rt.matched jobCall with _ | jobs
  · exact .inl rfl
  right
  by_contra hf
  have hok : ∀ e, .error e ∉ ord.arrange (jobs.map fun job => job jobCall) := by
    intro e he
    obtain ⟨job, hjob, hj⟩ := mem_arrange.mp he
    exact hf ⟨jobs, hm, job, hjob, e, hj⟩
  exact h _ (call_eq_ok_some_iff.mpr ⟨jobs, hm, collect_eq_ok.mpr ⟨hok, rfl⟩⟩)

lemma matched_layer (rt : Router ε) (wrap : Route ε → Route ε) (jobCall : JobCall) :
    (rt.layer wrap).matched jobCall = (rt.matched jobCall).map fun jobs => jobs.map wrap := by
  simp only [matched, layer, HashMap.lookup_filterMap]
  cases rt.routes.lookup jobCall.jobId with
  | some job => rfl
  | none =>
    simp only [bind_none, map_eq_nil_iff]
    by_cases ha : rt.alwaysRoutes = []
    · rw [if_pos ha, if_pos ha]
      rcases rt.fallback with _ | job <;> rfl
    · rw [if_neg ha, if_neg ha]
      rfl

end Router

end Gadget.Routing
