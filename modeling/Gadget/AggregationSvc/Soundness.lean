import Gadget.AggregationSvc.Calls
import Gadget.AggregationSvc.RoundTrip

/-!
# What is aggregated has been verified

With `verify_on_submit` every stored signature verifies under its key for the message and the
algorithm of its task. The check and the storing are two critical sections, but both belong to
one call that holds `mutation_lock`, so no task changes in between; a rollback puts back tasks
that had the property. The aggregated result can be asked for at any moment, also in the middle
of a call.
-/

namespace Gadget.AggregationSvc

open Rust Lib.Program List

variable {B : Bn254}

def TaskState.Verified (t : TaskState B) : Prop :=
  ∀ i sig pk, t.signatures.lookup i = some sig → t.publicKeys.lookup i = some pk →
    B.verifyWith t.signatureScheme pk t.message sig = true

def Tasks.Verified (ts : Tasks B) : Prop :=
  ts.WellFormed ∧ ∀ id t, ts.lookup id = some t → t.Verified

variable {t t' : TaskState B} {cfg : ServiceConfig}

lemma TaskState.Verified.addSignature {i : ℕ} {sig : B.Signature} {pk : B.PublicKey} {now : ℤ}
    (h : t.Verified) (hsig : B.verifyWith t.signatureScheme pk t.message sig = true)
    (hadd : t.addSignature i sig pk now = .ok t') : t'.Verified := by
  obtain ⟨-, -, -, rfl⟩ := TaskState.addSignature_eq_ok_iff.mp hadd
  intro j sig' pk' hj hj'
  rw [HashMap.lookup_insert_eq] at hj hj'
  by_cases hji : j = i
  · rw [if_pos hji, Option.some.injEq] at hj hj'
    rw [← hj, ← hj']
    exact hsig
  · rw [if_neg hji] at hj hj'
    exact h j sig' pk' hj hj'

lemma TaskState.SameUpTo.verified {D : ℤ → ℤ → Prop} (h : t.SameUpTo D t') (ht : t.Verified) :
    t'.Verified := by
  rw [h.data]
  exact ht

lemma Service.pointwise_invariant {allowed : InitArgs → Prop} {P : TaskState B → Prop}
    (hnew : ∀ a now t, allowed a → a.task B now = some t → P t)
    (hadd : ∀ t t' i sig pk now, P t → (cfg.verifyOnSubmit = true →
      B.verifyWith t.signatureScheme pk t.message sig = true) →
      t.addSignature i sig pk now = .ok t' → P t')
    (hs : ∀ t t', t.SameUpTo (fun _ _ => True) t' → P t → P t')
    (hma : ∀ t now, P t → P { t with submitted := true, submittedAt := some now }) :
    Service.CallInvariant cfg allowed
      fun ts => ts.WellFormed ∧ ∀ id t, ts.lookup id = some t → P t where
  init ts a now ha h := by
    refine ⟨Service.wellFormed_invariant cfg |>.init ts a now trivial h.1, fun id t ht => ?_⟩
    rcases Tasks.lookup_initTaskWithMessageConfig ht with ht | ⟨-, ht₀⟩
    · exact h.2 id t ht
    · exact hnew a now t ha ht₀
  submit ts id i sig pk now now' h hsig := by
    refine ⟨Service.wellFormed_invariant cfg |>.submit ts id i sig pk now now' h.1 hsig,
      fun id' t ht => ?_⟩
    rcases Tasks.lookup_submitSignature ht with ht | ⟨t₀, rfl, ht₀, hok, -⟩
    · exact h.2 id' t ht
    · exact hadd t₀ t i sig pk now' (h.2 id t₀ ht₀) (fun hon => hsig hon t₀ ht₀) hok
  mark ts id now h := by
    refine ⟨Service.wellFormed_invariant cfg |>.mark ts id now h.1, fun id' t ht => ?_⟩
    rcases Tasks.lookup_markSubmitted ht with ht | ⟨t₀, ht₀, rfl⟩
    · exact h.2 id' t ht
    · exact hma t₀ now (h.2 id' t₀ ht₀)
  remove ts id h := ⟨Service.wellFormed_invariant cfg |>.remove ts id h.1,
      fun id' t ht => h.2 id' t (Tasks.lookup_removeTask ht)⟩
  cleanup ts keep h := ⟨Service.wellFormed_invariant cfg |>.cleanup ts keep h.1,
      fun id t ht => h.2 id t (Tasks.lookup_cleanupWhere ht)⟩
  restore ts ts₀ env env' ps h h₀ hps := by
    refine ⟨Service.wellFormed_invariant cfg |>.restore ts ts₀ env env' ps h.1 h₀.1 hps, ?_⟩
    obtain ⟨ps', hps', hrec⟩ := Tasks.snapshot_records h.1 env
    have hsn : ps' = ps := Except.ok.inj (hps'.symm.trans hps)
    subst hsn
    obtain ⟨ts', hts', hm⟩ := hrec.restore h.1 env'
    intro id t ht
    rw [hts'] at ht
    have hrel := hm id
    rw [ht] at hrel
    obtain ⟨t₁, ht₁, htt₁⟩ := optionRel_some_right hrel
    exact hs t₁ t (htt₁.mono fun _ _ _ _ => trivial) (h.2 id t₁ ht₁)

lemma Service.verified_invariant (hv : cfg.verifyOnSubmit = true) :
    Service.TaskInvariant cfg (Tasks.Verified (B := B)) := by
  refine Service.pointwise_invariant ?_ ?_ ?_ fun t now h => h
  · -- a new task has no signatures
    intro a now t _ ht i sig pk hi _
    obtain ⟨e, rfl⟩ := TaskState.withMessageConfig_eq_some ht
    have hn : (∅ : HashMap ℕ B.Signature).lookup i = some sig := hi
    rw [Finmap.lookup_empty] at hn
    cases hn
  · exact fun t t' i sig pk now h hsig hok => h.addSignature (hsig hv) hok
  · exact fun t t' hs h => hs.verified h

lemma TaskState.Verified.pairs (h : t.Verified) :
    List.Forall₂ (fun sig pk => B.verifyWith t.signatureScheme pk t.message sig = true)
      t.getSignaturesForAggregation.1 t.getSignaturesForAggregation.2 := by
  unfold TaskState.getSignaturesForAggregation
  rw [unzip_eq_map, forall₂_map_left_iff, forall₂_map_right_iff, forall₂_same]
  intro pair hp
  obtain ⟨i, -, hi⟩ := mem_filterMap.mp hp
  split at hi
  · rename_i sig pk hsig hpk
    cases hi
    exact h i sig pk hsig hpk
  · cases hi

namespace Service

lemma pointwise_new {P : TaskState B → Prop} : (new : Service B).tasks.WellFormed ∧
    ∀ id t, (new : Service B).tasks.lookup id = some t → P t := by
  refine ⟨Store.wellFormed_empty, fun id t ht => ?_⟩
  rw [new, Finmap.lookup_empty] at ht
  cases ht

/-- **Tasks stay well formed** in every order of calls, in the middle of a call too, whatever the
clocks and the backend answer. -/
theorem always_wellFormed (config : ServiceConfig) (events : List (Event Call StepEnv)) :
    (events.foldl (System.step (Call.code B config)) ⟨new, none⟩).state.tasks.WellFormed :=
  System.invariant _ (wellFormed_invariant config).code Store.wellFormed_empty events

lemma getAggregatedResult_eq {s : Service B} {id : TaskId} {now : ℤ}
    {resp : AggregatedResultResponse} (h : s.getAggregatedResult id now = some resp) :
    ∃ t, s.tasks.lookup id = some t ∧ t.thresholdMet = true ∧ t.submitted = false ∧
      ∃ sig pk, B.aggregate t.getSignaturesForAggregation.1 t.getSignaturesForAggregation.2
          = .ok (sig, pk) ∧
        B.serializeSignature sig = .ok resp.aggregatedSignature ∧
        B.serializePublicKey pk = .ok resp.aggregatedPubkey ∧
        (resp.serviceId, resp.callId, resp.output) = (t.serviceId, t.callId, t.output) := by
  unfold getAggregatedResult at h
  rcases hta : s.tasks.getForAggregation id now with _ | task
  · simp [hta] at h
  obtain ⟨t, ht, hmet, hs, rfl⟩ := getForAggregation_eq hta
  simp only [hta] at h
  split at h
  · cases h
  rename_i sig pk hagg
  split at h
  · rename_i sigBytes pkBytes hsig hpk
    cases h
    exact ⟨t, ht, hmet, hs, sig, pk, hagg, hsig, hpk, rfl⟩
  · cases h

/-- **Soundness of aggregation.** A service that verifies on submission starts empty, and calls
that hold the lock one after the other take their steps, with any answers of clocks and
backend. Whenever the aggregated result of a task can be read, in the middle of a call or not,
it is the aggregate of signatures that verify, each under the key stored with it, for the
message and the algorithm the task has at that moment; its threshold is met, and it is not
submitted. -/
theorem aggregated_sound (config : ServiceConfig) (hverify : config.verifyOnSubmit = true)
    (events : List (Event Call StepEnv)) (id : TaskId) (now : ℤ)
    {resp : AggregatedResultResponse}
    (hresp : (events.foldl (System.step (Call.code B config)) ⟨new, none⟩).state.getAggregatedResult
      id now = some resp) :
    ∃ t, (events.foldl (System.step (Call.code B config)) ⟨new, none⟩).state.tasks.lookup id
        = some t ∧
      (∃ sig pk, B.aggregate t.getSignaturesForAggregation.1 t.getSignaturesForAggregation.2
          = .ok (sig, pk) ∧
        B.serializeSignature sig = .ok resp.aggregatedSignature ∧
        B.serializePublicKey pk = .ok resp.aggregatedPubkey) ∧
      List.Forall₂ (fun sig pk => B.verifyWith t.signatureScheme pk t.message sig = true)
        t.getSignaturesForAggregation.1 t.getSignaturesForAggregation.2 ∧
      t.thresholdMet = true ∧ t.submitted = false := by
  have hinv := System.invariant (Call.code B config) (I := fun s => s.tasks.Verified)
    (fun call s hs => (verified_invariant hverify).code call s hs) pointwise_new events
  obtain ⟨t, ht, hmet, hsu, sig, pk, hagg, hsig, hpk, -⟩ := getAggregatedResult_eq hresp
  exact ⟨t, ht, ⟨sig, pk, hagg, hsig, hpk⟩, (hinv.2 id t ht).pairs, hmet, hsu⟩

noncomputable def signedRun : List (Event Call StepEnv) :=
  [.acquire (.init (lasting 1000))] ++ List.replicate 6 (.work calm) ++
  [.acquire (.submit ⟨1, 1, 0, [], [7], [7]⟩)] ++ List.replicate 10 (.work calm)

theorem aggregated_sound_signedRun :
    ∃ t, (signedRun.foldl (System.step (Call.code Bn254.bytePoints .default))
        ⟨new, none⟩).state.tasks.lookup ⟨1, 1⟩ = some t ∧
      List.Forall₂
        (fun sig pk => Bn254.bytePoints.verifyWith t.signatureScheme pk t.message sig = true)
        t.getSignaturesForAggregation.1 t.getSignaturesForAggregation.2 := by
  obtain ⟨t, ht, -, hp, -⟩ := aggregated_sound (B := Bn254.bytePoints) .default rfl
    signedRun ⟨1, 1⟩ 0 (by rfl)
  exact ⟨t, ht, hp⟩

end Service

end Gadget.AggregationSvc
