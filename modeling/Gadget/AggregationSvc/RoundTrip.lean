import Gadget.AggregationSvc.Signers

/-!
# Snapshots and records

A snapshot of any reachable task map restores to the same tasks; only their instants pass
through milliseconds on the wall clock. Two readings of clocks that run together move an
instant by less than two milliseconds, as long as it is a `u64` of milliseconds. A record of
any origin that is accepted gives a well-formed task: bitmap and maps agree unless an operator
has no bit, and the total is the sum of the stakes unless that overflows.
-/

namespace Gadget.AggregationSvc

open Rust

variable {B : Bn254}

structure TaskState.SameUpTo (D : ℤ → ℤ → Prop) (t t' : TaskState B) : Prop where
  data : t' = { t with
    submittedAt := t'.submittedAt
    createdAt := t'.createdAt
    expiresAt := t'.expiresAt }
  submittedAt : Option.Rel D t.submittedAt t'.submittedAt
  createdAt : D t.createdAt t'.createdAt
  expiresAt : Option.Rel D t.expiresAt t'.expiresAt

def Tasks.SameUpTo (D : ℤ → ℤ → Prop) (ts ts' : Tasks B) : Prop :=
  ∀ id, Option.Rel (TaskState.SameUpTo D) (ts.lookup id) (ts'.lookup id)

def WithinRounding (x x' : ℤ) : Prop := |x' - x| < 2 * nsPerMs

def TaskState.HasInstant (t : TaskState B) (x : ℤ) : Prop :=
  t.submittedAt = some x ∨ t.createdAt = x ∨ t.expiresAt = some x

def Tasks.Stampable (off : ℤ) (ts : Tasks B) : Prop :=
  ∀ id t, ts.lookup id = some t → ∀ x, t.HasInstant x → Rust.Stampable off x

def SnapshotEnv.Coupled (off : ℤ) (env : SnapshotEnv) : Prop :=
  ∀ id r, (env.clock id).Reads r → Rust.Coupled off r

def Tasks.SameAnswers (ts ts' : Tasks B) : Prop :=
  (∀ id t t', ts.lookup id = some t → ts'.lookup id = some t' →
    t'.thresholdMet = t.thresholdMet ∧ t'.getSigners = t.getSigners) ∧
  ∀ id now now' r r', ts.getForAggregation id now = some r →
    ts'.getForAggregation id now' = some r' → r' = r

variable {D : ℤ → ℤ → Prop} {ts ts' : Tasks B}

variable {D' : ℤ → ℤ → Prop} {t : TaskState B} {R : ℕ → ℤ → Prop} {env : SnapshotEnv}

lemma TaskState.SameUpTo.mono {t' : TaskState B} (h : t.SameUpTo D t')
    (hD : ∀ x x', t.HasInstant x → D x x' → D' x x') :
    t.SameUpTo D' t' where
  data := h.data
  submittedAt := optionRel_imp_of_eq h.submittedAt fun x x' hx _ => hD x x' (.inl hx)
  createdAt := hD _ _ (.inr (.inl rfl)) h.createdAt
  expiresAt := optionRel_imp_of_eq h.expiresAt fun x x' hx _ => hD x x' (.inr (.inr hx))

lemma Tasks.SameUpTo.mono (h : ts.SameUpTo D ts')
    (hD : ∀ id t, ts.lookup id = some t → ∀ x x', t.HasInstant x → D x x' → D' x x') :
    ts.SameUpTo D' ts' := by
  intro id
  refine optionRel_imp_of_eq (h id) ?_
  intro t t' ht _ htt'
  exact htt'.mono (hD id t ht)

lemma Tasks.SameUpTo.anyInstant (h : ts.SameUpTo D ts') : ts.SameUpTo (fun _ _ => True) ts' :=
  h.mono fun _ _ _ _ _ _ _ => trivial

lemma getForAggregation_eq {id : TaskId} {now : ℤ} {r : TaskForAggregation B}
    (h : ts.getForAggregation id now = some r) :
    ∃ t, ts.lookup id = some t ∧ t.thresholdMet = true ∧ t.submitted = false ∧
      r = { serviceId := t.serviceId
            callId := t.callId
            output := t.output
            signerBitmap := t.signerBitmap
            nonSignerIndices := t.getNonSigners
            signatures := t.getSignaturesForAggregation.1
            publicKeys := t.getSignaturesForAggregation.2 } := by
  unfold Tasks.getForAggregation at h
  rcases ht : ts.lookup id with _ | t
  · simp [ht] at h
  simp only [ht] at h
  split at h
  · cases h
  rename_i hg
  cases h
  simp only [Bool.or_eq_true, Bool.not_eq_true', not_or, Bool.not_eq_true,
    Bool.not_eq_false] at hg
  exact ⟨t, rfl, hg.1.1, hg.1.2, rfl⟩

lemma Tasks.SameUpTo.sameAnswers (h : ts.SameUpTo D ts') : ts.SameAnswers ts' := by
  have hd : ∀ id t t', ts.lookup id = some t → ts'.lookup id = some t' → t' = { t with
        submittedAt := t'.submittedAt
        createdAt := t'.createdAt
        expiresAt := t'.expiresAt } := by
    intro id t t' ht ht'
    have hrel := h id
    rw [ht, ht', Option.rel_some_some] at hrel
    exact hrel.data
  constructor
  · intro id t t' ht ht'
    rw [hd id t t' ht ht']
    exact ⟨rfl, rfl⟩
  · intro id now now' r r' hr hr'
    obtain ⟨t, ht, -, -, rfl⟩ := getForAggregation_eq hr
    obtain ⟨t', ht', -, -, rfl⟩ := getForAggregation_eq hr'
    rw [hd id t t' ht ht']
    rfl

private lemma rel_restamp {a : Option ℕ} {b : Option ℤ} (h : Option.Rel R a b) (r : Reading) :
    Option.Rel (fun x x' => ∃ s, R s x ∧ x' = millisToInstant r s) b
      (a.map (millisToInstant r)) := by
  cases h with
  | none => exact .none
  | some hr => exact .some ⟨_, hr, rfl⟩

lemma Represents.sameUpTo {p : PersistedTaskState} (h : Represents R p t) (clk : TaskClock) :
    t.SameUpTo (fun x x' => ∃ s r, clk.Reads r ∧ R s x ∧ x' = millisToInstant r s)
      (t.withStamps p clk) where
  data := rfl
  submittedAt := optionRel_imp (rel_restamp h.submittedAt clk.submitted)
    fun _ _ ⟨s, hs, hx⟩ => ⟨s, _, .inr (.inl rfl), hs, hx⟩
  createdAt := ⟨_, _, .inr (.inr (.inl rfl)), h.createdAt, rfl⟩
  expiresAt := optionRel_imp (rel_restamp h.expiresAt clk.expires)
    fun _ _ ⟨s, hs, hx⟩ => ⟨s, _, .inr (.inr (.inr rfl)), hs, hx⟩

def SnapshotEnv.Moves (env env' : SnapshotEnv) (x x' : ℤ) : Prop :=
  ∃ id id' r r', (env.clock id).Reads r ∧ (env'.clock id').Reads r' ∧
    x' = millisToInstant r' (instantToMillis r x)

lemma SnapshotEnv.Moves.withinRounding {off : ClockOffset} {env' : SnapshotEnv} {x x' : ℤ}
    (h : env.Moves env' x x') (henv : env.Coupled off) (henv' : env'.Coupled off)
    (hx : Rust.Stampable off x) : WithinRounding x x' := by
  obtain ⟨id, id', r, r', hr, hr', rfl⟩ := h
  exact millisToInstant_instantToMillis (henv id r hr) (henv' id' r' hr') hx

lemma Tasks.Records.restore {ps : List PersistedTaskState} (h : Tasks.Records env.Writes ps ts)
    (hwf : ts.WellFormed) (env' : SnapshotEnv) :
    ∃ ts', (∀ ts₀ : Tasks B, ts₀.restore ps env' = (.ok (), ts')) ∧
      ts.SameUpTo (env.Moves env') ts' := by
  have hrec : Tasks.Records (Represents env.Stamped) ps ts := h.mono fun p t hp => hp.represents
  obtain ⟨ts', hts', hrel⟩ := hrec.recover hwf env'.clock
  refine ⟨ts', fun ts₀ => by rw [Tasks.restore, hts'], fun id => ?_⟩
  refine optionRel_imp (hrel id) ?_
  rintro t t' ⟨p, -, -, hrep, rfl⟩
  refine (hrep.sameUpTo _).mono ?_
  rintro x x' - ⟨s, r', hr', ⟨id', r, hr, rfl⟩, rfl⟩
  exact ⟨id', id, r, r', hr, hr', rfl⟩

/-- **Persistence.** For every reachable task map, taking a snapshot and restoring it succeed
and give the same tasks under the same ids with the same answers; through clocks at the same
distance, stampable instants move by less than two milliseconds. And an accepted record of any
origin gives a task whose bitmap and maps agree exactly when all its operators have a bit, and
whose total is the sum of its stakes exactly when that fits a `u64`. -/
theorem persistence_round_trip (ops : List (Op B)) (env env' : SnapshotEnv) :
    (∃ ps ts', (ops.foldl Store.step Store.empty).tasks.snapshot env = .ok ps ∧
      (ops.foldl Store.step Store.empty).tasks.restore ps env' = (.ok (), ts') ∧
      (ops.foldl Store.step Store.empty).tasks.SameUpTo (fun _ _ => True) ts' ∧
      (ops.foldl Store.step Store.empty).tasks.SameAnswers ts' ∧
      ∀ off : ClockOffset, env.Coupled off → env'.Coupled off →
        (ops.foldl Store.step Store.empty).tasks.Stampable off →
        (ops.foldl Store.step Store.empty).tasks.SameUpTo WithinRounding ts') ∧
    ∀ p clock (t : TaskState B), TaskState.tryFrom p clock = .ok t →
      (t.BitmapExact ↔ ∀ i ∈ p.signatures.keys, i < 256) ∧
      (t.totalStake = t.exactTotal ↔
        TaskState.exactStake p.operatorStakes p.operatorStakes.keys < 2 ^ 64) := by
  constructor
  · have hwf : (ops.foldl Store.step Store.empty).tasks.WellFormed :=
      Lib.Run.foldl_of_step (J := fun s : Store B => s.tasks.WellFormed)
        (fun s op h => Store.wellFormed_step h op) Store.wellFormed_empty ops
    obtain ⟨ps, hps, hrec⟩ := Tasks.snapshot_records hwf env
    obtain ⟨ts', hts', hs⟩ := hrec.restore hwf env'
    refine ⟨ps, ts', hps, hts' _, hs.anyInstant, hs.sameAnswers, ?_⟩
    intro off henv henv' hsta
    exact hs.mono fun id t ht x x' hx hm =>
      hm.withinRounding henv henv' (hsta id t ht x hx)
  · intro p clock t ht
    obtain ⟨hwf, hk, hst⟩ := tryFrom_eq_ok ht
    constructor
    · rw [TaskState.bitmapExact_iff hwf, hk]
    · rw [hwf.total_eq, TaskState.exactTotal, wrap64_eq_self_iff, hst]

def overfullRecord : PersistedTaskState where
  serviceId := 1
  callId := 1
  output := []
  message := []
  signatureScheme := .arkworksSha256
  operatorCount := 257
  thresholdType := .count 1
  signerBitmap := ['0', 'x', '0']
  signatures := HashMap.collect [(256, ['0', 'x', '0', '7'])]
  publicKeys := HashMap.collect [(256, ['0', 'x', '0', '7'])]
  operatorStakes := ∅
  totalStake := 0
  submitted := false
  submittedAtMs := none
  createdAtMs := 0
  expiresAtMs := none

theorem overfull_record_accepted : ∃ t : TaskState Bn254.bytePoints,
      TaskState.tryFrom overfullRecord ⟨.zero, .zero, .zero, .zero⟩ = .ok t ∧ ¬ t.BitmapExact := by
  have hk : overfullRecord.signatures.keys = {256} := by decide
  have hs : overfullRecord.signatures.keys.sort (· ≤ ·) = [256] := by
    rw [hk]
    exact Finset.sort_singleton _ _
  refine ⟨_, by unfold TaskState.tryFrom; rw [hs]; rfl, fun h => ?_⟩
  exact absurd (h.agree 256 (by decide)).1 (by decide)

end Gadget.AggregationSvc
