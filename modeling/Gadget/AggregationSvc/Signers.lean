import Gadget.AggregationSvc.State

/-!
# The bitmap of signers

Three representations of the operators that signed a task: the bitmap, the map of signatures
and the map of keys. The number of operators is any `u32`, the bitmap has 256 bits. The
representations agree along a run exactly when no signature of an operator with index 256 or
more is accepted.
-/

namespace Gadget.AggregationSvc

open Rust Lib.Run TaskState List Finset HashMap

variable {B : Bn254}

namespace TaskState

/-- The bitmap, the signatures and the keys agree on every operator, and signers and
non-signers divide the operators. -/
structure BitmapExact (t : TaskState B) : Prop where
  agree : ∀ i < (t.operatorCount : ℕ), (t.hasSigned i = true ↔ i ∈ t.signatures.keys) ∧
    (i ∈ t.signatures.keys ↔ i ∈ t.publicKeys.keys)
  covers : ∀ i, i < (t.operatorCount : ℕ) ↔ i ∈ t.getSigners ∨ i ∈ t.getNonSigners
  disjoint : ∀ i ∈ t.getSigners, i ∉ t.getNonSigners

variable (t : TaskState B)

/-- The bitmap and the non-signers handed out describe the signatures handed out: there is a
list of operators whose stored pairs these are, the bitmap has exactly their bits, and the
non-signers are exactly the others. -/
def Describes (r : TaskForAggregation B) : Prop :=
  ∃ signers : List ℕ, signers.Nodup ∧ r.signatures.map some = signers.map (t.signatures.lookup ·) ∧
    r.publicKeys.map some = signers.map (t.publicKeys.lookup ·) ∧
    (∀ i, r.signerBitmap.getLsbD i = true ↔ i ∈ signers) ∧
    ∀ i, i ∈ r.nonSignerIndices ↔ i < (t.operatorCount : ℕ) ∧ i ∉ signers

lemma mem_getSigners (i : ℕ) : i ∈ t.getSigners ↔ i ∈ t.signatures.keys := Finset.mem_sort _

lemma mem_getNonSigners (i : ℕ) :
    i ∈ t.getNonSigners ↔ i < (t.operatorCount : ℕ) ∧ t.hasSigned i = false := by
  simp [getNonSigners]

variable {t : TaskState B}

lemma bitmapExact_iff (hwf : t.WellFormed) : t.BitmapExact ↔ ∀ i ∈ t.signatures.keys, i < 256 := by
  constructor
  · intro h i hi
    have hsi := ((h.agree i (hwf.index_lt i hi)).1).mpr hi
    exact ((hasSigned_iff hwf i).mp hsi).2
  · intro h
    have hsi : ∀ i, t.hasSigned i = true ↔ i ∈ t.signatures.keys := fun i => by
      rw [hasSigned_iff hwf]
      exact and_iff_left_of_imp (h i)
    refine ⟨fun i _ => ⟨hsi i, by rw [hwf.keys_eq]⟩, fun i => ?_, fun i hi hn => ?_⟩
    · rw [mem_getSigners, mem_getNonSigners, ← hsi]
      constructor
      · intro hlt
        rcases hs : t.hasSigned i with _ | _
        · exact .inr ⟨hlt, rfl⟩
        exact .inl rfl
      · rintro (hs | ⟨hlt, -⟩)
        · exact hwf.index_lt i ((hsi i).mp hs)
        · exact hlt
    · rw [mem_getSigners, ← hsi] at hi
      rw [mem_getNonSigners, hi] at hn
      cases hn.2

lemma collectPairs (hwf : t.WellFormed) {signers : List ℕ}
    (h : ∀ i ∈ signers, i ∈ t.signatures.keys) :
    let pairs := signers.filterMap fun idx =>
      match t.signatures.lookup idx, t.publicKeys.lookup idx with
      | some sig, some pk => some (sig, pk)
      | _, _ => none
    (pairs.map Prod.fst).map some = signers.map (t.signatures.lookup ·) ∧
    (pairs.map Prod.snd).map some = signers.map (t.publicKeys.lookup ·) := by
  induction signers with
  | nil => exact ⟨rfl, rfl⟩
  | cons i signers ih =>
    obtain ⟨ihs, ihp⟩ := ih fun j hj => h j (mem_cons_of_mem _ hj)
    have hi := h i mem_cons_self
    obtain ⟨sig, hsig⟩ := (mem_keys_iff_lookup _ i).mp hi
    obtain ⟨pk, hpk⟩ := (mem_keys_iff_lookup t.publicKeys i).mp (hwf.keys_eq ▸ hi)
    simp [hsig, hpk, ihs, ihp]

lemma describes_of_lt {ts : Tasks B} {id : TaskId} {now : ℤ} {r : TaskForAggregation B}
    (hwf : t.WellFormed) (h : ∀ i ∈ t.signatures.keys, i < 256) (ht : ts.lookup id = some t)
    (hr : ts.getForAggregation id now = some r) : t.Describes r := by
  have hs : ∀ i, t.signerBitmap.getLsbD i = true ↔ i ∈ t.getSigners := fun i => by
    rw [hwf.bit_iff, mem_getSigners]
    exact and_iff_left_of_imp (h i)
  obtain ⟨hsi, hpks⟩ := collectPairs hwf fun i hi => (mem_getSigners t i).mp hi
  simp only [Tasks.getForAggregation, ht, getSignaturesForAggregation, unzip_eq_map] at hr
  split at hr
  · cases hr
  cases hr
  refine ⟨t.getSigners, sort_nodup _ _, hsi, hpks, hs, fun i => ?_⟩
  rw [mem_getNonSigners, hasSigned_eq, ← hs, Bool.not_eq_true]

end TaskState

namespace Store

variable (s : Store B)

/-- Every bitmap is exact, and what is handed out describes its task. -/
def BitmapsExact : Prop :=
  ∀ id t, s.tasks.lookup id = some t → t.BitmapExact ∧
    ∀ now r, s.tasks.getForAggregation id now = some r → t.Describes r

def AcceptsOnce (op : Op B) : Prop :=
  ∀ id i sig pk now now' result, op = .submit id i sig pk now now' →
    (s.tasks.submitSignature id i sig pk now now').1 = .ok result →
    ∀ t, s.tasks.lookup id = some t → i ∉ t.signatures.keys

def Addressable (op : Op B) : Prop :=
  ∀ id i sig pk now now' result, op = .submit id i sig pk now now' →
    (s.tasks.submitSignature id i sig pk now now').1 = .ok result → i < 256

/-- The recorded signers have a bit in the bitmap. -/
def SignersFit : Prop :=
  ∀ id t, s.tasks.lookup id = some t → ∀ i ∈ t.signatures.keys, i < 256

structure Tracked (s : Store B) : Prop where
  wellFormed : s.tasks.WellFormed
  snapshots : ∀ ps ∈ s.snapshots, ∀ p ∈ ps, ∀ i ∈ p.signatures.keys, i < 256

variable {s : Store B}

lemma bitmapsExact_iff (hwf : s.tasks.WellFormed) : s.BitmapsExact ↔ s.SignersFit := by
  constructor
  · intro h id t ht
    exact (bitmapExact_iff (hwf id t ht).1).mp (h id t ht).1
  · intro h id t ht
    refine ⟨(bitmapExact_iff (hwf id t ht).1).mpr (h id t ht), fun now r hr => ?_⟩
    exact describes_of_lt (hwf id t ht).1 (h id t ht) ht hr

lemma acceptsOnce_of_fit (hwf : s.tasks.WellFormed) (h : s.SignersFit) (op : Op B) :
    s.AcceptsOnce op := by
  intro id i sig pk now now' result _ hok t ht hi
  rcases s.tasks.submitSignature_cases id i sig pk now now'
    with ⟨e, he⟩ | ⟨t₀, t', h₀, -, -, hadd, -⟩
  · rw [he] at hok
    cases hok
  rw [ht] at h₀
  cases h₀
  obtain ⟨-, hu, -, -⟩ := addSignature_eq_ok_iff.mp hadd
  rw [(hasSigned_iff (hwf id t ht).1 i).mpr ⟨hi, h id t ht i hi⟩] at hu
  cases hu

lemma tracked_step (h : s.Tracked) (hfit : s.SignersFit) (op : Op B) : (s.step op).Tracked := by
  refine ⟨wellFormed_step h.wellFormed op, fun ps hps p hp i hi => ?_⟩
  rcases step_snapshots hps with hold | ⟨env, hnew⟩
  · exact h.snapshots ps hold p hp i hi
  -- the records of a snapshot have the signers of the tasks
  obtain ⟨ps', hps', hrec⟩ := Tasks.snapshot_records h.wellFormed env
  rw [hnew] at hps'
  cases hps'
  obtain ⟨t, ht, hrep⟩ := hrec.sound p hp
  rw [keys_eq_of_rel hrep.represents.signatures] at hi
  exact hfit _ t ht i hi

lemma signersFit_step_iff (h : s.Tracked) (hfit : s.SignersFit) (op : Op B) :
    (s.step op).SignersFit ↔ s.Addressable op := by
  constructor
  · rintro hfit' id i sig pk now now' result rfl hok
    rcases s.tasks.submitSignature_cases id i sig pk now now'
      with ⟨e, he⟩ | ⟨t₀, t, -, -, -, hadd, he⟩
    · rw [he] at hok
      cases hok
    have ht : (s.step (.submit id i sig pk now now')).tasks.lookup id = some t := by
      rw [step, he]
      exact Finmap.lookup_insert _
    obtain ⟨-, -, -, rfl⟩ := addSignature_eq_ok_iff.mp hadd
    refine hfit' id _ ht i ?_
    rw [keys_insert]
    exact mem_insert_self _ _
  · intro ha id t ht i hi
    cases step_origin ht with
    | kept h₀ => exact hfit id t h₀ i hi
    | created a now hid ht =>
      obtain ⟨e, rfl⟩ := withMessageConfig_eq_some ht
      exact absurd hi (notMem_empty i)
    | signed j sig pk now now' t₀ hop h₀ hadd hok =>
      obtain ⟨-, -, -, rfl⟩ := addSignature_eq_ok_iff.mp hadd
      rw [keys_insert, mem_insert] at hi
      rcases hi with rfl | hi
      · exact ha id i sig pk now now' _ hop hok
      · exact hfit id t₀ h₀ i hi
    | marked now t₀ h₀ ht =>
      subst ht
      exact hfit id t₀ h₀ i hi
    | restored ps p clk hps hp ht hid =>
      rw [(tryFrom_eq_ok ht).2.1] at hi
      exact h.snapshots ps hps p hp i hi

/-- **The bitmap.** Along any run from the empty store, the representations of the signers
agree in every task of every state, what is handed out describes the signatures, and no
operator's signature is accepted twice, exactly when every accepted signature is of one of
the first 256 operators. -/
theorem always_bitmapsExact_iff (ops : List (Op B)) :
    (Always step BitmapsExact (empty : Store B) ops ∧ Each step AcceptsOnce empty ops) ↔
      Each step Addressable (empty : Store B) ops := by
  have htr : (empty : Store B).Tracked :=
    ⟨wellFormed_empty, fun ps hps => absurd hps not_mem_nil⟩
  have he : (empty : Store B).SignersFit := fun id t ht => by
    rw [empty, Finmap.lookup_empty] at ht
    cases ht
  have hwf : ∀ (s : Store B) op, s.tasks.WellFormed → (s.step op).tasks.WellFormed :=
    fun s op h => wellFormed_step h op
  have hex : Always step BitmapsExact (empty : Store B) ops ↔ Always step SignersFit empty ops :=
    always_congr (J := fun s => s.tasks.WellFormed) hwf (fun s h => bitmapsExact_iff h)
      wellFormed_empty ops
  have hrun : Always step SignersFit (empty : Store B) ops ↔ Each step Addressable empty ops :=
    always_iff_each (J := Tracked) (fun s op h hi => tracked_step h hi op)
      (fun s op h hi => signersFit_step_iff h hi op) htr he ops
  rw [hex, ← hrun]
  refine and_iff_left_of_imp fun hfit => ?_
  have hb := hfit.and (always_of_step hwf wellFormed_empty ops)
  exact each_of_always (fun s op h _ => acceptsOnce_of_fit h.2 h.1 op) hb

def manyOperators : InitArgs where
  serviceId := 1
  callId := 1
  output := []
  message := []
  signatureScheme := .arkworksSha256
  operatorCount := 257
  config := { thresholdType := .count 1, operatorStakes := some ∅, ttl := none }

def submit256 : Op Bn254.bytePoints := .submit ⟨1, 1⟩ 256 (7 : UInt8) (7 : UInt8) 0 0

theorem operator256_without_bit :
    ¬ (Always step BitmapsExact empty [.init manyOperators 0, submit256] ∧
      Each step AcceptsOnce empty [.init manyOperators 0, submit256]) := by
  rintro ⟨⟨-, -, h⟩, -⟩
  have ha := ((h ⟨1, 1⟩ _ rfl).1.agree 256 (by decide)).1
  exact absurd ha (by decide)

end Store

/-! ## The stake-weighted threshold

The threshold compares basis points of the total stake, computed in `u64` and cut to `u32`.
It is the exact comparison, and every step of the computation is exact, as long as the total
of the stakes and ten thousand times the signed stake fit a `u64`. -/

namespace TaskState

variable (t : TaskState B)

def exactTotal : ℕ := exactStake t.operatorStakes t.operatorStakes.keys

def exactSigned : ℕ := exactStake t.operatorStakes t.signatures.keys

/-- The comparison in integers: basis points of the total, or no basis points at all when
there is no stake. -/
def ExactlyMet (bps : ℕ) : Prop :=
  if t.exactTotal = 0 then bps = 0 else bps * t.exactTotal ≤ t.exactSigned * 10000

/-- Nothing overflows on the way to the threshold, and the answer is that of the comparison
in integers. -/
structure StakeExact (t : TaskState B) (bps : ℕ) : Prop where
  total : t.totalStake = t.exactTotal
  signed : t.signedStake = t.exactSigned
  product : wrap64 (t.signedStake * 10000) = t.signedStake * 10000
  quotient : wrap32 (t.signedStake * 10000 / t.totalStake) = t.signedStake * 10000 / t.totalStake
  met : t.thresholdMet = true ↔ t.ExactlyMet bps

/-- The sums of the stakes do not wrap. -/
def StakeFits : Prop :=
  t.exactTotal < 2 ^ 64 ∧ t.exactSigned * 10000 < 2 ^ 64

lemma exactSigned_le_exactTotal : t.exactSigned ≤ t.exactTotal := by
  refine sum_le_sum_of_ne_zero fun i _ hi => ?_
  rw [mem_keys_iff_lookup]
  rcases hl : t.operatorStakes.lookup i with _ | stake
  · simp [hl] at hi
  exact ⟨stake, rfl⟩

lemma exactBps_le : t.exactSigned * 10000 / t.exactTotal ≤ 10000 := by
  have hle := t.exactSigned_le_exactTotal
  exact Nat.div_le_of_le_mul (by omega)

lemma le_signedStakeBps_iff {t : TaskState B} (ht : t.totalStake = t.exactTotal)
    (hs : t.signedStake = t.exactSigned) (hfit : t.exactSigned * 10000 < 2 ^ 64) (bps : ℕ) :
    bps ≤ t.signedStakeBps ↔ t.ExactlyMet bps := by
  unfold signedStakeBps ExactlyMet
  rw [ht, hs]
  by_cases hz : t.exactTotal = 0
  · rw [if_pos hz, if_pos hz, Nat.le_zero]
  have hpos : 0 < t.exactTotal := Nat.pos_of_ne_zero hz
  have hbps := t.exactBps_le
  rw [if_neg hz, if_neg hz, (wrap64_eq_self_iff _).mpr hfit, wrap32_eq_self (by omega),
    Nat.le_div_iff_mul_le hpos]

lemma stakeExact_iff {t : TaskState B} (hwf : t.WellFormed) {bps : ℕ}
    (hbps : t.thresholdType = .stakeWeighted bps) : t.StakeExact bps ↔ t.StakeFits := by
  constructor
  · intro h
    refine ⟨(wrap64_eq_self_iff _).mp ?_, (wrap64_eq_self_iff _).mp ?_⟩
    · exact hwf.total_eq.symm.trans h.total
    · rw [← h.signed]
      exact h.product
  · rintro ⟨hto, hp⟩
    have ht : t.totalStake = t.exactTotal := hwf.total_eq.trans ((wrap64_eq_self_iff _).mpr hto)
    have hsi : t.exactSigned < 2 ^ 64 := by omega
    have hs : t.signedStake = t.exactSigned := (wrap64_eq_self_iff _).mpr hsi
    have hmet : t.thresholdMet = true ↔ t.ExactlyMet bps := by
      rw [thresholdMet, hbps]
      simp only [decide_eq_true_eq]
      exact le_signedStakeBps_iff ht hs hp bps
    have hq := t.exactBps_le
    refine ⟨ht, hs, ?_, ?_, hmet⟩
    · rw [hs]
      exact (wrap64_eq_self_iff _).mpr hp
    · rw [hs, ht]
      exact wrap32_eq_self (by omega)

lemma thresholdMet_iff_of_count {t : TaskState B} {n : ℕ} (h : t.thresholdType = .count n) :
    t.thresholdMet = true ↔ n ≤ t.signatureCount := by
  rw [thresholdMet, h]
  exact decide_eq_true_iff

variable {t' : TaskState B} {sig : B.Signature} {pk : B.PublicKey}

lemma signatureCount_addSignature {t : TaskState B} {i : ℕ} {now : ℤ}
    (hadd : t.addSignature i sig pk now = .ok t') : t.signatureCount ≤ t'.signatureCount := by
  obtain ⟨-, -, -, rfl⟩ := addSignature_eq_ok_iff.mp hadd
  have hk : (t.signatures.insert i sig).keys = insert i t.signatures.keys :=
    keys_insert _ _ _
  exact card_le_card (hk ▸ subset_insert _ _)

lemma ExactlyMet.addSignature {t : TaskState B} {i : ℕ} {now : ℤ} {bps : ℕ} (h : t.ExactlyMet bps)
    (hadd : t.addSignature i sig pk now = .ok t') : t'.ExactlyMet bps := by
  obtain ⟨-, -, -, rfl⟩ := addSignature_eq_ok_iff.mp hadd
  have hs : t.exactSigned ≤ exactStake t.operatorStakes (t.signatures.insert i sig).keys := by
    rw [keys_insert]
    exact sum_le_sum_of_subset (subset_insert _ _)
  unfold ExactlyMet at h ⊢
  split at h
  · rename_i hz
    exact (if_pos hz).mpr h
  · rename_i hz
    refine (if_neg hz).mpr (h.trans ?_)
    exact Nat.mul_le_mul_right _ hs

end TaskState

namespace Store

def StakesExact (s : Store B) : Prop :=
  ∀ id t bps, s.tasks.lookup id = some t → t.thresholdType = .stakeWeighted bps → t.StakeExact bps

def StakesFit (s : Store B) : Prop :=
  ∀ id t bps, s.tasks.lookup id = some t → t.thresholdType = .stakeWeighted bps → t.StakeFits

/-- An accepted signature does not take back a met threshold. -/
def ThresholdKept (s : Store B) (op : Op B) : Prop :=
  ∀ id i sig pk now now' result, op = .submit id i sig pk now now' →
    (s.tasks.submitSignature id i sig pk now now').1 = .ok result →
    ∀ t t', s.tasks.lookup id = some t → (s.step op).tasks.lookup id = some t' →
      t.thresholdMet = true → t'.thresholdMet = true

lemma stakesExact_iff {s : Store B} (hwf : s.tasks.WellFormed) : s.StakesExact ↔ s.StakesFit := by
  constructor
  · intro h id t bps ht hbps
    exact (TaskState.stakeExact_iff (hwf id t ht).1 hbps).mp (h id t bps ht hbps)
  · intro h id t bps ht hbps
    exact (TaskState.stakeExact_iff (hwf id t ht).1 hbps).mpr (h id t bps ht hbps)

lemma thresholdKept_of_exact {s : Store B} {op : Op B} (h : s.StakesExact)
    (h' : (s.step op).StakesExact) : s.ThresholdKept op := by
  rintro id i sig pk now now' result rfl hok t t' ht ht' hmet
  rcases s.tasks.submitSignature_cases id i sig pk now now'
    with ⟨e, he⟩ | ⟨t₀, t₁, h₀, -, -, hadd, he⟩
  · rw [he] at hok
    cases hok
  rw [ht] at h₀
  cases h₀
  have hs : (s.step (.submit id i sig pk now now')).tasks.lookup id = some t₁ := by
    rw [step, he]
    exact Finmap.lookup_insert _
  rw [ht'] at hs
  cases hs
  have hty : t'.thresholdType = t.thresholdType := by
    obtain ⟨-, -, -, rfl⟩ := TaskState.addSignature_eq_ok_iff.mp hadd
    rfl
  rcases hth : t.thresholdType with n | bps
  · rw [TaskState.thresholdMet_iff_of_count hth] at hmet
    rw [TaskState.thresholdMet_iff_of_count (hty.trans hth)]
    exact hmet.trans (TaskState.signatureCount_addSignature hadd)
  have hex := ((h id t bps ht hth).met).mp hmet
  exact ((h' id t' bps ht' (hty.trans hth)).met).mpr (hex.addSignature hadd)

/-- **The stake-weighted threshold.** Along any run from the empty store, every stake-weighted
task has an exact threshold in every state and no accepted signature loses a threshold,
exactly when in every state the total of the stakes of each such task, and ten thousand times
its signed stake, fit a `u64`. -/
theorem always_stakesExact_iff (ops : List (Op B)) :
    (Always step StakesExact (empty : Store B) ops ∧ Each step ThresholdKept empty ops) ↔
      Always step StakesFit (empty : Store B) ops := by
  have he : Always step StakesExact (empty : Store B) ops ↔ Always step StakesFit empty ops :=
    always_congr (J := fun s => s.tasks.WellFormed) (fun s op h => wellFormed_step h op)
      (fun s h => stakesExact_iff h) wellFormed_empty ops
  rw [← he]
  exact and_iff_left_of_imp fun h => each_of_always (fun s op => thresholdKept_of_exact) h

def largeStakes : InitArgs where
  serviceId := 1
  callId := 1
  output := []
  message := []
  signatureScheme := .arkworksSha256
  operatorCount := 2
  config :=
    { thresholdType := .stakeWeighted 5000
      operatorStakes := some (HashMap.collect [(0, 10 ^ 15), (1, 9 * 10 ^ 14)])
      ttl := none }

def submitOf (i : ℕ) : Op Bn254.bytePoints := .submit ⟨1, 1⟩ i (7 : UInt8) (7 : UInt8) 0 0

theorem second_signature_loses_threshold :
    ¬ (Always step StakesExact empty [.init largeStakes 0, submitOf 0, submitOf 1] ∧
      Each step ThresholdKept empty [.init largeStakes 0, submitOf 0, submitOf 1]) := by
  rintro ⟨-, -, -, h, -⟩
  have hk := h ⟨1, 1⟩ 1 (7 : UInt8) (7 : UInt8) 0 0 _ rfl rfl _ _ rfl rfl
  exact absurd hk (by decide)

end Store

end Gadget.AggregationSvc
