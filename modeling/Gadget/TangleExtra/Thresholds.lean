import Gadget.AggSigGossip.Protocol
import Gadget.Lib.Quorum
import Gadget.TangleExtra.Consumers

/-!
# The thresholds of the aggregation paths

A result is accepted by the contract when its signers hold the threshold, in basis points, of the
operators or of their stake: `sum * 10000 >= bps * total`. Three places of the code compute what
that takes: the P2P strategy a weight, the cache and `calculate_required_signers` a number of
signers. The P2P strategy and the cache round down, and a number of signers cannot say whose
signatures they are, so they describe the same sets of signers only under conditions, which are
found here.
-/

namespace Gadget.TangleExtra

open Rust Lib.Quorum AggSigGossip Nat SignatureWeight List Finset

/-- With a positive sum the weights are not replaced by a count. -/
lemma not_allZero {weights : List ℕ} (h : 0 < weights.sum) :
    ¬ (weights.isEmpty || weights.all fun stake => stake = 0) = true := by
  intro hz
  refine h.ne' (List.sum_eq_zero_iff.mpr fun stake hs => ?_)
  rcases Bool.or_eq_true .. ▸ hz with he | hz
  · rw [List.isEmpty_iff.mp he] at hs
    cases hs
  · exact of_decide_eq_true (List.all_eq_true.mp hz stake hs)

variable {Operator : Type} [DecidableEq Operator]

def p2pWeightScheme (thresholdType : ThresholdType) (thresholdBps : ℕ)
    (participants : Finset Operator) (operatorWeights : HashMap Operator ℕ) :
    Except String (SignatureWeight Operator) :=
  match thresholdType with
  -- basis points are cut to a percentage, which is a `u8`
  | .countBased => EqualWeight.new participants.card (thresholdBps / 100 % 256)
  | .stakeWeighted =>
    let totalWeight :=
      wrap64 (∑ id ∈ operatorWeights.keys, (operatorWeights.lookup id).getD 0)
    let thresholdWeight := wrap64 (totalWeight * thresholdBps) / 10000
    if operatorWeights.keys = ∅ then EqualWeight.new participants.card (thresholdBps / 100 % 256)
    else .ok (CustomWeight.new operatorWeights thresholdWeight)

structure OperatorWeights (Operator : Type) where
  weights : HashMap Operator ℕ
  totalExposure : ℕ
  order : IterOrder Operator

def OperatorWeights.calculateThresholdSigners (o : OperatorWeights Operator)
    (thresholdBps : ℕ) : ℕ :=
  if o.weights.keys = ∅ then 0
  else
    -- rounded down, and reached by the heaviest operators
    let requiredWeight := wrap64 (o.totalExposure * thresholdBps) / 10000
    signersToReach requiredWeight 0 (descending ((o.order.entries o.weights).map Prod.snd))

def countBasedSigners (total thresholdBps : ℕ) : ℕ :=
  if total = 0 then 1
  else
    let product := wrap64 (total * thresholdBps)
    let required := (product + 9999) / 10000
    let required := if required = 0 then 1 else required
    max (min required total) 1

def calculateRequiredSigners (totalOperators thresholdBps : ℕ) (thresholdType : ThresholdType)
    (operatorStakes : Option (List ℕ)) : ℕ :=
  match thresholdType with
  | .countBased => countBasedSigners totalOperators thresholdBps
  | .stakeWeighted =>
    match operatorStakes with
    | none => countBasedSigners totalOperators thresholdBps
    | some stakes =>
      if stakes.isEmpty || stakes.all fun stake => stake = 0 then
        countBasedSigners totalOperators thresholdBps
      else if stakes.sum = 0 then countBasedSigners totalOperators thresholdBps
      else
        -- rounded up, in `u128`
        let requiredStake := (stakes.sum * thresholdBps + 9999) / 10000
        let requiredStake := if requiredStake = 0 then 1 else requiredStake
        max (min (signersToReach requiredStake 0 (descending stakes)) (max totalOperators 1)) 1

structure Operators (Operator : Type) where
  weights : HashMap Operator ℕ
  order : IterOrder Operator

namespace Operators

variable (ops : Operators Operator)

def members : List Operator := ops.order.toList ops.weights.keys

def weight (id : Operator) : ℕ := (ops.weights.lookup id).getD 0

def stakes : List ℕ := ops.members.map ops.weight

variable (thresholdType : ThresholdType)

variable (thresholdBps : ℕ) (signers : Finset Operator)

def weigh : ℕ :=
  match thresholdType with
  | .countBased => signers.card
  | .stakeWeighted => ∑ id ∈ signers, ops.weight id

/-- The signers have the share that the contract asks for. -/
def Sufficient : Prop :=
  thresholdBps * ops.weigh thresholdType ops.weights.keys
    ≤ ops.weigh thresholdType signers * 10000

def P2pAccepts : Prop :=
  ∃ scheme, p2pWeightScheme thresholdType thresholdBps ops.weights.keys ops.weights = .ok scheme ∧
    scheme.meetsThreshold signers = true

def RequiredAccepts : Prop :=
  calculateRequiredSigners ops.members.length thresholdBps thresholdType (some ops.stakes)
    ≤ signers.card

def cached : OperatorWeights Operator :=
  ⟨ops.weights, wrap64 (∑ id ∈ ops.weights.keys, ops.weight id), ops.order⟩

def CacheAccepts : Prop :=
  ops.cached.calculateThresholdSigners thresholdBps ≤ signers.card

/-- The paths accept the same sets of operators, those that the contract accepts. -/
def PathsAgree : Prop :=
  ∀ signers ⊆ ops.weights.keys, (ops.P2pAccepts thresholdType thresholdBps signers ↔
      ops.Sufficient thresholdType thresholdBps signers) ∧
    (ops.RequiredAccepts thresholdType thresholdBps signers ↔
      ops.Sufficient thresholdType thresholdBps signers) ∧
    (thresholdType = .stakeWeighted → (ops.CacheAccepts thresholdBps signers ↔
      ops.Sufficient thresholdType thresholdBps signers))

variable (ops : Operators Operator)

omit [DecidableEq Operator] in
lemma nodup_members : ops.members.Nodup := ops.order.nodup _

lemma toFinset_members : ops.members.toFinset = ops.weights.keys := by
  ext id
  rw [mem_toFinset, members, ops.order.mem]

lemma length_members : ops.members.length = ops.weights.keys.card := by
  rw [← toFinset_members, toFinset_card_of_nodup ops.nodup_members]

lemma map_snd_entries : (ops.order.entries ops.weights).map Prod.snd = ops.stakes := by
  have hl : ∀ id ∈ ops.members, ∃ v, ops.weights.lookup id = some v := by
    intro id hid
    exact (HashMap.mem_keys_iff_lookup _ _).mp ((ops.order.mem _ _).mp hid)
  rw [IterOrder.entries, stakes, ← members]
  generalize ops.members = l at hl
  induction l with
  | nil => rfl
  | cons id rest ih =>
    obtain ⟨v, hv⟩ := hl id List.mem_cons_self
    rw [List.filterMap_cons, hv, List.map_cons, weight, hv]
    simp only [Option.map_some, Option.getD_some, List.map_cons]
    rw [ih fun id' hid' => hl id' (List.mem_cons_of_mem _ hid')]

lemma weigh_countBased (signers : Finset Operator) :
    ops.weigh .countBased signers = signers.card := rfl

lemma forall_card {Q : ℕ → Prop} :
    (∀ signers ⊆ ops.weights.keys, Q signers.card) ↔ ∀ c ≤ ops.members.length, Q c := by
  constructor
  · intro h c hc
    rw [length_members] at hc
    obtain ⟨signers, hsub, rfl⟩ := exists_subset_card_eq hc
    exact h signers hsub
  · intro h signers hsub
    apply h
    rw [length_members]
    exact card_le_card hsub

variable {thresholdBps total : ℕ}

lemma p2pAccepts_countBased (hbps : thresholdBps ≤ 10000) (signers : Finset Operator) :
    ops.P2pAccepts .countBased thresholdBps signers ↔
      min (ops.members.length * (thresholdBps / 100)) u64Max / 100 ≤ signers.card := by
  have hp : thresholdBps / 100 % 256 = thresholdBps / 100 := by omega
  have hle : thresholdBps / 100 ≤ 100 := by omega
  have hs : ∀ scheme : SignatureWeight Operator,
      p2pWeightScheme .countBased thresholdBps ops.weights.keys ops.weights = .ok scheme ↔
        scheme = ⟨fun _ => 1, ops.weights.keys.card,
          min (ops.weights.keys.card * (thresholdBps / 100)) u64Max / 100⟩ := by
    intro scheme
    rw [p2pWeightScheme, hp, EqualWeight.new, if_pos hle, Except.ok.injEq]
    exact eq_comm
  simp only [P2pAccepts, hs, exists_eq_left, meetsThreshold,
    calculateWeight_eq, decide_eq_true_eq, ← card_eq_sum_ones,
    length_members]
  omega

structure WholeCount (total thresholdBps : ℕ) : Prop where
  total_pos : 0 < total
  bps_pos : 0 < thresholdBps
  percentage : 100 ∣ thresholdBps
  operators : 10000 ∣ total * thresholdBps
  fits : total * thresholdBps < 2 ^ 64

lemma wholeCount_of_p2p (hpos : 0 < thresholdBps * total) (hf : total * thresholdBps < 2 ^ 64)
    (h : thresholdBps * total ≤ min (total * (thresholdBps / 100)) u64Max / 100 * 10000) :
    WholeCount total thresholdBps := by
  have ht : 0 < total := Nat.pos_of_mul_pos_left hpos
  have hb : 0 < thresholdBps := Nat.pos_of_mul_pos_right hpos
  -- `thresholdBps = 100 * q + r`
  have hs : thresholdBps * total
      = 100 * (total * (thresholdBps / 100)) + total * (thresholdBps % 100) := by
    conv_lhs => rw [← div_add_mod thresholdBps 100]
    ring
  generalize total * (thresholdBps / 100) = x at *
  have hr : total * (thresholdBps % 100) = 0 := by omega
  have hmod : thresholdBps % 100 = 0 := by
    rcases Nat.mul_eq_zero.mp hr with hz | hz
    · omega
    · exact hz
  refine ⟨ht, hb, dvd_of_mod_eq_zero hmod, ?_, hf⟩
  have hx : 100 ∣ x := by omega
  rw [mul_comm total, hs, hr, add_zero]
  exact mul_dvd_mul_left 100 hx

lemma countBasedSigners_bounds (ht : 0 < total) :
    1 ≤ countBasedSigners total thresholdBps ∧ countBasedSigners total thresholdBps ≤ total := by
  simp only [countBasedSigners, if_neg ht.ne']
  omega

lemma countBasedSigners_of_overflow (ht : 0 < total) (h : 2 ^ 64 ≤ total * thresholdBps) :
    countBasedSigners total thresholdBps * 10000 < total * thresholdBps := by
  have hw : wrap64 (total * thresholdBps) + 2 ^ 64 ≤ total * thresholdBps := by
    rw [wrap64]
    omega
  simp only [countBasedSigners, if_neg ht.ne']
  generalize total * thresholdBps = product at *
  split <;> omega

lemma WholeCount.thresholds (h : WholeCount total thresholdBps) :
    ∃ m, thresholdBps * total = m * 10000 ∧ min (total * (thresholdBps / 100)) u64Max / 100 = m ∧
      (thresholdBps ≤ 10000 → countBasedSigners total thresholdBps = m) := by
  obtain ⟨q, rfl⟩ := h.percentage
  have ht := h.total_pos
  have hbps := h.bps_pos
  have hq : 100 * q / 100 = q := Nat.mul_div_cancel_left q (by norm_num)
  have hp : total * (100 * q) = 100 * (total * q) := by ring
  have hpos : 0 < total * q := mul_pos ht (by omega)
  obtain ⟨m, hm⟩ : ∃ m, total * q = 100 * m := by
    have hdvd := h.operators
    rw [hp] at hdvd
    exact Nat.dvd_of_mul_dvd_mul_left (by norm_num) hdvd
  have hf := h.fits
  rw [hp, hm] at hf
  refine ⟨m, ?_, ?_, ?_⟩
  · rw [mul_comm, hp, hm]
    ring
  · rw [hq, hm, u64Max]
    omega
  · intro hle
    have hmt : 100 * m ≤ 100 * total := by
      rw [← hm, mul_comm 100]
      exact mul_le_mul_left total (by omega)
    simp only [countBasedSigners, if_neg ht.ne', hp, hm, (wrap64_eq_self_iff _).mpr hf]
    split <;> omega

/-- **Counting operators.** The paths agree exactly when the threshold is a whole percentage and a
whole number of operators. -/
theorem pathsAgree_countBased_iff (hbps : thresholdBps ≤ 10000) :
    ops.PathsAgree .countBased thresholdBps ↔ WholeCount ops.members.length thresholdBps := by
  have ha : ops.PathsAgree .countBased thresholdBps ↔ ∀ c ≤ ops.members.length,
      (min (ops.members.length * (thresholdBps / 100)) u64Max / 100 ≤ c ↔
        thresholdBps * ops.members.length ≤ c * 10000) ∧
      (countBasedSigners ops.members.length thresholdBps ≤ c ↔
        thresholdBps * ops.members.length ≤ c * 10000) := by
    rw [← ops.forall_card]
    refine forall₂_congr fun signers _ => ?_
    rw [ops.p2pAccepts_countBased hbps, RequiredAccepts, calculateRequiredSigners, Sufficient,
      weigh_countBased, weigh_countBased, ← length_members]
    simp only [reduceCtorEq, false_implies, and_true]
  rw [ha]
  constructor
  · intro h
    -- the empty set is never enough signers
    have hpos : 0 < thresholdBps * ops.members.length := by
      by_contra hz
      have hn := (h 0 (zero_le _)).2.mpr (by omega)
      by_cases ht : ops.members.length = 0
      · rw [countBasedSigners, if_pos ht] at hn
        omega
      · have hone : 1 ≤ countBasedSigners ops.members.length thresholdBps :=
          (countBasedSigners_bounds (pos_of_ne_zero ht)).1
        omega
    have ht : 0 < ops.members.length := Nat.pos_of_mul_pos_left hpos
    have hf : ops.members.length * thresholdBps < 2 ^ 64 := by
      by_contra ho
      have hl := countBasedSigners_of_overflow ht (not_lt.mp ho)
      have he := (h _ (countBasedSigners_bounds ht).2).2.mp le_rfl
      rw [mul_comm thresholdBps] at he
      omega
    refine wholeCount_of_p2p hpos hf ((h _ ?_).1.mp le_rfl)
    have hle : ops.members.length * (thresholdBps / 100) ≤ ops.members.length * 100 :=
      mul_le_mul_left _ (by omega)
    omega
  · intro h c _
    obtain ⟨m, hm, hp2p, hr⟩ := h.thresholds
    rw [hm, hp2p, hr hbps]
    omega

def totalWeight : ℕ := ∑ id ∈ ops.weights.keys, ops.weight id

def flooredThreshold (thresholdBps : ℕ) : ℕ :=
  wrap64 (wrap64 ops.totalWeight * thresholdBps) / 10000

def ceiledThreshold (thresholdBps : ℕ) : ℕ := (thresholdBps * ops.totalWeight + 9999) / 10000

variable {ops} {thresholdBps : ℕ}

lemma sufficient_iff {signers : Finset Operator} :
    ops.Sufficient .stakeWeighted thresholdBps signers ↔
      ops.ceiledThreshold thresholdBps ≤ ∑ id ∈ signers, ops.weight id := by
  simp only [Sufficient, weigh, ceiledThreshold, totalWeight]
  omega

lemma flooredThreshold_le : ops.flooredThreshold thresholdBps ≤ ops.ceiledThreshold thresholdBps := by
  have hw : wrap64 (wrap64 ops.totalWeight * thresholdBps) ≤ thresholdBps * ops.totalWeight := by
    calc wrap64 (wrap64 ops.totalWeight * thresholdBps)
        ≤ wrap64 ops.totalWeight * thresholdBps := mod_le _ _
      _ ≤ ops.totalWeight * thresholdBps := mul_le_mul_right _ (mod_le _ _)
      _ = thresholdBps * ops.totalWeight := mul_comm _ _
  rw [flooredThreshold, ceiledThreshold]
  omega

lemma ceiledThreshold_le_total (hbps : thresholdBps ≤ 10000) :
    ops.ceiledThreshold thresholdBps ≤ ops.totalWeight := by
  have hle : thresholdBps * ops.totalWeight ≤ 10000 * ops.totalWeight := mul_le_mul_right _ hbps
  rw [ceiledThreshold]
  omega

lemma p2pAccepts_stakeWeighted (hbps : thresholdBps ≤ 10000) (signers : Finset Operator) :
    ops.P2pAccepts .stakeWeighted thresholdBps signers ↔
      ops.flooredThreshold thresholdBps ≤ ∑ id ∈ signers, ops.weight id := by
  have hmax : ops.flooredThreshold thresholdBps ≤ u64Max := by
    have hlt := wrap64_lt (wrap64 ops.totalWeight * thresholdBps)
    rw [flooredThreshold, u64Max]
    omega
  by_cases he : ops.weights.keys = ∅
  · have hf : ops.flooredThreshold thresholdBps = 0 := by
      rw [flooredThreshold, totalWeight, he, sum_empty]
      simp [wrap64]
    have hp : thresholdBps / 100 % 256 ≤ 100 := by omega
    rw [hf]
    refine iff_of_true ⟨⟨fun _ => 1, 0, 0⟩, ?_, ?_⟩ (zero_le _)
    · simp only [p2pWeightScheme, he, if_true, EqualWeight.new, if_pos hp,
        card_empty, zero_mul]
      rfl
    · simp [meetsThreshold]
  · have hs : p2pWeightScheme .stakeWeighted thresholdBps ops.weights.keys ops.weights
        = .ok (CustomWeight.new ops.weights (ops.flooredThreshold thresholdBps)) := by
      simp only [p2pWeightScheme, if_neg he]
      rfl
    have hw : (CustomWeight.new ops.weights
        (ops.flooredThreshold thresholdBps)).calculateWeight signers
        = min (∑ id ∈ signers, ops.weight id) u64Max := calculateWeight_eq _ _
    have ht : (CustomWeight.new ops.weights (ops.flooredThreshold thresholdBps)).thresholdWeight
        = ops.flooredThreshold thresholdBps := rfl
    simp only [P2pAccepts, hs, Except.ok.injEq, exists_eq_left',
      meetsThreshold, hw, ht, decide_eq_true_eq]
    omega

def NoneBetween (ops : Operators Operator) (thresholdBps : ℕ) : Prop :=
  ∀ signers ⊆ ops.weights.keys, ops.flooredThreshold thresholdBps ≤ ∑ id ∈ signers, ops.weight id →
    thresholdBps * ops.totalWeight ≤ (∑ id ∈ signers, ops.weight id) * 10000

def CountDecides (ops : Operators Operator) (thresholdBps : ℕ) : Prop :=
  ∃ k, 1 ≤ k ∧ k ≤ ops.members.length ∧
    thresholdBps * ops.totalWeight ≤ lightest ops.stakes k * 10000 ∧
    heaviest ops.stakes (k - 1) * 10000 < thresholdBps * ops.totalWeight

lemma card_iff_sufficient (hbps : thresholdBps ≤ 10000) {k : ℕ} (hpos : 1 ≤ k) :
    (∀ signers ⊆ ops.weights.keys,
      k ≤ signers.card ↔ ops.Sufficient .stakeWeighted thresholdBps signers) ↔
    k ≤ ops.members.length ∧ thresholdBps * ops.totalWeight ≤ lightest ops.stakes k * 10000 ∧
      heaviest ops.stakes (k - 1) * 10000 < thresholdBps * ops.totalWeight := by
  have hall : ops.ceiledThreshold thresholdBps ≤ ∑ id ∈ ops.members.toFinset, ops.weight id := by
    rw [toFinset_members]
    exact ceiledThreshold_le_total hbps
  have hc := card_iff_weight (k := k) ops.nodup_members hall
  rw [toFinset_members, ← stakes] at hc
  simp only [sufficient_iff]
  rw [hc, ceiledThreshold]
  have hne : k ≠ 0 := by omega
  simp only [hne, false_or]
  refine and_congr_right fun _ => and_congr ?_ ?_ <;> omega

lemma one_le_calculateRequiredSigners (total bps : ℕ) (type : ThresholdType)
    (stakes : Option (List ℕ)) : 1 ≤ calculateRequiredSigners total bps type stakes := by
  have hc : 1 ≤ countBasedSigners total bps := by
    rw [countBasedSigners]
    split
    · exact le_rfl
    · exact le_max_right _ _
  unfold calculateRequiredSigners
  split
  · exact hc
  split
  · exact hc
  split
  · exact hc
  · split
    · exact hc
    · exact le_max_right _ _

section Decided

variable {k : ℕ} (hpos : 1 ≤ k) (hk : k ≤ ops.members.length)
  (hlight : thresholdBps * ops.totalWeight ≤ lightest ops.stakes k * 10000)
  (hheavy : heaviest ops.stakes (k - 1) * 10000 < thresholdBps * ops.totalWeight)

include hpos hk hlight

lemma signersToReach_of_decided {required : ℕ} (hr : required ≤ ops.ceiledThreshold thresholdBps)
    (hf : ∀ j < k, heaviest ops.stakes j < required) :
    signersToReach required 0 (descending ops.stakes) = k := by
  have hl : ops.stakes.length = ops.members.length := length_map _
  have hle : k ≤ ops.stakes.length := hl ▸ hk
  refine signersToReach_eq hpos ?_ ?_ ?_
  · rw [length_descending]
    exact hle
  · have hmin := lightest_le_heaviest hle
    rw [heaviest] at hmin
    rw [ceiledThreshold] at hr
    omega
  · intro j _ hj
    have hls := hf j hj
    rw [heaviest] at hls
    omega

include hheavy

lemma calculateRequiredSigners_of_decided :
    calculateRequiredSigners ops.members.length thresholdBps .stakeWeighted (some ops.stakes)
      = k := by
  have hsum : ops.stakes.sum = ops.totalWeight := by
    rw [stakes, ← sum_toFinset ops.weight ops.nodup_members, toFinset_members, totalWeight]
  have hp : 0 < thresholdBps * ops.totalWeight := by omega
  have ht : ops.totalWeight ≠ 0 := by
    intro hz
    rw [hz, mul_zero] at hp
    exact lt_irrefl _ hp
  have hn := not_allZero (hsum ▸ Nat.pos_of_ne_zero ht : 0 < ops.stakes.sum)
  have hce : (ops.stakes.sum * thresholdBps + 9999) / 10000 = ops.ceiledThreshold thresholdBps := by
    rw [hsum, mul_comm, ceiledThreshold]
  have hc : ops.ceiledThreshold thresholdBps ≠ 0 := by
    rw [ceiledThreshold]
    omega
  have hr : signersToReach (ops.ceiledThreshold thresholdBps) 0 (descending ops.stakes) = k := by
    refine signersToReach_of_decided hpos hk hlight le_rfl ?_
    intro j hj
    have hm : heaviest ops.stakes j ≤ heaviest ops.stakes (k - 1) := sum_take_mono _ (by omega)
    rw [ceiledThreshold]
    omega
  simp only [calculateRequiredSigners, if_neg hn, hce, if_neg hc, hr]
  rw [if_neg (hsum ▸ ht)]
  omega

lemma calculateThresholdSigners_of_decided (hn : ops.NoneBetween thresholdBps) :
    ops.cached.calculateThresholdSigners thresholdBps = k := by
  have hke : ops.weights.keys ≠ ∅ := by
    intro hem
    rw [length_members, hem, card_empty] at hk
    omega
  have hc : ops.cached.calculateThresholdSigners thresholdBps
      = signersToReach (ops.flooredThreshold thresholdBps) 0 (descending ops.stakes) := by
    rw [OperatorWeights.calculateThresholdSigners, cached, if_neg hke, map_snd_entries]
    rfl
  rw [hc]
  refine signersToReach_of_decided hpos hk hlight flooredThreshold_le ?_
  intro j hj
  by_contra hr
  -- the `j` heaviest are a set that weighs between the thresholds
  obtain ⟨signers, hsub, -, hw⟩ :=
    exists_heaviest (w := ops.weight) (k := j) ops.nodup_members (by omega)
  rw [toFinset_members] at hsub
  have he := hn signers hsub (hw ▸ not_lt.mp hr)
  have hm : heaviest ops.stakes j ≤ heaviest ops.stakes (k - 1) := sum_take_mono _ (by omega)
  rw [hw, ← stakes] at he
  omega

end Decided

/-- **Weighing operators.** The paths agree exactly when no set of operators weighs between the
threshold rounded down and the threshold itself, and the number of operators decides. -/
theorem pathsAgree_stakeWeighted_iff (hbps : thresholdBps ≤ 10000) :
    ops.PathsAgree .stakeWeighted thresholdBps ↔
      ops.NoneBetween thresholdBps ∧ ops.CountDecides thresholdBps := by
  constructor
  · intro h
    refine ⟨?_, ?_⟩
    · intro signers hsub hf
      exact (h signers hsub).1.mp ((p2pAccepts_stakeWeighted hbps signers).mpr hf)
    · have hpos := one_le_calculateRequiredSigners ops.members.length thresholdBps .stakeWeighted
        (some ops.stakes)
      have hd := (card_iff_sufficient hbps hpos).mp fun signers hsub =>
        (h signers hsub).2.1
      exact ⟨_, hpos, hd⟩
  · rintro ⟨hn, k, hpos, hk, hlight, hheavy⟩ signers hsub
    have hc := (card_iff_sufficient hbps hpos).mpr ⟨hk, hlight, hheavy⟩ signers hsub
    refine ⟨?_, ?_, fun _ => ?_⟩
    · rw [p2pAccepts_stakeWeighted hbps]
      constructor
      · exact hn signers hsub
      · intro hs
        exact flooredThreshold_le.trans (sufficient_iff.mp hs)
    · rw [RequiredAccepts, calculateRequiredSigners_of_decided hpos hk hlight hheavy]
      exact hc
    · rw [CacheAccepts, calculateThresholdSigners_of_decided hpos hk hlight hheavy hn]
      exact hc

/-- **Threshold agreement.** The aggregation paths accept the same sets of operators, those that the
contract accepts: counting operators exactly when the threshold is a whole percentage and a whole
number of operators, weighing them exactly when no set weighs between the threshold rounded down and
the threshold itself and the number of operators decides. -/
theorem pathsAgree_iff (ops : Operators Operator) (thresholdBps : ℕ) (hbps : thresholdBps ≤ 10000) :
    (ops.PathsAgree .countBased thresholdBps ↔ WholeCount ops.members.length thresholdBps) ∧
    (ops.PathsAgree .stakeWeighted thresholdBps ↔
      ops.NoneBetween thresholdBps ∧ ops.CountDecides thresholdBps) :=
  ⟨ops.pathsAgree_countBased_iff hbps, pathsAgree_stakeWeighted_iff hbps⟩

def byIndex : IterOrder (Fin 3) where
  toList s := (List.finRange 3).filter (· ∈ s)
  nodup _ := (List.nodup_finRange 3).filter _
  mem _ _ := by simp

def three (a b c : ℕ) : Operators (Fin 3) where
  weights := (((∅ : HashMap (Fin 3) ℕ).insert 0 a).insert 1 b).insert 2 c
  order := byIndex

theorem pathsAgree_three_all :
    (10000 : ℕ) ≤ 10000 ∧ (three 5000 3000 2000).PathsAgree .countBased 10000 :=
  ⟨le_rfl, ((three 5000 3000 2000).pathsAgree_iff 10000 le_rfl).1.mpr
    ⟨by decide, by decide, by decide, by decide, by decide⟩⟩

/-- At 67 percent of three operators the P2P strategy accepts two, where the contract and
`calculate_required_signers` want three. At 67 percent of 5000, 3000 and 2000 the cache wants two
signers, and takes the two lightest. -/
theorem paths_disagree_three : (three 5000 3000 2000).P2pAccepts .countBased 6700 {0, 1} ∧
      ¬ (three 5000 3000 2000).RequiredAccepts .countBased 6700 {0, 1} ∧
      ¬ (three 5000 3000 2000).Sufficient .countBased 6700 {0, 1} ∧
      (three 5000 3000 2000).CacheAccepts 6700 {1, 2} ∧
      ¬ (three 5000 3000 2000).Sufficient .stakeWeighted 6700 {1, 2} := by
  refine ⟨?_, ?_, ?_, ?_, ?_⟩
  · rw [p2pAccepts_countBased _ (by decide)]
    decide
  · rw [RequiredAccepts]
    decide
  · rw [Sufficient]
    decide
  · rw [CacheAccepts]
    decide
  · rw [Sufficient]
    decide

end Operators

/-- The total stake and its product with the threshold, which are computed in `u128`. -/
def StakeProductFits (stakes : List ℕ) (thresholdBps : ℕ) : Prop :=
  stakes.sum < 2 ^ 128 ∧ stakes.sum * thresholdBps < 2 ^ 128

def signerCounts (stakes : List ℕ) (thresholdBps : ℕ) : Set ℕ :=
  {k | 1 ≤ k ∧ ∃ s : List ℕ, s.Sublist stakes ∧ s.length = k ∧
    thresholdBps * stakes.sum ≤ s.sum * 10000}

section RequiredSigners

variable {stakes : List ℕ} {bps : ℕ}

lemma ceil_le_iff {product sum : ℕ} : (product + 9999) / 10000 ≤ sum ↔ product ≤ sum * 10000 := by
  omega

lemma stakeProductFits (hstakes : ∀ stake ∈ stakes, stake < 2 ^ 64) (hbps : bps < 2 ^ 16)
    (hlen : stakes.length ≤ 2 ^ 48) : StakeProductFits stakes bps := by
  have hs : stakes.sum ≤ stakes.length * (2 ^ 64 - 1) :=
    sum_le_card_nsmul _ _ fun stake hm => Nat.le_sub_one_of_lt (hstakes stake hm)
  have ht : stakes.sum ≤ 2 ^ 48 * (2 ^ 64 - 1) := hs.trans (Nat.mul_le_mul_right _ hlen)
  have hp : stakes.sum * bps ≤ 2 ^ 48 * (2 ^ 64 - 1) * (2 ^ 16 - 1) :=
    Nat.mul_le_mul ht (Nat.le_sub_one_of_lt hbps)
  exact ⟨ht.trans_lt (by norm_num), hp.trans_lt (by norm_num)⟩

variable (hpos : 0 < stakes.sum)
include hpos

lemma calculateRequiredSigners_eq :
    calculateRequiredSigners stakes.length bps .stakeWeighted (some stakes)
      = max (min (signersToReach (max ((stakes.sum * bps + 9999) / 10000) 1) 0 (descending stakes))
          (max stakes.length 1)) 1 := by
  have hn := not_allZero hpos
  have hm : ∀ n : ℕ, (if n = 0 then 1 else n) = max n 1 := by
    intro n
    split_ifs <;> omega
  simp only [calculateRequiredSigners, if_neg hn, if_neg hpos.ne', hm]

lemma isLeast_calculateRequiredSigners (hbps : bps ≤ 10000) :
    IsLeast (signerCounts stakes bps)
      (calculateRequiredSigners stakes.length bps .stakeWeighted (some stakes)) := by
  have hle : stakes.sum * bps ≤ stakes.sum * 10000 := Nat.mul_le_mul_left _ hbps
  have hr : max ((stakes.sum * bps + 9999) / 10000) 1 ≤ stakes.sum := by omega
  have hl := isLeast_signersToReach (lt_max_of_lt_right Nat.one_pos) hr
  rw [calculateRequiredSigners_eq hpos]
  generalize signersToReach _ _ _ = k at hl ⊢
  obtain ⟨⟨hone, s, hs, hk, hr⟩, hmin⟩ := hl
  have hkl : k ≤ stakes.length := hk ▸ hs.length_le
  rw [show max (min k (max stakes.length 1)) 1 = k by omega]
  have hreach := ceil_le_iff.mp ((le_max_left _ _).trans hr)
  refine ⟨⟨hone, s, hs, hk, (mul_comm ..).trans_le hreach⟩, ?_⟩
  rintro j ⟨hj, t, ht, htl, hsum⟩
  rw [mul_comm bps] at hsum
  by_cases hz : stakes.sum * bps = 0
  · -- a threshold of zero: any operator with a stake will do
    obtain ⟨stake, hm, hne⟩ : ∃ stake ∈ stakes, stake ≠ 0 := by
      by_contra! h
      exact hpos.ne' (List.sum_eq_zero_iff.mpr h)
    have h1 : k ≤ 1 :=
      hmin ⟨le_rfl, [stake], List.singleton_sublist.mpr hm, rfl, by rw [List.sum_singleton]; omega⟩
    exact h1.trans hj
  · exact hmin ⟨hj, t, ht, htl, max_le (ceil_le_iff.mpr hsum) (by omega)⟩

lemma calculateRequiredSigners_of_all (hbps : 10000 < bps) :
    calculateRequiredSigners stakes.length bps .stakeWeighted (some stakes) = stakes.length := by
  have hle : stakes.sum * 10001 ≤ stakes.sum * bps := Nat.mul_le_mul_left _ hbps
  have hs : (descending stakes).sum = stakes.sum := (perm_insertionSort _ _).sum_eq
  have hl : 1 ≤ stakes.length := length_pos_iff.mpr fun h => by simp [h] at hpos
  have hlt : 0 + (descending stakes).sum < max ((stakes.sum * bps + 9999) / 10000) 1 := by
    rw [hs]
    omega
  rw [calculateRequiredSigners_eq hpos, signersToReach_of_lt hlt, length_descending]
  omega

end RequiredSigners

/-- Up to `2 ^ 48` operators nothing overflows, and the number returned is the least number of
operators of which some reach the threshold, or all above 10000 basis points. -/
theorem requiredSigners_least (stakes : List ℕ) (thresholdBps : ℕ)
    (hstakes : ∀ stake ∈ stakes, stake < 2 ^ 64) (hbps : thresholdBps < 2 ^ 16)
    (hlen : stakes.length ≤ 2 ^ 48) (hpos : 0 < stakes.sum) :
    StakeProductFits stakes thresholdBps ∧
    (thresholdBps ≤ 10000 → IsLeast (signerCounts stakes thresholdBps)
      (calculateRequiredSigners stakes.length thresholdBps .stakeWeighted (some stakes))) ∧
    (10000 < thresholdBps →
      calculateRequiredSigners stakes.length thresholdBps .stakeWeighted (some stakes)
        = stakes.length) :=
  ⟨stakeProductFits hstakes hbps hlen, isLeast_calculateRequiredSigners hpos,
    calculateRequiredSigners_of_all hpos⟩

theorem requiredSigners_least_three : (∀ stake ∈ [1, 5, 3], stake < 2 ^ 64) ∧
    IsLeast (signerCounts [1, 5, 3] 6700) 2 :=
  ⟨by decide, (requiredSigners_least [1, 5, 3] 6700 (by decide) (by decide) (by decide)
    (by decide)).2.1 (by decide)⟩

lemma not_stakeProductFits_replicate {n stake bps : ℕ} (h : 2 ^ 128 ≤ n * stake * bps) :
    ¬ StakeProductFits (List.replicate n stake) bps := by
  rintro ⟨-, hp⟩
  rw [sum_replicate, smul_eq_mul] at hp
  exact absurd hp (not_lt.mpr h)

theorem stakeProduct_overflows : ∃ stakes : List ℕ, (∀ stake ∈ stakes, stake < 2 ^ 64) ∧
    stakes.length = 2 ^ 51 ∧ ¬ StakeProductFits stakes 10000 :=
  ⟨List.replicate (2 ^ 51) (2 ^ 64 - 1),
    fun _ h => (List.eq_of_mem_replicate h).trans_lt (by norm_num), List.length_replicate,
    not_stakeProductFits_replicate (by norm_num)⟩

end Gadget.TangleExtra
