import Mathlib

/-!
# Quorums by number and by weight

Members have weights. A set of them is a quorum by weight when it weighs enough, and a quorum by
number when it is large enough. The sets of a given size weigh at least what the lightest of the
members weigh and at most what the heaviest weigh, and both are reached. So the two notions agree
exactly when the lightest members of the number weigh enough and the heaviest of one less do not.

`signersToReach` is the usual loop for such a number: it goes through the weights from the largest
on until their sum is reached.
-/

namespace Gadget.Lib.Quorum

open List

variable (weights : List ℕ)

def descending : List ℕ := weights.insertionSort (· ≥ ·)

def heaviest (k : ℕ) : ℕ := ((descending weights).take k).sum

def lightest (k : ℕ) : ℕ := ((descending weights).reverse.take k).sum

def signersToReach (required : ℕ) : ℕ → List ℕ → ℕ
  | _, [] => 0
  | accumulated, weight :: rest =>
    if required ≤ accumulated + weight then 1
    else signersToReach required (accumulated + weight) rest + 1

/-! ## Sums of sorted weights -/

lemma descending_pairwise : (descending weights).Pairwise (· ≥ ·) := pairwise_insertionSort _ _

lemma length_descending : (descending weights).length = weights.length :=
  (perm_insertionSort _ _).length_eq

variable {s weights : List ℕ} {k : ℕ}

lemma forall₂_take_of_sublist {r : ℕ → ℕ → Prop} (hr : ∀ a, r a a) {l : List ℕ}
    (hl : l.Pairwise fun a b => r b a) (hs : s.Sublist l) : List.Forall₂ r s (l.take s.length) := by
  induction l generalizing s with
  | nil =>
    rw [eq_nil_of_sublist_nil hs]
    exact .nil
  | cons a l ih =>
    obtain ⟨hf, hre⟩ := pairwise_cons.mp hl
    rcases s with _ | ⟨b, s⟩
    · exact .nil
    have hb : r b a := by
      rcases mem_cons.mp (hs.subset mem_cons_self) with rfl | hb
      · exact hr b
      · exact hf b hb
    have ht : s.Sublist l := hs.tail
    exact .cons hb (ih hre ht)

lemma sum_le_heaviest (hs : s.Sublist (descending weights)) : s.sum ≤ heaviest weights s.length :=
  (forall₂_take_of_sublist (r := (· ≤ ·)) (fun _ => le_rfl) (descending_pairwise weights)
    hs).sum_le_sum

lemma lightest_le_sum (hs : s.Sublist (descending weights)) :
    lightest weights s.length ≤ s.sum := by
  have hp : (descending weights).reverse.Pairwise fun a b => b ≥ a :=
    pairwise_reverse.mpr (descending_pairwise weights)
  have hf := forall₂_take_of_sublist (r := (· ≥ ·)) (fun _ => le_rfl) hp hs.reverse
  have hsum := hf.flip.sum_le_sum
  rw [sum_reverse, length_reverse] at hsum
  exact hsum

lemma lightest_le_heaviest (hk : k ≤ weights.length) : lightest weights k ≤ heaviest weights k := by
  have hle := lightest_le_sum (take_sublist k (descending weights))
  rwa [length_take, length_descending, min_eq_left hk] at hle

lemma sum_take_mono (l : List ℕ) {j : ℕ} (h : j ≤ k) : (l.take j).sum ≤ (l.take k).sum := by
  have hsub : (l.take j).Sublist (l.take k) := by
    rw [← min_eq_left h, ← take_take]
    exact take_sublist _ _
  exact hsub.sum_le_sum fun _ _ => Nat.zero_le _

/-! ## Sets of members -/

section Members

variable {α : Type*} (w : α → ℕ) {ms : List α}

lemma exists_ranked (ms : List α) :
    ∃ ranked : List α, ranked.Perm ms ∧ ranked.map w = descending (ms.map w) := by
  let r : α → α → Prop := fun a b => w a ≥ w b
  refine ⟨ms.insertionSort r, perm_insertionSort r ms, ?_⟩
  have hr : ((ms.insertionSort r).map w).Pairwise (· ≥ ·) :=
    pairwise_map.mpr (pairwise_insertionSort r ms)
  have hp : ((ms.insertionSort r).map w).Perm (descending (ms.map w)) :=
    ((perm_insertionSort r ms).map w).trans (perm_insertionSort (· ≥ ·) _).symm
  exact List.Perm.eq_of_pairwise (fun a b _ _ h h' => le_antisymm h' h) hr
    (descending_pairwise _) hp

variable {w} [DecidableEq α]

/-- A set of members, as weights in descending order. -/
lemma exists_sublist (hn : ms.Nodup) {s : Finset α} (hs : s ⊆ ms.toFinset) :
    ∃ l : List ℕ, l.Sublist (descending (ms.map w)) ∧ l.length = s.card ∧ l.sum = ∑ a ∈ s, w a := by
  obtain ⟨ranked, hp, hw⟩ := exists_ranked w ms
  have hr : ranked.Nodup := hp.nodup_iff.mpr hn
  have hf : (ranked.filter (· ∈ s)).toFinset = s := by
    ext a
    rw [mem_toFinset, mem_filter, decide_eq_true_eq, and_iff_right_iff_imp]
    intro ha
    exact hp.mem_iff.mpr (mem_toFinset.mp (hs ha))
  have hn' : (ranked.filter (· ∈ s)).Nodup := hr.filter _
  refine ⟨(ranked.filter (· ∈ s)).map w, ?_, ?_, ?_⟩
  · rw [← hw]
    exact filter_sublist.map w
  · rw [length_map, ← toFinset_card_of_nodup hn', hf]
  · rw [← sum_toFinset w hn', hf]

/-- Members taken from those in descending order form a set. -/
lemma exists_finset (hn : ms.Nodup) (take : List α → List α) (ht : ∀ l, (take l).Sublist l) :
    ∃ ranked : List α, ranked.map w = descending (ms.map w) ∧ (take ranked).toFinset ⊆ ms.toFinset ∧
      (take ranked).toFinset.card = (take ranked).length ∧
      ∑ a ∈ (take ranked).toFinset, w a = ((take ranked).map w).sum := by
  obtain ⟨ranked, hp, hw⟩ := exists_ranked w ms
  have hr : (take ranked).Nodup := (hp.nodup_iff.mpr hn).sublist (ht ranked)
  refine ⟨ranked, hw, ?_, toFinset_card_of_nodup hr, sum_toFinset w hr⟩
  intro a ha
  rw [mem_toFinset] at ha ⊢
  exact hp.mem_iff.mp ((ht ranked).subset ha)

lemma exists_heaviest (hn : ms.Nodup) (hk : k ≤ ms.length) :
    ∃ s ⊆ ms.toFinset, s.card = k ∧ ∑ a ∈ s, w a = heaviest (ms.map w) k := by
  obtain ⟨ranked, hw, hsub, hc, hsum⟩ :=
    exists_finset (w := w) hn (fun l => l.take k) fun l => take_sublist k l
  have hl : ranked.length = ms.length := by
    rw [← length_map (f := w), hw, length_descending, length_map]
  refine ⟨_, hsub, ?_, ?_⟩
  · rw [hc, length_take, hl, min_eq_left hk]
  · rw [hsum, map_take, hw, heaviest]

lemma exists_lightest (hn : ms.Nodup) (hk : k ≤ ms.length) :
    ∃ s ⊆ ms.toFinset, s.card = k ∧ ∑ a ∈ s, w a = lightest (ms.map w) k := by
  obtain ⟨ranked, hw, hsub, hc, hsum⟩ :=
    exists_finset (w := w) hn (fun l => (l.reverse.take k).reverse) fun l => by
      have h := (take_sublist k l.reverse).reverse
      rwa [reverse_reverse] at h
  have hl : ranked.length = ms.length := by
    rw [← length_map (f := w), hw, length_descending, length_map]
  refine ⟨_, hsub, ?_, ?_⟩
  · rw [hc, length_reverse, length_take, length_reverse, hl, min_eq_left hk]
  · rw [hsum, map_reverse, sum_reverse, map_take, map_reverse, hw, lightest]

/-- **Number against weight.** The members as a whole weigh enough. Then the sets of at least `k`
members are those that weigh enough exactly when the `k` lightest do and one less of the heaviest
do not. -/
theorem card_iff_weight (hn : ms.Nodup) {required : ℕ} (hall : required ≤ ∑ a ∈ ms.toFinset, w a) :
    (∀ s ⊆ ms.toFinset, k ≤ s.card ↔ required ≤ ∑ a ∈ s, w a) ↔
      k ≤ ms.length ∧ required ≤ lightest (ms.map w) k ∧
        (k = 0 ∨ heaviest (ms.map w) (k - 1) < required) := by
  constructor
  · intro h
    have hk : k ≤ ms.length := by
      have hc := (h ms.toFinset (Finset.Subset.refl _)).mpr hall
      rwa [toFinset_card_of_nodup hn] at hc
    refine ⟨hk, ?_, ?_⟩
    · obtain ⟨s, hs, hc, hsum⟩ := exists_lightest (w := w) hn hk
      rw [← hsum]
      exact (h s hs).mp hc.ge
    · by_cases hz : k = 0
      · exact .inl hz
      right
      have hp : k - 1 ≤ ms.length := by omega
      obtain ⟨s, hs, hc, hsum⟩ := exists_heaviest (w := w) hn hp
      have hsm : ¬ k ≤ s.card := by omega
      rw [h s hs, hsum] at hsm
      exact not_le.mp hsm
  · rintro ⟨hk, hli, hh⟩ s hs
    obtain ⟨l, hl, hlen, hsum⟩ := exists_sublist (w := w) hn hs
    rw [← hsum, ← hlen]
    constructor
    · intro hc
      calc required ≤ lightest (ms.map w) k := hli
        _ ≤ lightest (ms.map w) l.length := sum_take_mono _ hc
        _ ≤ l.sum := lightest_le_sum hl
    · intro hw
      by_contra hc
      rcases hh with hz | hh
      · omega
      have hle : l.sum ≤ heaviest (ms.map w) (k - 1) := by
        have hp : l.length ≤ k - 1 := by omega
        exact (sum_le_heaviest hl).trans (sum_take_mono _ hp)
      omega

end Members

/-! ## The loop -/

lemma signersToReach_eq {required : ℕ} {acc : ℕ} (hpos : 1 ≤ k) (hk : k ≤ weights.length)
    (he : required ≤ acc + (weights.take k).sum)
    (hf : ∀ j, 1 ≤ j → j < k → acc + (weights.take j).sum < required) :
    signersToReach required acc weights = k := by
  induction weights generalizing acc k with
  | nil =>
    rw [length_nil] at hk
    omega
  | cons weight rest ih =>
    rw [signersToReach]
    by_cases hone : k = 1
    · subst hone
      rw [take_succ_cons, take_zero, sum_singleton] at he
      rw [if_pos he]
    obtain ⟨n, rfl⟩ : ∃ n, k = n + 1 := ⟨k - 1, by omega⟩
    have hnot : ¬ required ≤ acc + weight := by
      have hfst := hf 1 le_rfl (by omega)
      rw [take_succ_cons, take_zero, sum_singleton] at hfst
      omega
    rw [if_neg hnot]
    rw [take_succ_cons, sum_cons, ← Nat.add_assoc] at he
    rw [length_cons] at hk
    congr 1
    refine ih (by omega) (by omega) he ?_
    intro j hj hjn
    have hn := hf (j + 1) (by omega) (by omega)
    rwa [take_succ_cons, sum_cons, ← Nat.add_assoc] at hn

lemma signersToReach_of_lt {required acc : ℕ} (h : acc + weights.sum < required) :
    signersToReach required acc weights = weights.length := by
  induction weights generalizing acc with
  | nil => rfl
  | cons weight rest ih =>
    rw [sum_cons] at h
    rw [signersToReach, if_neg (by omega), ih (by omega), length_cons]

/-- The heaviest are the best choice: from the largest weight on, the loop stops at the least number
of weights that can reach the sum. -/
lemma isLeast_signersToReach {required : ℕ} (hpos : 0 < required) (h : required ≤ weights.sum) :
    IsLeast {k | 1 ≤ k ∧ ∃ s : List ℕ, s.Sublist weights ∧ s.length = k ∧ required ≤ s.sum}
      (signersToReach required 0 (descending weights)) := by
  have hp : descending weights ~ weights := perm_insertionSort _ _
  have hex : ∃ k, required ≤ heaviest weights k := ⟨_, by rwa [heaviest, take_length, hp.sum_eq]⟩
  have hle : Nat.find hex ≤ weights.length :=
    Nat.find_min' hex (by rwa [heaviest, ← length_descending, take_length, hp.sum_eq])
  have hone : 1 ≤ Nat.find hex := by
    by_contra hz
    have hs := Nat.find_spec hex
    rw [Nat.lt_one_iff.mp (not_le.mp hz), heaviest, take_zero, sum_nil] at hs
    omega
  have hk : signersToReach required 0 (descending weights) = Nat.find hex := by
    refine signersToReach_eq hone (by rwa [length_descending]) ?_ fun j _ hj => ?_
    · rw [Nat.zero_add]
      exact Nat.find_spec hex
    · rw [Nat.zero_add]
      exact not_le.mp (Nat.find_min hex hj)
  rw [hk]
  constructor
  · obtain ⟨s, hs, hsub⟩ := (take_sublist (Nat.find hex) _).subperm.trans hp.subperm
    refine ⟨hone, s, hsub, ?_, ?_⟩
    · rw [hs.length_eq, length_take, length_descending, min_eq_left hle]
    · rw [hs.sum_eq]
      exact Nat.find_spec hex
  · rintro k ⟨-, s, hs, rfl, hr⟩
    obtain ⟨s', hs', hsub⟩ := hs.subperm.trans hp.symm.subperm
    refine Nat.find_min' hex ?_
    rw [← hs'.length_eq]
    exact (hs'.sum_eq ▸ hr).trans (sum_le_heaviest hsub)

end Gadget.Lib.Quorum
