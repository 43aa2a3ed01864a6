import Mathlib.Data.List.Basic

/-!
# Grouping a list by key

An ordered map from keys to lists, kept as the list of its entries in ascending order, and the
loop that fills it: every value with a key is pushed to the list under its key. The map that
results has, under each key that occurs, the values with that key in their order.
-/

namespace Gadget.Lib.Grouping

open List Option

variable {κ ν : Type*} [LT κ] [DecidableLT κ] [DecidableEq κ]

def push (k : κ) (v : ν) : List (κ × List ν) → List (κ × List ν)
  | [] => [(k, [v])]
  | (k', vs) :: rest =>
    if k < k' then (k, [v]) :: (k', vs) :: rest
    else if k = k' then (k', vs ++ [v]) :: rest
    else (k', vs) :: push k v rest

variable (key : ν → Option κ)

def pushValue (m : List (κ × List ν)) (v : ν) : List (κ × List ν) :=
  match key v with
  | none => m
  | some k => push k v m

def groupBy (values : List ν) : List (κ × List ν) :=
  values.foldl (pushValue key) []

def Ascending (m : List (κ × List ν)) : Prop := m.Pairwise fun e e' => e.1 < e'.1

variable [LE κ] [Std.IsLinearOrder κ] [Std.LawfulOrderLT κ]

omit [LT κ] [DecidableLT κ] [LE κ] [Std.IsLinearOrder κ] [Std.LawfulOrderLT κ] in
lemma lookup_cons_ite (k k₀ : κ) (vs : List ν) (rest : List (κ × List ν)) :
    ((k₀, vs) :: rest).lookup k = if k = k₀ then some vs else rest.lookup k := by
  by_cases h : k = k₀
  · rw [if_pos h, h, lookup_cons_self]
  · rw [if_neg h, lookup_cons, beq_false_of_ne h]

variable {m : List (κ × List ν)}

variable {k : κ} {v : ν} {values : List ν}

omit [DecidableLT κ] [Std.IsLinearOrder κ] in
lemma lookup_of_below (h : ∀ e ∈ m, k < e.1) : m.lookup k = none := by
  refine lookup_eq_none_iff.mpr fun e he => ?_
  rw [bne_iff_ne]
  rintro rfl
  exact Std.lt_irrefl (h e he)

omit [DecidableLT κ] [Std.IsLinearOrder κ] in
lemma mem_iff_lookup (hm : Ascending m) (k : κ) (vs : List ν) :
    (k, vs) ∈ m ↔ m.lookup k = some vs := by
  induction m with
  | nil => simp
  | cons e rest ih =>
    obtain ⟨k₀, vs₀⟩ := e
    obtain ⟨hlt, hr⟩ := pairwise_cons.mp hm
    rw [mem_cons, Prod.mk.injEq, ih hr, lookup_cons_ite]
    by_cases heq : k = k₀
    · have hn : rest.lookup k = none := by
        rw [heq]
        exact lookup_of_below hlt
      rw [if_pos heq, hn]
      simp [heq, eq_comm]
    · simp [heq]

/-- What is under a key after a push: under another key what was there, and under the key of the
push the old values and the new one. -/
lemma lookup_push (hm : Ascending m) (k' : κ) : (push k v m).lookup k' =
      if k' = k then some ((m.lookup k).getD [] ++ [v]) else m.lookup k' := by
  induction m with
  | nil =>
    rw [push, lookup_cons_ite]
    rfl
  | cons e rest ih =>
    obtain ⟨k₀, vs₀⟩ := e
    obtain ⟨hlt, hr⟩ := pairwise_cons.mp hm
    rw [push]
    by_cases hkk : k < k₀
    · have hn : ((k₀, vs₀) :: rest).lookup k = none := by
        refine lookup_of_below ?_
        exact forall_mem_cons.mpr ⟨hkk, fun e he => Std.lt_trans hkk (hlt e he)⟩
      rw [if_pos hkk, lookup_cons_ite k', hn]
      rfl
    · rw [if_neg hkk]
      by_cases heq : k = k₀
      · subst heq
        rw [if_pos rfl, lookup_cons_ite, lookup_cons_self, lookup_cons_ite]
        by_cases hk' : k' = k
        · rw [if_pos hk', if_pos hk', getD_some]
        · simp [if_neg hk']
      · rw [if_neg heq, lookup_cons_ite, ih hr, lookup_cons_ite, lookup_cons_ite, if_neg heq]
        by_cases hk' : k' = k
        · have hne : k' ≠ k₀ := fun h => heq (hk'.symm.trans h)
          rw [if_neg hne, if_pos hk', if_pos hk']
        · simp [if_neg hk']

omit [LE κ] [Std.IsLinearOrder κ] [Std.LawfulOrderLT κ] in
/-- What holds of the pushed key and of those in the map holds of all keys after the push. -/
lemma forall_mem_push {P : κ → Prop} (hk : P k) (hm : ∀ e ∈ m, P e.1) :
    ∀ e ∈ push k v m, P e.1 := by
  induction m with
  | nil => exact forall_mem_singleton.mpr hk
  | cons e rest ih =>
    obtain ⟨hf, hr⟩ := forall_mem_cons.mp hm
    rw [push]
    split
    · exact forall_mem_cons.mpr ⟨hk, hm⟩
    · split
      · exact forall_mem_cons.mpr ⟨hf, hr⟩
      · exact forall_mem_cons.mpr ⟨hf, ih hr⟩

lemma ascending_push (hm : Ascending m) : Ascending (push k v m) := by
  induction m with
  | nil => exact pairwise_singleton _ _
  | cons e rest ih =>
    obtain ⟨k₀, vs₀⟩ := e
    obtain ⟨hlt, hr⟩ := pairwise_cons.mp hm
    rw [push]
    by_cases hkk : k < k₀
    · rw [if_pos hkk]
      refine pairwise_cons.mpr ⟨?_, hm⟩
      exact forall_mem_cons.mpr ⟨hkk, fun e he => Std.lt_trans hkk (hlt e he)⟩
    rw [if_neg hkk]
    by_cases heq : k = k₀
    · rw [if_pos heq]
      exact pairwise_cons.mpr ⟨hlt, hr⟩
    · have hb : k₀ < k := Std.lt_of_le_of_ne (Std.not_lt.mp hkk) (Ne.symm heq)
      rw [if_neg heq]
      exact pairwise_cons.mpr ⟨forall_mem_push hb hlt, ih hr⟩

structure Grouped (key : ν → Option κ) (values : List ν) (m : List (κ × List ν)) : Prop where
  ascending : Ascending m
  mem : ∀ k vs, (k, vs) ∈ m ↔ vs ≠ [] ∧ vs = values.filter fun v => key v = some k

omit [DecidableLT κ] [Std.IsLinearOrder κ] in
lemma Grouped.lookup_getD {key : ν → Option κ} (h : Grouped key values m) (k : κ) :
    (m.lookup k).getD [] = values.filter fun v => key v = some k := by
  cases hk : m.lookup k with
  | none =>
    -- a value under the key would make an entry
    by_contra hne
    have hmem := (h.mem k _).mpr ⟨Ne.symm hne, rfl⟩
    rw [mem_iff_lookup h.ascending, hk] at hmem
    cases hmem
  | some vs => exact ((h.mem k vs).mp ((mem_iff_lookup h.ascending k vs).mpr hk)).2

lemma Grouped.pushValue {key : ν → Option κ} (h : Grouped key values m) (v : ν) :
    Grouped key (values ++ [v]) (pushValue key m v) := by
  cases hk : key v with
  | none =>
    have hs : Grouping.pushValue key m v = m := by
      rw [Grouping.pushValue, hk]
    rw [hs]
    refine ⟨h.ascending, fun k vs => ?_⟩
    rw [h.mem, filter_append, filter_singleton, hk]
    simp
  | some k₀ =>
    have hp : Grouping.pushValue key m v = push k₀ v m := by
      rw [Grouping.pushValue, hk]
    have ha := ascending_push (k := k₀) (v := v) h.ascending
    rw [hp]
    refine ⟨ha, fun k vs => ?_⟩
    rw [mem_iff_lookup ha, lookup_push h.ascending, filter_append, filter_singleton, hk]
    by_cases hkk : k = k₀
    · subst hkk
      rw [if_pos rfl, h.lookup_getD]
      simp only [decide_true, cond_true, some.injEq]
      constructor
      · rintro rfl
        exact ⟨append_ne_nil_of_right_ne_nil _ (cons_ne_nil _ _), rfl⟩
      · rintro ⟨-, rfl⟩
        rfl
    · have hne : ¬ some k₀ = some k := fun heq => hkk (some.inj heq).symm
      rw [if_neg hkk, ← mem_iff_lookup h.ascending, h.mem]
      simp [hne, cond_false]

lemma grouped_groupBy (values : List ν) : Grouped key values (groupBy key values) := by
  have hf : ∀ (rest done : List ν) (m : List (κ × List ν)), Grouped key done m →
      Grouped key (done ++ rest) (rest.foldl (Grouping.pushValue key) m) := by
    intro rest
    induction rest with
    | nil =>
      intro done m h
      rwa [append_nil]
    | cons v rest ih =>
      intro done m h
      have hn := ih (done ++ [v]) _ (h.pushValue v)
      rwa [append_assoc] at hn
  refine hf values [] [] ⟨List.Pairwise.nil, fun k vs => ?_⟩
  simp

end Gadget.Lib.Grouping
