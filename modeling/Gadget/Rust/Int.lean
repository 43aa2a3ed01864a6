import Mathlib.Algebra.Order.BigOperators.Group.Finset
import Mathlib.Tactic.Ring

/-!
# Unsigned machine integers

Values of the unsigned types are natural numbers. An operation that can leave the range of
its type is spelled out: `wrap` is what a release build does on overflow, the `saturating`
operations stop at the bounds of the type.
-/

namespace Gadget.Rust

def u32Max : ℕ := 2 ^ 32 - 1

def u64Max : ℕ := 2 ^ 64 - 1

def wrap32 (n : ℕ) : ℕ := n % 2 ^ 32

def wrap64 (n : ℕ) : ℕ := n % 2 ^ 64

lemma wrap64_lt (n : ℕ) : wrap64 n < 2 ^ 64 := Nat.mod_lt _ (by norm_num)

lemma wrap64_eq_self_iff (n : ℕ) : wrap64 n = n ↔ n < 2 ^ 64 := by
  constructor
  · intro h
    rw [← h]
    exact wrap64_lt n
  · exact Nat.mod_eq_of_lt

lemma wrap32_eq_self {n : ℕ} (h : n < 2 ^ 32) : wrap32 n = n := Nat.mod_eq_of_lt h

def saturatingAdd (a b : ℕ) : ℕ := min (a + b) u64Max

instance : Std.Commutative saturatingAdd where
  comm a b := by rw [saturatingAdd, saturatingAdd, Nat.add_comm]

instance : Std.Associative saturatingAdd where
  assoc a b c := by
    simp only [saturatingAdd]
    omega

lemma fold_saturatingAdd {κ : Type} (s : Finset κ) (w : κ → ℕ) :
    s.fold saturatingAdd 0 w = min (∑ i ∈ s, w i) u64Max := by
  classical
  induction s using Finset.induction_on with
  | empty => simp
  | insert a s ha ih =>
    rw [Finset.fold_insert ha, ih, Finset.sum_insert ha]
    simp only [saturatingAdd]
    omega

end Gadget.Rust
