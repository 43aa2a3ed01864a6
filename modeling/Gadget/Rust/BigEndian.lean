import Gadget.Rust.Text

/-!
# Numbers in big-endian bytes

`from_be_bytes` next to `to_be_bytes`, and the round trips between them.
-/

namespace Gadget.Rust

variable (bytes : Bytes)

def ofBeBytes : ℕ := bytes.foldl (fun n b => n * 256 + b.toNat) 0

variable (width n : ℕ)

lemma toBeBytes_succ :
    toBeBytes (width + 1) n = UInt8.ofNat (n / 256 ^ width) :: toBeBytes width n := by
  simp [toBeBytes, List.range_succ, List.reverse_append, List.reverse_cons]

@[simp] lemma length_toBeBytes : (toBeBytes width n).length = width := by
  simp [toBeBytes]

lemma foldl_beBytes (acc : ℕ) : bytes.foldl (fun n b => n * 256 + b.toNat) acc
      = acc * 256 ^ bytes.length + ofBeBytes bytes := by
  induction bytes generalizing acc with
  | nil => simp [ofBeBytes]
  | cons b bytes ih =>
    have ht := ih b.toNat
    rw [ofBeBytes, List.foldl_cons, List.foldl_cons, ih, Nat.zero_mul, Nat.zero_add, ht,
      List.length_cons]
    ring

lemma ofBeBytes_cons (b : UInt8) (bytes : Bytes) :
    ofBeBytes (b :: bytes) = b.toNat * 256 ^ bytes.length + ofBeBytes bytes := by
  rw [ofBeBytes, List.foldl_cons, Nat.zero_mul, Nat.zero_add, foldl_beBytes]

lemma ofBeBytes_lt (bs : Bytes) : ofBeBytes bs < 256 ^ bs.length := by
  induction bs with
  | nil => simp [ofBeBytes]
  | cons b bs ih =>
    have hb : b.toNat + 1 ≤ 256 := b.toNat_lt
    rw [ofBeBytes_cons, List.length_cons, pow_succ]
    calc b.toNat * 256 ^ bs.length + ofBeBytes bs
        < b.toNat * 256 ^ bs.length + 256 ^ bs.length := by omega
      _ = (b.toNat + 1) * 256 ^ bs.length := by ring
      _ ≤ 256 * 256 ^ bs.length := Nat.mul_le_mul_right _ hb
      _ = 256 ^ bs.length * 256 := Nat.mul_comm _ _

lemma ofBeBytes_toBeBytes : ofBeBytes (toBeBytes width n) = n % 256 ^ width := by
  induction width with
  | zero => simp [toBeBytes, ofBeBytes, Nat.mod_one]
  | succ width ih =>
    have hb : (UInt8.ofNat (n / 256 ^ width)).toNat = n / 256 ^ width % 256 := by
      simp [UInt8.toNat_ofNat']
    rw [toBeBytes_succ, ofBeBytes_cons, ih, length_toBeBytes, hb, pow_succ, Nat.mod_mul]
    ring

lemma ofBeBytes_toBeBytes_of_lt {w n : ℕ} (h : n < 256 ^ w) : ofBeBytes (toBeBytes w n) = n := by
  rw [ofBeBytes_toBeBytes, Nat.mod_eq_of_lt h]

lemma toBeBytes_add_mul (width m n : ℕ) :
    toBeBytes width (m * 256 ^ width + n) = toBeBytes width n := by
  apply List.map_congr_left
  intro i hi
  have hi : i < width := by simpa using hi
  have hpow : 256 ^ width = 256 ^ i * (256 * 256 ^ (width - i - 1)) := by
    rw [← pow_succ', ← pow_add]
    congr 1
    omega
  have hdiv : (m * 256 ^ width + n) / 256 ^ i
      = n / 256 ^ i + 256 * (m * 256 ^ (width - i - 1)) := by
    rw [hpow, show m * (256 ^ i * (256 * 256 ^ (width - i - 1))) + n
      = n + 256 ^ i * (256 * (m * 256 ^ (width - i - 1))) by ring,
      Nat.add_mul_div_left _ _ (by positivity)]
  rw [hdiv, ← UInt8.toNat_inj, UInt8.toNat_ofNat', UInt8.toNat_ofNat', Nat.add_mul_mod_self_left]

lemma toBeBytes_ofBeBytes : toBeBytes bytes.length (ofBeBytes bytes) = bytes := by
  induction bytes with
  | nil => rfl
  | cons b bytes ih =>
    have hh : (b.toNat * 256 ^ bytes.length + ofBeBytes bytes) / 256 ^ bytes.length = b.toNat := by
      rw [Nat.mul_comm, Nat.mul_add_div (by positivity), Nat.div_eq_of_lt (ofBeBytes_lt bytes),
        Nat.add_zero]
    rw [List.length_cons, toBeBytes_succ, ofBeBytes_cons, hh, toBeBytes_add_mul, ih,
      UInt8.ofNat_toNat]

end Gadget.Rust
