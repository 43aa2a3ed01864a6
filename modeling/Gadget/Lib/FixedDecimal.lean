import Mathlib.Algebra.Order.Floor.Semifield
import Mathlib.Data.Nat.Cast.Field
import Mathlib.Data.Rat.Floor
import Mathlib.Tactic.Positivity

/-!
# Decimals of fixed precision

A number is a sign, a mantissa below a limit and a number of decimal places up to a maximum. An
operation rounds its exact result, half to even, to as many places as fit, and overflows when even
the whole part does not fit.

An exact result that is a number of the format is returned as it is. Any other result is off by
half a unit in the last place.
-/

namespace Gadget.Lib

/-! ## Rounding -/

def roundHalfEven (n d : ℕ) : ℕ :=
  if 2 * (n % d) < d then n / d
  else if d < 2 * (n % d) then n / d + 1
  else if n / d % 2 = 0 then n / d
  else n / d + 1

lemma roundHalfEven_mul {d : ℕ} (hd : 0 < d) (m : ℕ) : roundHalfEven (m * d) d = m := by
  have hmod : m * d % d = 0 := Nat.mul_mod_left m d
  rw [roundHalfEven, hmod, if_pos (by omega), Nat.mul_div_cancel m hd]

lemma roundHalfEven_le (n d : ℕ) : 2 * (roundHalfEven n d * d) ≤ 2 * n + d := by
  have hn : n / d * d + n % d = n := Nat.div_add_mod' n d
  have hs : (n / d + 1) * d = n / d * d + d := Nat.succ_mul _ _
  unfold roundHalfEven
  split_ifs <;> omega

lemma le_roundHalfEven (n : ℕ) {d : ℕ} (hd : 0 < d) : 2 * n ≤ 2 * (roundHalfEven n d * d) + d := by
  have hmod : n % d < d := Nat.mod_lt n hd
  have hn : n / d * d + n % d = n := Nat.div_add_mod' n d
  have hs : (n / d + 1) * d = n / d * d + d := Nat.succ_mul _ _
  unfold roundHalfEven
  split_ifs <;> omega

lemma roundHalfEven_le_of_le {n d m : ℕ} (hd : 0 < d) (h : n ≤ m * d) : roundHalfEven n d ≤ m := by
  by_contra hlt
  have hmul : (m + 1) * d ≤ roundHalfEven n d * d := Nat.mul_le_mul_right d (not_le.mp hlt)
  have hr := roundHalfEven_le n d
  have hs : (m + 1) * d = m * d + d := Nat.succ_mul m d
  omega

/-! ## Numbers -/

structure DecimalFormat where
  limit : ℕ
  maxScale : ℕ
  limit_pos : 0 < limit

structure FixedDecimal (F : DecimalFormat) where
  negative : Bool
  mantissa : ℕ
  scale : ℕ
  mantissa_lt : mantissa < F.limit
  scale_le : scale ≤ F.maxScale

namespace FixedDecimal

variable {F : DecimalFormat} (x : FixedDecimal F)

def abs : ℚ := x.mantissa / 10 ^ x.scale

def Representable (F : DecimalFormat) (q : ℚ) : Prop :=
  ∃ mantissa scale : ℕ, mantissa < F.limit ∧ scale ≤ F.maxScale ∧ q = mantissa / 10 ^ scale

def ofNat (F : DecimalFormat) (n : ℕ) : FixedDecimal F where
  negative := false
  mantissa := n % F.limit
  scale := 0
  mantissa_lt := Nat.mod_lt _ F.limit_pos
  scale_le := Nat.zero_le _

lemma abs_ofNat {n : ℕ} (h : n < F.limit) : (ofNat F n).abs = n := by
  simp [abs, ofNat, Nat.mod_eq_of_lt h]

lemma abs_nonneg : 0 ≤ x.abs := by
  unfold abs
  positivity

lemma abs_lt : x.abs < F.limit := by
  have hm : (x.mantissa : ℚ) < F.limit := by exact_mod_cast x.mantissa_lt
  have hpow : (1 : ℚ) ≤ 10 ^ x.scale := one_le_pow₀ (by norm_num)
  exact lt_of_le_of_lt (div_le_self (Nat.cast_nonneg _) hpow) hm

/-! ## Fitting a fraction -/

def fit (negative : Bool) (num den : ℕ) : (scale : ℕ) → scale ≤ F.maxScale → Option (FixedDecimal F)
  | 0, hscale =>
    if h : roundHalfEven num den < F.limit then some ⟨negative, roundHalfEven num den, 0, h, hscale⟩
    else none
  | scale + 1, hscale =>
    if h : roundHalfEven (num * 10 ^ (scale + 1)) den < F.limit then
      some ⟨negative, roundHalfEven (num * 10 ^ (scale + 1)) den, scale + 1, h, hscale⟩
    else fit negative num den scale (Nat.le_of_succ_le hscale)

/-- What `fit` returns: the rounded fraction, at a number of places that is the largest possible. -/
lemma fit_spec (negative : Bool) (num den : ℕ) {scale : ℕ} (hscale : scale ≤ F.maxScale) :
    match fit (F := F) negative num den scale hscale with
    | some x => x.negative = negative ∧ x.mantissa = roundHalfEven (num * 10 ^ x.scale) den ∧
        (x.scale = scale ∨ x.scale < scale ∧ F.limit ≤ roundHalfEven (num * 10 ^ (x.scale + 1)) den)
    | none => F.limit ≤ roundHalfEven num den := by
  induction scale with
  | zero =>
    rw [fit]
    split_ifs with h
    · exact ⟨rfl, by rw [pow_zero, mul_one], .inl rfl⟩
    · exact not_lt.mp h
  | succ scale ih =>
    rw [fit]
    split_ifs with h
    · exact ⟨rfl, rfl, .inl rfl⟩
    have hr := ih (Nat.le_of_succ_le hscale)
    rcases hfit : fit (F := F) negative num den scale (Nat.le_of_succ_le hscale) with _ | x
    · rw [hfit] at hr
      exact hr
    rw [hfit] at hr
    obtain ⟨hneg, hm, hla⟩ := hr
    refine ⟨hneg, hm, .inr ?_⟩
    obtain hs' | ⟨hlt, hl⟩ := hla
    · exact ⟨by omega, by rw [hs']; exact not_lt.mp h⟩
    · exact ⟨by omega, hl⟩

section Fit

variable {negative : Bool} {num den scale : ℕ} {hscale : scale ≤ F.maxScale} (hden : 0 < den)

include hden

lemma exists_fit (h : num ≤ (F.limit - 1) * den) :
    ∃ x, fit (F := F) negative num den scale hscale = some x := by
  have hs := fit_spec negative num den hscale
  cases hfit : fit (F := F) negative num den scale hscale with
  | some x => exact ⟨x, rfl⟩
  | none =>
    rw [hfit] at hs
    have hr := roundHalfEven_le_of_le hden h
    have hpos := F.limit_pos
    omega

/-- A fraction that is a number of the format is returned as it is. -/
lemma fit_exact {man places : ℕ} (hm : man < F.limit) (hp : places ≤ scale)
    (hv : num * 10 ^ places = man * den) :
    ∃ x, fit (F := F) negative num den scale hscale = some x ∧ x.negative = negative ∧
      x.mantissa * den = num * 10 ^ x.scale := by
  have hle : ∀ k ≤ places, roundHalfEven (num * 10 ^ k) den < F.limit := by
    intro k hk
    have hnum : num * 10 ^ k ≤ man * den := by
      rw [← hv]
      exact Nat.mul_le_mul_left num (Nat.pow_le_pow_right (by decide) hk)
    exact lt_of_le_of_lt (roundHalfEven_le_of_le hden hnum) hm
  have hs := fit_spec negative num den hscale
  cases hfit : fit (F := F) negative num den scale hscale with
  | none =>
    rw [hfit] at hs
    have hz := hle 0 (Nat.zero_le places)
    rw [pow_zero, mul_one] at hz
    exact absurd hz (not_lt.mpr hs)
  | some x =>
    rw [hfit] at hs
    obtain ⟨hneg, hr, hla⟩ := hs
    refine ⟨x, rfl, hneg, ?_⟩
    have he : places ≤ x.scale := by
      obtain hx | ⟨_, hl⟩ := hla
      · omega
      · by_contra hlt
        exact absurd (hle (x.scale + 1) (by omega)) (not_lt.mpr hl)
    have hnum : num * 10 ^ x.scale = man * 10 ^ (x.scale - places) * den := by
      calc num * 10 ^ x.scale = num * 10 ^ places * 10 ^ (x.scale - places) := by
            rw [mul_assoc, ← pow_add, Nat.add_sub_cancel' he]
        _ = man * 10 ^ (x.scale - places) * den := by rw [hv]; ring
    rw [hr, hnum, roundHalfEven_mul hden]

/-- Half a unit in the last place is at most what it is with all places, or small compared to the
fraction itself. -/
lemma fit_error {x : FixedDecimal F} (h : fit (F := F) negative num den scale hscale = some x) :
    |x.abs - num / den| ≤ 1 / (2 * 10 ^ x.scale) ∧
      (x.scale = scale ∨ 1 / (2 * 10 ^ x.scale) ≤ 10 * (num / den : ℚ) / (2 * F.limit - 1)) := by
  have hs := fit_spec (F := F) negative num den hscale
  rw [h] at hs
  obtain ⟨_, hr, hla⟩ := hs
  have hpow : (0 : ℚ) < 10 ^ x.scale := by positivity
  have hd : (0 : ℚ) < den := by exact_mod_cast hden
  -- the fraction is `q`, and everything is compared at its denominator
  obtain ⟨q, hq⟩ : ∃ q : ℚ, q = num / den := ⟨_, rfl⟩
  have hnum : (num : ℚ) = q * den := by rw [hq, div_mul_cancel₀ _ hd.ne']
  have hm : (x.mantissa : ℚ) = x.abs * 10 ^ x.scale := by
    rw [abs, div_mul_cancel₀ _ hpow.ne']
  rw [← hq]
  constructor
  · have hle : (2 : ℚ) * (x.mantissa * den) ≤ 2 * (num * 10 ^ x.scale) + den := by
      rw [hr]
      exact_mod_cast roundHalfEven_le (num * 10 ^ x.scale) den
    have hge : (2 : ℚ) * (num * 10 ^ x.scale) ≤ 2 * (x.mantissa * den) + den := by
      rw [hr]
      exact_mod_cast le_roundHalfEven (num * 10 ^ x.scale) hden
    have hle' : 2 * (x.abs * 10 ^ x.scale) ≤ 2 * (q * 10 ^ x.scale) + 1 := by
      refine le_of_mul_le_mul_right ?_ hd
      rw [hnum, hm] at hle
      linarith
    have hge' : 2 * (q * 10 ^ x.scale) ≤ 2 * (x.abs * 10 ^ x.scale) + 1 := by
      refine le_of_mul_le_mul_right ?_ hd
      rw [hnum, hm] at hge
      linarith
    rw [abs_le, neg_le, le_div_iff₀ (by positivity), le_div_iff₀ (by positivity)]
    exact ⟨by linarith, by linarith⟩
  · obtain hx | ⟨_, hl⟩ := hla
    · exact .inl hx
    right
    -- with one place more the mantissa would have been too large
    have hne : 2 * (F.limit * den) ≤ 2 * (num * 10 ^ (x.scale + 1)) + den :=
      (Nat.mul_le_mul_left 2 (Nat.mul_le_mul_right den hl)).trans (roundHalfEven_le _ _)
    have hn : (2 : ℚ) * (F.limit * den) ≤ 2 * (num * 10 ^ (x.scale + 1)) + den := by
      exact_mod_cast hne
    have hten : 2 * (F.limit : ℚ) - 1 ≤ 20 * (q * 10 ^ x.scale) := by
      refine le_of_mul_le_mul_right ?_ hd
      rw [hnum, pow_succ] at hn
      linarith
    have hpos : (1 : ℚ) ≤ F.limit := by exact_mod_cast F.limit_pos
    rw [div_le_div_iff₀ (by positivity) (by linarith)]
    linarith

/-- A representable fraction fits as it is. Where fewer places are allowed than the format has, the fraction must
not need more. -/
lemma fit_representable (h : Representable F (num / den))
    (hp : scale = F.maxScale ∨ den ∣ num * 10 ^ scale) :
    ∃ x, fit (F := F) negative num den scale hscale = some x ∧ x.negative = negative ∧
      x.abs = num / den := by
  obtain ⟨man, places, hma, hmax, hv⟩ := h
  have hd : (den : ℚ) ≠ 0 := by exact_mod_cast hden.ne'
  have hc : num * 10 ^ places = man * den := by
    rw [div_eq_div_iff hd (by positivity)] at hv
    exact_mod_cast hv
  have he : ∃ x, fit (F := F) negative num den scale hscale = some x ∧
      x.negative = negative ∧ x.mantissa * den = num * 10 ^ x.scale := by
    by_cases hle : places ≤ scale
    · exact fit_exact hden hma hle hc
    have hdvd : den ∣ num * 10 ^ scale := by
      obtain hs' | hdvd := hp
      · omega
      · exact hdvd
    obtain ⟨m, hm⟩ := hdvd
    have hmle : m * den ≤ man * den := by
      rw [← hc, mul_comm m, ← hm]
      exact Nat.mul_le_mul_left num (Nat.pow_le_pow_right (by decide) (by omega))
    refine fit_exact hden (lt_of_le_of_lt (Nat.le_of_mul_le_mul_right hmle hden) hma) le_rfl ?_
    rw [hm, mul_comm]
  obtain ⟨x, hfit, hneg, hx⟩ := he
  refine ⟨x, hfit, hneg, ?_⟩
  rw [abs, div_eq_div_iff (by positivity) hd]
  exact_mod_cast hx

end Fit

/-! ## Products -/

def mul (x y : FixedDecimal F) : Option (FixedDecimal F) :=
  fit (x.negative ^^ y.negative) (x.mantissa * y.mantissa) (10 ^ (x.scale + y.scale))
    (min F.maxScale (x.scale + y.scale)) (Nat.min_le_left _ _)

lemma abs_mul_abs (x y : FixedDecimal F) : x.abs * y.abs
      = ((x.mantissa * y.mantissa : ℕ) : ℚ) / ((10 ^ (x.scale + y.scale) : ℕ) : ℚ) := by
  rw [abs, abs, div_mul_div_comm]
  push_cast
  rw [pow_add]

variable {x y : FixedDecimal F}

lemma mul_spec {z : FixedDecimal F} (h : mul x y = some z) :
    z.negative = (x.negative ^^ y.negative) ∧ z.mantissa
        = roundHalfEven (x.mantissa * y.mantissa * 10 ^ z.scale) (10 ^ (x.scale + y.scale)) := by
  have hs := fit_spec (F := F) (x.negative ^^ y.negative) (x.mantissa * y.mantissa)
    (10 ^ (x.scale + y.scale)) (Nat.min_le_left F.maxScale (x.scale + y.scale))
  rw [show fit _ _ _ _ _ = some z from h] at hs
  exact ⟨hs.1, hs.2.1⟩

lemma mul_exact (h : Representable F (x.abs * y.abs)) :
    ∃ z, mul x y = some z ∧ z.abs = x.abs * y.abs := by
  have hp : min F.maxScale (x.scale + y.scale) = F.maxScale ∨ 10 ^ (x.scale + y.scale)
      ∣ x.mantissa * y.mantissa * 10 ^ min F.maxScale (x.scale + y.scale) := by
    obtain hmax | hmax := le_total F.maxScale (x.scale + y.scale)
    · exact .inl (min_eq_left hmax)
    · rw [min_eq_right hmax]
      exact .inr (dvd_mul_left _ _)
  rw [abs_mul_abs] at h ⊢
  obtain ⟨z, hz, _, habs⟩ := fit_representable (by positivity) h hp
  exact ⟨z, hz, habs⟩

lemma exists_mul (h : x.abs * y.abs + 1 ≤ F.limit) : ∃ z, mul x y = some z := by
  refine exists_fit (by positivity) ?_
  rw [abs_mul_abs, ← le_sub_iff_add_le, div_le_iff₀ (by positivity)] at h
  have hc : ((F.limit - 1 : ℕ) : ℚ) = F.limit - 1 := by
    rw [Nat.cast_sub F.limit_pos, Nat.cast_one]
  rw [← hc] at h
  exact_mod_cast h

/-- The error of a product: half a unit in the last place the format has, and a part of the
product that is small if the limit is large. -/
lemma mul_error {z : FixedDecimal F} (h : mul x y = some z) :
    |z.abs - x.abs * y.abs|
      ≤ 1 / (2 * 10 ^ F.maxScale) + 10 * (x.abs * y.abs) / (2 * F.limit - 1) := by
  have hl : (1 : ℚ) ≤ F.limit := by exact_mod_cast F.limit_pos
  have hxy : 0 ≤ x.abs * y.abs := mul_nonneg x.abs_nonneg y.abs_nonneg
  have hr : 0 ≤ 10 * (x.abs * y.abs) / (2 * F.limit - 1) := div_nonneg (by linarith) (by linarith)
  have hla : (0 : ℚ) ≤ 1 / (2 * 10 ^ F.maxScale) := by positivity
  obtain ⟨he, hscale⟩ := fit_error (by positivity) h
  rw [← abs_mul_abs] at he hscale
  obtain hscale | hsmall := hscale
  · obtain hmax | hmax := le_total F.maxScale (x.scale + y.scale)
    · rw [hscale, min_eq_left hmax] at he
      linarith
    -- all places of the exact product are there
    rw [min_eq_right hmax] at hscale
    have hm := (mul_spec h).2
    rw [hscale, roundHalfEven_mul (by positivity)] at hm
    have hex : x.abs * y.abs = z.abs := by
      rw [abs_mul_abs, abs, hm, hscale, Nat.cast_pow]
      rfl
    rw [hex, sub_self, abs_zero]
    rw [hex] at hr
    linarith
  · linarith

/-! ## Quotients -/

/-- The same number without zeros in the last places. -/
def trim (negative : Bool) : (mantissa scale : ℕ) → mantissa < F.limit → scale ≤ F.maxScale →
    FixedDecimal F
  | mantissa, 0, hm, hs => ⟨negative, mantissa, 0, hm, hs⟩
  | mantissa, scale + 1, hm, hs =>
    if mantissa % 10 = 0 then
      trim negative (mantissa / 10) scale (lt_of_le_of_lt (Nat.div_le_self _ _) hm)
        (Nat.le_of_succ_le hs)
    else ⟨negative, mantissa, scale + 1, hm, hs⟩

def div (x y : FixedDecimal F) : Option (FixedDecimal F) :=
  (fit (F := F) (x.negative ^^ y.negative) (x.mantissa * 10 ^ y.scale)
    (10 ^ x.scale * y.mantissa) F.maxScale le_rfl).map
    fun q => trim q.negative q.mantissa q.scale q.mantissa_lt q.scale_le

lemma trim_spec {negative : Bool} {man scale : ℕ} {hm : man < F.limit} {hs : scale ≤ F.maxScale} :
    (trim negative man scale hm hs).negative = negative ∧
      (trim negative man scale hm hs).abs = man / 10 ^ scale := by
  induction scale generalizing man with
  | zero => exact ⟨rfl, rfl⟩
  | succ scale ih =>
    rw [trim]
    split_ifs with hten
    · refine ⟨ih.1, ih.2.trans ?_⟩
      rw [Nat.cast_div (Nat.dvd_of_mod_eq_zero hten) (by norm_num), div_div, pow_succ']
      rfl
    · exact ⟨rfl, rfl⟩

lemma div_exact (hy : y.mantissa ≠ 0) (h : Representable F (x.abs / y.abs)) :
    ∃ z, div x y = some z ∧ z.negative = (x.negative ^^ y.negative) ∧ z.abs = x.abs / y.abs := by
  have hf : x.abs / y.abs = ((x.mantissa * 10 ^ y.scale : ℕ) : ℚ)
      / ((10 ^ x.scale * y.mantissa : ℕ) : ℚ) := by
    rw [abs, abs, div_div_div_eq]
    push_cast
    rfl
  rw [hf] at h ⊢
  have hden : 0 < 10 ^ x.scale * y.mantissa := by positivity
  have he : ∃ q, fit (F := F) (x.negative ^^ y.negative) (x.mantissa * 10 ^ y.scale)
      (10 ^ x.scale * y.mantissa) F.maxScale le_rfl = some q ∧ _ ∧ _ :=
    fit_representable hden h (.inl rfl)
  obtain ⟨q, hfit, hneg, habs⟩ := he
  refine ⟨trim q.negative q.mantissa q.scale q.mantissa_lt q.scale_le, ?_, ?_, ?_⟩
  · rw [div, hfit, Option.map_some]
  · rw [trim_spec.1, hneg]
  · rw [trim_spec.2, ← habs]
    rfl

/-! ## Sums -/

def add (x y : FixedDecimal F) : Option (FixedDecimal F) :=
  let scale := max x.scale y.scale
  let a := x.mantissa * 10 ^ (scale - x.scale)
  let b := y.mantissa * 10 ^ (scale - y.scale)
  let hscale := Nat.max_le.mpr ⟨x.scale_le, y.scale_le⟩
  if x.negative = y.negative then fit x.negative (a + b) (10 ^ scale) scale hscale
  else if b ≤ a then fit x.negative (a - b) (10 ^ scale) scale hscale
  else fit y.negative (b - a) (10 ^ scale) scale hscale

lemma add_exact (hx : x.negative = false) (hy : y.negative = false)
    (h : Representable F (x.abs + y.abs)) :
    ∃ z, add x y = some z ∧ z.negative = false ∧ z.abs = x.abs + y.abs := by
  have hf : x.abs + y.abs = ((x.mantissa * 10 ^ (max x.scale y.scale - x.scale)
          + y.mantissa * 10 ^ (max x.scale y.scale - y.scale) : ℕ) : ℚ)
        / ((10 ^ max x.scale y.scale : ℕ) : ℚ) := by
    have hxs : (10 : ℚ) ^ max x.scale y.scale
        = 10 ^ x.scale * 10 ^ (max x.scale y.scale - x.scale) := by
      rw [← pow_add, Nat.add_sub_cancel' (le_max_left _ _)]
    have hys : (10 : ℚ) ^ max x.scale y.scale
        = 10 ^ y.scale * 10 ^ (max x.scale y.scale - y.scale) := by
      rw [← pow_add, Nat.add_sub_cancel' (le_max_right _ _)]
    push_cast
    rw [add_div, abs, abs]
    congr 1
    · rw [hxs, mul_div_mul_right _ _ (by positivity)]
    · rw [hys, mul_div_mul_right _ _ (by positivity)]
  simp only [add, hx, hy, if_true]
  rw [hf] at h ⊢
  exact fit_representable (by positivity) h (.inr (dvd_mul_left _ _))

/-! ## Whole numbers and texts -/

private lemma floor_lt (h : x.mantissa % 10 ^ x.scale ≠ 0) :
    x.mantissa / 10 ^ x.scale + 1 < F.limit := by
  have hlt := x.mantissa_lt
  have hscale : x.scale ≠ 0 := by
    intro hz
    rw [hz, pow_zero, Nat.mod_one] at h
    exact h rfl
  have hten : 10 ≤ 10 ^ x.scale := Nat.le_self_pow hscale 10
  have hdiv : x.mantissa / 10 ^ x.scale ≤ x.mantissa / 10 := Nat.div_le_div_left hten (by decide)
  have hpos : x.mantissa ≠ 0 := by
    intro hz
    rw [hz, Nat.zero_mod] at h
    exact h rfl
  omega

def floor (x : FixedDecimal F) : FixedDecimal F :=
  if h : x.negative ∧ x.mantissa % 10 ^ x.scale ≠ 0 then
    ⟨true, x.mantissa / 10 ^ x.scale + 1, 0, floor_lt h.2, Nat.zero_le _⟩
  else ⟨x.negative, x.mantissa / 10 ^ x.scale, 0,
    lt_of_le_of_lt (Nat.div_le_self _ _) x.mantissa_lt, Nat.zero_le _⟩

lemma floor_of_nonneg (h : x.negative = false) :
    (floor x).negative = false ∧ (floor x).scale = 0 ∧ (floor x).mantissa = ⌊x.abs⌋₊ := by
  have hnot : ¬ (x.negative ∧ x.mantissa % 10 ^ x.scale ≠ 0) := by
    rw [h]
    simp
  rw [floor, dif_neg hnot]
  refine ⟨h, rfl, ?_⟩
  have hf := Nat.floor_div_eq_div (K := ℚ) x.mantissa (10 ^ x.scale)
  push_cast at hf
  exact hf.symm

def toText (x : FixedDecimal F) : List Char :=
  let sign := if x.negative then ['-'] else []
  let whole := Nat.toDigits 10 (x.mantissa / 10 ^ x.scale)
  let places := Nat.toDigits 10 (x.mantissa % 10 ^ x.scale)
  if x.scale = 0 then sign ++ whole
  else sign ++ whole ++ '.' :: (List.replicate (x.scale - places.length) '0' ++ places)

lemma toText_floor (h : x.negative = false) : toText (floor x) = Nat.toDigits 10 ⌊x.abs⌋₊ := by
  obtain ⟨hneg, hscale, hm⟩ := floor_of_nonneg h
  simp [toText, hneg, hscale, hm]

end FixedDecimal

end Gadget.Lib
