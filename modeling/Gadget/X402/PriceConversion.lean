import Gadget.Lib.FixedDecimal
import Gadget.X402.PaymentGate

/-!
# Prices in tokens

A price in wei becomes an amount of a token by three products of decimals with 96 bits and up to
28 places. Each is rounded, the power of ten is taken in 64 bits, and an overflow panics. Here the
amount is compared with the exact one, which is rounded once, at the end.
-/

namespace Gadget.X402

open Rust Lib Nat FixedDecimal Option

def rustDecimal : DecimalFormat where
  limit := 2 ^ 96
  maxScale := 28
  limit_pos := by decide

def decimalFromStrExact (text : List Char) : Except String (FixedDecimal rustDecimal) :=
  match parseUnsigned (2 ^ 96 - 1) (text.map Char.toNat) with
  | some n => .ok (.ofNat rustDecimal n)
  | none => .error "Invalid decimal: overflow from too many digits"

variable (x y : FixedDecimal rustDecimal)

def decimalAdd : Except String (FixedDecimal rustDecimal) :=
  okOr (x.add y) "Addition overflowed"

def decimalMul : Except String (FixedDecimal rustDecimal) :=
  okOr (x.mul y) "Multiplication overflowed"

def decimalDiv : Except String (FixedDecimal rustDecimal) :=
  if y.mantissa = 0 then .error "Division by zero" else okOr (x.div y) "Division overflowed"

abbrev Deps.withRustDecimal (D : Deps) : Deps :=
  { D with
    Decimal := FixedDecimal rustDecimal
    fromStrExact := decimalFromStrExact
    ofNat := FixedDecimal.ofNat rustDecimal
    add := decimalAdd
    mul := decimalMul
    div := decimalDiv
    floor := FixedDecimal.floor
    leZero := fun x => x.negative || decide (x.mantissa = 0)
    toText := FixedDecimal.toText }

variable {D : Deps}

namespace AcceptedToken

variable (t : AcceptedToken D.withRustDecimal) (weiPrice : ℕ)

def rate : ℚ := FixedDecimal.abs t.ratePerNativeUnit

def exactTokenAmount : ℚ := weiPrice / 10 ^ 18 * t.rate

def exactFinalAmount : ℚ := t.exactTokenAmount weiPrice * (1 + t.markupBps / 10000)

def exactUnits : ℚ := t.exactFinalAmount weiPrice * 10 ^ t.decimals

def exactAmount : ℕ := ⌊t.exactUnits weiPrice⌋₊

/-- The conversion fails or gives the exact amount, rounded down. -/
def Faithful : Prop :=
  (∃ e, t.convertWeiToAmount weiPrice = .error (.err e)) ∨
    t.convertWeiToAmount weiPrice = .ok (Nat.toDigits 10 (t.exactAmount weiPrice))

def ExactSteps : Prop :=
  FixedDecimal.Representable rustDecimal (t.exactTokenAmount weiPrice) ∧
    FixedDecimal.Representable rustDecimal (t.exactFinalAmount weiPrice) ∧
    FixedDecimal.Representable rustDecimal (t.exactUnits weiPrice)

def tolerance : ℚ := (10 * 10 ^ t.decimals + 1 + 4 * t.exactUnits weiPrice) / 10 ^ 28

/-- The exact units are further from whole numbers than all rounding errors. -/
def FarFromWhole : Prop :=
  (t.exactAmount weiPrice : ℚ) + t.tolerance weiPrice ≤ t.exactUnits weiPrice ∧
    t.exactUnits weiPrice + t.tolerance weiPrice < t.exactAmount weiPrice + 1

end AcceptedToken

def products (native rate multiplier unit : FixedDecimal rustDecimal) :
    Option (FixedDecimal rustDecimal) := do
  let tokenAmount ← native.mul rate
  let finalAmount ← tokenAmount.mul multiplier
  finalAmount.mul unit

lemma rustDecimal_mul_error {x y z : FixedDecimal rustDecimal} (h : x.mul y = some z) :
    |z.abs - x.abs * y.abs| ≤ (1 + x.abs * y.abs) / 10 ^ 28 := by
  have hxy : 0 ≤ x.abs * y.abs := mul_nonneg x.abs_nonneg y.abs_nonneg
  have he := mul_error h
  have hl : ((rustDecimal.limit : ℕ) : ℚ) = 2 ^ 96 := by norm_num [rustDecimal]
  have hs : rustDecimal.maxScale = 28 := rfl
  rw [hl, hs] at he
  refine he.trans ?_
  rw [add_div]
  gcongr ?_ + ?_
  · norm_num
  · rw [div_le_div_iff₀ (by norm_num) (by norm_num)]
    linarith

lemma chain_error {v a b c m q : ℚ} (hm : 0 ≤ m) (hm8 : m ≤ 8) (hq : 0 ≤ q) (hv : 0 ≤ v)
    (ha : |a - v| ≤ (1 + v) / 10 ^ 28) (hb : |b - a * m| ≤ (1 + a * m) / 10 ^ 28)
    (hc : |c - b * q| ≤ (1 + b * q) / 10 ^ 28) :
    |c - v * m * q| ≤ (10 * q + 1 + 4 * (v * m * q)) / 10 ^ 28 := by
  have hmq : 0 ≤ m * q := mul_nonneg hm hq
  have hmq8 : m * q ≤ 8 * q := mul_le_mul_of_nonneg_right hm8 hq
  have hvmq : 0 ≤ v * m * q := mul_nonneg (mul_nonneg hv hm) hq
  obtain ⟨ha1, ha2⟩ := abs_le.mp ha
  obtain ⟨hb1, hb2⟩ := abs_le.mp hb
  obtain ⟨hc1, hc2⟩ := abs_le.mp hc
  -- the first two errors, carried to the last product
  have ha1' := mul_le_mul_of_nonneg_right ha1 hmq
  have ha2' := mul_le_mul_of_nonneg_right ha2 hmq
  have hb1' := mul_le_mul_of_nonneg_right hb1 hq
  have hb2' := mul_le_mul_of_nonneg_right hb2 hq
  rw [abs_le]
  constructor <;> linarith

section Products

variable {nat rate multiplier unit units : FixedDecimal rustDecimal}

lemma products_eq_some (h : products nat rate multiplier unit = some units) :
    ∃ amt fin, nat.mul rate = some amt ∧
      amt.mul multiplier = some fin ∧ fin.mul unit = some units := by
  obtain ⟨amt, ht, h⟩ := bind_eq_some_iff.mp h
  obtain ⟨fin, hf, h⟩ := bind_eq_some_iff.mp h
  exact ⟨amt, fin, ht, hf, h⟩

lemma products_of_some {amt fin : FixedDecimal rustDecimal} (ht : nat.mul rate = some amt)
    (hf : amt.mul multiplier = some fin) :
    products nat rate multiplier unit = fin.mul unit := by
  simp only [products, ht, hf, bind_eq_bind, bind_some]

lemma decimalMul_chain (nat rate multiplier unit : FixedDecimal rustDecimal) :
    (do let amt ← orPanic (decimalMul nat rate) let fin ← orPanic (decimalMul amt multiplier)
        let units ← orPanic (decimalMul fin unit)
        return units.floor.toText : Outcome X402Error (List Char))
      = match products nat rate multiplier unit with
        | some units => .ok units.floor.toText
        | none => .error (.panicked "Multiplication overflowed") := by
  unfold products decimalMul
  rcases ht : nat.mul rate with _ | amt
  · rfl
  simp only [okOr, orPanic, ok_bind, bind_eq_bind, bind_some]
  rcases hf : amt.mul multiplier with _ | fin
  · rfl
  simp only [ok_bind, bind_some]
  rcases hu : fin.mul unit with _ | units <;> rfl

lemma products_negative (h : products nat rate multiplier unit = some units)
    (hn : nat.negative = false) (hrate : rate.negative = false)
    (hm : multiplier.negative = false) (hun : unit.negative = false) :
    units.negative = false := by
  obtain ⟨amt, fin, ht, hf, hu⟩ := products_eq_some h
  rw [(mul_spec hu).1, (mul_spec hf).1, (mul_spec ht).1, hn, hrate, hm, hun]
  rfl

lemma products_exact (hto : FixedDecimal.Representable rustDecimal (nat.abs * rate.abs))
    (hfi : FixedDecimal.Representable rustDecimal (nat.abs * rate.abs * multiplier.abs))
    (hu : FixedDecimal.Representable rustDecimal (nat.abs * rate.abs * multiplier.abs * unit.abs)) :
    ∃ units, products nat rate multiplier unit = some units ∧
      units.abs = nat.abs * rate.abs * multiplier.abs * unit.abs := by
  obtain ⟨amt, htm, ht⟩ := mul_exact hto
  rw [← ht] at hfi
  obtain ⟨fin, hfm, hf⟩ := mul_exact hfi
  rw [← ht, ← hf] at hu
  obtain ⟨units, hum, hua⟩ := mul_exact hu
  refine ⟨units, (products_of_some htm hfm).trans hum, ?_⟩
  rw [hua, hf, ht]

lemma products_error (h : products nat rate multiplier unit = some units)
    (hm : multiplier.abs ≤ 8) :
    |units.abs - nat.abs * rate.abs * multiplier.abs * unit.abs|
      ≤ (10 * unit.abs + 1 + 4 * (nat.abs * rate.abs * multiplier.abs * unit.abs)) / 10 ^ 28 := by
  obtain ⟨amt, fin, ht, hf, hu⟩ := products_eq_some h
  exact chain_error multiplier.abs_nonneg hm unit.abs_nonneg
    (mul_nonneg nat.abs_nonneg rate.abs_nonneg) (rustDecimal_mul_error ht)
    (rustDecimal_mul_error hf) (rustDecimal_mul_error hu)

lemma exists_products (hone : 1 ≤ multiplier.abs) (height : multiplier.abs ≤ 8)
    (hut : unit.abs ≤ 2 ^ 64) (hfi : nat.abs * rate.abs * multiplier.abs ≤ 10 ^ 28)
    (hun : nat.abs * rate.abs * multiplier.abs * unit.abs ≤ 10 ^ 28) :
    ∃ units, products nat rate multiplier unit = some units := by
  have hl : ((rustDecimal.limit : ℕ) : ℚ) = 2 ^ 96 := by norm_num [rustDecimal]
  have hv : 0 ≤ nat.abs * rate.abs := mul_nonneg nat.abs_nonneg rate.abs_nonneg
  have hm := multiplier.abs_nonneg
  have hq := unit.abs_nonneg
  have hvm : nat.abs * rate.abs ≤ nat.abs * rate.abs * multiplier.abs :=
    le_mul_of_one_le_right hv hone
  obtain ⟨amt, ht⟩ : ∃ z, nat.mul rate = some z := by
    apply exists_mul
    rw [hl]
    linarith
  have ha := (abs_le.mp (rustDecimal_mul_error ht)).2
  have ha' := mul_le_mul_of_nonneg_right ha hm
  obtain ⟨fin, hf⟩ : ∃ z, amt.mul multiplier = some z := by
    apply exists_mul
    rw [hl]
    linarith
  have hb := (abs_le.mp (rustDecimal_mul_error hf)).2
  have hb' := mul_le_mul_of_nonneg_right hb hq
  have ha'' := mul_le_mul_of_nonneg_right ha' hq
  have hmq : multiplier.abs * unit.abs ≤ 8 * unit.abs := mul_le_mul_of_nonneg_right height hq
  obtain ⟨units, hu⟩ : ∃ z, fin.mul unit = some z := by
    apply exists_mul
    rw [hl]
    linarith
  exact ⟨units, (products_of_some ht hf).trans hu⟩

end Products

namespace AcceptedToken

def unit (t : AcceptedToken D.withRustDecimal) : FixedDecimal rustDecimal :=
  .ofNat rustDecimal (wrap64 (10 ^ t.decimals))

variable {t : AcceptedToken D.withRustDecimal} {weiPrice : ℕ}

lemma decimalFromStrExact_toDigits (n : ℕ) :
    decimalFromStrExact (toDigits 10 n) = if n < 2 ^ 96 then .ok (.ofNat rustDecimal n)
      else .error "Invalid decimal: overflow from too many digits" := by
  rw [decimalFromStrExact, parseUnsigned_toDigits]
  by_cases h : n < 2 ^ 96
  · rw [if_pos h, if_pos (by omega)]
  · rw [if_neg h, if_neg (by omega)]

lemma convertWeiToAmount_large (h : 2 ^ 96 ≤ weiPrice) :
    ∃ e, t.convertWeiToAmount weiPrice = .error (.err e) := by
  have hp := decimalFromStrExact_toDigits weiPrice
  rw [if_neg (not_lt.mpr h)] at hp
  simp only [convertWeiToAmount, hp]
  exact ⟨_, rfl⟩

lemma exists_decimalDiv {n places : ℕ} (hn : n < 2 ^ 96) (hp : places ≤ 28) :
    ∃ z, decimalDiv (.ofNat rustDecimal n) (.ofNat rustDecimal (10 ^ places)) = .ok z ∧
      z.negative = false ∧ z.abs = n / 10 ^ places := by
  have hpow : 10 ^ places < rustDecimal.limit :=
    lt_of_le_of_lt (Nat.pow_le_pow_right (by decide) hp) (by decide)
  have hne : (ofNat rustDecimal (10 ^ places)).mantissa ≠ 0 := by
    show 10 ^ places % rustDecimal.limit ≠ 0
    rw [mod_eq_of_lt hpow]
    positivity
  have hv : (ofNat rustDecimal n).abs
      / (ofNat rustDecimal (10 ^ places)).abs = n / 10 ^ places := by
    rw [FixedDecimal.abs_ofNat hn, FixedDecimal.abs_ofNat hpow, cast_pow]
    rfl
  obtain ⟨z, hdiv, hs, habs⟩ := div_exact hne ⟨n, places, hn, hp, hv⟩
  refine ⟨z, ?_, hs, habs.trans hv⟩
  rw [decimalDiv, if_neg hne, hdiv]
  rfl

lemma exists_multiplier {markupBps : ℕ} (h : markupBps < 2 ^ 16)
    {markup : FixedDecimal rustDecimal} (hs : markup.negative = false)
    (habs : markup.abs = markupBps / 10 ^ 4) :
    ∃ z, decimalAdd (.ofNat rustDecimal 1) markup = .ok z ∧ z.negative = false ∧
      z.abs = 1 + markupBps / 10000 := by
  have hone : (ofNat rustDecimal 1).abs = 1 := by
    rw [FixedDecimal.abs_ofNat (by decide), cast_one]
  have hv : (ofNat rustDecimal 1).abs + markup.abs = ((10000 + markupBps : ℕ) : ℚ) / 10 ^ 4 := by
    rw [hone, habs]
    push_cast
    ring
  have hl : 10000 + markupBps < rustDecimal.limit := by
    show 10000 + markupBps < 2 ^ 96
    omega
  obtain ⟨z, hadd, hz, hza⟩ := add_exact (x := .ofNat rustDecimal 1) rfl hs
    ⟨10000 + markupBps, 4, hl, by decide, hv⟩
  refine ⟨z, ?_, hz, ?_⟩
  · rw [decimalAdd, hadd]
    rfl
  · rw [hza, hone, habs]
    norm_num

lemma convertWeiToAmount_of_ok {t : AcceptedToken D} {weiDecimal nat markup multiplier : D.Decimal}
    (hp : D.fromStrExact (toDigits 10 weiPrice) = .ok weiDecimal)
    (hn : D.div weiDecimal (D.ofNat (10 ^ 18)) = .ok nat)
    (hdiv : D.div (D.ofNat t.markupBps) (D.ofNat 10000) = .ok markup)
    (hadd : D.add (D.ofNat 1) markup = .ok multiplier) :
    t.convertWeiToAmount weiPrice = (do
      let tokenAmount ← orPanic (D.mul nat t.ratePerNativeUnit)
      let finalAmount ← orPanic (D.mul tokenAmount multiplier)
      let units ← orPanic (D.mul finalAmount (D.ofNat (wrap64 (10 ^ t.decimals))))
      return D.toText (D.floor units)) := by
  simp only [convertWeiToAmount, hp, hn, hdiv, hadd, ok_bind, orPanic]

lemma convertWeiToAmount_eq (hwei : weiPrice < 2 ^ 96) (hmarkup : t.markupBps < 2 ^ 16) :
    ∃ nat multiplier : FixedDecimal rustDecimal,
      nat.negative = false ∧ nat.abs = weiPrice / 10 ^ 18 ∧
      multiplier.negative = false ∧ multiplier.abs = 1 + t.markupBps / 10000 ∧
      t.convertWeiToAmount weiPrice = match products nat t.ratePerNativeUnit multiplier t.unit with
          | some units => .ok (units.floor.toText)
          | none => .error (.panicked "Multiplication overflowed") := by
  have hp := decimalFromStrExact_toDigits weiPrice
  rw [if_pos hwei] at hp
  obtain ⟨nat, hnat, hn, hna⟩ := exists_decimalDiv hwei (by decide : 18 ≤ 28)
  obtain ⟨markup, hdiv, hms, hmar⟩ :=
    exists_decimalDiv (n := t.markupBps) (by omega) (by decide : 4 ≤ 28)
  obtain ⟨multiplier, hadd, hm, hma⟩ := exists_multiplier hmarkup hms hmar
  refine ⟨nat, multiplier, hn, hna, hm, hma, ?_⟩
  rw [convertWeiToAmount_of_ok hp hnat hdiv hadd]
  exact decimalMul_chain nat t.ratePerNativeUnit multiplier t.unit

lemma rate_of_validate (h : t.validate = .ok ()) : t.ratePerNativeUnit.negative = false := by
  simp only [validate] at h
  split at h
  · cases h
  · split_ifs at h with _ _ _ hp
    rw [Bool.or_eq_true, not_or] at hp
    exact Bool.eq_false_of_not_eq_true hp.1

lemma exactFinalAmount_nonneg (t : AcceptedToken D.withRustDecimal) (weiPrice : ℕ) :
    0 ≤ t.exactFinalAmount weiPrice := by
  have hrate : 0 ≤ t.rate := abs_nonneg t.ratePerNativeUnit
  unfold exactFinalAmount exactTokenAmount
  positivity

lemma exactUnits_nonneg (t : AcceptedToken D.withRustDecimal) (weiPrice : ℕ) :
    0 ≤ t.exactUnits weiPrice :=
  mul_nonneg (t.exactFinalAmount_nonneg weiPrice) (by positivity)

lemma multiplier_bounds (h : t.markupBps < 2 ^ 16) :
    (1 : ℚ) ≤ 1 + t.markupBps / 10000 ∧ (1 : ℚ) + t.markupBps / 10000 ≤ 8 := by
  have hle : (t.markupBps : ℚ) ≤ 65535 := by
    have hnat : t.markupBps ≤ 65535 := by omega
    exact_mod_cast hnat
  constructor <;> linarith

lemma abs_unit (t : AcceptedToken D.withRustDecimal) : t.unit.abs = wrap64 (10 ^ t.decimals) :=
  FixedDecimal.abs_ofNat ((wrap64_lt _).trans (by decide))

lemma abs_unit_le (t : AcceptedToken D.withRustDecimal) : t.unit.abs ≤ 2 ^ 64 := by
  rw [abs_unit]
  exact_mod_cast (wrap64_lt _).le

lemma abs_unit_of_le (h : t.decimals ≤ 19) : t.unit.abs = 10 ^ t.decimals := by
  have hlt : 10 ^ t.decimals < 2 ^ 64 :=
    lt_of_le_of_lt (Nat.pow_le_pow_right (by decide) h) (by norm_num)
  rw [abs_unit, (wrap64_eq_self_iff _).mpr hlt, cast_pow]
  rfl

section Conversion

variable (hwei : weiPrice < 2 ^ 96) (hmarkup : t.markupBps < 2 ^ 16)
  (hrate : t.ratePerNativeUnit.negative = false)

include hwei hmarkup hrate

lemma faithful_iff_products : ∃ nat multiplier : FixedDecimal rustDecimal,
      nat.abs * FixedDecimal.abs t.ratePerNativeUnit = t.exactTokenAmount weiPrice ∧
      nat.abs * FixedDecimal.abs t.ratePerNativeUnit * multiplier.abs
        = t.exactFinalAmount weiPrice ∧
      1 ≤ multiplier.abs ∧ multiplier.abs ≤ 8 ∧
      (t.Faithful weiPrice ↔
        ∃ units, products nat t.ratePerNativeUnit multiplier t.unit = some units ∧
          ⌊units.abs⌋₊ = t.exactAmount weiPrice) := by
  obtain ⟨nat, multiplier, hna, hn, hmu, hm, hc⟩ := convertWeiToAmount_eq hwei hmarkup
  obtain ⟨hone, height⟩ := multiplier_bounds hmarkup
  rw [← hm] at hone height
  refine ⟨nat, multiplier, ?_, ?_, hone, height, ?_⟩
  · rw [hn]
    rfl
  · rw [hn, hm]
    rfl
  · unfold Faithful
    rw [hc]
    rcases hu : products nat t.ratePerNativeUnit multiplier t.unit with _ | units
    · simp
    have hs := products_negative hu hna hrate hmu rfl
    simp only [toText_floor hs, reduceCtorEq, exists_false, false_or,
      Except.ok.injEq, some.injEq, exists_eq_left']
    constructor
    · exact toDigits_inj
    · exact congrArg (toDigits 10)

lemma faithful_iff_of_wrapped (hd : 20 ≤ t.decimals) :
    t.Faithful weiPrice ↔ t.exactAmount weiPrice = 0 := by
  obtain ⟨nat, multiplier, _, hf, hone, height, hiff⟩ := faithful_iff_products hwei hmarkup hrate
  rw [hiff]
  have hn := t.exactFinalAmount_nonneg weiPrice
  have hun := t.exactUnits_nonneg weiPrice
  have hpow : (10 : ℚ) ^ 20 ≤ 10 ^ t.decimals := pow_le_pow_right₀ (by norm_num) hd
  -- the wrapped power is less than a fifth of the real one
  have hs : t.exactFinalAmount weiPrice * t.unit.abs ≤ 185 / 1000 * t.exactUnits weiPrice := by
    have hfi : t.unit.abs ≤ 185 / 1000 * 10 ^ t.decimals := by linarith [t.abs_unit_le]
    calc t.exactFinalAmount weiPrice * t.unit.abs
        ≤ t.exactFinalAmount weiPrice * (185 / 1000 * 10 ^ t.decimals) :=
          mul_le_mul_of_nonneg_left hfi hn
      _ = 185 / 1000 * t.exactUnits weiPrice := by unfold exactUnits; ring
  have hb : ∀ units, products nat t.ratePerNativeUnit multiplier t.unit = some units →
      units.abs ≤ 19 / 100 * t.exactUnits weiPrice + 1 / 2 := by
    intro units h
    have he := (abs_le.mp (products_error h height)).2
    rw [hf] at he
    linarith [t.abs_unit_le]
  have hfl : t.exactUnits weiPrice < t.exactAmount weiPrice + 1 := lt_floor_add_one _
  constructor
  · rintro ⟨units, hu, ha⟩
    have hle := floor_le units.abs_nonneg
    rw [ha] at hle
    have hlt : (t.exactAmount weiPrice : ℚ) < 1 := by linarith [hb units hu]
    exact lt_one_iff.mp (by exact_mod_cast hlt)
  · intro hz
    rw [hz, cast_zero] at hfl
    have hle : t.exactFinalAmount weiPrice ≤ t.exactUnits weiPrice :=
      le_mul_of_one_le_right hn (le_trans (by norm_num) hpow)
    obtain ⟨units, hu⟩ := exists_products hone height t.abs_unit_le
      (by rw [hf]; linarith) (by rw [hf]; linarith)
    refine ⟨units, hu, ?_⟩
    rw [hz, floor_eq_zero]
    linarith [hb units hu]

lemma not_faithful_of_large (hl : 2 ^ 96 ≤ t.exactAmount weiPrice) : ¬ t.Faithful weiPrice := by
  obtain ⟨nat, multiplier, _, _, _, _, hiff⟩ := faithful_iff_products hwei hmarkup hrate
  rw [hiff]
  rintro ⟨units, _, ha⟩
  have hlt : ⌊units.abs⌋₊ < 2 ^ 96 := by
    rw [floor_lt units.abs_nonneg]
    exact_mod_cast units.abs_lt
  omega

lemma faithful_of_exactSteps (hd : t.decimals ≤ 19) (h : t.ExactSteps weiPrice) :
    t.Faithful weiPrice := by
  obtain ⟨nat, multiplier, hto, hfi, _, _, hiff⟩ := faithful_iff_products hwei hmarkup hrate
  obtain ⟨ht, hf, hu⟩ := h
  have hun : nat.abs * FixedDecimal.abs t.ratePerNativeUnit * multiplier.abs * t.unit.abs
      = t.exactUnits weiPrice := by rw [hfi, abs_unit_of_le hd]; rfl
  rw [← hto] at ht
  rw [← hfi] at hf
  rw [← hun] at hu
  obtain ⟨units, hp, habs⟩ := products_exact ht hf hu
  refine hiff.mpr ⟨units, hp, ?_⟩
  rw [habs, hun]
  rfl

lemma faithful_of_farFromWhole (hd : t.decimals ≤ 19) (h : t.FarFromWhole weiPrice) :
    t.Faithful weiPrice := by
  obtain ⟨nat, multiplier, _, hf, hone, height, hiff⟩ := faithful_iff_products hwei hmarkup hrate
  have hun := abs_unit_of_le hd
  have hu : nat.abs * FixedDecimal.abs t.ratePerNativeUnit * multiplier.abs * t.unit.abs
      = t.exactUnits weiPrice := by rw [hf, hun]; rfl
  obtain ⟨hlow, hh⟩ := h
  unfold tolerance at hlow hh
  have hpow : (1 : ℚ) ≤ 10 ^ t.decimals := one_le_pow₀ (by norm_num)
  -- between two whole numbers there is no room for the tolerance of a large price
  have hm : t.exactUnits weiPrice ≤ 10 ^ 28 := by linarith
  have hle : t.exactFinalAmount weiPrice ≤ t.exactUnits weiPrice :=
    le_mul_of_one_le_right (t.exactFinalAmount_nonneg weiPrice) hpow
  obtain ⟨units, hp⟩ := exists_products hone height t.abs_unit_le
    (by rw [hf]; linarith) (by rw [hu]; exact hm)
  have he := products_error hp height
  rw [hu, hun] at he
  obtain ⟨hel, heh⟩ := abs_le.mp he
  refine hiff.mpr ⟨units, hp, ?_⟩
  rw [floor_eq_iff units.abs_nonneg]
  exact ⟨by linarith, by linarith⟩

end Conversion

/-- **When a price is converted faithfully.** A price of more than 96 bits is reported as an error.
Any other price is converted by a token with 20 decimals or more only if the amount is zero. With
fewer decimals an amount of more than 96 bits is never returned, and the conversion is exact if no
product has to be rounded or if rounding cannot reach the next whole unit. -/
theorem faithful_cases (hvalid : t.validate = .ok ()) (hmarkup : t.markupBps < 2 ^ 16)
    (weiPrice : ℕ) :
    (2 ^ 96 ≤ weiPrice → t.Faithful weiPrice) ∧
    (weiPrice < 2 ^ 96 → 20 ≤ t.decimals → (t.Faithful weiPrice ↔ t.exactAmount weiPrice = 0)) ∧
    (weiPrice < 2 ^ 96 → t.decimals ≤ 19 →
      (2 ^ 96 ≤ t.exactAmount weiPrice → ¬ t.Faithful weiPrice) ∧
      (t.ExactSteps weiPrice ∨ t.FarFromWhole weiPrice → t.Faithful weiPrice)) := by
  have hrate := rate_of_validate hvalid
  refine ⟨?_, ?_, ?_⟩
  · intro hl
    exact .inl (convertWeiToAmount_large hl)
  · intro hwei hd
    exact faithful_iff_of_wrapped hwei hmarkup hrate hd
  · intro hwei hd
    refine ⟨not_faithful_of_large hwei hmarkup hrate, ?_⟩
    rintro (he | hfar)
    · exact faithful_of_exactSteps hwei hmarkup hrate hd he
    · exact faithful_of_farFromWhole hwei hmarkup hrate hd hfar

end AcceptedToken

abbrev ratedToken (rate : FixedDecimal rustDecimal) (decimals markupBps : ℕ) :
    AcceptedToken wholeDeps.withRustDecimal where
  network := eip155 ++ ['8', '4', '5', '3']
  asset := zeroAddress
  symbol := ['T', 'O', 'K']
  decimals := decimals
  payTo := zeroAddress
  ratePerNativeUnit := rate
  markupBps := markupBps
  transferMethod := ['p', 'e', 'r', 'm', 'i', 't', '2']
  eip3009Name := none
  eip3009Version := none

abbrev ratedConfig (token : AcceptedToken wholeDeps.withRustDecimal) :
    X402Config wholeDeps.withRustDecimal :=
  ⟨(), 300, [token], .publicPaid, [], none⟩

abbrev cents : FixedDecimal rustDecimal := ⟨false, 24180017, 2, by decide, by decide⟩

theorem AcceptedToken.faithful_dollar :
    (ratedToken (.ofNat rustDecimal 3200) 6 0).Faithful (10 ^ 18) := by
  have hv : (ratedToken (.ofNat rustDecimal 3200) 6 0).validate = .ok () := by rfl
  refine ((faithful_cases hv (by decide) (10 ^ 18)).2.2 (by decide) (by decide)).2 (.inl ?_)
  refine ⟨⟨3200, 0, by decide, by decide, ?_⟩, ⟨3200, 0, by decide, by decide, ?_⟩,
    ⟨3200 * 10 ^ 6, 0, by decide, by decide, ?_⟩⟩
  all_goals norm_num [exactTokenAmount, exactFinalAmount, exactUnits, rate, FixedDecimal.abs,
      ofNat, rustDecimal]

/-- With 64 decimals a job is free. At a rate of `10 ^ 11` and 18 decimals the gateway panics when
it is built. At a rate of 241800.17 and a markup of 7 percent, one unit is lost to rounding. All
three tokens are valid. -/
theorem AcceptedToken.unfaithful_tokens :
    (ratedToken (.ofNat rustDecimal 1) 64 0).validate = .ok () ∧
    (ratedToken (.ofNat rustDecimal 1) 64 0).convertWeiToAmount (10 ^ 18) = .ok ['0'] ∧
    (ratedToken (.ofNat rustDecimal 1) 64 0).exactAmount (10 ^ 18) = 10 ^ 64 ∧
    (ratedToken (.ofNat rustDecimal (10 ^ 11)) 18 0).validate = .ok () ∧
    X402Gateway.new (IterOrder.alone (1, 0))
      (ratedConfig (ratedToken (.ofNat rustDecimal (10 ^ 11)) 18 0)) dollarGateway.jobPricing
      = .error (.panicked "Multiplication overflowed") ∧
    (ratedToken cents 18 700).validate = .ok () ∧
    (ratedToken cents 18 700).convertWeiToAmount 3522895088703626586685
      = .ok (Nat.toDigits 10 911465195534551127456339427) ∧
    (ratedToken cents 18 700).exactAmount 3522895088703626586685 = 911465195534551127456339428 := by
  refine ⟨rfl, ?_, ?_, rfl, rfl, rfl, ?_, ?_⟩ <;> decide +kernel

end Gadget.X402
