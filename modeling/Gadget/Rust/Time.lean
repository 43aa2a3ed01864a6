import Gadget.Rust.Int
import Mathlib.Tactic.Linarith

/-!
# Two clocks

`Instant` is a point of the monotonic clock, `SystemTime` one of the wall clock. An instant
is an integer count of nanoseconds whose seconds fit an `i64`; a duration is a natural count
of nanoseconds.
-/

namespace Gadget.Rust

def instantBound : ℤ := 2 ^ 63 * 10 ^ 9

def nsPerMs : ℤ := 10 ^ 6

variable (r : Reading) (t : ℤ)

def checkedAdd (d : ℕ) : Option ℤ := if t + d < instantBound then some (t + d) else none

def checkedSub (d : ℕ) : Option ℤ := if -instantBound ≤ t - d then some (t - d) else none

def asMillis (d : ℕ) : ℕ := d / 10 ^ 6

structure Reading where
  instant : ℤ
  wallMs : ℕ
  wallMs_lt : wallMs < 2 ^ 64

def Reading.zero : Reading := ⟨0, 0, by norm_num⟩

/-- The wall clock shows the time of the monotonic clock shifted by `off`, in whole
milliseconds. -/
def Coupled (off : ℤ) (r : Reading) : Prop :=
  r.wallMs * nsPerMs ≤ r.instant + off ∧ r.instant + off < (r.wallMs + 1) * nsPerMs

/-- The instant, on the wall clock, is a number of milliseconds since the epoch that fits a
`u64`. -/
def Stampable (off t : ℤ) : Prop := 0 ≤ t + off ∧ t + off < 2 ^ 64 * nsPerMs

/-- The stamp of an instant through a reading: the wall clock plus, or minus, the distance to
the instant in whole milliseconds, cut to a `u64`. -/
def instantToMillis : ℕ :=
  if r.instant ≤ t then min (r.wallMs + wrap64 (asMillis (t - r.instant).toNat)) u64Max
  else r.wallMs - wrap64 (asMillis (r.instant - t).toNat)

def millisToInstant (ms : ℕ) : ℤ :=
  if r.wallMs ≤ ms then (checkedAdd r.instant ((ms - r.wallMs) * 10 ^ 6)).getD r.instant
  else (checkedSub r.instant ((r.wallMs - ms) * 10 ^ 6)).getD r.instant

lemma instantToMillis_close {off t : ℤ} {r : Reading} (hr : Coupled off r) (ht : Stampable off t) :
    t + off - 2 * nsPerMs < instantToMillis r t * nsPerMs ∧
    instantToMillis r t * nsPerMs < t + off + nsPerMs := by
  obtain ⟨hlo, hhi⟩ := hr
  obtain ⟨hpos, hfit⟩ := ht
  unfold instantToMillis
  simp only [nsPerMs, asMillis, wrap64, u64Max] at *
  by_cases h : r.instant ≤ t
  · rw [if_pos h]
    obtain ⟨d, hd⟩ : ∃ d : ℕ, t - r.instant = d := ⟨_, (Int.toNat_of_nonneg (by omega)).symm⟩
    rw [hd, Int.toNat_natCast]
    -- neither the truncation nor the saturation is reached
    have hw : d / 10 ^ 6 % 2 ^ 64 = d / 10 ^ 6 := Nat.mod_eq_of_lt (by omega)
    rw [hw]
    have hmin : min (r.wallMs + d / 10 ^ 6) (2 ^ 64 - 1) = r.wallMs + d / 10 ^ 6 := by omega
    rw [hmin]
    omega
  · rw [if_neg h]
    obtain ⟨d, hd⟩ : ∃ d : ℕ, r.instant - t = d := ⟨_, (Int.toNat_of_nonneg (by omega)).symm⟩
    rw [hd, Int.toNat_natCast]
    have hwa := r.wallMs_lt
    have hw : d / 10 ^ 6 % 2 ^ 64 = d / 10 ^ 6 := Nat.mod_eq_of_lt (by omega)
    rw [hw]
    omega

abbrev ClockOffset := { off : ℤ // -(2 ^ 62 * 10 ^ 9) ≤ off ∧ off ≤ 2 ^ 62 * 10 ^ 9 }

lemma millisToInstant_close {off : ClockOffset} {r : Reading} (hr : Coupled off r) {ms : ℕ}
    (hms : ms < 2 ^ 64) :
    ms * nsPerMs ≤ millisToInstant r ms + off ∧
    millisToInstant r ms + off < (ms + 1) * nsPerMs := by
  obtain ⟨hlo, hhi⟩ := hr
  unfold millisToInstant checkedAdd checkedSub
  simp only [nsPerMs] at *
  by_cases h : r.wallMs ≤ ms
  · have hra : r.instant + ((ms - r.wallMs) * 10 ^ 6 : ℕ) < instantBound := by
      unfold instantBound
      push_cast
      omega
    rw [if_pos h, if_pos hra, Option.getD_some]
    push_cast
    omega
  · have hra : -instantBound ≤ r.instant - ((r.wallMs - ms) * 10 ^ 6 : ℕ) := by
      unfold instantBound
      push_cast
      omega
    rw [if_neg h, if_pos hra, Option.getD_some]
    push_cast
    omega

lemma instantToMillis_lt : instantToMillis r t < 2 ^ 64 := by
  have hw := r.wallMs_lt
  unfold instantToMillis
  simp only [u64Max]
  split <;> omega

/-- **Rounding of a stored instant.** Written through one reading and read back through
another, an instant moves by less than two milliseconds. -/
theorem millisToInstant_instantToMillis {off : ClockOffset} {r r' : Reading}
    (hr : Coupled off r) (hr' : Coupled off r') {t : ℤ} (ht : Stampable off t) :
    |millisToInstant r' (instantToMillis r t) - t| < 2 * nsPerMs := by
  obtain ⟨h1, h2⟩ := instantToMillis_close hr ht
  obtain ⟨h3, h4⟩ := millisToInstant_close hr' (instantToMillis_lt r t)
  rw [abs_lt]
  simp only [nsPerMs] at *
  constructor <;> omega

end Gadget.Rust
