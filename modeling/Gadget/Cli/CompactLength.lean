import Gadget.Cli.JobValues
import Gadget.Cli.SchemaRoundTrip
import Gadget.TangleExtra.TangleArg

/-!
# The copies of the compact length

Lengths are written by the deploy command (`compactLength`) and by the job commands
(`encodeCompactLength`), and read by the job commands and by the extractors of jobs. The four agree
on the forms of up to four bytes. Only one writer and one reader know the form of five bytes.
-/

namespace Gadget.Cli

open Rust List TangleExtra

variable {len : ℕ} {bytes : Bytes}

lemma readCompactLength_encode (h : len < 2 ^ 28) (rest : Bytes) :
    readCompactLength (encodeCompactLength len ++ rest) = .ok (len, rest) := by
  have hlt : len < 0x10000000 := h
  rw [encodeCompactLength, if_pos hlt, readCompactLength_compactLength, Nat.mod_eq_of_lt hlt]

/-- The masks of one reader are the bounds of the other. -/
lemma firstByte_tests : ∀ first < 0xF0, (first &&& 0x80 = 0 ↔ first < 0x80) ∧
    (¬ first < 0x80 → (first &&& 0xC0 = 0x80 ↔ first < 0xC0)) ∧
    (¬ first < 0xC0 → (first &&& 0xE0 = 0xC0 ↔ first < 0xE0)) := by
  decide +kernel

/-- From `0xF0` on the masks of the one reader lead to its last branch. -/
lemma lastByte_tests : ∀ first < 256, 0xF0 ≤ first →
    first &&& 0x80 ≠ 0 ∧ first &&& 0xC0 ≠ 0x80 ∧ first &&& 0xE0 ≠ 0xC0 := by
  decide +kernel

lemma decodeCompactLength_eq (h : ∀ first ∈ bytes.head?, first.toNat < 0xF0) :
    decodeCompactLength bytes =
      (readCompactLength bytes).toOption.map fun r => (r.1, bytes.length - r.2.length) := by
  cases bytes with
  | nil => rfl
  | cons first tail =>
    have hf := h first rfl
    obtain ⟨h1, h2, h3⟩ := firstByte_tests _ hf
    simp only [decodeCompactLength, readCompactLength, h1]
    by_cases hb : first.toNat < 0x80
    · simp [hb, Except.toOption]
    simp only [hb, if_false, h2 hb]
    by_cases hc : first.toNat < 0xC0
    · rcases tail with _ | ⟨b1, tail⟩ <;> simp [hc, Except.toOption, Nat.add_assoc]
    simp only [hc, if_false, h3 hc, hf, if_true]
    by_cases hd : first.toNat < 0xE0
    · rcases tail with _ | ⟨b1, _ | ⟨b2, tail⟩⟩ <;> simp [hd, Except.toOption, Nat.add_assoc]
    · rcases tail with _ | ⟨b1, _ | ⟨b2, _ | ⟨b3, tail⟩⟩⟩ <;> simp [hd, Except.toOption, Nat.add_assoc]

/-- From `0xF0` on one reader takes four bytes and the other five: they agree when there are fewer. -/
lemma decodeCompactLength_eq_iff_of_ge {first : UInt8} {tail : Bytes} (h : 0xF0 ≤ first.toNat) :
    decodeCompactLength (first :: tail) =
      ((readCompactLength (first :: tail)).toOption.map fun r => (r.1, (first :: tail).length - r.2.length)) ↔
    tail.length < 3 := by
  obtain ⟨h1, h2, h3⟩ := lastByte_tests _ first.toNat_lt h
  have hb : ¬ first.toNat < 0x80 ∧ ¬ first.toNat < 0xC0 ∧ ¬ first.toNat < 0xE0 ∧ ¬ first.toNat < 0xF0 := by
    omega
  obtain ⟨hb, hc, hd, he⟩ := hb
  simp only [decodeCompactLength, readCompactLength, h1, h2, h3, hb, hc, hd, he, if_false]
  rcases tail with _ | ⟨b1, _ | ⟨b2, _ | ⟨b3, _ | ⟨b4, tail⟩⟩⟩⟩ <;> simp [Except.toOption]

lemma decodeCompactLength_eq_iff : decodeCompactLength bytes =
      ((readCompactLength bytes).toOption.map fun r => (r.1, bytes.length - r.2.length)) ↔
    bytes.length < 4 ∨ ∀ first ∈ bytes.head?, first.toNat < 0xF0 := by
  by_cases hfirst : ∀ first ∈ bytes.head?, first.toNat < 0xF0
  · exact iff_of_true (decodeCompactLength_eq hfirst) (.inr hfirst)
  · cases bytes with
    | nil => simp at hfirst
    | cons first tail =>
      have hge : 0xF0 ≤ first.toNat := by simpa using hfirst
      rw [decodeCompactLength_eq_iff_of_ge hge, or_iff_left hfirst, length_cons]
      omega

lemma head_compactLength (h : len < 2 ^ 28) (rest : Bytes) :
    ∀ first ∈ (compactLength len ++ rest).head?, first.toNat < 0xF0 := by
  have two : ∀ x < 64, (0x80 ||| x) % 256 < 0xF0 := by decide
  have three : ∀ x < 32, (0xC0 ||| x) % 256 < 0xF0 := by decide
  have four : ∀ x < 16, (0xE0 ||| x) % 256 < 0xF0 := by decide
  unfold compactLength
  split_ifs with h1 h2 h3 <;> rintro _ ⟨⟩ <;> rw [UInt8.toNat_ofNat']
  · omega
  · exact two _ (by rw [Nat.shiftRight_eq_div_pow]; omega)
  · exact three _ (by rw [Nat.shiftRight_eq_div_pow]; omega)
  · exact four _ (by rw [Nat.shiftRight_eq_div_pow]; omega)

/-- Of the five bytes of a longer length the last one is left. -/
lemma readCompactLength_five (h : ¬ len < 2 ^ 28) (rest : Bytes) :
    readCompactLength (encodeCompactLength len ++ rest) ≠ .ok (len, rest) := by
  have hge : ¬ len < 0x10000000 := h
  rw [encodeCompactLength, if_neg hge]
  intro heq
  have hrest := (Prod.mk.inj (Except.ok.inj heq)).2
  exact absurd (congrArg length hrest) (by simp)

/-- **Compact lengths.** Both readers get a length back from what either writer wrote exactly when it is below
`2 ^ 28`. They agree exactly on the bytes that do not begin with the mark of five bytes, or that are too few
for the four that one of them reads then. -/
theorem compactLengths_agree_iff (len : ℕ) (rest bytes : Bytes) :
    ((∀ encoded ∈ [compactLength len, encodeCompactLength len],
      readCompactLength (encoded ++ rest) = .ok (len, rest) ∧
        decodeCompactLength (encoded ++ rest) = some (len, encoded.length)) ↔ len < 2 ^ 28) ∧
    (decodeCompactLength bytes =
        ((readCompactLength bytes).toOption.map fun r => (r.1, bytes.length - r.2.length)) ↔
      bytes.length < 4 ∨ ∀ first ∈ bytes.head?, first.toNat < 0xF0) := by
  refine ⟨⟨fun h => ?_, fun hlen => ?_⟩, decodeCompactLength_eq_iff⟩
  · by_contra hlen
    exact readCompactLength_five hlen rest (h _ (by simp)).1
  · have he : encodeCompactLength len = compactLength len := if_pos hlen
    have hr := readCompactLength_encode hlen rest
    rw [he] at hr
    rw [he]
    intro encoded hm
    obtain rfl : encoded = compactLength len := by simpa using hm
    refine ⟨hr, ?_⟩
    rw [decodeCompactLength_eq (head_compactLength hlen rest), hr, List.length_append]
    simp [Except.toOption]

/-- `2 ^ 28` is read as another length, whichever writer wrote it. -/
theorem fiveBytes_read_apart :
    encodeCompactLength (2 ^ 28) = [0xF0, 0x10, 0, 0, 0] ∧
    decodeCompactLength [0xF0, 0x10, 0, 0, 0] = some (2 ^ 28, 5) ∧
    readCompactLength [0xF0, 0x10, 0, 0, 0] = .ok (2 ^ 20, [0]) ∧
    readCompactLength (compactLength (2 ^ 28)) = .ok (0, []) := by
  refine ⟨by decide, by decide, rfl, rfl⟩

end Gadget.Cli
