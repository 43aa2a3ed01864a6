import Gadget.Rust.Text

/-!
# Texts in UTF-8

`as_bytes`, `from_utf8` and `from_utf8_lossy`. The decoder reads one byte at a time: between two
characters, or inside one with the range of its next byte.
-/

namespace Gadget.Rust

open List

variable (text : List Char)

def utf8 : Bytes := text.flatMap String.utf8EncodeChar

@[simp] lemma utf8_nil : utf8 [] = [] := rfl

lemma utf8_cons (c : Char) (text : List Char) :
    utf8 (c :: text) = String.utf8EncodeChar c ++ utf8 text := rfl

def replacementCharacter : Char := Char.ofNat 0xFFFD

structure Inside where
  owed : ℕ
  value : ℕ
  low : ℕ
  high : ℕ

inductive FirstByte where
  | char (c : Char)
  | more (p : Inside)
  | invalid

def firstByte (b : UInt8) : FirstByte :=
  let n := b.toNat
  if n < 0x80 then .char (Char.ofNat n)
  else if 0xC2 ≤ n ∧ n ≤ 0xDF then .more ⟨1, n - 0xC0, 0x80, 0xBF⟩
  else if n = 0xE0 then .more ⟨2, 0, 0xA0, 0xBF⟩
  else if n = 0xED then .more ⟨2, 0xD, 0x80, 0x9F⟩
  else if 0xE1 ≤ n ∧ n ≤ 0xEF then .more ⟨2, n - 0xE0, 0x80, 0xBF⟩
  else if n = 0xF0 then .more ⟨3, 0, 0x90, 0xBF⟩
  else if n = 0xF4 then .more ⟨3, 4, 0x80, 0x8F⟩
  else if 0xF1 ≤ n ∧ n ≤ 0xF3 then .more ⟨3, n - 0xF0, 0x80, 0xBF⟩
  else .invalid

def decodeLossy : Option Inside → Bytes → List Char
  | none, [] => []
  | some _, [] => [replacementCharacter]
  | none, b :: rest =>
    match firstByte b with
    | .char c => c :: decodeLossy none rest
    | .more p => decodeLossy (some p) rest
    | .invalid => replacementCharacter :: decodeLossy none rest
  | some p, b :: rest =>
    if p.low ≤ b.toNat ∧ b.toNat ≤ p.high then
      let value := p.value * 64 + (b.toNat - 0x80)
      if p.owed = 1 then Char.ofNat value :: decodeLossy none rest
      else decodeLossy (some ⟨p.owed - 1, value, 0x80, 0xBF⟩) rest
    else
      -- the byte starts anew
      match firstByte b with
      | .char c => replacementCharacter :: c :: decodeLossy none rest
      | .more p => replacementCharacter :: decodeLossy (some p) rest
      | .invalid => replacementCharacter :: replacementCharacter :: decodeLossy none rest

def fromUtf8Lossy (bytes : Bytes) : List Char := decodeLossy none bytes

def fromUtf8 (bytes : Bytes) : Option (List Char) :=
  let text := fromUtf8Lossy bytes
  if utf8 text = bytes then some text else none

/-! ## What is written is read -/

@[simp] lemma toNat_ofNat_of_lt {n : ℕ} (h : n < 256) : (UInt8.ofNat n).toNat = n := by
  rw [UInt8.toNat_ofNat', Nat.mod_eq_of_lt h]

lemma decodeLossy_next {k val low high n : ℕ} (hlow : low ≤ n) (hh : n ≤ high) (hn : n < 256)
    (rest : Bytes) :
    decodeLossy (some ⟨k + 2, val, low, high⟩) (UInt8.ofNat n :: rest)
      = decodeLossy (some ⟨k + 1, val * 64 + (n - 0x80), 0x80, 0xBF⟩) rest := by
  rw [decodeLossy, toNat_ofNat_of_lt hn, if_pos ⟨hlow, hh⟩, if_neg (by simp)]
  rfl

lemma decodeLossy_last {val low high n : ℕ} (hlow : low ≤ n) (hh : n ≤ high) (hn : n < 256)
    (rest : Bytes) :
    decodeLossy (some ⟨1, val, low, high⟩) (UInt8.ofNat n :: rest)
      = Char.ofNat (val * 64 + (n - 0x80)) :: decodeLossy none rest := by
  rw [decodeLossy, toNat_ofNat_of_lt hn, if_pos ⟨hlow, hh⟩, if_pos rfl]

lemma decodeLossy_more {b : UInt8} {p : Inside} (h : firstByte b = .more p) (rest : Bytes) :
    decodeLossy none (b :: rest) = decodeLossy (some p) rest := by
  rw [decodeLossy, h]

lemma firstByte_two {n : ℕ} (h : 0x80 ≤ n) (h' : n ≤ 0x7FF) :
    firstByte (UInt8.ofNat (n / 64 % 32 + 0xC0)) = .more ⟨1, n / 64, 0x80, 0xBF⟩ := by
  have hv : n / 64 % 32 + 0xC0 - 0xC0 = n / 64 := by omega
  rw [firstByte, toNat_ofNat_of_lt (by omega), if_neg (by omega), if_pos (by omega), hv]

lemma firstByte_three {n : ℕ} (h : 0x800 ≤ n) (h' : n ≤ 0xFFFF) (hva : n < 0xD800 ∨ 0xDFFF < n) :
    ∃ low high, firstByte (UInt8.ofNat (n / 4096 % 16 + 0xE0)) = .more ⟨2, n / 4096, low, high⟩ ∧
      low ≤ n / 64 % 64 + 0x80 ∧ n / 64 % 64 + 0x80 ≤ high := by
  rw [firstByte, toNat_ofNat_of_lt (by omega), if_neg (by omega), if_neg (by omega)]
  by_cases he0 : n / 4096 = 0
  · exact ⟨0xA0, 0xBF, by rw [if_pos (by omega), he0], by omega, by omega⟩
  rw [if_neg (by omega)]
  by_cases hed : n / 4096 = 0xD
  · exact ⟨0x80, 0x9F, by rw [if_pos (by omega), hed], by omega, by omega⟩
  · have hv : n / 4096 % 16 + 0xE0 - 0xE0 = n / 4096 := by omega
    rw [if_neg (by omega), if_pos (by omega), hv]
    exact ⟨0x80, 0xBF, rfl, by omega, by omega⟩

lemma firstByte_four {n : ℕ} (h : 0x10000 ≤ n) (h' : n < 0x110000) :
    ∃ low high, firstByte (UInt8.ofNat (n / 262144 % 8 + 0xF0)) = .more ⟨3, n / 262144, low, high⟩ ∧
      low ≤ n / 4096 % 64 + 0x80 ∧ n / 4096 % 64 + 0x80 ≤ high := by
  rw [firstByte, toNat_ofNat_of_lt (by omega), if_neg (by omega), if_neg (by omega),
    if_neg (by omega), if_neg (by omega), if_neg (by omega)]
  by_cases hf0 : n / 262144 = 0
  · exact ⟨0x90, 0xBF, by rw [if_pos (by omega), hf0], by omega, by omega⟩
  rw [if_neg (by omega)]
  by_cases hf4 : n / 262144 = 4
  · exact ⟨0x80, 0x8F, by rw [if_pos (by omega), hf4], by omega, by omega⟩
  · have hv : n / 262144 % 8 + 0xF0 - 0xF0 = n / 262144 := by omega
    rw [if_neg (by omega), if_pos (by omega), hv]
    exact ⟨0x80, 0xBF, rfl, by omega, by omega⟩

lemma decodeLossy_encodeChar (c : Char) :
    (∀ rest, decodeLossy none (String.utf8EncodeChar c ++ rest) = c :: decodeLossy none rest) ∧
    ∀ i, 0 < i → i < (String.utf8EncodeChar c).length →
      ∃ p, ∀ rest, decodeLossy none ((String.utf8EncodeChar c).take i ++ rest)
        = decodeLossy (some p) rest := by
  have hv : c.toNat < 0xD800 ∨ 0xDFFF < c.toNat ∧ c.toNat < 0x110000 := c.valid
  have hof : Char.ofNat c.toNat = c := Char.ofNat_toNat c
  unfold String.utf8EncodeChar
  simp only [show c.val.toNat = c.toNat from rfl]
  generalize c.toNat = n at *
  split_ifs with h1 h2 h3
  · refine ⟨fun rest => ?_, fun i hi hlt => ?_⟩
    · rw [singleton_append, decodeLossy, firstByte, toNat_ofNat_of_lt (by omega),
        if_pos (by omega), hof]
    · rw [length_singleton] at hlt
      omega
  · have hf := decodeLossy_more (firstByte_two (by omega) h2)
    refine ⟨fun rest => ?_, fun i hi hlt => ?_⟩
    · rw [cons_append, hf, singleton_append, decodeLossy_last (by omega) (by omega) (by omega),
        show n / 64 * 64 + (n % 64 + 0x80 - 0x80) = n by omega, hof]
    · simp only [length_cons, length_nil] at hlt
      obtain rfl : i = 1 := by omega
      exact ⟨_, hf⟩
  · obtain ⟨low, high, hb, hlow, hh⟩ := firstByte_three (by omega) h3 (by omega)
    have hf := decodeLossy_more hb
    have hs := @decodeLossy_next 0 (n / 4096) low high _ hlow hh (by omega)
    refine ⟨fun rest => ?_, fun i hi hlt => ?_⟩
    · rw [cons_append, hf, cons_append, hs, singleton_append,
        decodeLossy_last (by omega) (by omega) (by omega),
        show (n / 4096 * 64 + (n / 64 % 64 + 0x80 - 0x80)) * 64 + (n % 64 + 0x80 - 0x80) = n
          by omega, hof]
    · simp only [length_cons, length_nil] at hlt
      obtain rfl | rfl : i = 1 ∨ i = 2 := by omega
      · exact ⟨_, hf⟩
      · exact ⟨_, fun rest => (hf _).trans (hs rest)⟩
  · obtain ⟨low, high, hb, hlow, hh⟩ := firstByte_four (n := n) (by omega) (by omega)
    have hf := decodeLossy_more hb
    have hs := @decodeLossy_next 1 (n / 262144) low high _ hlow hh (by omega)
    have ht : ∀ rest, _ := @decodeLossy_next 0 (n / 262144 * 64 + (n / 4096 % 64 + 0x80 - 0x80))
      0x80 0xBF (n / 64 % 64 + 0x80) (by omega) (by omega) (by omega)
    refine ⟨fun rest => ?_, fun i hi hlt => ?_⟩
    · rw [cons_append, hf, cons_append, hs, cons_append, ht,
        singleton_append, decodeLossy_last (by omega) (by omega) (by omega),
        show ((n / 262144 * 64 + (n / 4096 % 64 + 0x80 - 0x80)) * 64 + (n / 64 % 64 + 0x80 - 0x80))
          * 64 + (n % 64 + 0x80 - 0x80) = n by omega, hof]
    · simp only [length_cons, length_nil] at hlt
      obtain rfl | rfl | rfl : i = 1 ∨ i = 2 ∨ i = 3 := by omega
      · exact ⟨_, hf⟩
      · exact ⟨_, fun rest => (hf _).trans (hs rest)⟩
      · exact ⟨_, fun rest => ((hf _).trans (hs _)).trans (ht rest)⟩

lemma decodeLossy_utf8_append (rest : Bytes) :
    decodeLossy none (utf8 text ++ rest) = text ++ decodeLossy none rest := by
  induction text with
  | nil => rfl
  | cons c text ih =>
    rw [utf8_cons, append_assoc, (decodeLossy_encodeChar c).1, ih, cons_append]

lemma fromUtf8Lossy_utf8 : fromUtf8Lossy (utf8 text) = text := by
  have h := decodeLossy_utf8_append text []
  rw [append_nil] at h
  rw [fromUtf8Lossy, h, decodeLossy, append_nil]

lemma fromUtf8_utf8 : fromUtf8 (utf8 text) = some text := by
  rw [fromUtf8, fromUtf8Lossy_utf8, if_pos rfl]

lemma fromUtf8Lossy_cut (c : Char) {i : ℕ} (hi : 0 < i)
    (hlt : i < (String.utf8EncodeChar c).length) :
    fromUtf8Lossy (utf8 text ++ (String.utf8EncodeChar c).take i)
      = text ++ [replacementCharacter] := by
  obtain ⟨p, hp⟩ := (decodeLossy_encodeChar c).2 i hi hlt
  have hend := hp []
  rw [append_nil] at hend
  rw [fromUtf8Lossy, decodeLossy_utf8_append, hend, decodeLossy]

lemma take_utf8EncodeChar_ne {c d : Char} {i : ℕ} (hlt : i < (String.utf8EncodeChar c).length) :
    (String.utf8EncodeChar c).take i ≠ String.utf8EncodeChar d := by
  intro heq
  -- the whole of `c` is read as `c`, and as `d` with something behind it
  have hc := (decodeLossy_encodeChar c).1 []
  have hd := (decodeLossy_encodeChar d).1 ((String.utf8EncodeChar c).drop i)
  rw [append_nil] at hc
  rw [← heq, take_append_drop, hc, cons.injEq] at hd
  have hlen := congrArg length heq
  rw [← hd.1, length_take] at hlen
  omega

lemma fromUtf8_cut (c : Char) {i : ℕ} (hi : 0 < i) (hlt : i < (String.utf8EncodeChar c).length) :
    fromUtf8 (utf8 text ++ (String.utf8EncodeChar c).take i) = none := by
  rw [fromUtf8, fromUtf8Lossy_cut text c hi hlt, if_neg]
  intro heq
  rw [utf8, flatMap_append, flatMap_singleton, utf8, append_cancel_left_eq] at heq
  exact take_utf8EncodeChar_ne hlt heq.symm

lemma mem_utf8EncodeChar {c : Char} {b : UInt8} (h : b ∈ String.utf8EncodeChar c) :
    c.toNat < 0x80 ∧ b.toNat = c.toNat ∨ 0x80 ≤ c.toNat ∧ 0x80 ≤ b.toNat := by
  unfold String.utf8EncodeChar at h
  simp only [show c.val.toNat = c.toNat from rfl] at h
  split_ifs at h with h1 h2 h3
  · rw [mem_singleton] at h
    rw [h, toNat_ofNat_of_lt (by omega)]
    omega
  all_goals
    simp only [mem_cons, not_mem_nil, or_false] at h
    refine .inr ⟨by omega, ?_⟩
  · obtain rfl | rfl := h <;> rw [toNat_ofNat_of_lt (by omega)] <;> omega
  · obtain rfl | rfl | rfl := h <;> rw [toNat_ofNat_of_lt (by omega)] <;> omega
  · obtain rfl | rfl | rfl | rfl := h <;> rw [toNat_ofNat_of_lt (by omega)] <;> omega

lemma length_utf8EncodeChar_ascii {c : Char} (h : c.toNat < 0x80) :
    (String.utf8EncodeChar c).length = 1 := by
  have hle : c.val.toNat ≤ 0x7F := Nat.le_of_lt_succ h
  rw [String.utf8EncodeChar, if_pos hle, length_singleton]

lemma utf8_cut {i : ℕ} (hi : i ≤ (utf8 text).length) :
    (∃ s t, text = s ++ t ∧ (utf8 text).take i = utf8 s ∧ (utf8 text).drop i = utf8 t) ∨
    ∃ s c t j, text = s ++ c :: t ∧ 0 < j ∧ j < (String.utf8EncodeChar c).length ∧
      (utf8 text).take i = utf8 s ++ (String.utf8EncodeChar c).take j ∧
      (utf8 text).drop i = (String.utf8EncodeChar c).drop j ++ utf8 t := by
  induction text generalizing i with
  | nil =>
    obtain rfl : i = 0 := by simpa using hi
    exact .inl ⟨[], [], rfl, rfl, rfl⟩
  | cons c text ih =>
    rw [utf8_cons, length_append] at hi
    rw [utf8_cons]
    by_cases hz : i = 0
    · subst hz
      exact .inl ⟨[], c :: text, rfl, rfl, by rw [drop_zero, utf8_cons]⟩
    by_cases hlt : i < (String.utf8EncodeChar c).length
    · refine .inr ⟨[], c, text, i, rfl, Nat.pos_of_ne_zero hz, hlt, ?_, ?_⟩
      · rw [take_append_of_le_length hlt.le, utf8_nil, nil_append]
      · rw [drop_append_of_le_length hlt.le]
    -- the cut is behind the first character
    obtain ⟨k, rfl⟩ := Nat.exists_eq_add_of_le (not_lt.mp hlt)
    rw [take_length_add_append, drop_length_add_append]
    rcases ih (by omega : k ≤ _) with
      ⟨s, t, rfl, ht, hd⟩ | ⟨s, d, t, j, rfl, hj, hj', ht, hd⟩
    · exact .inl ⟨c :: s, t, rfl, by rw [ht, utf8_cons], hd⟩
    · exact .inr ⟨c :: s, d, t, j, rfl, hj, hj', by rw [ht, utf8_cons, append_assoc], hd⟩

end Gadget.Rust
