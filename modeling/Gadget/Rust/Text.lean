import Gadget.Rust.Control
import Mathlib.Data.Nat.Digits.Lemmas

/-!
# Numbers and bytes as text

The texts that a stored record is written in and read back from: bytes in hexadecimal, and
256-bit numbers in hexadecimal. A text is the list of its characters.
-/

namespace Gadget.Rust

open List Nat Option

def isWhitespace (c : Char) : Bool :=
  let n := c.toNat
  decide (9 ≤ n ∧ n ≤ 13 ∨ 0x2000 ≤ n ∧ n ≤ 0x200A) ||
    [0x20, 0x85, 0xA0, 0x1680, 0x2028, 0x2029, 0x202F, 0x205F, 0x3000].contains n

def isControl (c : Char) : Bool := decide (c.toNat < 32 ∨ 127 ≤ c.toNat ∧ c.toNat < 160)

def trim (text : List Char) : List Char :=
  ((text.dropWhile isWhitespace).reverse.dropWhile isWhitespace).reverse

def alnumValue (c : Char) : Option ℕ :=
  if '0' ≤ c ∧ c ≤ '9' then some (c.toNat - '0'.toNat)
  else if 'a' ≤ c ∧ c ≤ 'z' then some (c.toNat - 'a'.toNat + 10)
  else if 'A' ≤ c ∧ c ≤ 'Z' then some (c.toNat - 'A'.toNat + 10)
  else none

def hexValue (c : Char) : Option ℕ := (alnumValue c).filter (· < 16)

lemma alnumValue_digitChar {d : ℕ} (h : d < 16) : alnumValue d.digitChar = some d := by
  interval_cases d <;> rfl

lemma hexValue_digitChar {d : ℕ} (h : d < 16) : hexValue d.digitChar = some d := by
  rw [hexValue, alnumValue_digitChar h]
  simp [h]

lemma digitChar_ne_underscore {d : ℕ} (h : d < 16) : d.digitChar ≠ '_' := by
  interval_cases d <;> decide

def stripHexMarker : List Char → List Char
  | '0' :: 'x' :: rest => rest
  | value => value

@[simp] lemma stripHexMarker_cons (rest : List Char) :
    stripHexMarker ('0' :: 'x' :: rest) = rest := rfl

variable (bytes : Bytes)

def hexEncode : List Char :=
  bytes.flatMap fun b => [(b.toNat / 16).digitChar, (b.toNat % 16).digitChar]

def hexByte (hi lo : Char) (position : ℕ) : Except String UInt8 :=
  match hexValue hi, hexValue lo with
  | some h, some l => .ok (UInt8.ofNat (16 * h + l))
  | none, _ =>
    .error ("Invalid character " ++ hi.quote ++ " at position " ++ toString position)
  | _, none =>
    .error ("Invalid character " ++ lo.quote ++ " at position " ++ toString (position + 1))

def hexPairs : List Char → ℕ → Except String Bytes
  | hi :: lo :: rest, position =>
    match hexByte hi lo position with
    | .error e => .error e
    | .ok b =>
      match hexPairs rest (position + 2) with
      | .error e => .error e
      | .ok bs => .ok (b :: bs)
  | _, _ => .ok []

def hexDecode (text : List Char) : Except String Bytes :=
  if text.length % 2 = 0 then hexPairs text 0 else .error "Odd number of digits"

lemma hexByte_digits (b : UInt8) (position : ℕ) :
    hexByte (b.toNat / 16).digitChar (b.toNat % 16).digitChar position = .ok b := by
  have hb : b.toNat < 256 := b.toNat_lt
  rw [hexByte, hexValue_digitChar (by omega), hexValue_digitChar (by omega)]
  simp only [Except.ok.injEq]
  rw [div_add_mod, UInt8.ofNat_toNat]

lemma hexPairs_hexEncode (position : ℕ) : hexPairs (hexEncode bytes) position = .ok bytes := by
  induction bytes generalizing position with
  | nil => rfl
  | cons b bs ih =>
    have hc : hexEncode (b :: bs)
        = (b.toNat / 16).digitChar :: (b.toNat % 16).digitChar :: hexEncode bs := rfl
    rw [hc, hexPairs, hexByte_digits, ih]

lemma length_hexEncode (bs : Bytes) : (hexEncode bs).length = 2 * bs.length := by
  simp [hexEncode, length_flatMap, mul_comm]

lemma hexDecode_hexEncode : hexDecode (hexEncode bytes) = .ok bytes := by
  rw [hexDecode, length_hexEncode, mul_mod_right, if_pos rfl, hexPairs_hexEncode]

variable {n max : ℕ} {c : Char} {text : List ℕ}

lemma isSome_hexValue_of_mem {bs : Bytes} (h : c ∈ hexEncode bs) : (hexValue c).isSome = true := by
  obtain ⟨b, -, hc⟩ := mem_flatMap.mp h
  have hb : b.toNat < 256 := b.toNat_lt
  simp only [mem_cons, not_mem_nil, or_false] at hc
  obtain rfl | rfl := hc <;> rw [hexValue_digitChar (by omega), isSome_some]

lemma visible_of_isSome_hexValue (h : (hexValue c).isSome = true) :
    32 ≤ c.toNat ∧ c.toNat < 127 := by
  have hr : ∀ {a b : Char}, a ≤ c ∧ c ≤ b → a.toNat ≤ c.toNat ∧ c.toNat ≤ b.toNat := id
  have hc : '0'.toNat = 48 ∧ '9'.toNat = 57 ∧ 'a'.toNat = 97 ∧ 'z'.toNat = 122 ∧
      'A'.toNat = 65 ∧ 'Z'.toNat = 90 := by decide
  have ha : alnumValue c ≠ none := by
    intro hn
    rw [hexValue, hn] at h
    cases h
  unfold alnumValue at ha
  split_ifs at ha with hd hl hu
  · have := hr hd
    omega
  · have := hr hl
    omega
  · have := hr hu
    omega
  · exact absurd rfl ha

def formatHex (n : ℕ) : List Char :=
  '0' :: 'x' :: if n = 0 then ['0'] else ((Nat.digits 16 n).map Nat.digitChar).reverse

def radix16 : List Char → ℕ → Except String ℕ
  | [], acc => .ok acc
  | c :: cs, acc =>
    if c = '_' then radix16 cs acc
    else
      match alnumValue c with
      | none => .error ("invalid digit: " ++ toString c)
      | some d =>
        if d < 16 then
          if acc * 16 + d < 2 ^ 256 then radix16 cs (acc * 16 + d)
          else .error "the value is too large to fit the target type"
        else .error ("digit " ++ toString d ++ " is out of range for base 16")

lemma radix16_digits (ds : List ℕ) (hds : ∀ d ∈ ds, d < 16) (acc : ℕ)
    (hfit : ds.foldl (fun a d => a * 16 + d) acc < 2 ^ 256) :
    radix16 (ds.map digitChar) acc = .ok (ds.foldl (fun a d => a * 16 + d) acc) := by
  induction ds generalizing acc with
  | nil => rfl
  | cons d ds ih =>
    have hd : d < 16 := hds d mem_cons_self
    -- later digits only make the value larger
    have hm : ∀ (l : List ℕ) (a : ℕ), a ≤ l.foldl (fun a d => a * 16 + d) a := by
      intro l
      induction l with
      | nil => exact fun a => le_refl a
      | cons x xs ihx =>
        intro a
        have := ihx (a * 16 + x)
        simp only [foldl_cons]
        omega
    have hs : acc * 16 + d < 2 ^ 256 := lt_of_le_of_lt (hm ds _) hfit
    rw [map_cons, radix16, if_neg (digitChar_ne_underscore hd), alnumValue_digitChar hd]
    simp only [hd, if_true, if_pos hs]
    exact ih (fun x hx => hds x (mem_cons_of_mem _ hx)) _ hfit

lemma radix16_formatHex (h : n < 2 ^ 256) : radix16 (stripHexMarker (formatHex n)) 0 = .ok n := by
  rw [formatHex, stripHexMarker_cons]
  by_cases hn : n = 0
  · subst hn
    rfl
  have hv : (digits 16 n).reverse.foldl (fun a d => a * 16 + d) 0 = n := by
    rw [foldl_reverse]
    calc (digits 16 n).foldr (fun d a => a * 16 + d) 0 = ofDigits 16 (digits 16 n) := by
          rw [ofDigits_eq_foldr]
          congr 1
          funext d a
          simp only [cast_id]
          omega
      _ = n := ofDigits_digits 16 n
  have hdi : ∀ d ∈ (digits 16 n).reverse, d < 16 := fun d hd =>
    digits_lt_base (by norm_num) (mem_reverse.mp hd)
  rw [if_neg hn, ← map_reverse]
  have hr := radix16_digits _ hdi 0 (by rw [hv]; exact h)
  rw [hr, hv]

def toBeBytes (width n : ℕ) : Bytes :=
  (List.range width).reverse.map fun i => UInt8.ofNat (n / 256 ^ i)

def decimalDigits (max : ℕ) : List ℕ → ℕ → Option ℕ
  | [], acc => some acc
  | c :: cs, acc =>
    if 48 ≤ c ∧ c ≤ 57 ∧ acc * 10 + (c - 48) ≤ max then
      decimalDigits max cs (acc * 10 + (c - 48))
    else none

/-- `str::parse` at an unsigned type with the largest value `max`: an optional `+`, then at
least one digit. -/
def parseUnsigned (max : ℕ) (text : List ℕ) : Option ℕ :=
  let digits := if text.head? = some 43 then text.tail else text
  if digits = [] then none else decimalDigits max digits 0

lemma decimalDigits_mem {acc : ℕ} (h : decimalDigits max text acc = some n) :
    ∀ c ∈ text, 48 ≤ c ∧ c ≤ 57 := by
  induction text generalizing acc with
  | nil => exact fun c hc => absurd hc not_mem_nil
  | cons c cs ih =>
    rw [decimalDigits] at h
    split at h
    · next hc =>
      rw [forall_mem_cons]
      exact ⟨⟨hc.1, hc.2.1⟩, ih h⟩
    · cases h

lemma parseUnsigned_mem (h : parseUnsigned max text = some n) :
    ∀ c ∈ text, c = 43 ∨ (48 ≤ c ∧ c ≤ 57) := by
  simp only [parseUnsigned] at h
  split_ifs at h with hp
  · intro c hc
    rcases text with _ | ⟨a, text⟩
    · cases hc
    obtain rfl | hc := mem_cons.mp hc
    · exact .inl (some.inj hp)
    · exact .inr (decimalDigits_mem h c hc)
  · exact fun c hc => .inr (decimalDigits_mem h c hc)

lemma decimalDigits_append {acc : ℕ} (xs ys : List ℕ) : decimalDigits max (xs ++ ys) acc
      = (decimalDigits max xs acc).bind (decimalDigits max ys) := by
  induction xs generalizing acc with
  | nil => rfl
  | cons c cs ih =>
    rw [cons_append, decimalDigits, decimalDigits]
    split
    · exact ih
    · rfl

lemma decimalDigits_toDigits (max n : ℕ) :
    decimalDigits max ((toDigits 10 n).map Char.toNat) 0 = if n ≤ max then some n else none := by
  induction n using Nat.strong_induction_on with
  | _ n ih =>
    have hl := toNat_digitChar_of_lt_ten (mod_lt n (by decide : 10 > 0))
    by_cases hlt : n < 10
    · rw [toDigits_of_lt_base hlt, map_singleton]
      rw [mod_eq_of_lt hlt] at hl
      simp only [hl, decimalDigits]
      split_ifs <;> first | omega | (congr 1; omega) | rfl
    rw [toDigits_of_base_le (by decide) (not_lt.mp hlt), map_append,
      decimalDigits_append, ih (n / 10) (by omega), map_singleton, hl]
    by_cases hq : n / 10 ≤ max
    · rw [if_pos hq, bind_some]
      simp only [decimalDigits]
      split_ifs <;> first | omega | (congr 1; omega) | rfl
    · rw [if_neg hq, if_neg (by omega), bind_none]

lemma parseUnsigned_toDigits (max n : ℕ) :
    parseUnsigned max ((toDigits 10 n).map Char.toNat) = if n ≤ max then some n else none := by
  have hh : ((toDigits 10 n).map Char.toNat).head? ≠ some 43 := by
    intro hp
    obtain ⟨c, hc, hp⟩ := mem_map.mp (mem_of_mem_head? hp)
    have hd := isDigit_of_mem_toDigits (by decide) (by decide) hc
    rw [Char.isDigit, Bool.and_eq_true, decide_eq_true_eq, decide_eq_true_eq] at hd
    have hle : (48 : ℕ) ≤ c.toNat := UInt32.le_iff_toNat_le.mp hd.1
    omega
  have hne : (toDigits 10 n).map Char.toNat ≠ [] := by
    rw [ne_eq, map_eq_nil_iff]
    exact toDigits_ne_nil
  rw [parseUnsigned, if_neg hh]
  simp only [hne, if_false]
  exact decimalDigits_toDigits max n

lemma toDigits_inj {m : ℕ} (h : toDigits 10 m = toDigits 10 n) : m = n := by
  have hr := congrArg (fun text => ofDigitChars 10 text 0) h
  simpa only [ofDigitChars_toDigits (by decide : 1 < 10) le_rfl] using hr

lemma colon_notMem_toDigits (n : ℕ) : ':' ∉ toDigits 10 n := by
  intro h
  cases isDigit_of_mem_toDigits (by decide) (by decide) h

lemma colon_notMem_hexEncode (bs : Bytes) : ':' ∉ hexEncode bs := by
  intro h
  cases isSome_hexValue_of_mem h

lemma append_cons_inj {xs xs' ys ys' : List Char} (hx : c ∉ xs) (hx' : c ∉ xs')
    (h : xs ++ c :: ys = xs' ++ c :: ys') : xs = xs' ∧ ys = ys' := by
  have htake : ∀ {zs : List Char}, c ∉ zs → ∀ ws, (zs ++ c :: ws).takeWhile (· ≠ c) = zs := by
    intro zs hz ws
    rw [takeWhile_append_of_pos fun a ha => by simpa using fun hac : a = c => hz (hac ▸ ha)]
    simp
  obtain rfl : xs = xs' := by rw [← htake hx ys, h, htake hx' ys']
  exact ⟨rfl, by simpa using h⟩

def toAsciiLowercase (text : List Char) : List Char := text.map Char.toLower

def eqIgnoreAsciiCase (a b : List Char) : Bool := decide (toAsciiLowercase a = toAsciiLowercase b)

end Gadget.Rust
