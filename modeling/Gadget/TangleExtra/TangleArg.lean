import Gadget.Core.Job
import Gadget.Rust.Utf8

/-!
# The argument of a job call

`TangleArg` decodes the body of a call as a value of a Solidity type. The body may be in the
standard ABI encoding or in a compact one, and the extractor guesses: what starts like the
encoding of a dynamic value is read as ABI first, anything else as compact first. Static values
start like anything at all. `Misread` is the standard encoding of such a value that the compact
reader accepts.
-/

namespace Gadget.TangleExtra

open Rust Gadget.Core List

def abiWord (n : ℕ) : Bytes := toBeBytes 32 n

variable (text : List Char)

def abiStringBody : Bytes :=
  let bytes := utf8 text
  abiWord bytes.length ++ bytes ++ List.replicate ((32 - bytes.length % 32) % 32) 0

def abiEncodeString : Bytes := abiWord 32 ++ abiStringBody text

def abiEncodeStringTuple : Bytes := abiWord 32 ++ abiEncodeString text

structure SolValue (T : Type) where
  solName : List Char
  dynamic : Bool
  abiEncode : T → Bytes
  abiDecode : Bytes → Option T
  abiDecodeSequence : Bytes → Option T
  abiDecode_abiEncode : ∀ v rest, abiDecode (abiEncode v ++ rest) = some v
  abiEncode_of_dynamic : dynamic = true → ∀ v, ∃ tail, abiEncode v = abiWord 32 ++ tail ∧
    32 ≤ tail.length
  dynamic_of_string : solName = "string".toList → dynamic = true

variable {T : Type}

def decodeCompactLength : Bytes → Option (ℕ × ℕ)
  | [] => none
  | byte :: rest =>
    let first := byte.toNat
    if first < 0x80 then some (first, 1)
    else if first < 0xC0 then
      match rest with
      | b1 :: _ => some ((first &&& 0x3F) <<< 8 ||| b1.toNat, 2)
      | _ => none
    else if first < 0xE0 then
      match rest with
      | b1 :: b2 :: _ => some ((first &&& 0x1F) <<< 16 ||| b1.toNat <<< 8 ||| b2.toNat, 3)
      | _ => none
    else if first < 0xF0 then
      match rest with
      | b1 :: b2 :: b3 :: _ =>
        some ((first &&& 0x0F) <<< 24 ||| b1.toNat <<< 16 ||| b2.toNat <<< 8 ||| b3.toNat, 4)
      | _ => none
    else
      match rest with
      | b1 :: b2 :: b3 :: b4 :: _ =>
        some (b1.toNat <<< 24 ||| b2.toNat <<< 16 ||| b3.toNat <<< 8 ||| b4.toNat, 5)
      | _ => none

variable (data : Bytes)

def tryDecodeCompactString : Option (List Char) := do
  let (len, headerSize) ← decodeCompactLength data
  if headerSize + len > data.length then none
  else fromUtf8 ((data.drop headerSize).take len)

def tryDecodeCompactSingleStringStruct : Option (List Char) := do
  let (fieldCount, headerSize) ← decodeCompactLength data
  if fieldCount ≠ 1 then none else tryDecodeCompactString (data.drop headerSize)

variable (S : SolValue T)

def tryDecodeCompact (data : Bytes) : Option T :=
  if S.solName.head? = some '(' ∨ S.solName.contains '(' = false then
    ((tryDecodeCompactSingleStringStruct data).bind fun text =>
        S.abiDecode (abiEncodeStringTuple text)) <|>
      if S.solName = "string".toList then
        (tryDecodeCompactString data).bind fun text => S.abiDecode (abiEncodeString text)
      else none
  else none

def looksLikeAbiEncoded : Bool :=
  64 ≤ data.length && (data.take 31).all (· == 0) && data[31]? == some 32

def abiDecodeError : String :=
  "Failed to decode the job input (tried both compact binary and ABI formats)"

def TangleArg.fromJobCall (call : JobCall) : Except String T :=
  let body := call.body
  okOr
    (if looksLikeAbiEncoded body then
      S.abiDecode body <|> S.abiDecodeSequence body <|> tryDecodeCompact S body
    else tryDecodeCompact S body <|> S.abiDecode body <|> S.abiDecodeSequence body)
    abiDecodeError

/-- The standard encoding of the value passes for a compact struct of one string, and that
string, in the ABI encoding, for another value of the type. -/
def SolValue.Misread (v : T) : Prop :=
  (S.solName.head? = some '(' ∨ S.solName.contains '(' = false) ∧
  ∃ text w, tryDecodeCompactSingleStringStruct (S.abiEncode v) = some text ∧
    S.abiDecode (abiEncodeStringTuple text) = some w ∧ w ≠ v

lemma abiWord_offset : abiWord 32 = List.replicate 31 0 ++ [32] := by decide

lemma looksLikeAbiEncoded_of_dynamic (h : S.dynamic = true) (v : T) :
    looksLikeAbiEncoded (S.abiEncode v) = true := by
  obtain ⟨tail, he, ht⟩ := S.abiEncode_of_dynamic h v
  rw [he, abiWord_offset]
  simp [looksLikeAbiEncoded]
  omega

lemma tryDecodeCompactSingleStringStruct_of_looksLike {data : Bytes}
    (h : looksLikeAbiEncoded data = true) : tryDecodeCompactSingleStringStruct data = none := by
  rcases data with _ | ⟨b, data⟩
  · rfl
  simp only [looksLikeAbiEncoded, take_succ_cons, all_cons, Bool.and_eq_true,
    beq_iff_eq] at h
  rw [h.1.2.1]
  rfl

namespace SolValue

variable (S : SolValue T)

lemma abiDecode_self (v : T) : S.abiDecode (S.abiEncode v) = some v := by
  have h := S.abiDecode_abiEncode v []
  rwa [append_nil] at h

lemma not_misread_of_unread {v : T}
    (h : tryDecodeCompactSingleStringStruct (S.abiEncode v) = none) : ¬ S.Misread v := by
  rintro ⟨-, text, w, ht, -, -⟩
  rw [h] at ht
  cases ht

lemma misread_iff_of_static (h : S.dynamic = false) (v : T) :
    S.Misread v ↔ ∃ w, tryDecodeCompact S (S.abiEncode v) = some w ∧ w ≠ v := by
  have hn : S.solName ≠ "string".toList := by
    intro hs
    rw [S.dynamic_of_string hs] at h
    cases h
  rw [Misread, tryDecodeCompact, if_neg hn, Option.orElse_eq_orElse]
  by_cases hk : S.solName.head? = some '(' ∨ S.solName.contains '(' = false
  · rw [if_pos hk, and_iff_right hk]
    rcases ht : tryDecodeCompactSingleStringStruct (S.abiEncode v) with _ | text <;> simp
  rw [if_neg hk]
  constructor
  · exact fun hr => absurd hr.1 hk
  · rintro ⟨w, hw, -⟩
    cases hw

end SolValue

/-- **Faithfulness.** A job call whose body is the standard encoding of a value gives that value
exactly when the encoding is not misread, and another value otherwise. -/
theorem TangleArg.fromJobCall_abiEncode_iff (S : SolValue T) (v : T) (jobId : JobId)
    (metadata : MetadataMap) :
    (fromJobCall S ⟨jobId, metadata, S.abiEncode v⟩ = .ok v ↔ ¬ S.Misread v) ∧
    (S.Misread v → ∃ w, w ≠ v ∧ fromJobCall S ⟨jobId, metadata, S.abiEncode v⟩ = .ok w) := by
  by_cases hl : looksLikeAbiEncoded (S.abiEncode v) = true
  · -- read as ABI first
    have hr := S.not_misread_of_unread (tryDecodeCompactSingleStringStruct_of_looksLike hl)
    have hv : fromJobCall S ⟨jobId, metadata, S.abiEncode v⟩ = .ok v := by
      simp [fromJobCall, hl, S.abiDecode_self, okOr]
    exact ⟨iff_of_true hv hr, fun h => absurd h hr⟩
  · -- read as compact first, which a static value may pass for
    have hs : S.dynamic = false := by
      by_contra hd
      exact hl (looksLikeAbiEncoded_of_dynamic S (by simpa using hd) v)
    have hm := S.misread_iff_of_static hs v
    cases hc : tryDecodeCompact S (S.abiEncode v) with
    | none =>
      have hv : fromJobCall S ⟨jobId, metadata, S.abiEncode v⟩ = .ok v := by
        simp [fromJobCall, hl, hc, S.abiDecode_self, okOr]
      have hr : ¬ S.Misread v := by simp [hm, hc]
      exact ⟨iff_of_true hv hr, fun h => absurd h hr⟩
    | some w =>
      have hv : fromJobCall S ⟨jobId, metadata, S.abiEncode v⟩ = .ok w := by
        simp [fromJobCall, hl, hc, okOr]
      have hr : S.Misread v ↔ w ≠ v := by simp [hm, hc]
      rw [hv, Except.ok.injEq, hr, not_not]
      exact ⟨Iff.rfl, fun hw => ⟨w, hw, rfl⟩⟩

def uint256Tuple : SolValue (BitVec 256) where
  solName := "(uint256)".toList
  dynamic := false
  abiEncode v := toBeBytes 32 v.toNat
  abiDecode data :=
    if data.length < 32 then none else some (BitVec.ofNat 256 (ofBeBytes (data.take 32)))
  abiDecodeSequence data :=
    if data.length < 32 then none else some (BitVec.ofNat 256 (ofBeBytes (data.take 32)))
  abiDecode_abiEncode := by
    intro v rest
    have hlength : (toBeBytes 32 v.toNat).length = 32 := length_toBeBytes 32 v.toNat
    have hv : v.toNat < 256 ^ 32 := v.isLt
    rw [if_neg (by rw [List.length_append, hlength]; omega), List.take_append_of_le_length
      hlength.ge, List.take_of_length_le hlength.le, ofBeBytes_toBeBytes_of_lt hv,
      BitVec.ofNat_toNat, BitVec.setWidth_eq]
  abiEncode_of_dynamic h := by cases h
  dynamic_of_string h := by cases h

/-- The number 2²⁴⁸ is handed to the job as 32, the offset in the encoding of an empty string. -/
theorem TangleArg.uint256_misread :
    fromJobCall uint256Tuple ⟨JobId.ofU8 0, ∅, uint256Tuple.abiEncode (1#256 <<< 248)⟩
      = .ok 32#256 := by
  decide +kernel

end Gadget.TangleExtra
