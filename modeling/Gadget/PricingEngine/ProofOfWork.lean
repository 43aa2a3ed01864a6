import Gadget.Rust.BigEndian

/-!
# Proof of work

Requests for prices carry a nonce whose hash with the challenge begins with zero bits. `bitAt`
counts the bits of a hash from the first byte on, the highest bit of a byte first.
-/

namespace Gadget.PricingEngine

open Rust List

def bitAt (hash : Bytes) (i : ℕ) : Bool := (hash.getD (i / 8) 0).toBitVec.getMsbD (i % 8)

def BeginsWithZeros (hash : Bytes) (bits : ℕ) : Prop :=
  bits ≤ 8 * hash.length ∧ ∀ i < bits, bitAt hash i = false

def checkDifficulty (hash : Bytes) (difficulty : ℕ) : Bool :=
  let zeroBytes := difficulty / 8
  let zeroBits := difficulty % 8
  if (List.range zeroBytes).all fun i => hash[i]? = some 0 then
    if 0 < zeroBits then
      match hash[zeroBytes]? with
      | none => false
      | some byte => byte &&& 0xFF <<< UInt8.ofNat (8 - zeroBits) = 0
    else true
  else false

structure Proof where
  hash : Bytes
  nonce : ℕ

/-- SHA-256 and `bincode`. -/
structure Primitives where
  sha256 : Bytes → Bytes
  serialize : Proof → Except String Bytes
  deserialize : Bytes → Except String Proof
  deserialize_of_serialize : ∀ proof bytes, serialize proof = .ok bytes →
    deserialize bytes = .ok proof

variable (P : Primitives) (challenge : Bytes) (difficulty : ℕ)

def calculateHash (nonce : ℕ) : Bytes := P.sha256 (challenge ++ toBeBytes 8 nonce)

/-- The loop of `generate_proof`, with the nonces that are left. -/
def searchProof : ℕ → ℕ → Outcome String Bytes
  | 0, _ => .error (.panicked "attempt to add with overflow")
  | left + 1, nonce =>
    let hash := calculateHash P challenge nonce
    if checkDifficulty hash difficulty then orErr (P.serialize ⟨hash, nonce⟩)
    else searchProof left (nonce + 1)

def generateProof : Outcome String Bytes := searchProof P challenge difficulty (2 ^ 64) 0

def verifyProof (proofBytes : Bytes) : Except String Bool := do
  let proof ← P.deserialize proofBytes
  if checkDifficulty proof.hash difficulty = false then .ok false
  else .ok (calculateHash P challenge proof.nonce = proof.hash)

lemma forall_byte {p : UInt8 → Prop} (h : ∀ n < 256, p (UInt8.ofNat n)) (byte : UInt8) : p byte := by
  rw [← UInt8.ofNat_toNat (x := byte)]
  exact h _ byte.toNat_lt

lemma byte_eq_zero_iff : ∀ byte : UInt8, byte = 0 ↔ ∀ j < 8, byte.toBitVec.getMsbD j = false :=
  forall_byte (by decide +kernel)

lemma mask_eq_zero_iff : ∀ byte : UInt8, ∀ k < 8, 0 < k →
    (byte &&& 0xFF <<< UInt8.ofNat (8 - k) = 0 ↔ ∀ j < k, byte.toBitVec.getMsbD j = false) :=
  forall_byte (by decide +kernel)

variable {hash : Bytes} {difficulty}

lemma bitAt_of_getElem? {i j : ℕ} {byte : UInt8} (h : hash[i]? = some byte) (hj : j < 8) :
    bitAt hash (8 * i + j) = byte.toBitVec.getMsbD j := by
  have hd : (8 * i + j) / 8 = i := by omega
  have hm : (8 * i + j) % 8 = j := by omega
  rw [bitAt, hd, hm, getD_eq_getElem?_getD, h, Option.getD_some]

lemma checkDifficulty_iff_bytes : checkDifficulty hash difficulty = true ↔
    (∀ i < difficulty / 8, hash[i]? = some 0) ∧ (0 < difficulty % 8 →
      ∃ byte, hash[difficulty / 8]? = some byte ∧
        ∀ j < difficulty % 8, byte.toBitVec.getMsbD j = false) := by
  have ha : ((range (difficulty / 8)).all fun i => hash[i]? = some 0) = true ↔
      ∀ i < difficulty / 8, hash[i]? = some 0 := by simp
  simp only [checkDifficulty, ha]
  split_ifs with hb hz
  · rw [and_iff_right hb]
    cases hash[difficulty / 8]? with
    | none => simp [hz]
    | some byte => simp [hz, mask_eq_zero_iff byte _ (Nat.mod_lt _ (by decide)) hz]
  · rw [and_iff_right hb]
    simp [hz]
  · simp [hb]

lemma checkDifficulty_iff : checkDifficulty hash difficulty = true ↔
    BeginsWithZeros hash difficulty := by
  rw [checkDifficulty_iff_bytes]
  constructor
  · rintro ⟨hb, hz⟩
    refine ⟨?_, fun i hi => ?_⟩
    · by_cases hr : 0 < difficulty % 8
      · obtain ⟨byte, hn, -⟩ := hz hr
        have := (List.getElem?_eq_some_iff.mp hn).1
        omega
      · by_contra hl
        have := (List.getElem?_eq_some_iff.mp (hb (difficulty / 8 - 1) (by omega))).1
        omega
    · have hi8 : i % 8 < 8 := Nat.mod_lt _ (by decide)
      rw [← Nat.div_add_mod i 8]
      by_cases hlt : i / 8 < difficulty / 8
      · rw [bitAt_of_getElem? (hb _ hlt) hi8]
        exact (byte_eq_zero_iff 0).mp rfl _ hi8
      have he : i / 8 = difficulty / 8 := by omega
      obtain ⟨byte, hn, hbits⟩ := hz (by omega)
      rw [bitAt_of_getElem? (he ▸ hn) hi8]
      exact hbits _ (by omega)
  · rintro ⟨hl, hbits⟩
    refine ⟨fun i hi => ?_, fun hr => ?_⟩
    · have hn : hash[i]? = some hash[i] := List.getElem?_eq_getElem (by omega)
      rw [hn, Option.some_inj, byte_eq_zero_iff]
      intro j hj
      rw [← bitAt_of_getElem? hn hj]
      exact hbits _ (by omega)
    · have hn : hash[difficulty / 8]? = some hash[difficulty / 8] :=
        List.getElem?_eq_getElem (by omega)
      refine ⟨_, hn, fun j hj => ?_⟩
      rw [← bitAt_of_getElem? hn (by omega)]
      exact hbits _ (by omega)

def solutions (difficulty : ℕ) : Set ℕ :=
  {nonce | nonce < 2 ^ 64 ∧ BeginsWithZeros (calculateHash P challenge nonce) difficulty}

/-- The bytes are the proof with the least nonce that solves the challenge. -/
def LeastProof (difficulty : ℕ) (bytes : Bytes) : Prop :=
  ∃ nonce, IsLeast (solutions P challenge difficulty) nonce ∧
    P.serialize ⟨calculateHash P challenge nonce, nonce⟩ = .ok bytes

variable {P challenge} {bytes : Bytes}

lemma searchProof_eq_ok {left nonce : ℕ} (hn : left + nonce = 2 ^ 64)
    (hlow : ∀ n ∈ solutions P challenge difficulty, nonce ≤ n) :
    searchProof P challenge difficulty left nonce = .ok bytes ↔
      LeastProof P challenge difficulty bytes := by
  induction left generalizing nonce with
  | zero =>
    refine iff_of_false (by rintro ⟨⟩) ?_
    rintro ⟨n, ⟨hm, -⟩, -⟩
    have := hlow n hm
    have := hm.1
    omega
  | succ left ih =>
    simp only [searchProof]
    split_ifs with hc
    · have hl : IsLeast (solutions P challenge difficulty) nonce :=
        ⟨⟨by omega, checkDifficulty_iff.mp hc⟩, hlow⟩
      rw [orErr_eq_ok]
      exact ⟨fun h => ⟨nonce, hl, h⟩, fun ⟨n, hm, h⟩ => hm.unique hl ▸ h⟩
    · refine ih (by omega) fun n hm => ?_
      rcases (hlow n hm).eq_or_lt with rfl | hlt
      · exact absurd (checkDifficulty_iff.mpr hm.2) hc
      · exact hlt

lemma verifyProof_eq_ok_true : verifyProof P challenge difficulty bytes = .ok true ↔
    ∃ proof, P.deserialize bytes = .ok proof ∧
      calculateHash P challenge proof.nonce = proof.hash ∧ BeginsWithZeros proof.hash difficulty := by
  rw [verifyProof, bind_eq_ok]
  refine exists_congr fun proof => and_congr_right fun _ => ?_
  rw [← checkDifficulty_iff]
  cases checkDifficulty proof.hash difficulty <;> simp

/-- The test of a hash is that of its first bits. A proof is accepted exactly when its hash is that of
the challenge with its nonce and passes the test. The generator returns the proof with the least
nonce, if there is one, and it is accepted at its difficulty and all below. -/
theorem proofOfWork_exact (P : Primitives) (challenge : Bytes) (difficulty : ℕ) :
    (∀ hash, checkDifficulty hash difficulty = true ↔ BeginsWithZeros hash difficulty) ∧
    (∀ bytes, verifyProof P challenge difficulty bytes = .ok true ↔
      ∃ proof, P.deserialize bytes = .ok proof ∧
        calculateHash P challenge proof.nonce = proof.hash ∧
        BeginsWithZeros proof.hash difficulty) ∧
    (∀ bytes, generateProof P challenge difficulty = .ok bytes ↔
      LeastProof P challenge difficulty bytes) ∧
    ∀ bytes, generateProof P challenge difficulty = .ok bytes → ∀ d ≤ difficulty,
      verifyProof P challenge d bytes = .ok true := by
  have hg : ∀ bytes, generateProof P challenge difficulty = .ok bytes ↔
      LeastProof P challenge difficulty bytes :=
    fun bytes => searchProof_eq_ok rfl fun _ _ => Nat.zero_le _
  refine ⟨fun _ => checkDifficulty_iff, fun _ => verifyProof_eq_ok_true, hg, ?_⟩
  intro bytes h d hd
  obtain ⟨nonce, ⟨hm, -⟩, hs⟩ := (hg bytes).mp h
  have hz := hm.2
  exact verifyProof_eq_ok_true.mpr ⟨_, P.deserialize_of_serialize _ _ hs, rfl,
    hd.trans hz.1, fun i hi => hz.2 i (hi.trans_le hd)⟩

/-- The first byte is the length of the hash; the nonce has the eight bytes after the hash. -/
def readProof : Bytes → Except String Proof
  | [] => .error "unexpected end of file"
  | len :: rest =>
    if rest.length = len.toNat + 8 then .ok ⟨rest.take len.toNat, ofBeBytes (rest.drop len.toNat)⟩
    else .error "unexpected end of file"

/-- A hash that copies the input, and proofs as a length, the hash and the nonce in eight bytes. -/
def lengthPrefixed : Primitives where
  sha256 := id
  serialize proof :=
    if proof.hash.length < 256 ∧ proof.nonce < 2 ^ 64 then
      .ok (UInt8.ofNat proof.hash.length :: (proof.hash ++ toBeBytes 8 proof.nonce))
    else .error "the size limit has been reached"
  deserialize := readProof
  deserialize_of_serialize proof bytes h := by
    split_ifs at h with hfits
    cases h
    have hlen : (UInt8.ofNat proof.hash.length).toNat = proof.hash.length := by
      simp [Nat.mod_eq_of_lt hfits.1]
    have hn : ofBeBytes (toBeBytes 8 proof.nonce) = proof.nonce := ofBeBytes_toBeBytes_of_lt (by omega)
    rw [readProof, hlen, if_pos (by simp), take_left, drop_left, hn]

/-- With the hash that copies its input, the first nonce begins with eight zero bits. -/
theorem proofOfWork_exact_lengthPrefixed :
    generateProof lengthPrefixed [] 8 = .ok (8 :: (toBeBytes 8 0 ++ toBeBytes 8 0)) ∧
      ∀ d ≤ 8, verifyProof lengthPrefixed [] d (8 :: (toBeBytes 8 0 ++ toBeBytes 8 0)) = .ok true := by
  have h : generateProof lengthPrefixed [] 8 = .ok (8 :: (toBeBytes 8 0 ++ toBeBytes 8 0)) := by
    unfold generateProof
    rw [show 2 ^ 64 = (2 ^ 64 - 1) + 1 from rfl, searchProof]
    decide
  exact ⟨h, (proofOfWork_exact lengthPrefixed [] 8).2.2.2 _ h⟩

end Gadget.PricingEngine
