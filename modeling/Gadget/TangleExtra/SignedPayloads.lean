import Gadget.EvmExtra.Logs
import Gadget.TangleExtra.Strategies
import Gadget.X402.DelegatedReplay

/-!
# What signatures are given for

The digest of a job quote, the message that operators sign for a result, and the text that a caller
signs to delegate a call. Each determines its parts, as far as the hash has no collision among what was
hashed for it. In the third the nonce is free text; the parts around it have no separator in them.
-/

namespace Gadget.TangleExtra

open Rust EvmExtra List

def uintWord (n : ℕ) : B256 := ⟨abiWord n, length_toBeBytes 32 n⟩

lemma length_addressWord (address : Address) : (List.replicate 12 0 ++ address.1).length = 32 := by
  rw [length_append, length_replicate, address.2]

def addressWord (address : Address) : B256 := ⟨_, length_addressWord address⟩

def abiEncode (words : List B256) : Bytes := words.flatMap Subtype.val

lemma ofBeBytes_uintWord {n : ℕ} (h : n < 2 ^ 256) : ofBeBytes (uintWord n).1 = n :=
  ofBeBytes_toBeBytes_of_lt (h.trans_eq (by norm_num))

lemma uintWord_inj {m n : ℕ} (hm : m < 2 ^ 256) (hn : n < 2 ^ 256) (h : uintWord m = uintWord n) :
    m = n := by
  rw [← ofBeBytes_uintWord hm, h, ofBeBytes_uintWord hn]

lemma uintWord_u64_inj {m n : UInt64} (h : uintWord m.toNat = uintWord n.toNat) : m = n :=
  UInt64.toNat_inj.mp (uintWord_inj (m.toNat_lt.trans (by norm_num)) (n.toNat_lt.trans (by norm_num)) h)

lemma uintWord_u8_inj {m n : UInt8} (h : uintWord m.toNat = uintWord n.toNat) : m = n :=
  UInt8.toNat_inj.mp (uintWord_inj (m.toNat_lt.trans (by norm_num)) (n.toNat_lt.trans (by norm_num)) h)

lemma addressWord_injective : Function.Injective addressWord := fun _ _ h =>
  Subtype.ext (List.append_cancel_left (congrArg Subtype.val h))

lemma abiEncode_injective : Function.Injective abiEncode := by
  intro words words' h
  induction words generalizing words' with
  | nil =>
    rcases words' with _ | ⟨word', words'⟩
    · rfl
    · have hl := congrArg length h
      simp [abiEncode, word'.2] at hl
      omega
  | cons word words ih =>
    rcases words' with _ | ⟨word', words'⟩
    · have hl := congrArg length h
      simp [abiEncode, word.2] at hl
    · obtain ⟨hw, ht⟩ := append_inj h (word.2.trans word'.2.symm)
      rw [Subtype.ext hw, ih ht]

variable (keccak256 : Bytes → B256)

/-- The hash tells the inputs apart. -/
def CollisionFree (inputs inputs' : List Bytes) : Prop :=
  ∀ x ∈ inputs, ∀ y ∈ inputs', keccak256 x = keccak256 y → x = y

structure JobQuoteDetails where
  requester : Address
  serviceId : UInt64
  jobIndex : UInt8
  price : BitVec 256
  timestamp : UInt64
  expiry : UInt64
  confidentiality : UInt8
  inputsHash : B256

structure QuoteSigningDomain where
  chainId : UInt64
  verifyingContract : Address

def encodeDomain (domain : QuoteSigningDomain) : Bytes :=
  abiEncode [keccak256 (utf8
      "EIP712Domain(string name,string version,uint256 chainId,address verifyingContract)".toList),
    keccak256 (utf8 "TangleQuote".toList), keccak256 (utf8 "1".toList),
    uintWord domain.chainId.toNat, addressWord domain.verifyingContract]

def encodeJobQuoteDetails (details : JobQuoteDetails) : Bytes :=
  abiEncode [keccak256 (utf8 ("JobQuoteDetails(address requester,uint64 serviceId,uint8 jobIndex," ++
      "uint256 price,uint64 timestamp,uint64 expiry,uint8 confidentiality,bytes32 inputsHash)").toList),
    addressWord details.requester, uintWord details.serviceId.toNat, uintWord details.jobIndex.toNat,
    uintWord details.price.toNat, uintWord details.timestamp.toNat, uintWord details.expiry.toNat,
    uintWord details.confidentiality.toNat, details.inputsHash]

variable (details : JobQuoteDetails) (domain : QuoteSigningDomain)

def digestPayload : Bytes :=
  0x19 :: 0x01 :: abiEncode [keccak256 (encodeDomain keccak256 domain),
    keccak256 (encodeJobQuoteDetails keccak256 details)]

def jobQuoteDigestEip712 : B256 := keccak256 (digestPayload keccak256 details domain)

def digestInputs : List Bytes :=
  [encodeDomain keccak256 domain, encodeJobQuoteDetails keccak256 details,
    digestPayload keccak256 details domain]

/-- Equal digests are of equal quotes and domains. -/
def QuotesDetermined : Prop :=
  ∀ details details' domain domain',
    CollisionFree keccak256 (digestInputs keccak256 details domain)
      (digestInputs keccak256 details' domain') →
    jobQuoteDigestEip712 keccak256 details domain = jobQuoteDigestEip712 keccak256 details' domain' →
    details = details' ∧ domain = domain'

variable {keccak256}

lemma quotesDetermined : QuotesDetermined keccak256 := by
  intro details details' domain domain' hfree h
  have hp := hfree _ (by simp [digestInputs]) _ (by simp [digestInputs]) h
  simp only [digestPayload, cons.injEq, true_and, abiEncode_injective.eq_iff, and_true] at hp
  have hd := hfree _ (by simp [digestInputs]) _ (by simp [digestInputs]) hp.1
  have hq := hfree _ (by simp [digestInputs]) _ (by simp [digestInputs]) hp.2
  simp only [encodeDomain, encodeJobQuoteDetails, abiEncode_injective.eq_iff, cons.injEq,
    true_and, and_true] at hd hq
  obtain ⟨hr, hs, hj, hprice, ht, he, hc, hi⟩ := hq
  constructor
  · cases details
    cases details'
    rw [JobQuoteDetails.mk.injEq]
    exact ⟨addressWord_injective hr, uintWord_u64_inj hs, uintWord_u8_inj hj,
      BitVec.eq_of_toNat_eq (uintWord_inj (BitVec.isLt _) (BitVec.isLt _) hprice),
      uintWord_u64_inj ht, uintWord_u64_inj he, uintWord_u8_inj hc, hi⟩
  · cases domain
    cases domain'
    rw [QuoteSigningDomain.mk.injEq]
    exact ⟨uintWord_u64_inj hd.1, addressWord_injective hd.2⟩

def Domain.numbers (domain : Domain) (job : CallOutput) : List ℕ :=
  domain.chainId :: domain.tangleAddress :: job.serviceId :: job.callId ::
    domain.operators job.serviceId

def Domain.hashed (domain : Domain) (job : CallOutput) : List Bytes :=
  let operators := domain.operators job.serviceId
  [abiWord 32 ++ abiWord operators.length ++ operators.flatMap abiWord, job.output]

/-- Equal messages are for equal results, as far as the numbers fit into words. -/
def ResultsDetermined (keccak256 : Bytes → B256) : Prop :=
  ∀ (domain domain' : Domain) (job job' : CallOutput),
    domain.keccak256 = (fun bytes => (keccak256 bytes).1) → domain'.keccak256 = domain.keccak256 →
    (∀ n ∈ domain.numbers job, n < 2 ^ 256) → (∀ n ∈ domain'.numbers job', n < 2 ^ 256) →
    CollisionFree keccak256 (domain.hashed job) (domain'.hashed job') →
    domain.tangleSigningMessage job = domain'.tangleSigningMessage job' →
    domain.numbers job = domain'.numbers job' ∧ job.output = job'.output

lemma flatMap_abiWord_inj {ms ns : List ℕ} (hm : ∀ m ∈ ms, m < 2 ^ 256) (hn : ∀ n ∈ ns, n < 2 ^ 256)
    (h : ms.flatMap abiWord = ns.flatMap abiWord) : ms = ns := by
  have hread : ∀ zs : List ℕ, (∀ z ∈ zs, z < 2 ^ 256) →
      (zs.map uintWord).map (fun word => ofBeBytes word.1) = zs := fun zs hz => by
    rw [map_map, map_congr_left fun z hm => ?_, map_id]
    rw [Function.comp_apply, ofBeBytes_uintWord (hz z hm), id]
  have hw : ms.map uintWord = ns.map uintWord := abiEncode_injective (by
    rw [abiEncode, abiEncode, flatMap_map, flatMap_map]
    exact h)
  rw [← hread ms hm, hw, hread ns hn]

lemma resultsDetermined : ResultsDetermined keccak256 := by
  intro domain domain' job job' hk hk' hm hn hfree h
  have hl : ∀ x y, (keccak256 x).1.length = (keccak256 y).1.length := fun x y =>
    (keccak256 x).2.trans (keccak256 y).2.symm
  simp only [Domain.tangleSigningMessage, hk', hk] at h
  -- the tag and the two hashes are cut off from the end
  obtain ⟨h, -⟩ := append_inj' h rfl
  obtain ⟨h, hout⟩ := append_inj' h (hl _ _)
  obtain ⟨h, hops⟩ := append_inj' h (hl _ _)
  have hlist := hfree _ (by simp [Domain.hashed]) _ (by simp [Domain.hashed]) (Subtype.ext hops)
  obtain ⟨-, hlist⟩ := append_inj hlist (by simp [abiWord])
  refine ⟨flatMap_abiWord_inj hm hn ?_,
    hfree _ (by simp [Domain.hashed]) _ (by simp [Domain.hashed]) (Subtype.ext hout)⟩
  simp only [append_assoc, append_cancel_left_eq] at h
  have ha := congrArg (· ++ (domain.operators job.serviceId).flatMap abiWord) h
  simpa only [Domain.numbers, flatMap_cons, hlist, append_assoc] using ha

/-- Equal texts are for equal calls, whatever the nonces are. -/
def CallsDetermined {D : X402.Deps} (P : X402.PayDeps D) : Prop :=
  ∀ serviceId serviceId' jobIndex jobIndex' body body' nonce nonce' expiry expiry',
    X402.delegatedAuthPayload P serviceId jobIndex body nonce expiry
      = X402.delegatedAuthPayload P serviceId' jobIndex' body' nonce' expiry' →
    serviceId = serviceId' ∧ jobIndex = jobIndex' ∧ P.keccak256 body = P.keccak256 body' ∧
      nonce = nonce' ∧ expiry = expiry'

lemma callsDetermined {D : X402.Deps} (P : X402.PayDeps D) : CallsDetermined P := by
  intro _ _ _ _ _ _ _ _ _ _ h
  unfold X402.delegatedAuthPayload at h
  simp only [append_assoc, cons_append, nil_append] at h
  have h := append_cancel_left h
  obtain ⟨hs, h⟩ := append_cons_inj (colon_notMem_toDigits _) (colon_notMem_toDigits _) h
  obtain ⟨hj, h⟩ := append_cons_inj (colon_notMem_toDigits _) (colon_notMem_toDigits _) h
  obtain ⟨hb, h⟩ := append_cons_inj (colon_notMem_hexEncode _) (colon_notMem_hexEncode _) h
  -- the nonce may have separators: what follows it is cut off at the last one
  have hr := congrArg reverse h
  simp only [reverse_append, reverse_cons, append_assoc, singleton_append] at hr
  obtain ⟨he, hn⟩ := append_cons_inj (by simpa using colon_notMem_toDigits _)
    (by simpa using colon_notMem_toDigits _) hr
  have hhash := congrArg hexDecode hb
  rw [hexDecode_hexEncode, hexDecode_hexEncode] at hhash
  exact ⟨toDigits_inj hs, toDigits_inj hj, Except.ok.inj hhash, reverse_injective hn,
    toDigits_inj (reverse_injective he)⟩

/-- **Signed payloads are unambiguous.** Two equal digests, messages or texts have equal parts, when
the hash has no collision among what was hashed for them. -/
theorem signedPayloads_injective (keccak256 : Bytes → B256) {D : X402.Deps} (P : X402.PayDeps D) :
    QuotesDetermined keccak256 ∧ ResultsDetermined keccak256 ∧ CallsDetermined P :=
  ⟨quotesDetermined, resultsDetermined, callsDetermined P⟩

/-- A hash of the bytes and their places, for the quotes below. -/
def placeHash (bytes : Bytes) : B256 := uintWord (bytes.foldl (fun n b => (n * 257 + b.toNat + 1) % 1000003) 7)

def quoteAt (price : BitVec 256) : JobQuoteDetails :=
  ⟨FixedBytes.default 20, 1, 0, price, 0, 100, 0, B256.default⟩

theorem quotes_told_apart :
    let domain : QuoteSigningDomain := ⟨1, FixedBytes.default 20⟩
    CollisionFree placeHash (digestInputs placeHash (quoteAt 5) domain) (digestInputs placeHash (quoteAt 6) domain) ∧
      jobQuoteDigestEip712 placeHash (quoteAt 5) domain ≠ jobQuoteDigestEip712 placeHash (quoteAt 6) domain := by
  intro domain
  have hfree : CollisionFree placeHash (digestInputs placeHash (quoteAt 5) domain)
      (digestInputs placeHash (quoteAt 6) domain) := by
    unfold CollisionFree
    decide +kernel
  refine ⟨hfree, fun heq => ?_⟩
  obtain ⟨hq, -⟩ := (signedPayloads_injective placeHash X402.plainPayDeps).1 _ _ _ _ hfree heq
  exact absurd (congrArg JobQuoteDetails.price hq) (by decide)

end Gadget.TangleExtra
