import Gadget.Tee.Nitro

/-!
# Signed documents

What the entries of a document say (`documentOf_eq_ok`), and what it means that a document is signed
under a chain of certificates that ends in the root (`SignedDocument`). `verifyDocument_eq_ok` is
what an accepted document has passed.
-/

namespace Gadget.Tee

open Rust Cbor

/-- The value of the last entry with this key. -/
def lastEntry (key : String) : List (Cbor × Cbor) → Option Cbor
  | [] => none
  | (k, v) :: entries =>
    (lastEntry key entries).or (if k.asText = some key.toList then some v else none)

/-- A register is among the entries with its value. -/
def PcrEntry (entries : List (Cbor × Cbor)) (i : ℕ) (value : Bytes) : Prop :=
  ∃ pcrs, (Cbor.text "pcrs".toList, Cbor.map pcrs) ∈ entries ∧
    (Cbor.integer i, Cbor.bytes value) ∈ pcrs

def Cbor.asU64 (v : Cbor) : Option ℕ := v.asInteger.bind (unsignedOf 64)

variable {v : Cbor} {entries : List (Cbor × Cbor)} {fs fields' : DocumentFields}

lemma Cbor.asInteger_eq_some {n : ℤ} : v.asInteger = some n ↔ v = .integer n := by
  cases v <;> simp [asInteger]

lemma Cbor.asBytes_eq_some {data : Bytes} : v.asBytes = some data ↔ v = .bytes data := by
  cases v <;> simp [asBytes]

lemma Cbor.asText_eq_some {string : List Char} : v.asText = some string ↔ v = .text string := by
  cases v <;> simp [asText]

lemma Cbor.asMap_eq_some : v.asMap = some entries ↔ v = .map entries := by
  cases v <;> simp [asMap]

lemma unsignedOf_eq_some {bits i : ℕ} {n : ℤ} :
    unsignedOf bits n = some i ↔ n = i ∧ i < 2 ^ bits := by
  have hc : ((2 ^ bits : ℕ) : ℤ) = 2 ^ bits := by norm_cast
  rw [unsignedOf]
  split_ifs with h
  · rw [Option.some.injEq]
    omega
  · simp only [false_iff]
    omega

/-- The registers after reading are those before, and those that were told. -/
structure Gathers (told : ℕ → Bytes → Prop) (pcrs pcrs' : ℕ → Option Bytes) : Prop where
  source : ∀ i value, pcrs' i = some value → pcrs i = some value ∨ told i value
  kept : ∀ i, pcrs i ≠ none → pcrs' i ≠ none
  gathered : ∀ i value, told i value → pcrs' i ≠ none

variable {told first second : ℕ → Bytes → Prop} {pcrs pcrs' pcrs'' : ℕ → Option Bytes}

lemma Gathers.same (h : ∀ i val, ¬ told i val) : Gathers told pcrs pcrs :=
  ⟨fun _ _ hi => .inl hi, fun _ hi => hi, fun i val hi => absurd hi (h i val)⟩

lemma Gathers.trans (h : Gathers first pcrs pcrs') (h' : Gathers second pcrs' pcrs'')
    (ht : ∀ i val, told i val ↔ first i val ∨ second i val) :
    Gathers told pcrs pcrs'' := by
  refine ⟨fun i val hi => ?_, fun i hi => h'.kept i (h.kept i hi), fun i val hi => ?_⟩
  · rw [ht, ← or_assoc]
    exact (h'.source i val hi).imp_left (h.source i val)
  · rcases (ht i val).mp hi with hi | hi
    · exact h'.kept i (h.gathered i val hi)
    · exact h'.gathered i val hi

lemma gathers_update (pcrs : ℕ → Option Bytes) (j : ℕ) (bs : Bytes) :
    Gathers (fun i val => i = j ∧ val = bs) pcrs (Function.update pcrs j (some bs)) := by
  refine ⟨fun i val hi => ?_, fun i hi => ?_, fun i val hi => ?_⟩
  · by_cases hij : i = j
    · rw [hij, Function.update_self, Option.some.injEq] at hi
      exact .inr ⟨hij, hi.symm⟩
    · rw [Function.update_of_ne hij] at hi
      exact .inl hi
  · by_cases hij : i = j
    · rw [hij, Function.update_self]
      exact Option.some_ne_none bs
    · rwa [Function.update_of_ne hij]
  · rw [hi.1, Function.update_self]
    exact Option.some_ne_none bs

lemma gathers_readPcrs (h : readPcrs entries pcrs = .ok pcrs') :
    Gathers (fun i val => (Cbor.integer i, Cbor.bytes val) ∈ entries) pcrs pcrs' := by
  induction entries generalizing pcrs with
  | nil =>
    cases h
    exact .same nofun
  | cons entry entries ih =>
    obtain ⟨idx, digest⟩ := entry
    obtain ⟨j, hj, hr⟩ := bind_eq_ok.mp h
    obtain ⟨bs, hb, hre⟩ := bind_eq_ok.mp hr
    obtain ⟨n, hn, hjn⟩ := Option.bind_eq_some_iff.mp (okOr_eq_ok.mp hj)
    have hidx := asInteger_eq_some.mp hn
    have hd := asBytes_eq_some.mp (okOr_eq_ok.mp hb)
    have hnj := (unsignedOf_eq_some.mp hjn).1
    subst hidx hd hnj
    refine (gathers_update pcrs j bs).trans (ih hre) fun i val => ?_
    rw [List.mem_cons, Prod.mk.injEq, Cbor.integer.injEq, Cbor.bytes.injEq, Int.natCast_inj]

lemma readField_eq_ok {key : List Char} (h : readField fs key v = .ok fields') :
    fields'.certificate = (if key = "certificate".toList then v.asBytes else fs.certificate) ∧
    fields'.nonce = (if key = "nonce".toList then v.asBytes else fs.nonce) ∧
    fields'.timestampMs = (if key = "timestamp".toList then v.asU64.getD 0 else fs.timestampMs) ∧
    (fields'.pcrs = fs.pcrs ∧ ¬ (key = "pcrs".toList ∧ v.asMap.isSome = true) ∨
      ∃ pcrs, key = "pcrs".toList ∧ v = .map pcrs ∧ readPcrs pcrs fs.pcrs = .ok fields'.pcrs) := by
  rw [readField] at h
  split_ifs at h with hp hc hb hn ht
  · subst hp
    rcases hv : v.asMap with _ | pcrs
    · rw [hv] at h
      cases h
      exact ⟨rfl, rfl, rfl, .inl ⟨rfl, by simp⟩⟩
    rw [hv] at h
    obtain ⟨read, hr, h⟩ := bind_eq_ok.mp h
    cases h
    exact ⟨rfl, rfl, rfl, .inr ⟨pcrs, rfl, asMap_eq_some.mp hv, hr⟩⟩
  · cases h
    subst hc
    exact ⟨rfl, rfl, rfl, .inl ⟨rfl, by simp⟩⟩
  · cases h
    subst hb
    exact ⟨rfl, rfl, rfl, .inl ⟨rfl, by simp⟩⟩
  · cases h
    subst hn
    exact ⟨rfl, rfl, rfl, .inl ⟨rfl, by simp⟩⟩
  · cases h
    subst ht
    exact ⟨rfl, rfl, rfl, .inl ⟨rfl, by simp⟩⟩
  · cases h
    exact ⟨(if_neg hc).symm, (if_neg hn).symm, (if_neg ht).symm, .inl ⟨rfl, fun hnot => hp hnot.1⟩⟩

lemma readFields_single {γ : Type} (field : DocumentFields → γ) (read : Cbor → γ) (key : String)
    (hs : ∀ fs k v fields', readField fs k v = .ok fields' →
      field fields' = if k = key.toList then read v else field fs)
    (h : readFields entries fs = .ok fields') :
    field fields' = ((lastEntry key entries).map read).getD (field fs) := by
  induction entries generalizing fs with
  | nil =>
    cases h
    rfl
  | cons entry entries ih =>
    obtain ⟨k, v⟩ := entry
    rw [readFields] at h
    rw [lastEntry]
    rcases hk : k.asText with _ | text
    · rw [hk] at h
      rw [ih h, if_neg (by simp), Option.or_none]
    rw [hk] at h
    obtain ⟨next, hn, h⟩ := bind_eq_ok.mp h
    rw [ih h, hs _ _ _ _ hn]
    rcases lastEntry key entries with _ | w
    · by_cases ht : text = key.toList <;> simp [ht]
    rfl

lemma pcrEntry_singleton {k v : Cbor} {i : ℕ} {val : Bytes} :
    PcrEntry [(k, v)] i val ↔ ∃ pcrs, k = .text "pcrs".toList ∧ v = .map pcrs ∧
      (Cbor.integer i, Cbor.bytes val) ∈ pcrs := by
  simp [PcrEntry, eq_comm, and_assoc]

lemma gathers_readFields (h : readFields entries fs = .ok fields') :
    Gathers (PcrEntry entries) fs.pcrs fields'.pcrs := by
  induction entries generalizing fs with
  | nil =>
    cases h
    refine .same fun i val => ?_
    rintro ⟨pcrs, hmem, -⟩
    cases hmem
  | cons entry entries ih =>
    obtain ⟨k, v⟩ := entry
    -- what the first entry tells
    have hf : ∃ next, Gathers (PcrEntry [(k, v)]) fs.pcrs next.pcrs ∧
        readFields entries next = .ok fields' := by
      rw [readFields] at h
      cases hk : k.asText with
      | none =>
        rw [hk] at h
        refine ⟨fs, .same fun i val he => ?_, h⟩
        obtain ⟨pcrs, hkey, -⟩ := pcrEntry_singleton.mp he
        rw [hkey] at hk
        cases hk
      | some text =>
        rw [hk] at h
        obtain ⟨next, hn, h⟩ := bind_eq_ok.mp h
        refine ⟨next, ?_, h⟩
        have hkey := asText_eq_some.mp hk
        obtain ⟨-, -, -, ⟨hs, hnot⟩ | ⟨pcrs, rfl, rfl, hr⟩⟩ := readField_eq_ok hn
        · rw [hs]
          refine .same fun i val he => hnot ?_
          obtain ⟨pcrs, hp, hv, -⟩ := pcrEntry_singleton.mp he
          rw [hkey, Cbor.text.injEq] at hp
          exact ⟨hp, by rw [hv]; rfl⟩
        · refine (gathers_readPcrs hr).trans (.same fun _ _ => not_false) fun i val => ?_
          simp [pcrEntry_singleton, hkey]
    obtain ⟨next, hn, hre⟩ := hf
    refine hn.trans (ih hre) fun i value => ?_
    simp [PcrEntry, or_and_right, exists_or]

/-- What the fields of a parsed document are. -/
theorem documentOf_eq_ok {doc : NitroDocument} (h : documentOf entries = .ok doc) :
    lastEntry "certificate" entries = some (.bytes doc.certificate) ∧
    doc.nonce = (lastEntry "nonce" entries).bind asBytes ∧
    doc.timestampMs = ((lastEntry "timestamp" entries).bind asU64).getD 0 ∧
    (∀ i val, doc.pcrs i = some val → PcrEntry entries i val) ∧
    ∀ i val, PcrEntry entries i val → doc.pcrs i ≠ none := by
  obtain ⟨fs, hf, h⟩ := bind_eq_ok.mp h
  obtain ⟨certificate, hce, h⟩ := bind_eq_ok.mp h
  cases h
  have hc := readFields_single DocumentFields.certificate asBytes "certificate"
    (fun _ _ _ _ hr => (readField_eq_ok hr).1) hf
  have hn := readFields_single DocumentFields.nonce asBytes "nonce"
    (fun _ _ _ _ hr => (readField_eq_ok hr).2.1) hf
  have ht := readFields_single DocumentFields.timestampMs (fun v => v.asU64.getD 0) "timestamp"
    (fun _ _ _ _ hr => (readField_eq_ok hr).2.2.1) hf
  have hp := gathers_readFields hf
  rw [okOr_eq_ok.mp hce] at hc
  refine ⟨?_, ?_, ?_, fun i val hi => (hp.source i val hi).resolve_left ?_, hp.gathered⟩
  · rcases hl : lastEntry "certificate" entries with _ | v
    · rw [hl] at hc
      cases hc
    rw [hl] at hc
    rw [asBytes_eq_some.mp hc.symm]
  · rw [hn]
    rcases lastEntry "nonce" entries with _ | v <;> rfl
  · rw [ht]
    rcases lastEntry "timestamp" entries with _ | v <;> rfl
  · intro hno
    cases hno

variable (L : NitroLibraries)

/-- The certificate may sign others. -/
def IsCa (cert : L.Cert) : Prop :=
  (∃ bc, L.basicConstraints cert = .ok (some bc) ∧ bc.ca = true) ∧
    ∃ usage, L.keyCertSign cert = .ok usage ∧ usage ≠ some false

/-- One certificate of a chain, and the next one. -/
structure Link (now : L.Time) (subject issuer : L.Cert) : Prop where
  valid : L.isValidAt subject now = true
  name : L.issuer subject = L.subject issuer
  ca : IsCa L issuer
  signed : L.verifySignature subject (some (L.publicKey issuer)) = .ok ()

def PathLen (depth : ℕ) (cert : L.Cert) : Prop :=
  ∀ bc, L.basicConstraints cert = .ok (some bc) → ∀ max ∈ bc.pathLenConstraint, depth ≤ max

/-- The certificates form a chain within the path lengths. -/
structure Certified (now : L.Time) (certs : List L.Cert) : Prop where
  links : certs.IsChain (Link L now)
  lengths : ∀ i issuer, certs[i + 1]? = some issuer → PathLen L i issuer

/-- A chain leads from the leaf to the root, which signs itself. -/
def ChainTo (clock : ℕ) (rootPem : List Char) (leaf : L.Cert) : Prop :=
  ∃ rootDer root now certs, L.parsePem rootPem = .ok rootDer ∧ L.fromDer rootDer = .ok root ∧
    L.time clock = .ok now ∧ Certified L now (leaf :: certs ++ [root]) ∧
    L.isValidAt root now = true ∧ L.verifySignature root none = .ok ()

/-- The key of the leaf verifies the signature. -/
def SignedBy (sign1 : L.CoseSign1) (leaf : L.Cert) : Prop :=
  ∃ key signature, L.verifyingKey (L.subjectPublicKey leaf) = .ok key ∧
    L.signatureOf (L.signature sign1) = .ok signature ∧
    L.verify key (L.toBeSigned sign1 []) signature = .ok ()

/-- The bytes are a document with these entries, signed with the key of a certificate from which a
chain leads to the root. -/
def SignedDocument (clock : ℕ) (rootPem : List Char) (evidence : Bytes)
    (entries : List (Cbor × Cbor)) : Prop :=
  ∃ sign1 payload leafDer leaf, parseSign1 L evidence = .ok sign1 ∧ L.payload sign1 = some payload ∧
    L.cbor payload = .ok (.map entries) ∧
    lastEntry "certificate" entries = some (.bytes leafDer) ∧ L.fromDer leafDer = .ok leaf ∧
    ChainTo L clock rootPem leaf ∧ SignedBy L sign1 leaf

variable {L}

lemma SignedDocument.entries_eq {clk clk' : ℕ} {rootPem rootPem' : List Char}
    {evd : Bytes} {entries' : List (Cbor × Cbor)}
    (h : SignedDocument L clk rootPem evd entries)
    (h' : SignedDocument L clk' rootPem' evd entries') : entries = entries' := by
  obtain ⟨sign1, pl, leafDer, leaf, hpa, hp, hc, -⟩ := h
  obtain ⟨sign1', pl', leafDer', leaf', hpa', hp', hc', -⟩ := h'
  rw [hpa, Except.ok.injEq] at hpa'
  subst hpa'
  rw [hp, Option.some.injEq] at hp'
  subst hp'
  rw [hc, Except.ok.injEq, map.injEq] at hc'
  exact hc'

lemma libraryErr_eq_ok {α : Type} {err : String → AttestationError} {text : String}
    {x : Except String α} {a : α} : libraryErr err text x = .ok a ↔ x = .ok a := by
  rcases x with e | b <;> simp [libraryErr]

lemma isCa_of_enforceCaIssuer {issuer : L.Cert} {depth index : ℕ}
    (h : enforceCaIssuer L issuer depth index = .ok ()) : IsCa L issuer ∧ PathLen L depth issuer := by
  obtain ⟨constraints, hc, h⟩ := bind_eq_ok.mp h
  obtain ⟨bc, hbc, h⟩ := bind_eq_ok.mp h
  obtain ⟨hca, h⟩ := unit_bind_eq_ok.mp h
  obtain ⟨hl, h⟩ := unit_bind_eq_ok.mp h
  obtain ⟨usage, hu, h⟩ := bind_eq_ok.mp h
  have hp := libraryErr_eq_ok.mp hc
  rw [okOr_eq_ok.mp hbc] at hp
  refine ⟨⟨⟨bc, hp, ?_⟩, usage, libraryErr_eq_ok.mp hu, rejectIf_eq_ok.mp h⟩, ?_⟩
  · simpa using rejectIf_eq_ok.mp hca
  · intro bc' hbc' max hmax
    rw [hp, Except.ok.injEq, Option.some.injEq] at hbc'
    subst hbc'
    rw [Option.mem_def.mp hmax] at hl
    exact not_lt.mp (rejectIf_eq_ok.mp hl)

lemma link_of_checkLink {now : L.Time} {i : ℕ} {subject issuer : L.Cert}
    (h : checkLink L now i subject issuer = .ok ()) :
    Link L now subject issuer ∧ PathLen L i issuer := by
  obtain ⟨hv, h⟩ := unit_bind_eq_ok.mp h
  obtain ⟨hn, h⟩ := unit_bind_eq_ok.mp h
  obtain ⟨hca, h⟩ := unit_bind_eq_ok.mp h
  obtain ⟨hi, hl⟩ := isCa_of_enforceCaIssuer hca
  refine ⟨⟨?_, not_not.mp (rejectIf_eq_ok.mp hn), hi, libraryErr_eq_ok.mp h⟩, hl⟩
  simpa using rejectIf_eq_ok.mp hv

lemma certified_of_checkLinks {now : L.Time} {i : ℕ} {certs : List L.Cert}
    (h : checkLinks L now i certs = .ok ()) : certs.IsChain (Link L now) ∧
      ∀ j issuer, certs[j + 1]? = some issuer → PathLen L (i + j) issuer := by
  induction certs generalizing i with
  | nil => exact ⟨.nil, nofun⟩
  | cons subject certs ih =>
    rcases certs with _ | ⟨issuer, certs⟩
    · exact ⟨.singleton subject, nofun⟩
    obtain ⟨hli, hr⟩ := unit_bind_eq_ok.mp h
    obtain ⟨hh, hle⟩ := link_of_checkLink hli
    obtain ⟨hc, hl⟩ := ih hr
    refine ⟨.cons_cons hh hc, fun j cert hj => ?_⟩
    rcases j with _ | j
    · cases hj
      exact hle
    have ht := hl j cert hj
    rwa [Nat.add_right_comm] at ht

lemma chainTo_of_verifyCertChain {clock : ℕ} {doc : NitroDocument} {rootPem : List Char}
    (h : verifyCertChain L clock doc rootPem = .ok ()) :
    ∃ leaf, L.fromDer doc.certificate = .ok leaf ∧ ChainTo L clock rootPem leaf := by
  obtain ⟨rootDer, hpem, h⟩ := bind_eq_ok.mp h
  obtain ⟨certs, hc, h⟩ := bind_eq_ok.mp h
  obtain ⟨root, hr, h⟩ := bind_eq_ok.mp h
  obtain ⟨now, hnow, h⟩ := bind_eq_ok.mp h
  obtain ⟨hli, h⟩ := unit_bind_eq_ok.mp h
  obtain ⟨hv, hs⟩ := unit_bind_eq_ok.mp h
  obtain ⟨leaf, hlf, hc⟩ := bind_eq_ok.mp hc
  obtain ⟨others, ho, hc⟩ := bind_eq_ok.mp hc
  cases hc
  obtain ⟨hch, hl⟩ := certified_of_checkLinks hli
  refine ⟨leaf, libraryErr_eq_ok.mp hlf, rootDer, root, now, others, libraryErr_eq_ok.mp hpem,
    libraryErr_eq_ok.mp hr, libraryErr_eq_ok.mp hnow, ⟨hch, fun i iss hi => ?_⟩, ?_,
    libraryErr_eq_ok.mp hs⟩
  · have hle := hl i iss hi
    rwa [Nat.zero_add] at hle
  · simpa using rejectIf_eq_ok.mp hv

lemma signedBy_of_verifyCoseSignature {sign1 : L.CoseSign1} {leafDer : Bytes} {leaf : L.Cert}
    (hl : L.fromDer leafDer = .ok leaf) (h : verifyCoseSignature L sign1 leafDer = .ok ()) :
    SignedBy L sign1 leaf := by
  obtain ⟨leaf', hl', hr⟩ := bind_eq_ok.mp h
  obtain ⟨key, hkey, hc⟩ := bind_eq_ok.mp hr
  obtain ⟨sig, hs, hv⟩ := bind_eq_ok.mp (libraryErr_eq_ok.mp hc)
  rw [libraryErr_eq_ok, hl, Except.ok.injEq] at hl'
  subst hl'
  exact ⟨key, sig, libraryErr_eq_ok.mp hkey, hs, hv⟩

/-- **Accepted documents.** An accepted document is signed, and the report is made from what its
entries say. -/
theorem verifyDocument_eq_ok {V : NitroVerifier} {clk now : ℕ} {cose : Bytes}
    {policy : AttestationPolicy} {v : VerifiedAttestation}
    (h : V.verifyDocument L clk now cose policy = .ok v) :
    ∃ entries doc, SignedDocument L clk V.rootCertPem cose entries ∧ documentOf entries = .ok doc ∧
      enforcePcrAndNoncePolicy doc (V.policyWith policy) = .ok () ∧
      enforceAge (V.policyWith policy).maxAgeSecs now (doc.timestampMs / 1000) = .ok () ∧
      v = ⟨doc.report cose, .awsNitro⟩ := by
  obtain ⟨sign1, hpa, h⟩ := bind_eq_ok.mp h
  obtain ⟨pl, hp, h⟩ := bind_eq_ok.mp h
  obtain ⟨doc, hdoc, h⟩ := bind_eq_ok.mp h
  obtain ⟨hch, h⟩ := unit_bind_eq_ok.mp h
  obtain ⟨hs, h⟩ := unit_bind_eq_ok.mp h
  obtain ⟨hpo, h⟩ := unit_bind_eq_ok.mp h
  obtain ⟨hage, h⟩ := unit_bind_eq_ok.mp h
  cases h
  obtain ⟨val, hcb, hdoc⟩ := bind_eq_ok.mp hdoc
  obtain ⟨entries, hmap, hdoc⟩ := bind_eq_ok.mp hdoc
  have hv := asMap_eq_some.mp (okOr_eq_ok.mp hmap)
  subst hv
  obtain ⟨leaf, hl, hto⟩ := chainTo_of_verifyCertChain hch
  have hc := (documentOf_eq_ok hdoc).1
  exact ⟨entries, doc, ⟨sign1, pl, doc.certificate, leaf, libraryErr_eq_ok.mp hpa,
    okOr_eq_ok.mp hp, libraryErr_eq_ok.mp hcb, hc, hl, hto,
    signedBy_of_verifyCoseSignature hl hs⟩, hdoc, hpo, hage, rfl⟩

/-! ## The level of a verification

A verifier says whether its verification is cryptographic. If it is, the report that comes back
should be that of a signed document: `Honest`. For documents, `verifyDocument` makes the report, and
it is `Contained` in the document as far as the document is `Complete`. A report without a document
comes back as it was given, whatever it says (`cryptographic_honest_iff`). -/

open List Option

/-- The verifiers that come with the crate. -/
inductive BuiltInVerifier where
  | awsNitro (V : NitroVerifier)
  | azureSnp (V : TokenVerifier)
  | gcpConfidential (V : TokenVerifier)
  | native (V : NativeVerifier)
  | sevSnp (V : SevSnpVerifier)
  | tdx (V : TdxVerifier)

def BuiltInVerifier.verify (L : NitroLibraries) (clock now : ℕ) :
    BuiltInVerifier → AttestationReport → Except TeeError VerifiedAttestation
  | .awsNitro V => V.verify L clock now
  | .azureSnp V => V.verifyAzureSnp
  | .gcpConfidential V => V.verifyGcpConfidential
  | .native V => V.verify
  | .sevSnp V => V.toNative.verify
  | .tdx V => V.toNative.verify

def BuiltInVerifier.verificationLevel : BuiltInVerifier → VerificationLevel
  | .awsNitro _ => .cryptographic
  | _ => .structural

/-- The provider, the measurement, the claims and the time of the report are those of the document. -/
structure Contained (entries : List (Cbor × Cbor)) (report : AttestationReport) : Prop where
  provider : report.provider = .awsNitro
  measured : ∃ pcr0, PcrEntry entries 0 pcr0 ∧
    report.measurement = Measurement.sha384 (hexEncode pcr0) ∧
    report.claims.debugMode = allZero pcr0
  issued : ∃ ms, (lastEntry "timestamp" entries).bind Cbor.asU64 = some ms ∧
    report.issuedAtUnix = ms / 1000
  bootMeasurements : ∀ m ∈ report.claims.bootMeasurements, ∃ i pcr, PcrEntry entries i pcr ∧
    m = pcrName i ++ ':' :: hexEncode pcr
  custom : ∀ key value, report.claims.custom.lookup key = some value →
    (∃ i pcr, PcrEntry entries i pcr ∧ key = pcrName i ∧ value = .string (hexEncode pcr)) ∨
    key = "nonce".toList ∧ ∃ text, value = .string text ∧
      lastEntry "nonce" entries = some (.bytes (utf8 text))
  others : report.claims.platformVersion = none ∧ report.claims.signerId = none ∧
    report.claims.productId = none ∧ report.claims.userData = none

/-- The document has what a report is made of: PCR0, a time, and a nonce, if any, that is a text. -/
structure Complete (entries : List (Cbor × Cbor)) : Prop where
  measured : ∃ pcr0, PcrEntry entries 0 pcr0
  issued : ((lastEntry "timestamp" entries).bind Cbor.asU64).isSome = true
  nonce : ∀ nonce, (lastEntry "nonce" entries).bind Cbor.asBytes = some nonce →
    utf8 (fromUtf8Lossy nonce) = nonce

/-- The evidence is a signed document, and the report says what it says. -/
def Honest (L : NitroLibraries) (clock : ℕ) (rootPem : List Char) (report : AttestationReport) :
    Prop :=
  ∃ entries, SignedDocument L clock rootPem report.evidence entries ∧ Contained entries report

variable {doc : NitroDocument}

lemma mem_registers {r : ℕ × Bytes} (h : r ∈ doc.registers) : doc.pcrs r.1 = some r.2 := by
  obtain ⟨i, -, hi⟩ := mem_filterMap.mp h
  obtain ⟨val, hv, rfl⟩ := map_eq_some_iff.mp hi
  exact hv

lemma lookup_custom {key : List Char} {val : Json} (h : doc.custom.lookup key = some val) :
    (∃ i pcr, doc.pcrs i = some pcr ∧ key = pcrName i ∧ val = .string (hexEncode pcr)) ∨
    key = "nonce".toList ∧ ∃ nonce, doc.nonce = some nonce ∧
      val = .string (fromUtf8Lossy nonce) := by
  have hre : doc.registerClaims.lookup key = some val →
      ∃ i pcr, doc.pcrs i = some pcr ∧ key = pcrName i ∧ val = .string (hexEncode pcr) := by
    intro hl
    obtain ⟨r, hr, heq⟩ := mem_map.mp (HashMap.mem_of_lookup_collect hl)
    cases heq
    exact ⟨r.1, r.2, mem_registers hr, rfl, rfl⟩
  rw [NitroDocument.custom] at h
  rcases hn : doc.nonce with _ | nonce
  · rw [hn] at h
    exact .inl (hre h)
  rw [hn] at h
  rcases HashMap.lookup_insert_cases h with ⟨hkey, rfl⟩ | h
  · exact .inr ⟨hkey, nonce, rfl, rfl⟩
  · exact .inl (hre h)

lemma pcrName_ne_nonce (i : ℕ) : "nonce".toList ≠ pcrName i := by
  intro h
  have hh : some 'n' = some 'p' := congrArg head? h
  exact absurd hh (by decide)

/-- The report made of a document says what the document says, as far as that is complete. -/
lemma contained_report_iff {entries : List (Cbor × Cbor)} (hdoc : documentOf entries = .ok doc)
    (cose : Bytes) : Contained entries (doc.report cose) ↔ Complete entries := by
  obtain ⟨-, hno, ht, hf, hk⟩ := documentOf_eq_ok hdoc
  constructor
  · intro h
    obtain ⟨pcr0, hp, -⟩ := h.measured
    obtain ⟨ms, hms, -⟩ := h.issued
    refine ⟨⟨pcr0, hp⟩, by rw [hms]; rfl, fun nonce hn => ?_⟩
    rw [hn] at hno
    have hl : doc.custom.lookup "nonce".toList = some (.string (fromUtf8Lossy nonce)) := by
      rw [NitroDocument.custom, hno]
      exact Finmap.lookup_insert _
    rcases h.custom _ _ hl with ⟨i, pcr, -, hkey, -⟩ | ⟨-, text, hva, hla⟩
    · exact absurd hkey (pcrName_ne_nonce i)
    rw [Json.string.injEq] at hva
    rw [hla] at hn
    cases hn
    rw [hva]
  · intro h
    obtain ⟨val, hva⟩ := h.measured
    obtain ⟨ms, hms⟩ := isSome_iff_exists.mp h.issued
    obtain ⟨pcr0, hp⟩ := ne_none_iff_exists'.mp (hk 0 val hva)
    refine ⟨rfl, ⟨pcr0, hf 0 pcr0 hp, ?_, ?_⟩, ⟨ms, hms, ?_⟩, fun m hm => ?_,
      fun key val hl => ?_, rfl, rfl, rfl, rfl⟩
    · show Measurement.sha384 (((doc.pcrs 0).map hexEncode).getD []) = _
      rw [hp]
      rfl
    · show ((doc.pcrs 0).map allZero).getD false = _
      rw [hp]
      rfl
    · show doc.timestampMs / 1000 = _
      rw [ht, hms]
      rfl
    · obtain ⟨r, hr, rfl⟩ := mem_map.mp hm
      exact ⟨r.1, r.2, hf r.1 r.2 (mem_registers hr), rfl⟩
    · rcases lookup_custom hl with ⟨i, pcr, hpcr, hkey, hva⟩ | ⟨hkey, nonce, hn, hva⟩
      · exact .inl ⟨i, pcr, hf i pcr hpcr, hkey, hva⟩
      refine .inr ⟨hkey, fromUtf8Lossy nonce, hva, ?_⟩
      rw [hn] at hno
      rw [h.nonce nonce hno.symm]
      obtain ⟨v, hv, hb⟩ := bind_eq_some_iff.mp hno.symm
      rw [hv, Cbor.asBytes_eq_some.mp hb]

variable {L : NitroLibraries}

/-- An accepted document is signed, and the report made of it is honest exactly when it is complete. -/
lemma honest_verifyDocument_iff {V : NitroVerifier} {clk now : ℕ} {cose : Bytes}
    {policy : AttestationPolicy} {v : VerifiedAttestation}
    (h : V.verifyDocument L clk now cose policy = .ok v) :
    v.report.evidence = cose ∧ ∃ entries, SignedDocument L clk V.rootCertPem cose entries ∧
      (Honest L clk V.rootCertPem v.report ↔ Complete entries) := by
  obtain ⟨entries, doc, hs, hdoc, -, -, rfl⟩ := verifyDocument_eq_ok h
  refine ⟨rfl, entries, hs, ?_⟩
  constructor
  · rintro ⟨ents', hs', hc⟩
    rw [hs'.entries_eq hs] at hc
    exact (contained_report_iff hdoc cose).mp hc
  · exact fun hco => ⟨entries, hs, (contained_report_iff hdoc cose).mpr hco⟩

/-- The report with other user data, which no document has. -/
def AttestationReport.withUserData (report : AttestationReport) (data : Bytes) : AttestationReport :=
  { report with claims := { report.claims with userData := some data } }

lemma not_honest_withUserData (report : AttestationReport) (data : Bytes) (clk : ℕ) (rootPem : List Char) :
    ¬ Honest L clk rootPem (report.withUserData data) := by
  rintro ⟨entries, -, hc⟩
  cases hc.others.2.2.2

/-- **Honest levels.** A verifier whose level is cryptographic accepts a document only if it is signed under its
root, and what it returns is honest exactly when the document is complete. A report without a document comes back as
it was given, and with any other user data it is accepted as well, which is not honest. -/
theorem cryptographic_honest_iff {B : BuiltInVerifier} (hlevel : B.verificationLevel = .cryptographic)
    {clock now : ℕ} {report : AttestationReport} {v : VerifiedAttestation}
    (h : B.verify L clock now report = .ok v) :
    ∃ V, B = .awsNitro V ∧ v.report.evidence = report.evidence ∧
      (report.HasDocument → ∃ entries, SignedDocument L clock V.rootCertPem report.evidence entries ∧
        (Honest L clock V.rootCertPem v.report ↔ Complete entries)) ∧
      (¬ report.HasDocument → v.report = report ∧ ∀ data,
        B.verify L clock now (report.withUserData data) = .ok ⟨report.withUserData data, .awsNitro⟩ ∧
        ¬ Honest L clock V.rootCertPem (report.withUserData data)) := by
  cases B with
  | awsNitro V =>
    refine ⟨V, rfl, ?_⟩
    obtain ⟨hp, h⟩ := unit_bind_eq_ok.mp h
    by_cases hd : report.HasDocument
    · rw [if_pos hd, mapError_eq_ok] at h
      obtain ⟨he, hiff⟩ := honest_verifyDocument_iff h
      exact ⟨he, fun _ => hiff, fun hn => absurd hd hn⟩
    · rw [if_neg hd] at h
      obtain ⟨hdebug, h⟩ := unit_bind_eq_ok.mp h
      obtain ⟨hm, h⟩ := unit_bind_eq_ok.mp h
      cases h
      refine ⟨rfl, fun hd' => absurd hd' hd, fun _ => ⟨rfl, fun data => ⟨?_, not_honest_withUserData _ _ _ _⟩⟩⟩
      -- nothing that is checked has changed
      have hd' : ¬ (report.withUserData data).HasDocument := hd
      refine unit_bind_eq_ok.mpr ⟨hp, ?_⟩
      rw [if_neg hd']
      exact unit_bind_eq_ok.mpr ⟨hdebug, unit_bind_eq_ok.mpr ⟨hm, rfl⟩⟩
  | _ => cases hlevel

abbrev librariesFor (entries : List (Cbor × Cbor)) : NitroLibraries where
  CoseSign1 := Unit
  Cert := Unit
  Name := Unit
  PublicKey := Unit
  Time := Unit
  VerifyingKey := Unit
  Signature := Unit
  decideName := inferInstance
  fromTaggedSlice _ := .ok ()
  fromSlice _ := .ok ()
  payload _ := some []
  signature _ := []
  toBeSigned _ _ := []
  cbor _ := .ok (.map entries)
  parsePem _ := .ok []
  fromDer _ := .ok ()
  time _ := .ok ()
  isValidAt _ _ := true
  issuer _ := ()
  subject _ := ()
  publicKey _ := ()
  subjectPublicKey _ := []
  basicConstraints _ := .ok (some ⟨true, none⟩)
  keyCertSign _ := .ok none
  verifySignature _ _ := .ok ()
  verifyingKey _ := .ok ()
  signatureOf _ := .ok ()
  verify _ _ _ := .ok ()

abbrev noDocuments : NitroLibraries :=
  { librariesFor [] with
    fromTaggedSlice := fun _ => .error "not tagged"
    fromSlice := fun _ => .error "not an array" }

abbrev plainNitro : NitroVerifier := ⟨none, none, false, []⟩

abbrev madeUp : AttestationReport :=
  ⟨.awsNitro, .mock, 0, ⟨"sha384".toList, "00".toList⟩, none, AttestationClaims.new, []⟩

abbrev withDocument : AttestationReport := { madeUp with format := .nitroDocument, evidence := [0] }

abbrev completeEntries : List (Cbor × Cbor) :=
  [(.text "certificate".toList, .bytes []), (.text "pcrs".toList, .map [(.integer 0, .bytes [7])]),
    (.text "timestamp".toList, .integer 1000)]

abbrev completeDocument : NitroDocument :=
  ⟨Function.update (fun _ => none) 0 (some [7]), [], [], none, 1000⟩

theorem cryptographic_honest_iff_document :
    (BuiltInVerifier.awsNitro plainNitro).verificationLevel = .cryptographic ∧
      (BuiltInVerifier.awsNitro plainNitro).verify (librariesFor completeEntries) 0 1 withDocument
        = .ok ⟨completeDocument.report [0], .awsNitro⟩ ∧ withDocument.HasDocument ∧
      ∃ V entries, BuiltInVerifier.awsNitro plainNitro = .awsNitro V ∧
        SignedDocument (librariesFor completeEntries) 0 V.rootCertPem withDocument.evidence entries ∧
        (Honest (librariesFor completeEntries) 0 V.rootCertPem (completeDocument.report [0]) ↔
          Complete entries) := by
  have h : (BuiltInVerifier.awsNitro plainNitro).verify (librariesFor completeEntries) 0 1 withDocument
      = .ok ⟨completeDocument.report [0], .awsNitro⟩ := rfl
  have hd : withDocument.HasDocument := by decide
  obtain ⟨V, hV, -, hdoc, -⟩ := cryptographic_honest_iff rfl h
  obtain ⟨entries, hs, hiff⟩ := hdoc hd
  exact ⟨rfl, h, hd, V, entries, hV, hs, hiff⟩

/-- A report without evidence is accepted by the verifier whose level is cryptographic. A document
without PCR0 is accepted too, and the report then says that the measurement is empty. -/
theorem unsigned_report_accepted :
    ((BuiltInVerifier.awsNitro plainNitro).verificationLevel = .cryptographic ∧
      (BuiltInVerifier.awsNitro plainNitro).verify noDocuments 0 0 madeUp
        = .ok ⟨madeUp, .awsNitro⟩ ∧
      ¬ Honest noDocuments 0 plainNitro.rootCertPem madeUp) ∧
    ((BuiltInVerifier.awsNitro plainNitro).verify
        (librariesFor [(.text "certificate".toList, .bytes []), (.text "timestamp".toList, .integer 1000)])
        0 1 withDocument).map
      (fun v => (v.report.measurement, v.report.issuedAtUnix)) = .ok (⟨"sha384".toList, []⟩, 1) := by
  refine ⟨⟨rfl, rfl, ?_⟩, rfl⟩
  rintro ⟨entries, ⟨sign1, payload, leafDer, leaf, hp, -⟩, -⟩
  cases hp

end Gadget.Tee
