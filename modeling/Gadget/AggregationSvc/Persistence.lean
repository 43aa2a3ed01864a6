import Gadget.Lib.Run
import Gadget.Rust.HashMap
import Gadget.Rust.Text
import Gadget.Rust.Time

/-!
# One aggregation task, and how it is stored

`TaskState` of the aggregation service: the signatures collected for one job call, the
bitmap of the operators that signed, and the threshold. The curve BN254 is a parameter.

Then the record a task is stored as, and the two conversions. Points and the bitmap are written
as text, instants as milliseconds on the wall clock. Reading a record back replays its
signatures one by one and compares the redundant fields.
-/

namespace Gadget.AggregationSvc

open Rust

/-- The signatures on the curve BN254: points with their compressed encoding, the two ways to
verify, and aggregation. -/
structure Bn254 where
  Signature : Type
  PublicKey : Type
  serializeSignature : Signature → Except String Bytes
  deserializeSignature : Bytes → Except String Signature
  serializePublicKey : PublicKey → Except String Bytes
  deserializePublicKey : Bytes → Except String PublicKey
  verify : PublicKey → Bytes → Signature → Bool
  verifyTangle : PublicKey → Bytes → Signature → Bool
  aggregate : List Signature → List PublicKey → Except String (Signature × PublicKey)
  signature_roundTrip : ∀ p, ∃ b, serializeSignature p = .ok b ∧ deserializeSignature b = .ok p
  publicKey_roundTrip : ∀ p, ∃ b, serializePublicKey p = .ok b ∧ deserializePublicKey b = .ok p

def Bn254.bytePoints : Bn254 where
  Signature := UInt8
  PublicKey := UInt8
  serializeSignature p := .ok [p]
  deserializeSignature bytes := if h : bytes ≠ [] then .ok (bytes.head h) else .error "empty"
  serializePublicKey p := .ok [p]
  deserializePublicKey bytes := if h : bytes ≠ [] then .ok (bytes.head h) else .error "empty"
  verify pk _ sig := pk == sig
  verifyTangle pk _ sig := pk == sig
  aggregate signatures publicKeys :=
    .ok (signatures.foldr (· + ·) 0, publicKeys.foldr (· + ·) 0)
  signature_roundTrip p := ⟨[p], rfl, rfl⟩
  publicKey_roundTrip p := ⟨[p], rfl, rfl⟩

abbrev U32 := Fin (2 ^ 32)

instance U32.neZero : NeZero (2 ^ 32) := ⟨by norm_num⟩

structure TaskId where
  serviceId : ℕ
  callId : ℕ
  deriving DecidableEq

inductive Bn254SignatureScheme where
  | arkworksSha256
  | tangleKeccak256
  deriving DecidableEq

inductive ThresholdType where
  | count (n : ℕ)
  | stakeWeighted (bps : ℕ)
  deriving DecidableEq

structure TaskState (B : Bn254) where
  serviceId : ℕ
  callId : ℕ
  output : Bytes
  message : Bytes
  signatureScheme : Bn254SignatureScheme
  operatorCount : U32
  thresholdType : ThresholdType
  signerBitmap : BitVec 256
  signatures : HashMap ℕ B.Signature
  publicKeys : HashMap ℕ B.PublicKey
  operatorStakes : HashMap ℕ ℕ
  totalStake : ℕ
  submitted : Bool
  submittedAt : Option ℤ
  createdAt : ℤ
  expiresAt : Option ℤ

namespace TaskState

open Option Finset HashMap

variable {B : Bn254} (t : TaskState B)

def taskId : TaskId := ⟨t.serviceId, t.callId⟩

def defaultStakes (operatorCount : ℕ) : HashMap ℕ ℕ :=
  HashMap.collect ((List.range operatorCount).map fun i => (i, 1))

def exactStake (stakes : HashMap ℕ ℕ) (operators : Finset ℕ) : ℕ :=
  ∑ i ∈ operators, (stakes.lookup i).getD 0

variable (serviceId callId : ℕ)

def create (output message : Bytes) (signatureScheme : Bn254SignatureScheme) (operatorCount : U32)
    (thresholdType : ThresholdType) (operatorStakes : Option (HashMap ℕ ℕ))
    (expiresAt : Option ℤ) (now : ℤ) : TaskState B :=
  let (stakes, totalStake) :=
    -- `sum` of a release build wraps around
    match operatorStakes with
    | some stakes => (stakes, wrap64 (exactStake stakes stakes.keys))
    | none => (defaultStakes operatorCount, (operatorCount : ℕ))
  { serviceId := serviceId
    callId := callId
    output := output
    message := message
    signatureScheme := signatureScheme
    operatorCount := operatorCount
    thresholdType := thresholdType
    signerBitmap := 0
    signatures := ∅
    publicKeys := ∅
    operatorStakes := stakes
    totalStake := totalStake
    submitted := false
    submittedAt := none
    createdAt := now
    expiresAt := expiresAt }

/-- Create a task; `none` when the time to live leaves the range of instants (the addition
panics). -/
def withMessageConfig (output message : Bytes)
    (signatureScheme : Bn254SignatureScheme) (operatorCount : U32)
    (thresholdType : ThresholdType) (operatorStakes : Option (HashMap ℕ ℕ))
    (ttl : Option ℕ) (now : ℤ) : Option (TaskState B) :=
  let task := fun expiresAt => create serviceId callId output message signatureScheme
    operatorCount thresholdType operatorStakes expiresAt now
  match ttl with
  | none => some (task none)
  | some d => (checkedAdd now d).map fun e => task (some e)

def isExpired (now : ℤ) : Bool :=
  match t.expiresAt with
  | some e => now > e
  | none => false

def hasSigned (operatorIndex : ℕ) : Bool :=
  (t.signerBitmap >>> operatorIndex) &&& 1#256 == 1#256

def addSignature (operatorIndex : ℕ) (signature : B.Signature)
    (publicKey : B.PublicKey) (now : ℤ) : Except String (TaskState B) :=
  if (t.operatorCount : ℕ) ≤ operatorIndex then .error "Operator index out of bounds"
  else if t.hasSigned operatorIndex then .error "Operator already signed"
  else if t.isExpired now then .error "Task has expired"
  else
    .ok { t with
      -- from operator 256 on the shifted bit is zero
      signerBitmap := t.signerBitmap ||| (1#256 <<< operatorIndex)
      signatures := t.signatures.insert operatorIndex signature
      publicKeys := t.publicKeys.insert operatorIndex publicKey }

def signatureCount : ℕ := t.signatures.keys.card

def signedStake : ℕ := wrap64 (exactStake t.operatorStakes t.signatures.keys)

def signedStakeBps : ℕ :=
  if t.totalStake = 0 then 0
  -- the product is a `u64`, the quotient is cut to a `u32`
  else wrap32 (wrap64 (t.signedStake * 10000) / t.totalStake)

def thresholdMet : Bool :=
  match t.thresholdType with
  | .count n => n ≤ t.signatureCount
  | .stakeWeighted bps => bps ≤ t.signedStakeBps

def thresholdValue : ℕ :=
  match t.thresholdType with
  | .count n => n
  | .stakeWeighted bps => bps

def getNonSigners : List ℕ :=
  (List.range t.operatorCount).filter fun i => !t.hasSigned i

def getSigners : List ℕ := t.signatures.keys.sort (· ≤ ·)

def getSignaturesForAggregation : List B.Signature × List B.PublicKey :=
  (t.getSigners.filterMap fun idx =>
    match t.signatures.lookup idx, t.publicKeys.lookup idx with
    | some sig, some pk => some (sig, pk)
    | _, _ => none).unzip

lemma hasSigned_eq (i : ℕ) : t.hasSigned i = t.signerBitmap.getLsbD i := by
  rw [hasSigned, Bool.eq_iff_iff, beq_iff_eq]
  constructor
  · intro h
    -- compare the lowest bits
    have hbit := congrArg (fun x => BitVec.getLsbD x 0) h
    simpa using hbit
  · intro h
    ext j hj
    by_cases hj0 : j = 0
    · subst hj0
      simpa using h
    · simp [hj0]

lemma getLsbD_signer (bitmap : BitVec 256) (i j : ℕ) :
    (bitmap ||| (1#256 <<< i)).getLsbD j = (bitmap.getLsbD j || decide (j = i ∧ i < 256)) := by
  rw [BitVec.getLsbD_or]
  congr 1
  rw [BitVec.getLsbD_shiftLeft, BitVec.getLsbD_one, Bool.eq_iff_iff]
  simp only [Bool.and_eq_true, decide_eq_true_eq, Bool.not_eq_true', decide_eq_false_iff_not]
  omega

/-- What every operation on a task keeps: both maps have the same operators, all of them in
range, the bitmap is the set of those among the first 256, the total is the sum of the
stakes as a `u64`, and a submitted task knows when. -/
structure WellFormed (t : TaskState B) : Prop where
  keys_eq : t.publicKeys.keys = t.signatures.keys
  index_lt : ∀ i ∈ t.signatures.keys, i < t.operatorCount
  bit_iff : ∀ i, t.signerBitmap.getLsbD i = true ↔ i ∈ t.signatures.keys ∧ i < 256
  total_eq : t.totalStake = wrap64 (exactStake t.operatorStakes t.operatorStakes.keys)
  submittedAt_isSome : t.submitted = true → t.submittedAt.isSome = true

lemma hasSigned_iff {t : TaskState B} (h : t.WellFormed) (i : ℕ) :
    t.hasSigned i = true ↔ i ∈ t.signatures.keys ∧ i < 256 := by
  rw [hasSigned_eq, h.bit_iff]

lemma exactStake_defaultStakes (n : ℕ) :
    exactStake (defaultStakes n) (defaultStakes n).keys = n := by
  have hl : ∀ i, (defaultStakes n).lookup i = if i ∈ List.range n then some 1 else none :=
    fun i => lookup_collect_map (List.range n) (fun _ => 1) i
  have hk : (defaultStakes n).keys = range n := by
    ext i
    rw [mem_keys_iff_lookup, hl]
    simp
  rw [exactStake, hk]
  calc ∑ i ∈ range n, ((defaultStakes n).lookup i).getD 0
      = ∑ _i ∈ range n, 1 := sum_congr rfl fun i hi => by
        rw [hl, if_pos (List.mem_range.mpr (mem_range.mp hi)), getD_some]
    _ = n := by simp

lemma create_wellFormed (output msg : Bytes)
    (scheme : Bn254SignatureScheme) (cnt : U32) (thr : ThresholdType)
    (stakes : Option (HashMap ℕ ℕ)) (exp : Option ℤ) (now : ℤ) :
    (create serviceId callId output msg scheme cnt thr stakes exp now
      : TaskState B).WellFormed := by
  unfold create
  refine ⟨rfl, by simp, by simp, ?_, by simp⟩
  rcases stakes with _ | stakes
  · have hfit : (cnt : ℕ) < 2 ^ 64 := cnt.isLt.trans (by norm_num)
    simp only [exactStake_defaultStakes]
    exact ((wrap64_eq_self_iff _).mpr hfit).symm
  rfl

variable {now : ℤ} {t' : TaskState B} {sig : B.Signature} {pk : B.PublicKey}

lemma withMessageConfig_eq_some {serviceId callId : ℕ} {output msg : Bytes}
    {scheme : Bn254SignatureScheme} {cnt : U32} {thr : ThresholdType}
    {stakes : Option (HashMap ℕ ℕ)} {ttl : Option ℕ} {t : TaskState B}
    (h : withMessageConfig serviceId callId output msg scheme cnt thr stakes ttl now = some t) :
    ∃ expiresAt, t = create serviceId callId output msg scheme cnt thr stakes expiresAt now := by
  rcases ttl with _ | d
  · exact ⟨none, (some.inj h).symm⟩
  obtain ⟨e, -, he⟩ := map_eq_some_iff.mp h
  exact ⟨some e, he.symm⟩

lemma addSignature_eq_ok_iff {t : TaskState B} {i : ℕ} :
    t.addSignature i sig pk now = .ok t' ↔
      i < t.operatorCount ∧ t.hasSigned i = false ∧ t.isExpired now = false ∧
      t' = { t with
        signerBitmap := t.signerBitmap ||| (1#256 <<< i)
        signatures := t.signatures.insert i sig
        publicKeys := t.publicKeys.insert i pk } := by
  unfold addSignature
  by_cases hi : (t.operatorCount : ℕ) ≤ i
  · simp [hi]
  · have hlt : i < t.operatorCount := Nat.not_le.mp hi
    rw [if_neg hi]
    cases t.hasSigned i <;> cases t.isExpired now <;> simp [hlt, @eq_comm _ t']

lemma WellFormed.addSignature {t : TaskState B} (hwf : t.WellFormed) {i : ℕ}
    (h : t.addSignature i sig pk now = .ok t') : t'.WellFormed := by
  obtain ⟨hi, -, -, rfl⟩ := addSignature_eq_ok_iff.mp h
  constructor
  · rw [keys_insert, keys_insert, hwf.keys_eq]
  · intro j hj
    rw [keys_insert, mem_insert] at hj
    rcases hj with rfl | hj
    · exact hi
    · exact hwf.index_lt j hj
  · -- the bit of the new signer is set if it has one, the others stay
    intro j
    rw [getLsbD_signer, Bool.or_eq_true, hwf.bit_iff, decide_eq_true_eq, keys_insert,
      mem_insert]
    constructor
    · rintro (⟨hj, hlt⟩ | ⟨rfl, hlt⟩)
      · exact ⟨.inr hj, hlt⟩
      · exact ⟨.inl rfl, hlt⟩
    · rintro ⟨rfl | hj, hlt⟩
      · exact .inr ⟨rfl, hlt⟩
      · exact .inl ⟨hj, hlt⟩
  · exact hwf.total_eq
  · exact hwf.submittedAt_isSome

end TaskState

section

open List Finmap

variable {B : Bn254}

inductive PersistenceError where
  | io (e : String)
  | serialization (e : String)
  | notFound (taskId : TaskId)
  | backend (e : String)

def PersistenceError.display : PersistenceError → String
  | .io e => "IO error: " ++ e
  | .serialization e => "Serialization error: " ++ e
  | .notFound taskId =>
    "Task not found: TaskId \x7b service_id: " ++ toString taskId.serviceId ++ ", call_id: "
      ++ toString taskId.callId ++ " \x7d"
  | .backend e => "Backend error: " ++ e

inductive PersistedThresholdType where
  | count (n : ℕ)
  | stakeWeighted (n : ℕ)

def PersistedThresholdType.ofThreshold : ThresholdType → PersistedThresholdType
  | .count n => .count n
  | .stakeWeighted n => .stakeWeighted n

def PersistedThresholdType.toThreshold : PersistedThresholdType → ThresholdType
  | .count n => .count n
  | .stakeWeighted n => .stakeWeighted n

structure PersistedTaskState where
  serviceId : ℕ
  callId : ℕ
  output : Bytes
  message : Bytes
  signatureScheme : Bn254SignatureScheme
  operatorCount : U32
  thresholdType : PersistedThresholdType
  signerBitmap : List Char
  signatures : HashMap ℕ (List Char)
  publicKeys : HashMap ℕ (List Char)
  operatorStakes : HashMap ℕ ℕ
  totalStake : ℕ
  submitted : Bool
  submittedAtMs : Option ℕ
  createdAtMs : ℕ
  expiresAtMs : Option ℕ

variable (p : PersistedTaskState)

def PersistedTaskState.taskId : TaskId := ⟨p.serviceId, p.callId⟩

structure TaskClock where
  now : Reading
  submitted : Reading
  created : Reading
  expires : Reading

def encodePoint (bytes : Except String Bytes) : Except PersistenceError (List Char) :=
  match bytes with
  | .error e => .error (.serialization e)
  | .ok bytes => .ok ('0' :: 'x' :: hexEncode bytes)

def PersistedTaskState.tryFrom (t : TaskState B) (order : IterOrder ℕ) (clock : TaskClock) :
    Except PersistenceError PersistedTaskState :=
  match order.tryMapValues (fun sig => encodePoint (B.serializeSignature sig)) t.signatures with
  | .error e => .error e
  | .ok signatures =>
    match order.tryMapValues (fun pk => encodePoint (B.serializePublicKey pk)) t.publicKeys with
    | .error e => .error e
    | .ok publicKeys =>
      .ok
        { serviceId := t.serviceId
          callId := t.callId
          output := t.output
          message := t.message
          signatureScheme := t.signatureScheme
          operatorCount := t.operatorCount
          thresholdType := .ofThreshold t.thresholdType
          signerBitmap := formatHex t.signerBitmap.toNat
          signatures := signatures
          publicKeys := publicKeys
          operatorStakes := t.operatorStakes
          totalStake := t.totalStake
          submitted := t.submitted
          submittedAtMs := t.submittedAt.map (instantToMillis clock.submitted)
          createdAtMs := instantToMillis clock.created t.createdAt
          expiresAtMs := t.expiresAt.map (instantToMillis clock.expires) }

def decodeBytes (value : List Char) : Except PersistenceError Bytes :=
  (hexDecode (stripHexMarker value)).mapError .serialization

def decodeSignature (B : Bn254) (value : List Char) : Except PersistenceError B.Signature :=
  match decodeBytes value with
  | .error e => .error e
  | .ok bytes => (B.deserializeSignature bytes).mapError .serialization

def decodePublicKey (B : Bn254) (value : List Char) : Except PersistenceError B.PublicKey :=
  match decodeBytes value with
  | .error e => .error e
  | .ok bytes => (B.deserializePublicKey bytes).mapError .serialization

def parseU256 (value : List Char) : Except PersistenceError (BitVec 256) :=
  match radix16 (stripHexMarker value) 0 with
  | .error e => .error (.serialization e)
  | .ok n => .ok (BitVec.ofNat 256 n)

def missingEntry (kind : String) (index : ℕ) : PersistenceError :=
  .serialization ("missing " ++ kind ++ " for operator " ++ toString index)

def decodeEntry (B : Bn254) (p : PersistedTaskState) (index : ℕ) :
    Except PersistenceError (B.Signature × B.PublicKey) :=
  match p.signatures.lookup index with
  | none => .error (missingEntry "signature" index)
  | some signature =>
    match decodeSignature B signature with
    | .error e => .error e
    | .ok signature =>
      match p.publicKeys.lookup index with
      | none => .error (missingEntry "public key" index)
      | some publicKey =>
        match decodePublicKey B publicKey with
        | .error e => .error e
        | .ok publicKey => .ok (signature, publicKey)

def replay (p : PersistedTaskState) (now : ℤ) :
    List ℕ → TaskState B → Except PersistenceError (TaskState B)
  | [], t => .ok t
  | index :: indices, t =>
    match decodeEntry B p index with
    | .error e => .error e
    | .ok (signature, publicKey) =>
      match t.addSignature index signature publicKey now with
      | .error e => .error (.serialization e)
      | .ok t => replay p now indices t

def taskError (taskId : TaskId) (problem : String) : PersistenceError :=
  .serialization ("task " ++ toString taskId.serviceId ++ ":" ++ toString taskId.callId
    ++ " has " ++ problem)

def PersistedTaskState.submittedAt (r : Reading) : Option ℤ :=
  match p.submittedAtMs with
  | some ms => some (millisToInstant r ms)
  | none => if p.submitted then some r.instant else none

def TaskState.tryFrom (clock : TaskClock) : Except PersistenceError (TaskState B) :=
  match parseU256 p.signerBitmap with
  | .error e => .error e
  | .ok signerBitmap =>
    let task : TaskState B := TaskState.create p.serviceId p.callId p.output p.message
      p.signatureScheme p.operatorCount p.thresholdType.toThreshold (some p.operatorStakes) none
      clock.now.instant
    -- the stored total is compared with the wrapped sum of the stored stakes
    if task.totalStake ≠ p.totalStake then
      .error (taskError p.taskId "inconsistent total stake")
    else if p.signatures.keys.card ≠ p.publicKeys.keys.card then
      .error (taskError p.taskId "an incomplete signature/public-key pair")
    else
      -- the bitmap is that of the replayed signatures, in the order of the operators
      match replay p clock.now.instant (p.signatures.keys.sort (· ≤ ·)) task with
      | .error e => .error e
      | .ok task =>
        if task.signerBitmap ≠ signerBitmap then
          .error (taskError p.taskId "an inconsistent signer bitmap")
        else
          .ok { task with
            submitted := p.submitted
            submittedAt := p.submittedAt clock.submitted
            createdAt := millisToInstant clock.created p.createdAtMs
            expiresAt := p.expiresAtMs.map (millisToInstant clock.expires) }

lemma decodeSignature_encodePoint (sig : B.Signature) :
    ∃ text, encodePoint (B.serializeSignature sig) = .ok text ∧
      decodeSignature B text = .ok sig := by
  obtain ⟨bs, hser, hde⟩ := B.signature_roundTrip sig
  refine ⟨'0' :: 'x' :: hexEncode bs, by rw [hser, encodePoint], ?_⟩
  rw [decodeSignature, decodeBytes, stripHexMarker_cons, hexDecode_hexEncode]
  simp [Except.mapError, hde]

lemma decodePublicKey_encodePoint (pk : B.PublicKey) :
    ∃ text, encodePoint (B.serializePublicKey pk) = .ok text ∧ decodePublicKey B text = .ok pk := by
  obtain ⟨bs, hser, hde⟩ := B.publicKey_roundTrip pk
  refine ⟨'0' :: 'x' :: hexEncode bs, by rw [hser, encodePoint], ?_⟩
  rw [decodePublicKey, decodeBytes, stripHexMarker_cons, hexDecode_hexEncode]
  simp [Except.mapError, hde]

lemma parseU256_formatHex (bitmap : BitVec 256) :
    parseU256 (formatHex bitmap.toNat) = .ok bitmap := by
  rw [parseU256, radix16_formatHex bitmap.isLt]
  simp

lemma toThreshold_ofThreshold (t : ThresholdType) :
    (PersistedThresholdType.ofThreshold t).toThreshold = t := by
  cases t <;> rfl

lemma decodeEntry_eq_ok_iff (index : ℕ) (sig : B.Signature) (pk : B.PublicKey) :
    decodeEntry B p index = .ok (sig, pk) ↔
      (∃ text, p.signatures.lookup index = some text ∧ decodeSignature B text = .ok sig) ∧
      (∃ text, p.publicKeys.lookup index = some text ∧ decodePublicKey B text = .ok pk) := by
  unfold decodeEntry
  rcases p.signatures.lookup index with _ | text
  · simp
  rcases hsig : decodeSignature B text with e | sig'
  · simp [hsig]
  rcases p.publicKeys.lookup index with _ | text'
  · simp [hsig]
  cases hpk : decodePublicKey B text' <;> simp [hsig, hpk]

structure Replayed (p : PersistedTaskState) (indices : List ℕ) (t t' : TaskState B) : Prop where
  wellFormed : t'.WellFormed
  frame : t' = { t with
    signerBitmap := t'.signerBitmap
    signatures := t'.signatures
    publicKeys := t'.publicKeys }
  stored : ∀ i ∈ indices, ∃ sig pk, decodeEntry B p i = .ok (sig, pk) ∧
    t'.signatures.lookup i = some sig ∧ t'.publicKeys.lookup i = some pk
  kept : ∀ i ∉ indices, t'.signatures.lookup i = t.signatures.lookup i ∧
    t'.publicKeys.lookup i = t.publicKeys.lookup i

lemma replay_replayed {p : PersistedTaskState} {now : ℤ} {indices : List ℕ}
    {t t' : TaskState B} (hn : indices.Nodup) (hwf : t.WellFormed)
    (h : replay p now indices t = .ok t') : Replayed p indices t t' := by
  induction indices generalizing t with
  | nil =>
    cases h
    exact ⟨hwf, rfl, by simp, fun i _ => ⟨rfl, rfl⟩⟩
  | cons index indices ih =>
    rw [nodup_cons] at hn
    rw [replay] at h
    rcases hd : decodeEntry B p index with e | pair
    · simp [hd] at h
    obtain ⟨sig, pk⟩ := pair
    simp only [hd] at h
    rcases ha : t.addSignature index sig pk now with e | t₁
    · simp [ha] at h
    simp only [ha] at h
    -- the rest of the replay does not meet this operator again
    have hr := ih hn.2 (hwf.addSignature ha) h
    obtain ⟨-, -, -, rfl⟩ := TaskState.addSignature_eq_ok_iff.mp ha
    obtain ⟨hsig, hpk⟩ := hr.kept index hn.1
    refine ⟨hr.wellFormed, hr.frame, ?_, ?_⟩
    · intro i hi
      rcases mem_cons.mp hi with rfl | hi
      · exact ⟨sig, pk, hd, hsig.trans (lookup_insert _), hpk.trans (lookup_insert _)⟩
      · exact hr.stored i hi
    · intro i hi
      rw [mem_cons, not_or] at hi
      obtain ⟨hs, hk⟩ := hr.kept i hi.2
      exact ⟨hs.trans (lookup_insert_of_ne _ hi.1),
        hk.trans (lookup_insert_of_ne _ hi.1)⟩

lemma replay_succeeds {p : PersistedTaskState} {now : ℤ} {indices : List ℕ}
    {t : TaskState B} (hn : indices.Nodup) (hwf : t.WellFormed)
    (hex : t.expiresAt = none)
    (hnew : ∀ i ∈ indices, i ∉ t.signatures.keys ∧ i < t.operatorCount)
    (hen : ∀ i ∈ indices, ∃ pair, decodeEntry B p i = .ok pair) :
    ∃ t', replay p now indices t = .ok t' := by
  induction indices generalizing t with
  | nil => exact ⟨t, rfl⟩
  | cons index indices ih =>
    rw [nodup_cons] at hn
    obtain ⟨⟨sig, pk⟩, hd⟩ := hen index mem_cons_self
    obtain ⟨hf, hlt⟩ := hnew index mem_cons_self
    -- none of the three checks of `add_signature` stops the replay
    have hu : t.hasSigned index = false := by
      rw [← Bool.not_eq_true, TaskState.hasSigned_iff hwf]
      exact fun hs => hf hs.1
    have hal : t.isExpired now = false := by rw [TaskState.isExpired, hex]
    have ha : t.addSignature index sig pk now = .ok { t with
        signerBitmap := t.signerBitmap ||| (1#256 <<< index)
        signatures := t.signatures.insert index sig
        publicKeys := t.publicKeys.insert index pk } :=
      TaskState.addSignature_eq_ok_iff.mpr ⟨hlt, hu, hal, rfl⟩
    rw [replay, hd]
    simp only [ha]
    refine ih hn.2 (hwf.addSignature ha) hex ?_ ?_
    · intro i hi
      obtain ⟨hi', hlt'⟩ := hnew i (mem_cons_of_mem _ hi)
      refine ⟨?_, hlt'⟩
      rw [HashMap.keys_insert, Finset.mem_insert, not_or]
      exact ⟨fun he => hn.1 (he ▸ hi), hi'⟩
    · exact fun i hi => hen i (mem_cons_of_mem _ hi)

end

/-! ## What a stored record says about a task

`Represents R p t`: the record `p` describes the task `t`, with stamps related to instants by
`R`. Writing a task gives a record that represents it. Reading a record that represents a
well-formed task gives that task back, with the instants of the stamps. -/

open Finmap Finset HashMap

variable {B : Bn254}

structure Represents (R : ℕ → ℤ → Prop) (p : PersistedTaskState) (t : TaskState B) : Prop where
  serviceId : p.serviceId = t.serviceId
  callId : p.callId = t.callId
  output : p.output = t.output
  message : p.message = t.message
  signatureScheme : p.signatureScheme = t.signatureScheme
  operatorCount : p.operatorCount = t.operatorCount
  thresholdType : p.thresholdType.toThreshold = t.thresholdType
  signerBitmap : parseU256 p.signerBitmap = .ok t.signerBitmap
  signatures : ∀ i, Option.Rel (fun text sig => decodeSignature B text = .ok sig)
    (p.signatures.lookup i) (t.signatures.lookup i)
  publicKeys : ∀ i, Option.Rel (fun text pk => decodePublicKey B text = .ok pk)
    (p.publicKeys.lookup i) (t.publicKeys.lookup i)
  operatorStakes : p.operatorStakes = t.operatorStakes
  totalStake : p.totalStake = t.totalStake
  submitted : p.submitted = t.submitted
  submittedAt : Option.Rel R p.submittedAtMs t.submittedAt
  createdAt : R p.createdAtMs t.createdAt
  expiresAt : Option.Rel R p.expiresAtMs t.expiresAt

def TaskState.withStamps (t : TaskState B) (p : PersistedTaskState) (clock : TaskClock) :
    TaskState B :=
  { t with
    submittedAt := p.submittedAtMs.map (millisToInstant clock.submitted)
    createdAt := millisToInstant clock.created p.createdAtMs
    expiresAt := p.expiresAtMs.map (millisToInstant clock.expires) }

variable {R : ℕ → ℤ → Prop} {p : PersistedTaskState} {t : TaskState B}

lemma Represents.taskId (h : Represents R p t) : p.taskId = t.taskId := by
  rw [PersistedTaskState.taskId, TaskState.taskId, h.serviceId, h.callId]

lemma Represents.mono {R' : ℕ → ℤ → Prop} (hR : ∀ s x, R s x → R' s x) (h : Represents R p t) :
    Represents R' p t :=
  { h with
    submittedAt := optionRel_imp h.submittedAt hR
    createdAt := hR _ _ h.createdAt
    expiresAt := optionRel_imp h.expiresAt hR }

def TaskClock.Reads (c : TaskClock) (r : Reading) : Prop :=
  r = c.now ∨ r = c.submitted ∨ r = c.created ∨ r = c.expires

def Stamped (c : TaskClock) (s : ℕ) (x : ℤ) : Prop := ∃ r, c.Reads r ∧ s = instantToMillis r x

lemma persist_represents (t : TaskState B) (ord : IterOrder ℕ) (clk : TaskClock) :
    ∃ p, PersistedTaskState.tryFrom t ord clk = .ok p ∧ Represents (Stamped clk) p t := by
  choose sigText hse hsd using decodeSignature_encodePoint (B := B)
  choose pkText hpe hpd using decodePublicKey_encodePoint (B := B)
  obtain ⟨sigs, hsi, hs⟩ := ord.tryMapValues_ok t.signatures hse
  obtain ⟨publicKeys, hpks, hp⟩ := ord.tryMapValues_ok t.publicKeys hpe
  refine ⟨_, by simp only [PersistedTaskState.tryFrom, hsi, hpks]; rfl, ?_⟩
  constructor <;> try rfl
  · exact toThreshold_ofThreshold _
  · exact parseU256_formatHex _
  · intro i
    rw [hs]
    exact optionRel_map sigText hsd _
  · intro i
    rw [hp]
    exact optionRel_map pkText hpd _
  · exact optionRel_map _ (fun x => ⟨_, .inr (.inl rfl), rfl⟩) _
  · exact ⟨_, .inr (.inr (.inl rfl)), rfl⟩
  · exact optionRel_map _ (fun x => ⟨_, .inr (.inr (.inr rfl)), rfl⟩) _

lemma TaskState.WellFormed.bitmap_eq {t' : TaskState B} (h : t.WellFormed) (h' : t'.WellFormed)
    (hk : t.signatures.keys = t'.signatures.keys) : t.signerBitmap = t'.signerBitmap := by
  apply BitVec.eq_of_getLsbD_eq
  intro i _
  rw [Bool.eq_iff_iff, h.bit_iff, h'.bit_iff, hk]

lemma Represents.decodeEntry (h : Represents R p t) (hwf : t.WellFormed) {i : ℕ}
    (hi : i ∈ t.signatures.keys) :
    ∃ sig pk, decodeEntry B p i = .ok (sig, pk) ∧
      t.signatures.lookup i = some sig ∧ t.publicKeys.lookup i = some pk := by
  obtain ⟨sig, hsig⟩ := (mem_keys_iff_lookup _ i).mp hi
  obtain ⟨pk, hpk⟩ := (mem_keys_iff_lookup t.publicKeys i).mp (hwf.keys_eq ▸ hi)
  have hs := h.signatures i
  have hp := h.publicKeys i
  rw [hsig] at hs
  rw [hpk] at hp
  have hd := And.intro (optionRel_some_right hs) (optionRel_some_right hp)
  exact ⟨sig, pk, (decodeEntry_eq_ok_iff ..).mpr hd, hsig, hpk⟩

def PersistedTaskState.blank (B : Bn254) (p : PersistedTaskState) (now : ℤ) : TaskState B :=
  TaskState.create p.serviceId p.callId p.output p.message p.signatureScheme p.operatorCount
    p.thresholdType.toThreshold (some p.operatorStakes) none now

section

variable (h : Represents R p t) (hwf : t.WellFormed)

include h hwf

lemma Represents.replay (now : ℤ) :
    AggregationSvc.replay p now (p.signatures.keys.sort (· ≤ ·)) (p.blank B now)
      = .ok { p.blank B now with
          signerBitmap := t.signerBitmap
          signatures := t.signatures
          publicKeys := t.publicKeys } := by
  have hb : (p.blank B now).WellFormed := TaskState.create_wellFormed ..
  have hk : p.signatures.keys = t.signatures.keys := keys_eq_of_rel h.signatures
  have hn : (p.signatures.keys.sort (· ≤ ·)).Nodup := sort_nodup _ _
  have hmem : ∀ i, i ∈ p.signatures.keys.sort (· ≤ ·) ↔ i ∈ t.signatures.keys := fun i => by
    rw [mem_sort, hk]
  obtain ⟨t', ht'⟩ := @replay_succeeds B p now _ _ hn hb rfl (fun i hi => ⟨notMem_empty i, by
      have hlt := hwf.index_lt i ((hmem i).mp hi)
      rwa [← h.operatorCount] at hlt⟩)
    (fun i hi => by
      obtain ⟨sig, pk, he, -⟩ := h.decodeEntry hwf ((hmem i).mp hi)
      exact ⟨_, he⟩)
  have hr := replay_replayed hn hb ht'
  -- both maps agree with those of the task, entry by entry
  have hen : ∀ i, t'.signatures.lookup i = t.signatures.lookup i ∧
      t'.publicKeys.lookup i = t.publicKeys.lookup i := by
    intro i
    by_cases hi : i ∈ t.signatures.keys
    · obtain ⟨sig, pk, he, hsig, hpk⟩ := h.decodeEntry hwf hi
      obtain ⟨sig', pk', he', hsig', hpk'⟩ := hr.stored i ((hmem i).mpr hi)
      rw [he] at he'
      cases he'
      exact ⟨hsig'.trans hsig.symm, hpk'.trans hpk.symm⟩
    · obtain ⟨hsig', hpk'⟩ := hr.kept i (fun hm => hi ((hmem i).mp hm))
      have hsig : t.signatures.lookup i = none :=
        lookup_eq_none.mpr (mem_keys.not.mp hi)
      have hpk : t.publicKeys.lookup i = none :=
        lookup_eq_none.mpr (by rw [← mem_keys, hwf.keys_eq]; exact hi)
      exact ⟨hsig'.trans hsig.symm, hpk'.trans hpk.symm⟩
  have hs : t'.signatures = t.signatures := ext_lookup fun i => (hen i).1
  have hpks : t'.publicKeys = t.publicKeys := ext_lookup fun i => (hen i).2
  have hbi : t'.signerBitmap = t.signerBitmap := hr.wellFormed.bitmap_eq hwf (by rw [hs])
  rw [ht', hr.frame, hs, hpks, hbi]

lemma Represents.submittedAt_eq (r : Reading) :
    p.submittedAt r = p.submittedAtMs.map (millisToInstant r) := by
  unfold PersistedTaskState.submittedAt
  cases hms : p.submittedAtMs with
  | some ms => rfl
  | none =>
    -- a task without a stamp is not submitted
    have hrel := h.submittedAt
    rw [hms] at hrel
    have hn : t.submittedAt.isSome = false := (optionRel_isSome hrel).symm
    have hnot : p.submitted = false := by
      rw [h.submitted, ← Bool.not_eq_true]
      intro hs
      rw [hwf.submittedAt_isSome hs] at hn
      cases hn
    simp [hnot]

lemma Represents.tryFrom (clk : TaskClock) :
    TaskState.tryFrom p clk = .ok (t.withStamps p clk) := by
  have hr := h.replay hwf clk.now.instant
  have hto : (p.blank B clk.now.instant).totalStake = p.totalStake := by
    rw [h.totalStake, hwf.total_eq, ← h.operatorStakes]
    rfl
  have hca : p.signatures.keys.card = p.publicKeys.keys.card := by
    rw [keys_eq_of_rel h.signatures, keys_eq_of_rel h.publicKeys, hwf.keys_eq]
  unfold PersistedTaskState.blank at hr hto
  unfold TaskState.tryFrom
  simp only [h.signerBitmap, hto, hca, ne_eq, not_true_eq_false, if_false, hr, h.submittedAt_eq hwf]
  obtain ⟨hs, hc, ho, hm, hsc, hco, hth, -, -, -, hst, ht, hsu, -, -, -⟩ := h
  simp [TaskState.create, TaskState.withStamps, hs, hc, ho, hm, hsc, hco, hth, hst, hsu, ht]

end

lemma PersistedTaskState.submittedAt_isSome (r : Reading) (h : p.submitted = true) :
    (p.submittedAt r).isSome = true := by
  unfold PersistedTaskState.submittedAt
  rcases p.submittedAtMs with _ | ms
  · simp [h]
  rfl

lemma tryFrom_eq_ok {clk : TaskClock} (h : TaskState.tryFrom p clk = .ok t) :
    t.WellFormed ∧ t.signatures.keys = p.signatures.keys ∧ t.operatorStakes = p.operatorStakes := by
  have hbl : (p.blank B clk.now.instant).WellFormed := TaskState.create_wellFormed ..
  have hn : (p.signatures.keys.sort (· ≤ ·)).Nodup := sort_nodup _ _
  unfold TaskState.tryFrom at h
  rcases hb : parseU256 p.signerBitmap with e | bitmap
  · simp [hb] at h
  simp only [hb] at h
  split at h
  · cases h
  split at h
  · cases h
  split at h
  · cases h
  rename_i task hre
  split at h
  · cases h
  cases h
  have hr := replay_replayed hn hbl hre
  refine ⟨⟨hr.wellFormed.keys_eq, hr.wellFormed.index_lt, hr.wellFormed.bit_iff,
    hr.wellFormed.total_eq, p.submittedAt_isSome _⟩, ?_, ?_⟩
  · -- exactly the signers of the record were replayed onto a blank task
    ext i
    by_cases hi : i ∈ p.signatures.keys
    · obtain ⟨sig, pk, -, hsig, -⟩ := hr.stored i ((mem_sort _).mpr hi)
      exact iff_of_true ((mem_keys_iff_lookup _ i).mpr ⟨sig, hsig⟩) hi
    obtain ⟨hsig, -⟩ := hr.kept i (fun hm => hi ((mem_sort _).mp hm))
    refine iff_of_false (fun hm => ?_) hi
    obtain ⟨sig, hs⟩ := (mem_keys_iff_lookup _ i).mp hm
    have hno : (p.blank B clk.now.instant).signatures.lookup i = none := lookup_empty i
    rw [hsig, hno] at hs
    cases hs
  · rw [hr.frame]
    rfl

/-! ## The file backend under concurrent calls

`save_task` and `delete_task` read the whole file under the read lock, change the map in memory and
write it back under the write lock. Between the two locks other calls run. The calls that have
returned stand in `done`, each with its answer, in the order in which they returned. -/

open Lib.Run

abbrev TaskFile := HashMap (List Char) PersistedTaskState

def taskKey (id : TaskId) : List Char :=
  Nat.toDigits 10 id.serviceId ++ ':' :: Nat.toDigits 10 id.callId

inductive BackendCall where
  | saveTask (task : PersistedTaskState)
  | deleteTask (id : TaskId)
  | loadTask (id : TaskId)
  | loadAllTasks

/-- The map that `loadAllTasks` answers with stands for its values in some order. -/
inductive BackendAnswer where
  | done
  | task (task : Option PersistedTaskState)
  | tasks (tasks : TaskFile)

namespace BackendCall

def writes : BackendCall → Bool
  | saveTask _ | deleteTask _ => true
  | loadTask _ | loadAllTasks => false

def run (tasks : TaskFile) : BackendCall → TaskFile × BackendAnswer
  | saveTask task => (tasks.insert (taskKey task.taskId) task, .done)
  | deleteTask id => (tasks.erase (taskKey id), .done)
  | loadTask id => (tasks, .task (tasks.lookup (taskKey id)))
  | loadAllTasks => (tasks, .tasks tasks)

def onTask (id : TaskId) (entry : Option PersistedTaskState) : BackendCall → Option PersistedTaskState
  | saveTask task => if id = task.taskId then some task else entry
  | deleteTask id' => if id = id' then none else entry
  | _ => entry

end BackendCall

structure FileState where
  file : TaskFile
  pending : ℕ → Option (BackendCall × TaskFile)
  done : List (BackendCall × BackendAnswer)

inductive FileStep where
  | read (thread : ℕ) (call : BackendCall)
  | write (thread : ℕ)

namespace FileState

variable (s : FileState)

def step : FileStep → FileState
  | .read thread call =>
    if call.writes then { s with pending := Function.update s.pending thread (some (call, s.file)) }
    else { s with done := s.done ++ [(call, (call.run s.file).2)] }
  | .write thread =>
    match s.pending thread with
    | none => s
    | some (call, tasks) => {
        file := (call.run tasks).1
        pending := Function.update s.pending thread none
        done := s.done ++ [(call, (call.run tasks).2)] }

def start (file : TaskFile) : FileState := ⟨file, fun _ => none, []⟩

/-- What a thread writes back is a change of what the file still holds. -/
def Unchanged : FileStep → Prop
  | .read _ _ => True
  | .write thread => ∀ call tasks, s.pending thread = some (call, tasks) → tasks = s.file

end FileState

/-- The calls one after the other, with their answers, lead from one file to another. -/
def Sequential : TaskFile → List (BackendCall × BackendAnswer) → TaskFile → Prop
  | file, [], file' => file = file'
  | file, (call, answer) :: calls, file' =>
    answer = (call.run file).2 ∧ Sequential (call.run file).1 calls file'

variable {file file' : TaskFile} {calls : List (BackendCall × BackendAnswer)}

lemma Sequential.snoc (h : Sequential file calls file') (call : BackendCall) :
    Sequential file (calls ++ [(call, (call.run file').2)]) (call.run file').1 := by
  induction calls generalizing file with
  | nil =>
    obtain rfl : file = file' := h
    exact ⟨rfl, rfl⟩
  | cons c calls ih => exact ⟨h.1, ih h.2⟩

lemma taskKey_inj {id id' : TaskId} (h : taskKey id = taskKey id') : id = id' := by
  obtain ⟨hs, hc⟩ := append_cons_inj (colon_notMem_toDigits _) (colon_notMem_toDigits _) h
  cases id
  cases id'
  cases toDigits_inj hs
  cases toDigits_inj hc
  rfl

lemma lookup_run (call : BackendCall) (id : TaskId) :
    (call.run file).1.lookup (taskKey id) = call.onTask id (file.lookup (taskKey id)) := by
  cases call with
  | saveTask task =>
    rw [BackendCall.run, HashMap.lookup_insert_eq]
    exact if_congr ⟨taskKey_inj, congrArg taskKey⟩ rfl rfl
  | deleteTask id' =>
    rw [BackendCall.run, BackendCall.onTask]
    split_ifs with h
    · rw [h, Finmap.lookup_erase]
    · exact Finmap.lookup_erase_ne fun hk => h (taskKey_inj hk)
  | loadTask | loadAllTasks => rfl

lemma Sequential.lookup (h : Sequential file calls file') (id : TaskId) :
    file'.lookup (taskKey id)
      = calls.foldl (fun entry c => c.1.onTask id entry) (file.lookup (taskKey id)) := by
  induction calls generalizing file with
  | nil => rw [h, List.foldl_nil]
  | cons c calls ih => rw [ih h.2, lookup_run, List.foldl_cons]

lemma FileState.step_sequential {s : FileState} (h : Sequential file s.done s.file) {e : FileStep}
    (he : s.Unchanged e) : Sequential file (s.step e).done (s.step e).file := by
  cases e with
  | read thread call =>
    rw [step]
    split_ifs with hw
    · exact h
    have hf : (call.run s.file).1 = s.file := by
      cases call <;> first | rfl | exact absurd rfl hw
    have hs := h.snoc call
    rwa [hf] at hs
  | write thread =>
    simp only [step]
    split
    · exact h
    next call tasks hp =>
      rw [he call tasks hp]
      exact h.snoc call

/-- As long as no call writes back over a change made since it read, the answers and the file are
those of the calls one after the other, in the order in which they returned. Each task has its own
entry, which calls on other tasks leave as it is. -/
theorem fileBackend_linearizable (file : TaskFile) (es : List FileStep)
    (hunchanged : Each FileState.step FileState.Unchanged (.start file) es) :
    let s := es.foldl FileState.step (.start file)
    Sequential file s.done s.file ∧ (∀ id id', taskKey id = taskKey id' → id = id') ∧
      ∀ id, s.file.lookup (taskKey id)
        = s.done.foldl (fun entry c => c.1.onTask id entry) (file.lookup (taskKey id)) := by
  have hs := (always_of_each (J := fun s => Sequential file s.done s.file)
    (fun _ _ h he => FileState.step_sequential h he) (fun _ h => h)
    (show Sequential file [] file from rfl) hunchanged).last
  exact ⟨hs, fun _ _ => taskKey_inj, hs.lookup⟩

def emptyTask (callId : ℕ) : PersistedTaskState :=
  ⟨1, callId, [], [], .arkworksSha256, 0, .count 1, [], ∅, ∅, ∅, 0, false, none, 0, none⟩

def twoSaves (overlap : Bool) : List FileStep :=
  .read 0 (.saveTask (emptyTask 1)) ::
    (if overlap then [.read 1 (.saveTask (emptyTask 2)), .write 0]
    else [.write 0, .read 1 (.saveTask (emptyTask 2))]) ++ [.write 1]

theorem fileBackend_linearizable_twoSaves :
    Each FileState.step FileState.Unchanged (.start ∅) (twoSaves false) ∧
      ((twoSaves false).foldl FileState.step (.start ∅)).file.lookup (taskKey ⟨1, 1⟩)
        = some (emptyTask 1) := by
  have h : Each FileState.step FileState.Unchanged (.start ∅) (twoSaves false) := by
    refine ⟨trivial, ?_, trivial, ?_, trivial⟩ <;>
      · rintro call tasks ⟨⟩
        rfl
  exact ⟨h, (fileBackend_linearizable ∅ _ h).2.2 ⟨1, 1⟩⟩

/-- Both saves have returned, and the first task is not in the file. -/
theorem overlapping_save_lost :
    ((twoSaves true).foldl FileState.step (.start ∅)).done
      = [(.saveTask (emptyTask 1), .done), (.saveTask (emptyTask 2), .done)] ∧
    ((twoSaves true).foldl FileState.step (.start ∅)).file.lookup (taskKey ⟨1, 1⟩) = none :=
  ⟨rfl, rfl⟩

end Gadget.AggregationSvc
