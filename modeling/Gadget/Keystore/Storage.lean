import Gadget.Lib.Replicas
import Gadget.Rust.HashMap
import Gadget.Rust.Utf8

/-!
# The keystore

The two storages of keys, in memory and in files, and the operations of the keystore, which loop over
the storages. File operations can fail, and a failed write can leave a part of the file.
-/

namespace Gadget.Keystore

open Rust

structure KeyScheme where
  Public : Type
  Secret : Type
  order : LinearOrder Public
  publicFromSecret : Secret → Public
  publicBytes : Public → Bytes
  publicOf : Bytes → Except String Public
  secretBytes : Secret → Bytes
  secretOf : Bytes → Except String Secret
  publicOf_publicBytes : ∀ p, publicOf (publicBytes p) = .ok p
  secretOf_secretBytes : ∀ s, secretOf (secretBytes s) = .ok s

instance (S : KeyScheme) : LinearOrder S.Public := S.order

lemma KeyScheme.publicBytes_inj (S : KeyScheme) {p q : S.Public} :
    S.publicBytes p = S.publicBytes q ↔ p = q := by
  constructor
  · intro h
    have hp := S.publicOf_publicBytes p
    rw [h, S.publicOf_publicBytes q, Except.ok.injEq] at hp
    exact hp.symm
  · intro h
    rw [h]

lemma KeyScheme.secretBytes_inj (S : KeyScheme) {s s' : S.Secret} :
    S.secretBytes s = S.secretBytes s' ↔ s = s' := by
  constructor
  · intro h
    have hs := S.secretOf_secretBytes s
    rw [h, S.secretOf_secretBytes s', Except.ok.injEq] at hs
    exact hs.symm
  · intro h
    rw [h]

/-- The key types, and what the files take from other crates: names by `blake3`, without
collisions, and contents by `serde_json`. -/
structure KeystoreDeps where
  KeyTypeId : Type
  decideType : DecidableEq KeyTypeId
  scheme : KeyTypeId → KeyScheme
  Hash : Type
  decideHash : DecidableEq Hash
  hash : Bytes → Hash
  hash_injective : Function.Injective hash
  toVec : Bytes → Bytes → Bytes
  fromSlice : Bytes → Except String (Bytes × Bytes)
  fromSlice_toVec : ∀ pub sec, fromSlice (toVec pub sec) = .ok (pub, sec)
  fromSlice_part : ∀ pub sec n, n < (toVec pub sec).length → Failed (fromSlice ((toVec pub sec).take n))
  toVec_ne_nil : ∀ pub sec, toVec pub sec ≠ []

variable (D : KeystoreDeps)

instance : DecidableEq D.KeyTypeId := D.decideType

instance : DecidableEq D.Hash := D.decideHash

inductive KeystoreError where
  | io (text : String)
  | json (text : String)
  | bytes (text : String)
  | crypto (text : String)
  | keyNotFound

structure Storages where
  memory : D.KeyTypeId → HashMap Bytes Bytes
  files : D.KeyTypeId → HashMap D.Hash Bytes

inductive Backend where
  | inMemory
  | file
  deriving DecidableEq

inductive RemoveAttempt where
  | done
  | refused (text : String)

variable {D}

section

variable (t : D.KeyTypeId) (pub : Bytes) (s : Storages D)

def Storages.setMemory (t : D.KeyTypeId) (m : HashMap Bytes Bytes) : Storages D :=
  { s with memory := Function.update s.memory t m }

def Storages.setFiles (t : D.KeyTypeId) (m : HashMap D.Hash Bytes) : Storages D :=
  { s with files := Function.update s.files t m }

def storeRaw (sec : Bytes) (write : WriteAttempt) (s : Storages D) :
    Backend → Storages D × Except KeystoreError Unit
  | .inMemory => (s.setMemory t ((s.memory t).insert pub sec), .ok ())
  | .file =>
    match write with
    | .done => (s.setFiles t ((s.files t).insert (D.hash pub) (D.toVec pub sec)), .ok ())
    | .refused text => (s, .error (.io text))
    | .torn missing text =>
      (s.setFiles t ((s.files t).insert (D.hash pub) (cutOff (D.toVec pub sec) missing)),
        .error (.io text))

def loadFile (content : Bytes) : Except KeystoreError (Option Bytes) := do
  let (stored, sec) ← (D.fromSlice content).mapError KeystoreError.json
  return if stored ≠ pub then none else some sec

def loadSecretRaw :
    Backend → Except KeystoreError (Option Bytes)
  | .inMemory => .ok ((s.memory t).lookup pub)
  | .file =>
    match (s.files t).lookup (D.hash pub) with
    | none => .ok none
    | some content => loadFile (D := D) pub content

def removeFile :
    RemoveAttempt → Storages D × Except KeystoreError Unit
  | .done => (s.setFiles t ((s.files t).erase (D.hash pub)), .ok ())
  | .refused text => (s, .error (.io text))

def removeRaw (attempt : RemoveAttempt) (s : Storages D) :
    Backend → Storages D × Except KeystoreError Unit
  | .inMemory => (s.setMemory t ((s.memory t).erase pub), .ok ())
  | .file =>
    match (s.files t).lookup (D.hash pub) with
    | none => (s, .ok ())
    | some _ => removeFile t pub s attempt

def containsRaw : Backend → Bool
  | .inMemory => ((s.memory t).lookup pub).isSome
  | .file => ((s.files t).lookup (D.hash pub)).isSome

def listedKey (content : Bytes) : Option Bytes := (D.fromSlice content).toOption.map Prod.fst

def listRaw : Backend → Finset Bytes
  | .inMemory => (s.memory t).keys
  | .file =>
    ((s.files t).keys.image fun h => ((s.files t).lookup h).bind (listedKey (D := D))).eraseNone

structure KeystoreConfig where
  inMemory : Bool
  fsRoot : Bool

end

section

variable (config : KeystoreConfig)

def KeystoreConfig.finalize : KeystoreConfig :=
  if config.inMemory || !config.fsRoot then { config with inMemory := true } else config

def KeystoreConfig.backends : List Backend :=
  (if config.finalize.inMemory then [.inMemory] else []) ++
    if config.finalize.fsRoot then [.file] else []

def forEachBackend (op : Storages D → Backend → Storages D × Except KeystoreError Unit) :
    List Backend → Storages D → Storages D × Except KeystoreError Unit
  | [], s => (s, .ok ())
  | b :: bs, s =>
    match (op s b).2 with
    | .ok () => forEachBackend op bs (op s b).1
    | .error e => ((op s b).1, .error e)

def loadFirst (t : D.KeyTypeId) (pub : Bytes) (s : Storages D) :
    List Backend → Except KeystoreError Bytes
  | [] => .error .keyNotFound
  | b :: bs => do
    match ← loadSecretRaw t pub s b with
    | some sec => return sec
    | none => loadFirst t pub s bs

end

section

variable (config : KeystoreConfig)

variable (t : D.KeyTypeId) (s : Storages D)

def insert (secret : (D.scheme t).Secret) (write : WriteAttempt) (s : Storages D) :
    Storages D × Except KeystoreError Unit :=
  forEachBackend (storeRaw t ((D.scheme t).publicBytes ((D.scheme t).publicFromSecret secret))
    ((D.scheme t).secretBytes secret) write) config.backends s

def generate (generated : Except String (D.scheme t).Secret) (write : WriteAttempt) (s : Storages D) :
    Storages D × Except KeystoreError (D.scheme t).Public :=
  match generated with
  | .error e => (s, .error (.crypto e))
  | .ok secret =>
    ((insert config t secret write s).1,
      (insert config t secret write s).2.map fun _ => (D.scheme t).publicFromSecret secret)

def remove (p : (D.scheme t).Public) (attempt : RemoveAttempt) (s : Storages D) :
    Storages D × Except KeystoreError Unit :=
  forEachBackend (removeRaw t ((D.scheme t).publicBytes p) attempt) config.backends s

def containsLocal (t : D.KeyTypeId) (p : (D.scheme t).Public) : Bool :=
  config.backends.any (containsRaw t ((D.scheme t).publicBytes p) s)

def publicKeys (t : D.KeyTypeId) : Finset (D.scheme t).Public :=
  (config.backends.toFinset.biUnion fun b =>
    (listRaw t s b).image fun bytes => ((D.scheme t).publicOf bytes).toOption).eraseNone

def listLocal (t : D.KeyTypeId) : List (D.scheme t).Public :=
  (publicKeys config s t).sort (· ≤ ·)

def getSecret (t : D.KeyTypeId) (p : (D.scheme t).Public) :
    Except KeystoreError (D.scheme t).Secret := do
  let sec ← loadFirst t ((D.scheme t).publicBytes p) s config.backends
  ((D.scheme t).secretOf sec).mapError KeystoreError.bytes

/-- `get_public_key_local`: the secret that is stored under the bytes of the identifier, read as a
public key. -/
def getPublicKeyLocal (t : D.KeyTypeId) (keyId : List Char) :
    Except KeystoreError (D.scheme t).Public := do
  let sec ← loadFirst t (utf8 keyId) s config.backends
  ((D.scheme t).publicOf sec).mapError KeystoreError.bytes

end

section

/-! ## The storages of one key

For one key, the storages are replicas of an entry: each of them has a `cell`. What can be seen of the
keystore is what can be seen of the cells (`WellFormed.agree_iff`), and the loops of the operations
are those of `Lib.Replicas` on the cells (`cells_storeAll`, `cells_removeAllRaw`). -/

open Lib.Replicas Except

variable (config : KeystoreConfig)

abbrev KeyMap (D : KeystoreDeps) :=
  (t : D.KeyTypeId) → (D.scheme t).Public → Option (D.scheme t).Secret

structure Agree (s : Storages D) (last : KeyMap D) : Prop where
  contains : ∀ t p, containsLocal config s t p = true ↔ (last t p).isSome = true
  listed : ∀ t p, p ∈ listLocal config s t ↔ (last t p).isSome = true
  secret : ∀ t p, getSecret config s t p = okOr (last t p) .keyNotFound
  publicKey : ∀ t keyId k, getPublicKeyLocal config s t keyId = .ok k → k ∈ listLocal config s t

def Resolves (last : KeyMap D) : Prop :=
  ∀ t p secret keyId k, last t p = some secret → (D.scheme t).publicBytes p = utf8 keyId →
    (D.scheme t).publicOf ((D.scheme t).secretBytes secret) = .ok k → (last t k).isSome = true

def cell (s : Storages D) (t : D.KeyTypeId) (p : (D.scheme t).Public) : Backend → Cell Bytes
  | .inMemory => cellOf ((s.memory t).lookup ((D.scheme t).publicBytes p))
  | .file =>
    match (s.files t).lookup (D.hash ((D.scheme t).publicBytes p)) with
    | none => .absent
    | some content =>
      match D.fromSlice content with
      | .ok (_, sec) => .holds sec
      | .error _ => .torn

def lastBytes (last : KeyMap D) (t : D.KeyTypeId) (p : (D.scheme t).Public) : Option Bytes :=
  (last t p).map (D.scheme t).secretBytes

structure WellFormed (s : Storages D) : Prop where
  memory : ∀ t pub sec, (s.memory t).lookup pub = some sec → ∃ p secret,
    pub = (D.scheme t).publicBytes p ∧ sec = (D.scheme t).secretBytes secret
  files : ∀ t h content, (s.files t).lookup h = some content →
    (∃ p secret, h = D.hash ((D.scheme t).publicBytes p) ∧
      content = D.toVec ((D.scheme t).publicBytes p) ((D.scheme t).secretBytes secret)) ∨
    Failed (D.fromSlice content)

lemma wellFormed_empty : WellFormed (⟨fun _ => ∅, fun _ => ∅⟩ : Storages D) := by
  refine ⟨fun t pub sec h => ?_, fun t h content hl => ?_⟩
  · rw [Finmap.lookup_empty] at h
    cases h
  · rw [Finmap.lookup_empty] at hl
    cases hl

variable {s : Storages D}

section

variable (hwf : WellFormed s) (t : D.KeyTypeId) (p : (D.scheme t).Public)

include hwf

lemma WellFormed.file_cases :
    ((s.files t).lookup (D.hash ((D.scheme t).publicBytes p)) = none ∧ cell s t p .file = .absent) ∨
    (∃ sec, (s.files t).lookup (D.hash ((D.scheme t).publicBytes p))
        = some (D.toVec ((D.scheme t).publicBytes p) ((D.scheme t).secretBytes sec)) ∧
      cell s t p .file = .holds ((D.scheme t).secretBytes sec)) ∨
    ∃ content e, (s.files t).lookup (D.hash ((D.scheme t).publicBytes p)) = some content ∧
      D.fromSlice content = .error e ∧ cell s t p .file = .torn := by
  rcases hl : (s.files t).lookup (D.hash ((D.scheme t).publicBytes p)) with _ | content
  · exact .inl ⟨rfl, by rw [cell, hl]⟩
  rcases hwf.files t _ _ hl with ⟨q, sec, hh, rfl⟩ | ⟨e, he⟩
  · have hpq : p = q := (D.scheme t).publicBytes_inj.mp (D.hash_injective hh)
    subst hpq
    refine .inr (.inl ⟨sec, rfl, ?_⟩)
    rw [cell, hl]
    dsimp only
    rw [D.fromSlice_toVec]
  · refine .inr (.inr ⟨content, e, rfl, he, ?_⟩)
    rw [cell, hl]
    dsimp only
    rw [he]

lemma WellFormed.loadSecretRaw_eq (b : Backend) :
    (cell s t p b = .absent ∧ loadSecretRaw t ((D.scheme t).publicBytes p) s b = .ok none) ∨
    (∃ secret, cell s t p b = .holds ((D.scheme t).secretBytes secret) ∧
      loadSecretRaw t ((D.scheme t).publicBytes p) s b
        = .ok (some ((D.scheme t).secretBytes secret))) ∨
    ∃ e, cell s t p b = .torn ∧
      loadSecretRaw t ((D.scheme t).publicBytes p) s b = .error (.json e) := by
  cases b with
  | inMemory =>
    rcases hl : (s.memory t).lookup ((D.scheme t).publicBytes p) with _ | sec
    · exact .inl ⟨by rw [cell, hl, cellOf], by rw [loadSecretRaw, hl]⟩
    obtain ⟨q, secret, -, rfl⟩ := hwf.memory t _ _ hl
    exact .inr (.inl ⟨secret, by rw [cell, hl, cellOf], by rw [loadSecretRaw, hl]⟩)
  | file =>
    rcases hwf.file_cases t p with ⟨hl, hc⟩ | ⟨secret, hl, hc⟩ | ⟨content, e, hl, he, hc⟩
    · exact .inl ⟨hc, by rw [loadSecretRaw, hl]⟩
    · refine .inr (.inl ⟨secret, hc, ?_⟩)
      rw [loadSecretRaw, hl]
      dsimp only
      rw [loadFile, D.fromSlice_toVec]
      exact congrArg ok (if_neg (not_not.mpr rfl))
    · refine .inr (.inr ⟨e, hc, ?_⟩)
      rw [loadSecretRaw, hl]
      dsimp only
      rw [loadFile, he]
      rfl

lemma WellFormed.loadSecretRaw_iff (b : Backend) (value : Option Bytes) :
    loadSecretRaw t ((D.scheme t).publicBytes p) s b = .ok value ↔ cell s t p b = cellOf value := by
  rcases hwf.loadSecretRaw_eq t p b with ⟨hc, hl⟩ | ⟨secret, hc, hl⟩ | ⟨e, hc, hl⟩
  · rw [hc, hl, ok.injEq, eq_comm, ← cellOf_inj, eq_comm]
    rfl
  · rw [hc, hl, ok.injEq, ← cellOf_inj]
    rfl
  · rw [hc, hl]
    rcases value with _ | sec <;> simp [cellOf]

lemma WellFormed.loadFirst_iff (bs : List Backend) (value : Option Bytes) :
    loadFirst t ((D.scheme t).publicBytes p) s bs = okOr value .keyNotFound ↔
      first (bs.map (cell s t p)) = cellOf value := by
  induction bs with
  | nil =>
    rcases value with _ | sec <;> simp [loadFirst, okOr, first, cellOf]
  | cons b bs ih =>
    rw [List.map_cons, loadFirst]
    rcases hwf.loadSecretRaw_eq t p b with ⟨hc, hl⟩ | ⟨secret, hc, hl⟩ | ⟨e, hc, hl⟩
    · rw [hc, hl]
      exact ih
    · rw [hc, hl]
      show ok _ = _ ↔ Cell.holds _ = _
      rcases value with _ | sec <;> simp [okOr, cellOf]
    · rw [hc, hl]
      show error _ = _ ↔ Cell.torn = _
      rcases value with _ | sec <;> simp [okOr, cellOf]

lemma WellFormed.containsLocal_iff :
    containsLocal config s t p = true ↔ contains (config.backends.map (cell s t p)) := by
  have hraw : ∀ b, containsRaw t ((D.scheme t).publicBytes p) s b = true ↔ cell s t p b ≠ .absent := by
    intro b
    cases b with
    | inMemory =>
      rw [containsRaw, cell]
      rcases (s.memory t).lookup ((D.scheme t).publicBytes p) with _ | sec <;> simp [cellOf]
    | file =>
      rw [containsRaw]
      rcases hwf.file_cases t p with ⟨hl, hc⟩ | ⟨secret, hl, hc⟩ | ⟨content, e, hl, -, hc⟩
      · rw [hl, hc]
        simp
      · rw [hl, hc]
        simp
      · rw [hl, hc]
        simp
  rw [containsLocal, List.any_eq_true]
  simp only [contains, List.mem_map, hraw]
  constructor
  · rintro ⟨b, hb, hc⟩
    exact ⟨_, ⟨b, hb, rfl⟩, hc⟩
  · rintro ⟨c, ⟨b, hb, rfl⟩, hc⟩
    exact ⟨b, hb, hc⟩

end

variable {t : D.KeyTypeId}

variable {pub : Bytes} {content : Option Bytes}

lemma WellFormed.mem_listRaw (hwf : WellFormed s) {b : Backend} :
    pub ∈ listRaw t s b ↔ ∃ p sec, pub = (D.scheme t).publicBytes p ∧ cell s t p b = .holds sec := by
  cases b with
  | inMemory =>
    rw [listRaw, Finmap.mem_keys, ← Finmap.lookup_isSome, Option.isSome_iff_exists]
    constructor
    · rintro ⟨sec, hl⟩
      obtain ⟨p, secret, rfl, rfl⟩ := hwf.memory t pub sec hl
      exact ⟨p, _, rfl, by rw [cell, hl, cellOf]⟩
    · rintro ⟨p, sec, rfl, hc⟩
      rw [cell] at hc
      rcases hl : (s.memory t).lookup ((D.scheme t).publicBytes p) with _ | sec'
      · rw [hl] at hc
        cases hc
      exact ⟨sec', rfl⟩
  | file =>
    rw [listRaw, Finset.mem_eraseNone, Finset.mem_image]
    constructor
    · rintro ⟨h, -, hli⟩
      obtain ⟨content, hl, hkey⟩ := Option.bind_eq_some_iff.mp hli
      obtain ⟨⟨stored, sec⟩, hs, rfl⟩ := Option.map_eq_some_iff.mp hkey
      rcases hwf.files t h content hl with ⟨p, secret, rfl, rfl⟩ | ⟨e, he⟩
      · rw [D.fromSlice_toVec] at hs
        cases hs
        refine ⟨p, (D.scheme t).secretBytes secret, rfl, ?_⟩
        rw [cell, hl]
        dsimp only
        rw [D.fromSlice_toVec]
      · rw [he] at hs
        cases hs
    · rintro ⟨p, sec, rfl, hc⟩
      rcases hwf.file_cases t p with ⟨-, hc'⟩ | ⟨secret, hl, -⟩ | ⟨content, e, -, -, hc'⟩
      · rw [hc] at hc'
        cases hc'
      · refine ⟨D.hash ((D.scheme t).publicBytes p), ?_, ?_⟩
        · rw [Finmap.mem_keys, ← Finmap.lookup_isSome, hl]
          rfl
        · rw [hl, Option.bind_some, listedKey, D.fromSlice_toVec]
          rfl
      · rw [hc] at hc'
        cases hc'

lemma WellFormed.mem_listLocal_iff (hwf : WellFormed s) (t : D.KeyTypeId)
    (p : (D.scheme t).Public) :
    p ∈ listLocal config s t ↔ lists (config.backends.map (cell s t p)) := by
  rw [listLocal, Finset.mem_sort, publicKeys, Finset.mem_eraseNone, Finset.mem_biUnion]
  simp only [List.mem_toFinset, Finset.mem_image, lists, List.mem_map]
  constructor
  · rintro ⟨b, hb, pub, hpub, hp⟩
    obtain ⟨q, sec, rfl, hc⟩ := hwf.mem_listRaw.mp hpub
    rw [toOption_eq_some, (D.scheme t).publicOf_publicBytes, ok.injEq] at hp
    subst hp
    exact ⟨sec, b, hb, hc⟩
  · rintro ⟨sec, b, hb, hc⟩
    refine ⟨b, hb, (D.scheme t).publicBytes p, hwf.mem_listRaw.mpr ⟨p, sec, rfl, hc⟩, ?_⟩
    rw [toOption_eq_some, (D.scheme t).publicOf_publicBytes]

lemma WellFormed.key_of_loadFirst (hwf : WellFormed s) {sec : Bytes} {bs : List Backend}
    (h : loadFirst t pub s bs = .ok sec) :
    ∃ p secret, pub = (D.scheme t).publicBytes p ∧ sec = (D.scheme t).secretBytes secret := by
  induction bs with
  | nil => cases h
  | cons b bs ih =>
    obtain ⟨loaded, hl, h⟩ := bind_eq_ok.mp h
    rcases loaded with _ | sec'
    · exact ih h
    cases h
    rcases b with _ | _
    · rw [loadSecretRaw, ok.injEq] at hl
      exact hwf.memory t pub sec hl
    rw [loadSecretRaw] at hl
    rcases hlo : (s.files t).lookup (D.hash pub) with _ | content
    · rw [hlo] at hl
      cases hl
    rw [hlo] at hl
    dsimp only at hl
    rcases hwf.files t _ _ hlo with ⟨p, secret, hh, rfl⟩ | ⟨e, he⟩
    · have hpub := D.hash_injective hh
      rw [loadFile, D.fromSlice_toVec, hpub] at hl
      have hsec := ok.inj hl
      rw [if_neg (not_not.mpr rfl), Option.some.injEq] at hsec
      exact ⟨p, secret, hpub, hsec.symm⟩
    · rw [loadFile, he] at hl
      cases hl

lemma lastBytes_eq_some_iff {last : KeyMap D} {p : (D.scheme t).Public}
    {secret : (D.scheme t).Secret} :
    lastBytes last t p = some ((D.scheme t).secretBytes secret) ↔ last t p = some secret := by
  show (last t p).map (D.scheme t).secretBytes = _ ↔ _
  rcases last t p with _ | sec'
  · simp
  simp [(D.scheme t).secretBytes_inj]

lemma WellFormed.getSecret_iff (hwf : WellFormed s) (last : KeyMap D) (t : D.KeyTypeId)
    (p : (D.scheme t).Public) :
    getSecret config s t p = okOr (last t p) .keyNotFound ↔
      first (config.backends.map (cell s t p)) = cellOf (lastBytes last t p) := by
  rw [← hwf.loadFirst_iff, getSecret]
  cases hl : loadFirst t ((D.scheme t).publicBytes p) s config.backends with
  | error e =>
    rw [lastBytes]
    rcases last t p with _ | secret
    · show error e = error _ ↔ error e = error _
      simp
    exact iff_of_false nofun nofun
  | ok sec =>
    obtain ⟨-, secret, -, rfl⟩ := hwf.key_of_loadFirst hl
    rw [ok_bind, (D.scheme t).secretOf_secretBytes, eq_comm, eq_comm (a := ok _)]
    exact okOr_eq_ok.trans (lastBytes_eq_some_iff.symm.trans okOr_eq_ok.symm)

lemma WellFormed.getPublicKeyLocal_iff (hwf : WellFormed s) {kid : List Char}
    {k : (D.scheme t).Public} :
    getPublicKeyLocal config s t kid = .ok k ↔ ∃ p secret, (D.scheme t).publicBytes p = utf8 kid ∧
        first (config.backends.map (cell s t p)) = .holds ((D.scheme t).secretBytes secret) ∧
        (D.scheme t).publicOf ((D.scheme t).secretBytes secret) = .ok k := by
  constructor
  · intro h
    obtain ⟨sec, hl, hk⟩ := bind_eq_ok.mp h
    obtain ⟨p, secret, hpub, rfl⟩ := hwf.key_of_loadFirst hl
    rw [hpub] at hl
    exact ⟨p, secret, hpub.symm, (hwf.loadFirst_iff t p _ (some _)).mp hl, mapError_eq_ok.mp hk⟩
  · rintro ⟨p, secret, hki, hf, hk⟩
    have hl := (hwf.loadFirst_iff t p _ (some _)).mpr hf
    rw [hki] at hl
    exact bind_eq_ok.mpr ⟨_, hl, mapError_eq_ok.mpr hk⟩

theorem WellFormed.agree_iff (hwf : WellFormed s) (last : KeyMap D) : Agree config s last ↔
      (∀ t p, Views (config.backends.map (cell s t p)) (lastBytes last t p)) ∧ Resolves last := by
  constructor
  · intro h
    have hf := fun t p => (hwf.getSecret_iff config last t p).mp (h.secret t p)
    refine ⟨fun t p => views_iff.mpr (hf t p), fun t p sec kid k hla hki hk => ?_⟩
    have hc := hf t p
    rw [lastBytes_eq_some_iff.mpr hla] at hc
    refine (h.listed t k).mp (h.publicKey t kid k ?_)
    exact (hwf.getPublicKeyLocal_iff config).mpr ⟨p, sec, hki, hc, hk⟩
  · rintro ⟨hv, hr⟩
    have hb : ∀ t p, (lastBytes last t p).isSome = (last t p).isSome := by
      intro t p
      rw [lastBytes, Option.isSome_map]
    have hl : ∀ t p, p ∈ listLocal config s t ↔ (last t p).isSome = true := by
      intro t p
      rw [hwf.mem_listLocal_iff, (hv t p).lists, hb]
    refine ⟨fun t p => ?_, hl, fun t p => ?_, fun t kid k hk => ?_⟩
    · rw [hwf.containsLocal_iff, (hv t p).contains, hb]
    · exact (hwf.getSecret_iff config last t p).mpr (hv t p).first
    · obtain ⟨p, sec, hki, hf, hp⟩ := (hwf.getPublicKeyLocal_iff config).mp hk
      have hla : lastBytes last t p = some ((D.scheme t).secretBytes sec) :=
        cellOf_inj.mp ((hv t p).first.symm.trans hf)
      rw [hl]
      exact hr t p sec kid k (lastBytes_eq_some_iff.mp hla) hki hp

def setEntry {κ : Type} [DecidableEq κ] (m : HashMap κ Bytes) (k : κ) : Option Bytes → HashMap κ Bytes
  | some content => m.insert k content
  | none => m.erase k

lemma lookup_setEntry {κ : Type} [DecidableEq κ] (m : HashMap κ Bytes) (k k' : κ)
    (content : Option Bytes) :
    (setEntry m k content).lookup k' = if k' = k then content else m.lookup k' := by
  rcases content with _ | bs
  · rw [setEntry, HashMap.lookup_erase_eq]
  rw [setEntry, HashMap.lookup_insert_eq]

def Storages.put (s : Storages D) (t : D.KeyTypeId) (pub : Bytes) (content : Option Bytes) :
    Backend → Storages D
  | .inMemory => s.setMemory t (setEntry (s.memory t) pub content)
  | .file => s.setFiles t (setEntry (s.files t) (D.hash pub) content)

lemma Storages.memory_put (s : Storages D) (t : D.KeyTypeId) (pub : Bytes) (content : Option Bytes)
    (t' : D.KeyTypeId) (pub' : Bytes) :
    ((s.put t pub content .inMemory).memory t').lookup pub'
      = if t' = t ∧ pub' = pub then content else (s.memory t').lookup pub' := by
  show (Function.update s.memory t (setEntry (s.memory t) pub content) t').lookup pub' = _
  by_cases ht : t' = t
  · subst ht
    rw [Function.update_self, lookup_setEntry]
    simp
  · rw [Function.update_of_ne ht, if_neg (fun h => ht h.1)]

lemma Storages.files_put (s : Storages D) (t : D.KeyTypeId) (pub : Bytes) (content : Option Bytes)
    (t' : D.KeyTypeId) (h : D.Hash) :
    ((s.put t pub content .file).files t').lookup h
      = if t' = t ∧ h = D.hash pub then content else (s.files t').lookup h := by
  show (Function.update s.files t (setEntry (s.files t) (D.hash pub) content) t').lookup h = _
  by_cases ht : t' = t
  · subst ht
    rw [Function.update_self, lookup_setEntry]
    simp
  · rw [Function.update_of_ne ht, if_neg (fun h => ht h.1)]

structure Touches (s s' : Storages D) (t : D.KeyTypeId) (p : (D.scheme t).Public)
    (touched : Backend → Prop) : Prop where
  wellFormed : WellFormed s'
  others : ∀ t' p' b', (touched b' → t' = t →
    (D.scheme t').publicBytes p' ≠ (D.scheme t).publicBytes p) → cell s' t' p' b' = cell s t' p' b'

lemma cell_put_of_ne {t' : D.KeyTypeId} {p' : (D.scheme t').Public} {b b' : Backend}
    (content : Option Bytes) (h : b' = b → t' = t → (D.scheme t').publicBytes p' ≠ pub) :
    cell (s.put t pub content b) t' p' b' = cell s t' p' b' := by
  cases b with
  | inMemory =>
    rcases b' with _ | _
    · rw [cell, cell, s.memory_put, if_neg (fun heq => h rfl heq.1 heq.2)]
    rfl
  | file =>
    rcases b' with _ | _
    · rfl
    rw [cell, cell, s.files_put, if_neg (fun heq => h rfl heq.1 (D.hash_injective heq.2))]

lemma cell_put_none (t : D.KeyTypeId) (p : (D.scheme t).Public) (b : Backend) :
    cell (s.put t ((D.scheme t).publicBytes p) none b) t p b = .absent := by
  rcases b with _ | _
  · rw [cell, s.memory_put, if_pos ⟨rfl, rfl⟩]
    rfl
  rw [cell, s.files_put, if_pos ⟨rfl, rfl⟩]

lemma WellFormed.touches_memory (hwf : WellFormed s) (t : D.KeyTypeId) (p : (D.scheme t).Public)
    (h : ∀ sec, content = some sec → ∃ secret, sec = (D.scheme t).secretBytes secret) :
    Touches s (s.put t ((D.scheme t).publicBytes p) content .inMemory) t p (· = .inMemory) := by
  refine ⟨⟨fun t' pub' sec hl => ?_, hwf.files⟩, fun t' p' b' hne => cell_put_of_ne _ hne⟩
  rw [s.memory_put] at hl
  split_ifs at hl with heq
  · obtain ⟨rfl, rfl⟩ := heq
    exact ⟨p, (h sec hl).choose, rfl, (h sec hl).choose_spec⟩
  · exact hwf.memory t' pub' sec hl

lemma WellFormed.touches_file (hwf : WellFormed s) (t : D.KeyTypeId) (p : (D.scheme t).Public)
    (h : ∀ bs, content = some bs →
      (∃ secret, bs = D.toVec ((D.scheme t).publicBytes p) ((D.scheme t).secretBytes secret)) ∨
        Failed (D.fromSlice bs)) :
    Touches s (s.put t ((D.scheme t).publicBytes p) content .file) t p (· = .file) := by
  refine ⟨⟨hwf.memory, fun t' hash bs hl => ?_⟩, fun t' p' b' hne => cell_put_of_ne _ hne⟩
  rw [s.files_put] at hl
  split_ifs at hl with heq
  · obtain ⟨rfl, rfl⟩ := heq
    exact (h bs hl).imp_left fun h => ⟨p, h.choose, rfl, h.choose_spec⟩
  · exact hwf.files t' hash bs hl

lemma WellFormed.touches_nothing (hwf : WellFormed s) (t : D.KeyTypeId) (p : (D.scheme t).Public)
    (touched : Backend → Prop) : Touches s s t p touched :=
  ⟨hwf, fun _ _ _ _ => rfl⟩

lemma failed_cutOff (pub sec : Bytes) (missing : ℕ) :
    Failed (D.fromSlice (cutOff (D.toVec pub sec) missing)) := by
  obtain ⟨n, hn, hcut⟩ := cutOff_eq_take (D.toVec_ne_nil pub sec) missing
  rw [hcut]
  exact D.fromSlice_part pub sec n hn

def ActsOn (t : D.KeyTypeId) (p : (D.scheme t).Public) (f : Attempt → Cell Bytes → Cell Bytes × Bool)
    (attempt : Backend → Attempt)
    (op : Storages D → Backend → Storages D × Except KeystoreError Unit) : Prop :=
  ∀ s, WellFormed s → ∀ b, Touches s (op s b).1 t p (· = b) ∧
    cell (op s b).1 t p b = (f (attempt b) (cell s t p b)).1 ∧
    (Failed (op s b).2 ↔ (f (attempt b) (cell s t p b)).2 = false)

/-- **The loops** change the cells of the key in all storages until one fails, and no others. -/
theorem ActsOn.forEachBackend {p : (D.scheme t).Public}
    {f : Attempt → Cell Bytes → Cell Bytes × Bool} {attempt : Backend → Attempt}
    {op : Storages D → Backend → Storages D × Except KeystoreError Unit}
    (hop : ActsOn t p f attempt op) (hwf : WellFormed s) {bs : List Backend} (hbs : bs.Nodup) :
    Touches s (Keystore.forEachBackend op bs s).1 t p (· ∈ bs) ∧
      bs.map (cell (Keystore.forEachBackend op bs s).1 t p)
        = (runAll f (bs.map fun b => (attempt b, cell s t p b))).1 ∧
      (Failed (Keystore.forEachBackend op bs s).2 ↔
        (runAll f (bs.map fun b => (attempt b, cell s t p b))).2 = false) := by
  induction bs generalizing s with
  | nil => exact ⟨⟨hwf, fun _ _ _ _ => rfl⟩, rfl, iff_of_false (not_failed_ok ()) (by simp [runAll])⟩
  | cons b bs ih =>
    rw [List.nodup_cons] at hbs
    obtain ⟨⟨hwf₁, ho₁⟩, hce, hf⟩ := hop s hwf b
    -- the other storages still have what they had
    have hre : ∀ b' ∈ bs, cell (op s b).1 t p b' = cell s t p b' := by
      intro b' hb'
      exact ho₁ t p b' fun heq => absurd (heq ▸ hb') hbs.1
    rw [Keystore.forEachBackend, List.map_cons, List.map_cons, runAll]
    cases hr : (op s b).2 with
    | ok u =>
      have hd : (f (attempt b) (cell s t p b)).2 = true := by
        rw [hr] at hf
        exact eq_true_of_ne_false (mt hf.mpr (not_failed_ok u))
      have hmap : (bs.map fun b' => (attempt b', cell (op s b).1 t p b'))
          = bs.map fun b' => (attempt b', cell s t p b') :=
        List.map_congr_left fun b' hb' => by rw [hre b' hb']
      obtain ⟨⟨hwf₂, ho⟩, hc, hf₂⟩ := ih hwf₁ hbs.2
      rw [hmap] at hc hf₂
      rw [if_pos hd]
      refine ⟨⟨hwf₂, fun t' p' b' hne => ?_⟩, ?_, hf₂⟩
      · rw [ho t' p' b' fun hb' => hne (List.mem_cons_of_mem b hb'),
          ho₁ t' p' b' fun heq => hne (heq ▸ List.mem_cons_self)]
      · rw [hc, ho t p b fun hb => absurd hb hbs.1, hce]
    | error e =>
      have hnot : (f (attempt b) (cell s t p b)).2 = false := by
        rw [← hf, hr]
        exact failed_error e
      rw [hnot, if_neg Bool.false_ne_true, List.map_map]
      refine ⟨⟨hwf₁, fun t' p' b' hne => ?_⟩, ?_, iff_of_true (failed_error e) rfl⟩
      · exact ho₁ t' p' b' fun heq => hne (heq ▸ List.mem_cons_self)
      · rw [hce]
        exact congrArg _ (List.map_congr_left hre)

def storeAttempt (write : WriteAttempt) : Backend → Attempt
  | .inMemory => .done
  | .file =>
    match write with
    | .done => .done
    | .refused _ => .refused
    | .torn _ _ => .torn

lemma actsOn_storeRaw (t : D.KeyTypeId) (p : (D.scheme t).Public) (secret : (D.scheme t).Secret)
    (write : WriteAttempt) :
    ActsOn t p (writing ((D.scheme t).secretBytes secret)) (storeAttempt write)
      (storeRaw t ((D.scheme t).publicBytes p) ((D.scheme t).secretBytes secret) write) := by
  intro s hwf b
  cases b with
  | inMemory =>
    have ht := hwf.touches_memory t p fun sec hsec =>
      ⟨secret, (Option.some.inj hsec).symm⟩
    refine ⟨ht, ?_, iff_of_false (not_failed_ok ()) Bool.noConfusion⟩
    show cell (s.put t _ (some _) .inMemory) t p .inMemory = _
    rw [cell, s.memory_put, if_pos ⟨rfl, rfl⟩]
    rfl
  | file =>
    cases write with
    | done =>
      have ht := hwf.touches_file t p fun bs hb =>
        .inl ⟨secret, (Option.some.inj hb).symm⟩
      refine ⟨ht, ?_, iff_of_false (not_failed_ok ()) Bool.noConfusion⟩
      show cell (s.put t _ (some _) .file) t p .file = _
      rw [cell, s.files_put, if_pos ⟨rfl, rfl⟩]
      dsimp only
      rw [D.fromSlice_toVec]
      rfl
    | refused text =>
      exact ⟨hwf.touches_nothing t p _, rfl, iff_of_true (failed_error _) rfl⟩
    | torn missing text =>
      have hp := failed_cutOff (D := D) ((D.scheme t).publicBytes p)
        ((D.scheme t).secretBytes secret) missing
      have ht := hwf.touches_file t p fun bs hb => .inr (Option.some.inj hb ▸ hp)
      refine ⟨ht, ?_, iff_of_true (failed_error _) rfl⟩
      show cell (s.put t _ (some _) .file) t p .file = _
      rw [cell, s.files_put, if_pos ⟨rfl, rfl⟩]
      obtain ⟨e, he⟩ := hp
      dsimp only
      rw [he]
      rfl

def RemoveAttempt.attempt (attempt : RemoveAttempt) : Backend → Attempt
  | .inMemory => .done
  | .file =>
    match attempt with
    | .done => .done
    | .refused _ => .refused

lemma actsOn_removeRaw (t : D.KeyTypeId) (p : (D.scheme t).Public) (attempt : RemoveAttempt) :
    ActsOn t p emptying attempt.attempt (removeRaw t ((D.scheme t).publicBytes p) attempt) := by
  intro s hwf b
  have hn : ∀ bytes : Bytes, none ≠ some bytes := nofun
  rcases b with _ | _
  · rw [emptying, if_pos (.inl rfl)]
    have ht := hwf.touches_memory t p fun sec hsec => absurd hsec (hn sec)
    exact ⟨ht, cell_put_none t p .inMemory, iff_of_false (not_failed_ok ()) Bool.noConfusion⟩
  rw [emptying, removeRaw]
  cases hl : (s.files t).lookup (D.hash ((D.scheme t).publicBytes p)) with
  | none =>
    have ha : cell s t p .file = .absent := by rw [cell, hl]
    have hd : attempt.attempt .file = .done ∨ (cell s t p .file).isAbsent = true := by
      rw [ha]
      exact .inr rfl
    rw [if_pos hd]
    exact ⟨hwf.touches_nothing t p _, ha, iff_of_false (not_failed_ok ()) Bool.noConfusion⟩
  | some content =>
    rcases attempt with _ | text
    · rw [if_pos (.inl rfl)]
      have ht := hwf.touches_file t p fun bytes hb => absurd hb (hn bytes)
      exact ⟨ht, cell_put_none t p .file, iff_of_false (not_failed_ok ()) Bool.noConfusion⟩
    have hth : (cell s t p .file).isAbsent = false := by
      rw [cell, hl]
      rcases hr : D.fromSlice content with e | keys <;> simp [hr, Cell.isAbsent]
    have hnot : ¬ (RemoveAttempt.attempt (.refused text) .file = .done ∨
        (cell s t p .file).isAbsent = true) := by
      rw [hth]
      simp [RemoveAttempt.attempt]
    rw [if_neg hnot]
    exact ⟨hwf.touches_nothing t p _, rfl, iff_of_true (failed_error _) rfl⟩

end

end Gadget.Keystore
