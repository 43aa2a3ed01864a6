import Gadget.Keystore.Storage
import Gadget.Lib.Run
import Gadget.Lib.UnaryCode
import Mathlib.Logic.Encodable.Pi

/-!
# The keystore as a map

The keystore should look like one map from public keys to the secrets that were last inserted, for
each key type, whatever the storages are and whatever fails: `Agree`. Over a run, the map changes
with the operations that succeed.
-/

namespace Gadget.Keystore

open Rust Lib Lib.Replicas Lib.Run Function

variable {D : KeystoreDeps} (config : KeystoreConfig)

variable (last : KeyMap D)

variable (t : D.KeyTypeId) (p : (D.scheme t).Public) (value : Option (D.scheme t).Secret)

def KeyMap.set : KeyMap D :=
  Function.update last t (Function.update (last t) p value)

lemma KeyMap.set_self : last.set t p value t p = value := by
  rw [KeyMap.set, update_self, update_self]

lemma KeyMap.set_of_ne {t t' : D.KeyTypeId} {p : (D.scheme t).Public}
    {p' : (D.scheme t').Public} (val : Option (D.scheme t).Secret)
    (h : t' = t → (D.scheme t').publicBytes p' ≠ (D.scheme t).publicBytes p) :
    last.set t p val t' p' = last t' p' := by
  rw [KeyMap.set]
  by_cases ht : t' = t
  · subst ht
    have hp : p' ≠ p := fun heq => h rfl (by rw [heq])
    rw [update_self, update_of_ne hp]
  · rw [update_of_ne ht]

lemma KeyMap.set_same : last.set t p (last t p) = last := by
  rw [KeyMap.set, update_eq_self, update_eq_self]

variable {config}

lemma agree_change_iff {s s' : Storages D} {last : KeyMap D} (hwf : WellFormed s)
    (ha : Agree config s last) {t : D.KeyTypeId} {p : (D.scheme t).Public}
    {touched : Backend → Prop} (hto : Touches s s' t p touched)
    (val : Option (D.scheme t).Secret) :
    Agree config s' (last.set t p val) ↔
      Views (config.backends.map (cell s' t p)) (val.map (D.scheme t).secretBytes) ∧
        Resolves (last.set t p val) := by
  have hv := ((hwf.agree_iff config last).mp ha).1
  rw [hto.wellFormed.agree_iff]
  refine and_congr_left fun _ => ⟨fun h => ?_, fun h t' p' => ?_⟩
  · have hkey := h t p
    rwa [lastBytes, last.set_self] at hkey
  · by_cases hkey : t' = t ∧ (D.scheme t').publicBytes p' = (D.scheme t).publicBytes p
    · obtain ⟨rfl, hb⟩ := hkey
      have hp := (D.scheme t').publicBytes_inj.mp hb
      subst hp
      rwa [lastBytes, last.set_self]
    have hne : t' = t → (D.scheme t').publicBytes p' ≠ (D.scheme t).publicBytes p :=
      fun ht hb => hkey ⟨ht, hb⟩
    have hc : config.backends.map (cell s' t' p') = config.backends.map (cell s t' p') :=
      List.map_congr_left fun b' _ => hto.others t' p' b' fun _ => hne
    rw [hc, lastBytes, last.set_of_ne val hne]
    exact hv t' p'

structure KeystoreRun (D : KeystoreDeps) where
  storages : Storages D
  last : KeyMap D

inductive KeyEvent (D : KeystoreDeps) where
  | generate (t : D.KeyTypeId) (generated : Except String (D.scheme t).Secret) (write : WriteAttempt)
  | insert (t : D.KeyTypeId) (secret : (D.scheme t).Secret) (write : WriteAttempt)
  | remove (t : D.KeyTypeId) (p : (D.scheme t).Public) (attempt : RemoveAttempt)

def settle {α : Type} (result : Except KeystoreError α) (new old : KeyMap D) : KeyMap D :=
  match result with
  | .ok _ => new
  | .error _ => old

variable (config) (r : KeystoreRun D)

variable (t : D.KeyTypeId) (secret : (D.scheme t).Secret) (write : WriteAttempt)

def KeystoreRun.store : KeystoreRun D :=
  ⟨(insert config t secret write r.storages).1, settle (insert config t secret write r.storages).2
      (r.last.set t ((D.scheme t).publicFromSecret secret) (some secret)) r.last⟩

def KeystoreRun.step : KeyEvent D → KeystoreRun D
  | .generate t generated write =>
    ⟨(generate config t generated write r.storages).1, match generated with
      | .ok secret =>
        settle (generate config t generated write r.storages).2
          (r.last.set t ((D.scheme t).publicFromSecret secret) (some secret)) r.last
      | .error _ => r.last⟩
  | .insert t secret write => r.store config t secret write
  | .remove t p attempt =>
    ⟨(remove config t p attempt r.storages).1,
      settle (remove config t p attempt r.storages).2 (r.last.set t p none) r.last⟩

lemma KeystoreRun.step_generate :
    r.step config (.generate t (.ok secret) write) = r.store config t secret write := by
  rw [KeystoreRun.step, KeystoreRun.store, generate]
  rcases (insert config t secret write r.storages).2 with e | u <;> rfl

def StoreKept : Prop :=
  (¬ Failed (insert config t secret write r.storages).2 →
    Resolves (r.last.set t ((D.scheme t).publicFromSecret secret) (some secret))) ∧
  (Failed (insert config t secret write r.storages).2 → if config.finalize.inMemory = true then
      r.last t ((D.scheme t).publicFromSecret secret) = some secret
    else storeAttempt write .file = .refused)

def Kept : KeyEvent D → Prop
  | .generate t (.ok secret) write => StoreKept config r t secret write
  | .generate _ (.error _) _ => True
  | .insert t secret write => StoreKept config r t secret write
  | .remove t p attempt =>
    (¬ Failed (remove config t p attempt r.storages).2 → Resolves (r.last.set t p none)) ∧
    (Failed (remove config t p attempt r.storages).2 →
      loadSecretRaw t ((D.scheme t).publicBytes p) r.storages .file = .ok (lastBytes r.last t p))

variable {config}

lemma backends_cases (config : KeystoreConfig) : config.finalize.inMemory = true ∧
      (config.backends = [.inMemory] ∨ config.backends = [.inMemory, .file]) ∨
    config.finalize.inMemory = false ∧ config.backends = [.file] := by
  obtain ⟨inMemory, fsRoot⟩ := config
  rcases inMemory with _ | _
  · rcases fsRoot with _ | _
    · exact .inl ⟨rfl, .inl rfl⟩
    exact .inr ⟨rfl, rfl⟩
  rcases fsRoot with _ | _
  · exact .inl ⟨rfl, .inl rfl⟩
  exact .inl ⟨rfl, .inr rfl⟩

lemma nodup_backends (config : KeystoreConfig) : config.backends.Nodup := by
  rcases backends_cases config with ⟨-, h | h⟩ | ⟨-, h⟩
  · rw [h]
    decide
  · rw [h]
    decide
  · rw [h]
    decide

lemma settle_ok {α : Type} {result : Except KeystoreError α} (h : ¬ Failed result)
    (new old : KeyMap D) : settle result new old = new := by
  rcases result with e | a
  · exact absurd (failed_error e) h
  rfl

lemma settle_failed {α : Type} {result : Except KeystoreError α} (h : Failed result)
    (new old : KeyMap D) : settle result new old = old := by
  obtain ⟨e, rfl⟩ := h
  rfl

lemma views_failed_store_iff {cells : Backend → Cell Bytes} {write : WriteAttempt} {v : Bytes}
    {val : Option Bytes} (hv : Views (config.backends.map cells) val)
    (hf : (runAll (writing v) (config.backends.map fun b => (storeAttempt write b, cells b))).2
      = false) :
    Views (runAll (writing v) (config.backends.map fun b => (storeAttempt write b, cells b))).1 val ↔
      if config.finalize.inMemory = true then val = some v
      else storeAttempt write .file = .refused := by
  rcases backends_cases config with ⟨hm, hb | hb⟩ | ⟨hm, hb⟩
  · rw [hb] at hf
    cases hf
  · rw [hb] at hv ⊢
    have hiff : Views (runAll (writing v) [(Attempt.done, cells .inMemory),
        (storeAttempt write .file, cells .file)]).1 val ↔ _ := views_writing_iff hv
    rw [if_pos hm]
    refine hiff.trans ?_
    simp
  · rw [hb] at hv hf ⊢
    have hiff : Views (runAll (writing v) [(storeAttempt write .file, cells .file)]).1 val ↔ _ :=
      views_writing_iff hv
    rw [hm, if_neg (by decide)]
    refine hiff.trans (or_iff_left ?_)
    -- a write that was done has not failed
    rintro ⟨hd, -⟩
    rw [List.map_singleton, hd] at hf
    cases hf

theorem agree_store_iff {r : KeystoreRun D} (hwf : WellFormed r.storages)
    (ha : Agree config r.storages r.last) (t : D.KeyTypeId) (sec : (D.scheme t).Secret)
    (write : WriteAttempt) :
    WellFormed (r.store config t sec write).storages ∧
      (Agree config (r.store config t sec write).storages (r.store config t sec write).last ↔
        StoreKept config r t sec write) := by
  obtain ⟨ht, hce, hfa⟩ :=
    (actsOn_storeRaw t ((D.scheme t).publicFromSecret sec) sec write).forEachBackend hwf
      (nodup_backends config)
  obtain ⟨hv, hr⟩ := (hwf.agree_iff config r.last).mp ha
  have hc := agree_change_iff hwf ha ht
  rw [hce] at hc
  refine ⟨ht.wellFormed, ?_⟩
  rw [KeystoreRun.store, StoreKept, insert]
  by_cases hf : Failed (insert config t sec write r.storages).2
  · have hset := hc (r.last t ((D.scheme t).publicFromSecret sec))
    have hk := views_failed_store_iff (hv t ((D.scheme t).publicFromSecret sec)) (hfa.mp hf)
    rw [KeyMap.set_same] at hset
    rw [insert] at hf
    rw [settle_failed hf, hset]
    simp only [hf, not_true_eq_false, false_imp_iff, true_and, forall_const, hr, and_true]
    rw [← lastBytes_eq_some_iff]
    exact hk
  · have hd := eq_true_of_ne_false (mt hfa.mpr hf)
    have hne : (config.backends.map fun b =>
        (storeAttempt write b, cell r.storages t ((D.scheme t).publicFromSecret sec) b)) ≠ [] := by
      rcases backends_cases config with ⟨-, h | h⟩ | ⟨-, h⟩ <;> simp [h]
    rw [insert] at hf
    rw [settle_ok hf, hc (some sec)]
    simp only [hf, not_false_eq_true, forall_const, false_imp_iff, and_true]
    exact and_iff_right (views_writing hne hd)

lemma stoppedAt_of_failed {cells : Backend → Cell Bytes} {attempt : RemoveAttempt}
    (hf : (runAll emptying (config.backends.map fun b => (attempt.attempt b, cells b))).2 = false) :
    stoppedAt (config.backends.map fun b => (attempt.attempt b, cells b)) = cells .file := by
  have hfi : (runAll emptying [(attempt.attempt .file, cells .file)]).2 = false →
      stoppedAt [(attempt.attempt .file, cells .file)] = cells .file := by
    intro h
    rw [runAll, emptying] at h
    rw [stoppedAt]
    by_cases hd : attempt.attempt .file = .done ∨ (cells .file).isAbsent = true
    · rw [if_pos hd] at h
      cases h
    · rw [if_neg hd]
  rcases backends_cases config with ⟨-, hb | hb⟩ | ⟨-, hb⟩
  · rw [hb] at hf
    cases hf
  · rw [hb] at hf ⊢
    -- the storage in memory always removes the key
    exact hfi hf
  · rw [hb] at hf ⊢
    exact hfi hf

theorem agree_remove_iff {r : KeystoreRun D} (hwf : WellFormed r.storages)
    (ha : Agree config r.storages r.last) (t : D.KeyTypeId) (p : (D.scheme t).Public)
    (attempt : RemoveAttempt) :
    WellFormed (r.step config (.remove t p attempt)).storages ∧
      (Agree config (r.step config (.remove t p attempt)).storages
        (r.step config (.remove t p attempt)).last ↔ Kept config r (.remove t p attempt)) := by
  obtain ⟨ht, hce, hfa⟩ := (actsOn_removeRaw t p attempt).forEachBackend hwf (nodup_backends config)
  obtain ⟨hv, hr⟩ := (hwf.agree_iff config r.last).mp ha
  have hc := agree_change_iff hwf ha ht
  have hs := first_emptying
    (config.backends.map fun b => (attempt.attempt b, cell r.storages t p b))
  rw [hce] at hc
  refine ⟨ht.wellFormed, ?_⟩
  rw [KeystoreRun.step, Kept, remove]
  by_cases hf : Failed (remove config t p attempt r.storages).2
  · have hset := hc (r.last t p)
    have hfi := stoppedAt_of_failed (hfa.mp hf)
    rw [KeyMap.set_same, views_iff, hs.1, hfi] at hset
    rw [remove] at hf
    rw [settle_failed hf, hset]
    simp only [hf, not_true_eq_false, false_imp_iff, true_and, forall_const, hr, and_true]
    exact (hwf.loadSecretRaw_iff t p .file _).symm
  · have hd := eq_true_of_ne_false (mt hfa.mpr hf)
    have hset := hc none
    rw [views_iff, hs.1, hs.2 hd] at hset
    rw [remove] at hf
    rw [settle_ok hf, hset]
    simp only [hf, not_false_eq_true, forall_const, false_imp_iff, and_true]
    exact and_iff_right rfl

lemma agree_step_iff {r : KeystoreRun D} (hwf : WellFormed r.storages)
    (ha : Agree config r.storages r.last) (e : KeyEvent D) :
    WellFormed (r.step config e).storages ∧
      (Agree config (r.step config e).storages (r.step config e).last ↔ Kept config r e) := by
  cases e with
  | generate t generated write =>
    rcases generated with e | sec
    · exact ⟨hwf, iff_of_true ha trivial⟩
    rw [KeystoreRun.step_generate]
    exact agree_store_iff hwf ha t sec write
  | insert t sec write => exact agree_store_iff hwf ha t sec write
  | remove t p attempt => exact agree_remove_iff hwf ha t p attempt

/-- **The keystore is a map as long as its failures cannot be seen.** Along a run the views of every
key of every type agree with the secrets last inserted, and only keys that are listed are returned, if
and only if the operations are `Kept`: a failed store left the first storage as it was, a failed removal
found the secret last inserted in the file, and no secret is the public key that an identifier names. -/
theorem always_agree_iff (start : KeystoreRun D) (hwf : WellFormed start.storages)
    (hagree : Agree config start.storages start.last) (events : List (KeyEvent D)) :
    Always (KeystoreRun.step config) (fun r => Agree config r.storages r.last) start events ↔
      Each (KeystoreRun.step config) (Kept config) start events := by
  have hs : ∀ (r : KeystoreRun D) (e : KeyEvent D), WellFormed r.storages →
      Agree config r.storages r.last →
      (Agree config (r.step config e).storages (r.step config e).last ↔ Kept config r e) :=
    fun r e hwf hagree => (agree_step_iff hwf hagree e).2
  exact always_iff_each (J := fun r : KeystoreRun D => WellFormed r.storages)
    (fun r e hwf hagree => (agree_step_iff hwf hagree e).1) hs hwf hagree events

/-- **No entry is half right.** In every run, whichever writes and removals fail, what is in memory is a
key, and a file holds the key it is named after or cannot be read. -/
theorem always_wellFormed_storages (last : KeyMap D) (events : List (KeyEvent D)) :
    Always (KeystoreRun.step config) (fun r => WellFormed r.storages)
      ⟨⟨fun _ => ∅, fun _ => ∅⟩, last⟩ events := by
  have hst (t : D.KeyTypeId) (sec : (D.scheme t).Secret) (write : WriteAttempt) {s : Storages D}
      (h : WellFormed s) : WellFormed (insert config t sec write s).1 :=
    ((actsOn_storeRaw t _ sec write).forEachBackend h (nodup_backends config)).1.wellFormed
  refine always_of_step ?_ ?_ events
  swap
  · exact wellFormed_empty
  intro r e h
  cases e with
  | generate t generated write =>
    rcases generated with e | sec
    · exact h
    rw [KeystoreRun.step_generate]
    exact hst t sec write h
  | insert t sec write => exact hst t sec write h
  | remove t p attempt =>
    exact ((actsOn_removeRaw t p attempt).forEachBackend h (nodup_backends config)).1.wellFormed

instance encodableByte : Encodable UInt8 :=
  Encodable.ofLeftInverse UInt8.toNat UInt8.ofNat fun _ => UInt8.ofNat_toNat

abbrev byteScheme : KeyScheme where
  Public := Fin 256
  Secret := UInt8
  order := inferInstance
  publicFromSecret secret := (secret + 1).toFin
  publicBytes p := [UInt8.ofFin p]
  publicOf bytes := if let [p] := bytes then .ok p.toFin else .error "length"
  secretBytes secret := [secret]
  secretOf bytes := if let [secret] := bytes then .ok secret else .error "length"
  publicOf_publicBytes _ := rfl
  secretOf_secretBytes _ := rfl

abbrev byteKeys : KeystoreDeps where
  KeyTypeId := Unit
  decideType := inferInstance
  scheme _ := byteScheme
  Hash := Bytes
  decideHash := inferInstance
  hash := id
  hash_injective := Function.injective_id
  toVec pub sec := UnaryCode.write 1 0 (pub, sec)
  fromSlice := UnaryCode.read 1 0
  fromSlice_toVec pub sec := UnaryCode.read_write 1 0 (pub, sec)
  fromSlice_part pub sec := UnaryCode.failed_read_take (by decide) (pub, sec)
  toVec_ne_nil pub sec := UnaryCode.write_ne_nil 1 0 (pub, sec)

abbrev emptyRun : KeystoreRun byteKeys := ⟨⟨fun _ => ∅, fun _ => ∅⟩, fun _ _ => none⟩

lemma agree_emptyRun (config : KeystoreConfig) : Agree config emptyRun.storages emptyRun.last := by
  refine (wellFormed_empty.agree_iff config _).mpr ⟨fun t p => views_iff.mpr ?_, ?_⟩
  · rcases backends_cases config with ⟨-, h | h⟩ | ⟨-, h⟩
    · rw [h]
      rfl
    · rw [h]
      rfl
    · rw [h]
      rfl
  · intro t p sec kid k hl
    cases hl

lemma resolves_of_no_text {last : KeyMap byteKeys}
    (h : ∀ p, (last () p).isSome = true → fromUtf8 [UInt8.ofFin p] = none) : Resolves last := by
  intro t p sec keyId k hl hk _
  have hn := h p (by rw [hl]; rfl)
  have ht : [UInt8.ofFin p] = utf8 keyId := hk
  rw [ht, fromUtf8_utf8] at hn
  cases hn

theorem always_agree_iff_memory_and_files :
    Always (KeystoreRun.step ⟨true, true⟩) (fun r => Agree ⟨true, true⟩ r.storages r.last) emptyRun
      [.insert () 200 .done, .generate () (.ok 210) .done, .remove () 201 .done] := by
  refine (always_agree_iff emptyRun wellFormed_empty (agree_emptyRun _) _).mpr ?_
  refine ⟨⟨fun _ => resolves_of_no_text ?_, fun hf => ?_⟩,
    ⟨fun _ => resolves_of_no_text ?_, fun hf => ?_⟩,
    ⟨fun _ => resolves_of_no_text ?_, fun hf => ?_⟩, trivial⟩
  · decide +kernel
  · exact absurd hf (not_failed_ok _)
  · decide +kernel
  · exact absurd hf (not_failed_ok _)
  · decide +kernel
  · exact absurd hf (not_failed_ok _)

/-- A key stays in memory although its file could not be written and an error was returned. A part of
a file makes a key that is contained but not listed. The secret of the key `C` is the public key `B`,
which was never inserted. -/
theorem failed_insert_seen :
    (¬ Always (KeystoreRun.step ⟨true, true⟩) (fun r => Agree ⟨true, true⟩ r.storages r.last) emptyRun
      [.insert () 66 (.refused "No space left on device")]) ∧
    (¬ Always (KeystoreRun.step ⟨false, true⟩) (fun r => Agree ⟨false, true⟩ r.storages r.last) emptyRun
      [.insert () 66 (.torn 0 "No space left on device")]) ∧
    ¬ Always (KeystoreRun.step ⟨true, false⟩) (fun r => Agree ⟨true, false⟩ r.storages r.last) emptyRun
      [.insert () 66 .done] := by
  refine ⟨fun h => ?_, fun h => ?_, fun h => ?_⟩
  · have hc := h.last.contains () 67
    revert hc
    decide
  · have hc := h.last.contains () 67
    revert hc
    decide
  · have hl := (h.last.listed () 66).mp (h.last.publicKey () ['C'] 66 (by rfl))
    revert hl
    decide

end Gadget.Keystore
