import Gadget.EvmExtra.Logs
import Gadget.TangleExtra.Producer

/-!
# Decoding of events

The decoders of job events read words of 32 bytes as `u64` with a conversion that panics on larger
values. They read back what the contract encodes with the job index in the data. `Events` indexes the
first topic of every log of the block.
-/

namespace Gadget.TangleExtra

open Rust List

/-- The word at the head of the data that has the job index. -/
def indexWord (data : Bytes) : ℕ := ofBeBytes (slice data 0 32)

/-- The last word of the head: where the inputs begin. -/
def offsetWord (headSize : ℕ) (data : Bytes) : ℕ := ofBeBytes (slice data (headSize - 32) headSize)

/-- The word in front of the inputs: their length. -/
def lengthWord (headSize : ℕ) (data : Bytes) : ℕ :=
  ofBeBytes (slice data (offsetWord headSize data) (offsetWord headSize data + 32))

/-- Each word that the decoder gets to is in range, in the order in which it reads them: data that is too
short, an index from 256 on or an offset beyond the data end the decoding before the words that follow. -/
def DataFits (headSize : ℕ) (data : Bytes) : Prop :=
  headSize ≤ data.length → indexWord data < 2 ^ 64 ∧
    (indexWord data < 256 → offsetWord headSize data + 32 < 2 ^ 64 ∧
      (offsetWord headSize data + 32 ≤ data.length → lengthWord headSize data < 2 ^ 64))

/-- The data has all that the decoder asks for. -/
def DataComplete (headSize : ℕ) (data : Bytes) : Prop :=
  headSize ≤ data.length ∧ indexWord data < 256 ∧
    offsetWord headSize data + 32 + lengthWord headSize data < 2 ^ 64 ∧
    offsetWord headSize data + 32 + lengthWord headSize data ≤ data.length

/-- The condition on a log: where it has the signature and three topics, the two ids and the words of the
data are in range, and so is a job index in the topics once the data is complete. -/
def LogFits (signature : Bytes) (headSize : ℕ) (indexTopic : Bool) (log : Log) : Prop :=
  ∀ serviceTopic callTopic more, log.topics = signature :: serviceTopic :: callTopic :: more →
    ofBeBytes serviceTopic < 2 ^ 64 ∧ ofBeBytes callTopic < 2 ^ 64 ∧ DataFits headSize log.data ∧
      (indexTopic = true → DataComplete headSize log.data → ∀ topic ∈ more.head?, ofBeBytes topic < 2 ^ 64)

lemma u256ToU64_of_lt {n : ℕ} (h : n < 2 ^ 64) : u256ToU64 n = .ok n := if_pos h

section

variable {α : Type} {condition : Prop} [Decidable condition] {e : ProducerError} {n : ℕ}

lemma noPanic_check_iff {f : Unit → Outcome ProducerError α} :
    NoPanic (orErr (rejectIf condition e) >>= f) ↔ (¬ condition → NoPanic (f ())) := by
  rw [noPanic_bind_iff, and_iff_right (noPanic_orErr _)]
  simp only [orErr_eq_ok, ← rejectIf_eq_ok (e := e)]
  exact ⟨fun h => h (), fun h _ => h⟩

lemma noPanic_convert_iff {f : ℕ → Outcome ProducerError α} :
    NoPanic (u256ToU64 n >>= f) ↔ n < 2 ^ 64 ∧ NoPanic (f n) := by
  by_cases h : n < 2 ^ 64
  · rw [u256ToU64_of_lt h, ok_bind, and_iff_right h]
  · rw [u256ToU64, if_neg h, error_bind]
    exact iff_of_false id fun hn => h hn.1

lemma exists_check_iff {f : Unit → Outcome ProducerError α} :
    (∃ r, (orErr (rejectIf condition e) >>= f) = .ok r) ↔ ¬ condition ∧ ∃ r, f () = .ok r := by
  simp only [unit_bind_eq_ok, orErr_eq_ok, rejectIf_eq_ok, exists_and_left]

lemma exists_convert_iff {f : ℕ → Outcome ProducerError α} :
    (∃ r, (u256ToU64 n >>= f) = .ok r) ↔ n < 2 ^ 64 ∧ ∃ r, f n = .ok r := by
  by_cases h : n < 2 ^ 64
  · rw [u256ToU64_of_lt h, ok_bind, and_iff_right h]
  · rw [u256ToU64, if_neg h, error_bind]
    exact iff_of_false nofun fun hn => h hn.1

end

variable {headSize : ℕ} {name short : String} {data : Bytes}

lemma noPanic_decodeJobData_iff :
    NoPanic (decodeJobData name short headSize data) ↔ DataFits headSize data := by
  unfold decodeJobData DataFits
  rw [noPanic_check_iff, not_lt]
  refine imp_congr_right fun _ => ?_
  rw [noPanic_convert_iff]
  refine and_congr_right fun _ => ?_
  rw [noPanic_check_iff, not_le]
  refine imp_congr_right fun _ => ?_
  rw [noPanic_convert_iff]
  -- the conversion is in range where the sum is
  change offsetWord headSize data < 2 ^ 64 ∧ NoPanic (if 2 ^ 64 ≤ offsetWord headSize data + 32 then _ else _) ↔ _
  by_cases hsum : 2 ^ 64 ≤ offsetWord headSize data + 32
  · rw [if_pos hsum]
    exact iff_of_false (fun h => h.2) fun h => absurd h.1 (not_lt.mpr hsum)
  rw [if_neg hsum, and_iff_right (by omega), and_iff_right (not_le.mp hsum), noPanic_check_iff, not_lt]
  refine imp_congr_right fun _ => ?_
  rw [noPanic_convert_iff]
  refine and_iff_left ?_
  exact (noPanic_orErr _).bind fun _ _ => (noPanic_orErr _).bind fun _ _ => trivial

/-- The data is decoded exactly when it is complete. -/
lemma exists_decodeJobData_iff :
    (∃ r, decodeJobData name short headSize data = .ok r) ↔ DataComplete headSize data := by
  unfold decodeJobData DataComplete
  rw [exists_check_iff, exists_convert_iff, exists_check_iff, exists_convert_iff]
  have hindex : ofBeBytes (slice data 0 32) = indexWord data := rfl
  have hoffset : ofBeBytes (slice data (headSize - 32) headSize) = offsetWord headSize data := rfl
  rw [hindex, hoffset]
  by_cases hsum : 2 ^ 64 ≤ offsetWord headSize data + 32
  · simp only [if_pos hsum, reduceCtorEq, exists_false, and_false, false_iff]
    omega
  have hlength : ofBeBytes (slice data (offsetWord headSize data) (offsetWord headSize data + 32))
    = lengthWord headSize data := rfl
  rw [if_neg hsum, exists_check_iff, exists_convert_iff, exists_check_iff, exists_check_iff, hlength]
  simp only [Except.ok.injEq, exists_eq', and_true]
  omega

lemma noPanic_eventJobIndex_iff {indexTopic : Bool} {more : List Bytes} {dataIndex : UInt8} :
    NoPanic (eventJobIndex indexTopic more dataIndex) ↔
      (indexTopic = true → ∀ topic ∈ more.head?, ofBeBytes topic < 2 ^ 64) := by
  rcases more with _ | ⟨topic, more⟩
  · simp [eventJobIndex, NoPanic]
  cases indexTopic with
  | false => simp [eventJobIndex, NoPanic]
  | true =>
    simp only [eventJobIndex, readU64Topic, head?_cons, Option.mem_def, Option.some.injEq, forall_eq',
      forall_const]
    by_cases h : ofBeBytes topic < 2 ^ 64
    · rw [u256ToU64_of_lt h]
      exact iff_of_true trivial h
    · rw [u256ToU64, if_neg h]
      exact iff_of_false id h

lemma noPanic_decodeJobEvent_iff {signature : Bytes} {indexTopic : Bool} {log : Log} :
    NoPanic (decodeJobEvent signature name (decodeJobData name short headSize) indexTopic log) ↔
      LogFits signature headSize indexTopic log := by
  unfold decodeJobEvent LogFits
  rw [noPanic_check_iff, not_not]
  rcases htopics : log.topics with _ | ⟨first, _ | ⟨serviceTopic, _ | ⟨callTopic, more⟩⟩⟩
  · simp
  · exact iff_of_true (fun _ => trivial) (by simp)
  · exact iff_of_true (fun _ => trivial) (by simp)
  dsimp only
  -- the steps behind the check of the signature, one after the other
  rw [readU64Topic, noPanic_convert_iff, readU64Topic, noPanic_convert_iff, noPanic_bind_iff,
    noPanic_decodeJobData_iff]
  have hrest : (∀ r, decodeJobData name short headSize log.data = .ok r → NoPanic (do
      let jobIndex ← eventJobIndex indexTopic more r.1
      let blockNumber ← orErr (okOr log.blockNumber (.decoding "log missing block number"))
      let blockHash ← orErr (okOr log.blockHash (.decoding "log missing block hash"))
      .ok (⟨UInt64.ofNat (ofBeBytes serviceTopic), UInt64.ofNat (ofBeBytes callTopic), jobIndex, r.2.1, r.2.2,
        blockNumber, blockHash⟩ : JobSubmittedEvent))) ↔
      (indexTopic = true → DataComplete headSize log.data →
        ∀ topic ∈ more.head?, ofBeBytes topic < 2 ^ 64) := by
    rw [← exists_decodeJobData_iff]
    have hone (r : UInt8 × Bytes × Bytes) : NoPanic (eventJobIndex indexTopic more r.1) ↔ _ :=
      noPanic_eventJobIndex_iff
    constructor
    · rintro h htopic ⟨r, hr⟩
      exact (hone r).mp (noPanic_bind_iff.mp (h r hr)).1 htopic
    · intro h r hr
      refine ((hone r).mpr fun htopic => h htopic ⟨r, hr⟩).bind fun _ _ => ?_
      exact (noPanic_orErr _).bind fun _ _ => (noPanic_orErr _).bind fun _ _ => trivial
  constructor
  · rintro h _ _ _ ⟨⟩
    obtain ⟨hs, hc, hd, hi⟩ := h rfl
    exact ⟨hs, hc, hd, hrest.mp hi⟩
  · intro h hsig
    cases hsig
    obtain ⟨hs, hc, hd, hi⟩ := h _ _ _ rfl
    exact ⟨hs, hc, hd, hrest.mpr hi⟩

lemma noPanic_events_iff {T : Type} (E : EvmExtra.SolEvent T) (call : EvmExtra.LogCall) :
    NoPanic (EvmExtra.Events.tryFrom E call) ↔
      ∀ logs ∈ call.logs, ∀ log ∈ logs, log.topics ≠ [] := by
  unfold EvmExtra.Events.tryFrom
  cases call.logs with
  | none => simp [NoPanic]
  | some logs =>
    dsimp only
    split_ifs with h
    · refine iff_of_false id fun hall => ?_
      obtain ⟨log, hm, hempty⟩ := any_eq_true.mp h
      exact hall logs rfl log hm (isEmpty_iff.mp hempty)
    · refine iff_of_true trivial fun _ hl log hm hempty => h ?_
      obtain rfl := Option.some.inj hl
      exact any_eq_true.mpr ⟨log, hm, isEmpty_iff.mpr hempty⟩

lemma slice_of_eq {data x y z : Bytes} {start stop : ℕ} (h : data = x ++ (y ++ z))
    (hstart : start = x.length) (hstop : stop = start + y.length) : slice data start stop = y := by
  subst h hstart hstop
  simp [slice]

lemma u256ToU64_word {n : ℕ} (h : n < 2 ^ 64) : u256ToU64 (ofBeBytes (toBeBytes 32 n)) = .ok n := by
  rw [ofBeBytes_toBeBytes_of_lt (h.trans (by norm_num)), u256ToU64_of_lt h]

lemma decodeJobData_encodeJobData (slots before : Bytes) (jobIndex : UInt8) {caller : Bytes}
    (inputs padding : Bytes) (hcaller : caller.length = 20) (name short : String)
    (hlen : 128 + slots.length + before.length + inputs.length < 2 ^ 64) :
    decodeJobData name short (96 + slots.length)
        (encodeJobData slots before jobIndex caller inputs padding)
      = .ok (jobIndex, caller, inputs) := by
  have hind : jobIndex.toNat < 256 := jobIndex.toNat_lt
  have hzeros : (replicate 12 (0 : UInt8)).length = 12 := length_replicate
  generalize hdata : encodeJobData slots before jobIndex caller inputs padding = data
  rw [encodeJobData] at hdata
  generalize replicate 12 (0 : UInt8) = zeros at hdata hzeros
  -- the encoding up to the offset, and up to the length of the inputs
  let front := toBeBytes 32 jobIndex.toNat ++ (zeros ++ caller) ++ slots
  let head := front ++ toBeBytes 32 (96 + slots.length + before.length) ++ before
  have hfront : front.length = 64 + slots.length := by
    simp [front, hcaller, hzeros]
    omega
  have hhead : head.length = 96 + slots.length + before.length := by
    simp [head, hfront]
    omega
  have hl : data.length = 128 + slots.length + before.length + inputs.length + padding.length := by
    simp [← hdata, hcaller, hzeros]
    omega
  have hindex : slice data 0 32 = toBeBytes 32 jobIndex.toNat :=
    slice_of_eq (x := []) hdata.symm rfl (by simp)
  have hword : slice data 32 64 = zeros ++ caller :=
    slice_of_eq hdata.symm (by simp) (by simp [hcaller, hzeros])
  have hcall : slice (zeros ++ caller) 12 32 = caller :=
    slice_of_eq (x := zeros) (z := []) (by simp) hzeros.symm (by simp [hcaller])
  have hoffset : slice data (96 + slots.length - 32) (96 + slots.length)
      = toBeBytes 32 (96 + slots.length + before.length) :=
    slice_of_eq (x := front) (z := before ++ (toBeBytes 32 inputs.length ++ (inputs ++ padding)))
      (by simp [← hdata, front]) (by omega) (by simp; omega)
  have hcount : slice data (96 + slots.length + before.length) (96 + slots.length + before.length + 32)
      = toBeBytes 32 inputs.length :=
    slice_of_eq (x := head) (z := inputs ++ padding) (by simp [← hdata, head, front]) hhead.symm
      (by simp)
  have hinputs : slice data (96 + slots.length + before.length + 32)
      (96 + slots.length + before.length + 32 + inputs.length) = inputs :=
    slice_of_eq (x := head ++ toBeBytes 32 inputs.length) (z := padding)
      (by simp [← hdata, head, front]) (by simp [hhead]) rfl
  simp only [decodeJobData, hindex, hoffset, u256ToU64_word (hind.trans (by norm_num)),
    u256ToU64_word (by omega : 96 + slots.length + before.length < 2 ^ 64), ok_bind]
  rw [if_neg (by omega), hcount, u256ToU64_word (by omega), ok_bind, hword, hcall, hinputs,
    UInt8.ofNat_toNat]
  simp only [unit_bind_eq_ok, orErr_eq_ok, rejectIf_eq_ok, and_true]
  omega

variable (event : JobSubmittedEvent) (slots before padding : Bytes) (logIndex : ℕ)

def eventLog (signature : Bytes) (more : List Bytes) : Log where
  topics := signature :: toBeBytes 32 event.serviceId.toNat :: toBeBytes 32 event.callId.toNat :: more
  data := encodeJobData slots before event.jobIndex event.caller event.inputs padding
  blockNumber := some event.blockNumber
  blockHash := some event.blockHash
  blockTimestamp := none
  logIndex := some logIndex

variable {event}

lemma decodeJobEvent_eventLog (hcaller : event.caller.length = 20)
    (hlen : 128 + slots.length + before.length + event.inputs.length < 2 ^ 64)
    (signature : Bytes) (name short : String) (indexTopic : Bool) (more : List Bytes)
    (hmore : more = [] ∨ more = [toBeBytes 32 event.jobIndex.toNat]) :
    decodeJobEvent signature name (decodeJobData name short (96 + slots.length)) indexTopic
      (eventLog event slots before padding logIndex signature more) = .ok event := by
  have hd := decodeJobData_encodeJobData slots before event.jobIndex event.inputs padding hcaller name
    short hlen
  have hs := u256ToU64_word event.serviceId.toNat_lt
  have hc := u256ToU64_word event.callId.toNat_lt
  have hj : u256ToU64 (ofBeBytes (toBeBytes 32 event.jobIndex.toNat)) = .ok event.jobIndex.toNat :=
    u256ToU64_word (event.jobIndex.toNat_lt.trans (by norm_num))
  rcases hmore with rfl | rfl <;> cases indexTopic <;>
    simp [decodeJobEvent, eventLog, rejectIf, orErr, okOr, readU64Topic, hs, hc, hd, hj,
      eventJobIndex, bind, Except.bind, Except.map]

/-- **Event decoding.** A decoder does not panic exactly on the logs whose words are in range as far as it
reads them, and an extractor exactly on blocks whose logs have topics. Events are read back from logs with the
job index in the data, whether or not it is also a topic. -/
theorem eventDecoding_iff {T : Type} (E : EvmExtra.SolEvent T) (event : JobSubmittedEvent)
    (operatorsAndPrice before padding : Bytes) (logIndex : ℕ) (hcaller : event.caller.length = 20)
    (hslots : operatorsAndPrice.length = 64)
    (hlen : 192 + before.length + event.inputs.length < 2 ^ 64) :
    (∀ log, NoPanic (decodeJobSubmitted log) ↔ LogFits jobSubmittedSig 96 true log) ∧
    (∀ log, NoPanic (decodeJobSubmittedFromQuote log) ↔ LogFits jobSubmittedFromQuoteSig 160 false log) ∧
    (∀ call, NoPanic (EvmExtra.Events.tryFrom E call) ↔
      ∀ logs ∈ call.logs, ∀ log ∈ logs, log.topics ≠ []) ∧
    (∀ more, more = [] ∨ more = [toBeBytes 32 event.jobIndex.toNat] →
      decodeJobSubmitted (eventLog event [] [] padding logIndex jobSubmittedSig more) = .ok event ∧
      decodeJobSubmittedFromQuote (eventLog event operatorsAndPrice before padding logIndex
        jobSubmittedFromQuoteSig more) = .ok event) := by
  refine ⟨fun log => noPanic_decodeJobEvent_iff, fun log => noPanic_decodeJobEvent_iff,
    noPanic_events_iff E, fun more hmore => ⟨?_, ?_⟩⟩
  · exact decodeJobEvent_eventLog [] [] padding logIndex hcaller (by simp; omega) _ _ _ true more
      hmore
  · have hq := decodeJobEvent_eventLog operatorsAndPrice before padding logIndex hcaller
      (by omega) jobSubmittedFromQuoteSig "JobSubmittedFromQuote"
      "JobSubmittedFromQuote data too short" false more hmore
    rwa [hslots] at hq

def unitEvent : EvmExtra.SolEvent Unit := ⟨EvmExtra.B256.default, fun _ _ => some ()⟩

def smallEvent : JobSubmittedEvent := ⟨1, 2, 3, List.replicate 20 1, [7], 5, []⟩

theorem eventDecoding_small : smallEvent.caller.length = 20 ∧
    decodeJobSubmitted (eventLog smallEvent [] [] [] 0 jobSubmittedSig []) = .ok smallEvent :=
  ⟨rfl, ((eventDecoding_iff unitEvent smallEvent (List.replicate 64 0) [] [] 0 rfl rfl
    (by decide)).2.2.2 [] (.inl rfl)).1⟩

/-- A log without topics stops the extractor. When the job index is a topic and not in the data, the
caller is read in its place, which is no `u64`. -/
theorem event_decoders_panic :
    ¬ NoPanic (EvmExtra.Events.tryFrom unitEvent
      { EvmExtra.foreignCall with logs := some [⟨EvmExtra.vaultAddress, [], [], none, none, none⟩] }) ∧
    decodeJobSubmitted
      { eventLog smallEvent [] [] [] 0 jobSubmittedSig [toBeBytes 32 3] with
        data := List.replicate 12 0 ++ smallEvent.caller ++ toBeBytes 32 64 ++ toBeBytes 32 1
          ++ toBeBytes 32 7 } = .error (.panicked "Uint conversion error") :=
  ⟨id, by decide +kernel⟩

end Gadget.TangleExtra
