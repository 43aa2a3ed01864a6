import Gadget.Core.Job
import Gadget.Rust.Int

/-!
# The Tangle producer and the submission layer

`TangleProducer` turns the job events of the Tangle contract into job calls. The model follows
the source in three parts: decoding a log, one round of `poll_for_jobs`, and the state machine
of `poll_next`. First the names under which it stores its data in the metadata of a call, the
extractors that read the two identifiers back, and `TangleLayer`, which copies the two
identifiers of a call to its result.
-/

namespace Gadget.TangleExtra

open Rust Gadget.Core Except

def callIdKey : List Char := "X-TANGLE-CALL-ID".toList

def serviceIdKey : List Char := "X-TANGLE-SERVICE-ID".toList

def jobIndexKey : List Char := "X-TANGLE-JOB-INDEX".toList

def blockNumberKey : List Char := "X-TANGLE-BLOCK-NUMBER".toList

def blockHashKey : List Char := "X-TANGLE-BLOCK-HASH".toList

def timestampKey : List Char := "X-TANGLE-TIMESTAMP".toList

def callerKey : List Char := "X-TANGLE-CALLER".toList

inductive IdRejection where
  | missing
  | invalid

def idFromMetadata (key : List Char) (metadata : MetadataMap) : Except IdRejection UInt64 := do
  let raw ← okOr (metadata.lookup key) .missing
  okOr (u64TryFrom raw) .invalid

def CallId.tryFrom (call : JobCall) : Except IdRejection UInt64 :=
  idFromMetadata callIdKey call.metadata

def ServiceId.tryFrom (call : JobCall) : Except IdRejection UInt64 :=
  idFromMetadata serviceIdKey call.metadata

lemma idFromMetadata_of_lookup {key : List Char} {md : MetadataMap} {id : UInt64}
    (h : md.lookup key = some (MetadataValue.ofU64 id)) :
    idFromMetadata key md = .ok id := by
  rw [idFromMetadata, okOr_bind_eq_ok]
  exact ⟨_, h, okOr_eq_ok.mpr (u64TryFrom_ofU64 id)⟩

def TangleSubmissionService.call {ε : Type} (service : JobCall → Except ε (Option JobResult))
    (call : JobCall) : Except ε (Option JobResult) :=
  match CallId.tryFrom call with
  | .error _ => .ok none
  | .ok callId =>
    match ServiceId.tryFrom call with
    | .error _ => .ok none
    | .ok serviceId =>
      match service call with
      | .error e => .error e
      | .ok none => .ok none
      | .ok (some (.err e)) => .ok (some (.err e))
      | .ok (some (.ok metadata body)) =>
        .ok (some (.ok ((metadata.insert callIdKey (MetadataValue.ofU64 callId)).insert serviceIdKey
          (MetadataValue.ofU64 serviceId)) body))

structure Log where
  topics : List Bytes
  data : Bytes
  blockNumber : Option ℕ
  blockHash : Option Bytes
  blockTimestamp : Option ℕ
  logIndex : Option ℕ

structure JobSubmittedEvent where
  serviceId : UInt64
  callId : UInt64
  jobIndex : UInt8
  caller : Bytes
  inputs : Bytes
  blockNumber : ℕ
  blockHash : Bytes
  deriving DecidableEq

inductive ProducerError where
  | client (e : String)
  | decoding (e : String)
  deriving DecidableEq

def jobSubmittedSig : Bytes :=
  toBeBytes 32 0xde37cc48d21778e1c9a075c4e41c5aff6918c3ea6151221f0af3ce8121a29db5

def jobSubmittedFromQuoteSig : Bytes :=
  toBeBytes 32 0xb707259a8a1604adca251fecf84eb283329cd45175690dcb8ff1cf52a6252422

def slice (data : Bytes) (start stop : ℕ) : Bytes := (data.drop start).take (stop - start)

def u256ToU64 (value : ℕ) : Outcome ProducerError ℕ :=
  if value < 2 ^ 64 then .ok value else .error (.panicked "Uint conversion error")

def readU64Topic (topic : Bytes) : Outcome ProducerError ℕ := u256ToU64 (ofBeBytes topic)

/-- The job index, the caller and the inputs in the data of a job event. -/
def decodeJobData (name short : String) (headSize : ℕ) (data : Bytes) :
    Outcome ProducerError (UInt8 × Bytes × Bytes) := do
  orErr (rejectIf (data.length < headSize) (.decoding short))
  let jobIndex ← u256ToU64 (ofBeBytes (slice data 0 32))
  orErr (rejectIf (256 ≤ jobIndex) (.decoding "job index out of range"))
  let caller := slice (slice data 32 64) 12 32
  let offset ← u256ToU64 (ofBeBytes (slice data (headSize - 32) headSize))
  -- past the last address the addition or, without overflow checks, the slice panics
  if 2 ^ 64 ≤ offset + 32 then .error (.panicked "attempt to add with overflow") else
  orErr (rejectIf (data.length < offset + 32)
    (.decoding (name ++ " inputs offset out of range")))
  let inputsLen ← u256ToU64 (ofBeBytes (slice data offset (offset + 32)))
  orErr (rejectIf (2 ^ 64 ≤ offset + 32 + inputsLen)
    (.decoding (name ++ " inputs length overflow")))
  orErr (rejectIf (data.length < offset + 32 + inputsLen)
    (.decoding (name ++ " inputs length exceeds log data")))
  .ok (UInt8.ofNat jobIndex, caller, slice data (offset + 32) (offset + 32 + inputsLen))

def decodeJobSubmittedData : Bytes → Outcome ProducerError (UInt8 × Bytes × Bytes) :=
  decodeJobData "JobSubmitted" "JobSubmitted data too short for fixed fields" 96

def eventJobIndex (indexTopic : Bool) (more : List Bytes) (dataIndex : UInt8) :
    Outcome ProducerError UInt8 :=
  match more, indexTopic with
  | topic :: _, true => (readU64Topic topic).map UInt8.ofNat
  | _, _ => .ok dataIndex

def decodeJobEvent (signature : Bytes) (name : String)
    (decodeData : Bytes → Outcome ProducerError (UInt8 × Bytes × Bytes)) (indexTopic : Bool)
    (log : Log) : Outcome ProducerError JobSubmittedEvent := do
  orErr (rejectIf (log.topics.head? ≠ some signature) (.decoding ("not a " ++ name ++ " log")))
  match log.topics with
  | _ :: serviceTopic :: callTopic :: more =>
    let serviceId ← readU64Topic serviceTopic
    let callId ← readU64Topic callTopic
    let (dataIndex, caller, inputs) ← decodeData log.data
    let jobIndex ← eventJobIndex indexTopic more dataIndex
    let blockNumber ← orErr (okOr log.blockNumber (.decoding "log missing block number"))
    let blockHash ← orErr (okOr log.blockHash (.decoding "log missing block hash"))
    .ok {
      serviceId := UInt64.ofNat serviceId
      callId := UInt64.ofNat callId
      jobIndex, caller, inputs, blockNumber, blockHash }
  | _ => .error (.err (.decoding "topic list length mismatch"))

def decodeJobSubmitted : Log → Outcome ProducerError JobSubmittedEvent :=
  decodeJobEvent jobSubmittedSig "JobSubmitted" decodeJobSubmittedData true

def decodeJobSubmittedFromQuote : Log → Outcome ProducerError JobSubmittedEvent :=
  decodeJobEvent jobSubmittedFromQuoteSig "JobSubmittedFromQuote"
    (decodeJobData "JobSubmittedFromQuote" "JobSubmittedFromQuote data too short" 160) false

def decodeLog (log : Log) : Outcome ProducerError JobSubmittedEvent :=
  match decodeJobSubmitted log with
  | .error (.err _) => decodeJobSubmittedFromQuote log
  | outcome => outcome

variable (event : JobSubmittedEvent)

def jobSubmittedToCall (blockNumber : ℕ) (blockHash : Bytes) (timestamp : ℕ) : JobCall where
  jobId := JobId.ofU8 event.jobIndex
  metadata := (((((((∅ : MetadataMap).insert callIdKey (MetadataValue.ofU64 event.callId)).insert
    serviceIdKey (MetadataValue.ofU64 event.serviceId)).insert
    jobIndexKey [event.jobIndex]).insert
    blockNumberKey (toBeBytes 8 blockNumber)).insert
    blockHashKey blockHash).insert
    timestampKey (toBeBytes 8 timestamp)).insert
    callerKey event.caller
  body := event.inputs

def maxLogRangeBlocks : ℕ := 10

structure Rpc where
  blockNumber : Except String ℕ
  getLogs : ℕ → ℕ → Except String (List Log)
  getBlock : ℕ → Except String (Option ℕ)

inductive Restart where
  | blockNumberFailed (e : String)
  | aheadOfChain
  | getLogsFailed (e : String)
  | getBlockFailed (e : String)
  | blockMissing

structure ProducerPollResult where
  jobs : List JobCall
  lastBlock : ℕ
  lastLogIndex : Option ℕ

def Log.block (log : Log) : ℕ := log.blockNumber.getD 0

def Log.index (log : Log) : ℕ := log.logIndex.getD 0

def Log.le (a b : Log) : Prop := a.block < b.block ∨ (a.block = b.block ∧ a.index ≤ b.index)

instance (a b : Log) : Decidable (Log.le a b) := by
  unfold Log.le
  infer_instance

def logsAfter (fromBlock : ℕ) (fromLogIndex : Option ℕ) (logs : List Log) : List Log :=
  match fromLogIndex with
  | none => logs
  | some lastIndex => logs.filter fun log =>
    if log.block < fromBlock then false
    else if fromBlock < log.block then true
    else decide (lastIndex < log.index)

def nextCursor (fromBlock toBlock : ℕ) (fromLogIndex : Option ℕ) (filtered : List Log) :
    ℕ × Option ℕ :=
  match filtered.getLast? with
  | some last => (last.blockNumber.getD toBlock, last.logIndex)
  | none => if toBlock = fromBlock then (fromBlock, fromLogIndex) else (toBlock, none)

def eventTimestamp (rpc : Rpc) (log : Log) (block : ℕ) (known : HashMap ℕ ℕ) :
    Outcome Restart (ℕ × HashMap ℕ ℕ) :=
  match log.blockTimestamp with
  | some timestamp => .ok (timestamp, known.insert block timestamp)
  | none =>
    match known.lookup block with
    | some timestamp => .ok (timestamp, known)
    | none =>
      match rpc.getBlock block with
      | .ok (some timestamp) => .ok (timestamp, known.insert block timestamp)
      | .ok none => .error (.err .blockMissing)
      | .error e => .error (.err (.getBlockFailed e))

def collectJobs (serviceId : UInt64) (rpc : Rpc) :
    List Log → HashMap ℕ ℕ → Outcome Restart (List JobCall)
  | [], _ => .ok []
  | log :: logs, known =>
    match decodeLog log with
    | .error (.panicked message) => .error (.panicked message)
    | .error (.err _) => collectJobs serviceId rpc logs known
    | .ok event =>
      if event.serviceId ≠ serviceId then collectJobs serviceId rpc logs known
      else do
        let (timestamp, known) ← eventTimestamp rpc log event.blockNumber known
        let call := jobSubmittedToCall event event.blockNumber event.blockHash timestamp
        let calls ← collectJobs serviceId rpc logs known
        .ok (call :: calls)

variable (serviceId : UInt64)

def pollRound (fromBlock : ℕ) (fromLogIndex : Option ℕ) (rpc : Rpc) :
    Outcome Restart ProducerPollResult := do
  let latest ← rpc.blockNumber.mapError fun e => .err (.blockNumberFailed e)
  let effectiveFrom := if fromBlock = 0 then latest - (maxLogRangeBlocks - 1) else fromBlock
  orErr (rejectIf (latest < effectiveFrom) .aheadOfChain)
  let toBlock := min latest (saturatingAdd effectiveFrom (maxLogRangeBlocks - 1))
  let logs ← (rpc.getLogs effectiveFrom toBlock).mapError fun e => .err (.getLogsFailed e)
  let filtered := logsAfter effectiveFrom fromLogIndex (logs.insertionSort Log.le)
  let cursor := nextCursor effectiveFrom toBlock fromLogIndex filtered
  let jobs ← collectJobs serviceId rpc filtered ∅
  .ok { jobs, lastBlock := cursor.1, lastLogIndex := cursor.2 }

structure PollFuture where
  fromBlock : ℕ
  fromLogIndex : Option ℕ

structure ProducerState where
  lastBlock : ℕ
  lastLogIndex : Option ℕ
  buffer : List JobCall
  pollFuture : Option PollFuture
  poisoned : Bool

def ProducerState.new (startBlock : ℕ) : ProducerState where
  lastBlock := startBlock
  lastLogIndex := none
  buffer := []
  pollFuture := none
  poisoned := false

inductive StreamReply where
  | pending
  | item (call : JobCall)
  | panicked (message : String)

def driveFuture (serviceId : UInt64) :
    List Rpc → PollFuture → ProducerState → StreamReply × ProducerState
  | [], future, state => (.pending, { state with pollFuture := some future })
  | rpc :: rpcs, future, state =>
    match pollRound serviceId future.fromBlock future.fromLogIndex rpc with
    | .error (.panicked message) =>
      (.panicked message, { state with pollFuture := some future, poisoned := true })
    | .error (.err _) => driveFuture serviceId rpcs future state
    | .ok result =>
      let state := { state with
        lastBlock := result.lastBlock
        lastLogIndex := result.lastLogIndex
        pollFuture := none }
      match result.jobs with
      | call :: calls => (.item call, { state with buffer := calls })
      | [] => driveFuture serviceId rpcs ⟨result.lastBlock, result.lastLogIndex⟩ state

def pollNext (state : ProducerState) (rpcs : List Rpc) : StreamReply × ProducerState :=
  if state.poisoned then (.panicked "PoisonError", state)
  else
    match state.buffer with
    | call :: calls => (.item call, { state with buffer := calls })
    | [] =>
      driveFuture serviceId rpcs
        (state.pollFuture.getD ⟨state.lastBlock, state.lastLogIndex⟩) state

variable {log : Log} {ev : JobSubmittedEvent}

lemma blockNumber_of_decodeJobEvent {sig : Bytes} {name : String}
    {decodeData : Bytes → Outcome ProducerError (UInt8 × Bytes × Bytes)} {indexTopic : Bool}
    (h : decodeJobEvent sig name decodeData indexTopic log = .ok ev) :
    log.blockNumber = some ev.blockNumber := by
  rw [decodeJobEvent, unit_bind_eq_ok] at h
  obtain ⟨_, h⟩ := h
  split at h
  · simp only [bind_eq_ok, orErr_eq_ok, okOr_eq_ok] at h
    obtain ⟨_, _, _, _, _, _, _, _, bn, hb, _, _, he⟩ := h
    rw [hb, ← ok.inj he]
  · cases h

lemma blockNumber_of_decodeLog (h : decodeLog log = .ok ev) :
    log.blockNumber = some ev.blockNumber := by
  rw [decodeLog] at h
  split at h <;> exact blockNumber_of_decodeJobEvent h

lemma collectJobs_cons_eq_ok {serviceId : UInt64} {rpc : Rpc} {logs : List Log}
    {known : HashMap ℕ ℕ} {calls : List JobCall}
    (h : collectJobs serviceId rpc (log :: logs) known = .ok calls) :
    ((∀ ev, decodeLog log = .ok ev → ev.serviceId ≠ serviceId) ∧
      collectJobs serviceId rpc logs known = .ok calls) ∨
    ∃ ev ts known' rest, decodeLog log = .ok ev ∧ ev.serviceId = serviceId ∧
      eventTimestamp rpc log ev.blockNumber known = .ok (ts, known') ∧
      collectJobs serviceId rpc logs known' = .ok rest ∧
      calls = jobSubmittedToCall ev ev.blockNumber ev.blockHash ts :: rest := by
  rw [collectJobs] at h
  cases hd : decodeLog log with
  | error fault =>
    rcases fault with e | msg
    · simp only [hd] at h
      exact .inl ⟨nofun, h⟩
    simp [hd] at h
  | ok ev =>
    simp only [hd] at h
    by_cases hs : ev.serviceId = serviceId
    · rw [if_neg (not_not.mpr hs)] at h
      obtain ⟨⟨ts, known'⟩, ht, h⟩ := bind_eq_ok.mp h
      obtain ⟨rest, hr, h⟩ := bind_eq_ok.mp h
      exact .inr ⟨ev, ts, known', rest, rfl, hs, ht, hr, (ok.inj h).symm⟩
    · rw [if_pos hs] at h
      refine .inl ⟨fun ev' he => ?_, h⟩
      rwa [← ok.inj he]

/-- The ABI encoding of the data of a job event: the index, the caller, the slots between the
caller and the offset, the offset of the inputs, what stands before the inputs, and the inputs
with their length and padding. -/
def encodeJobData (slots before : Bytes) (jobIndex : UInt8) (caller inputs padding : Bytes) : Bytes :=
  toBeBytes 32 jobIndex.toNat ++ ((List.replicate 12 0 ++ caller) ++ (slots
    ++ (toBeBytes 32 (96 + slots.length + before.length) ++ (before
    ++ (toBeBytes 32 inputs.length ++ (inputs ++ padding))))))

def jobSubmittedLog (padding : Bytes) (logIndex : ℕ) : Log where
  topics := [jobSubmittedSig, toBeBytes 32 event.serviceId.toNat, toBeBytes 32 event.callId.toNat]
  data := encodeJobData [] [] event.jobIndex event.caller event.inputs padding
  blockNumber := some event.blockNumber
  blockHash := some event.blockHash
  blockTimestamp := none
  logIndex := some logIndex

end Gadget.TangleExtra
