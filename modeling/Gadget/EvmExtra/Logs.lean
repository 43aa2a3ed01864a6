import Gadget.Core.Job
import Gadget.Lib.Grouping
import Mathlib.Data.UInt

/-!
# Job calls from EVM logs

`logs_to_job_calls` makes a job call of every log. The calls of a block share one metadata map,
made from the first log of the block, and one list of logs, those of the whole block. The filter
`MatchesContract` and the event extractors look at that list, so what they say about a call is
about its block and not about its log. It is about the log exactly when no block has logs of two
contracts.
-/

namespace Gadget.EvmExtra

open Rust Gadget.Core Lib.Grouping List

abbrev FixedBytes (n : ℕ) := {bytes : Bytes // bytes.length = n}

abbrev Address := FixedBytes 20

abbrev B256 := FixedBytes 32

def FixedBytes.default (n : ℕ) : FixedBytes n := ⟨List.replicate n 0, List.length_replicate⟩

def B256.default : B256 := FixedBytes.default 32

structure Log where
  address : Address
  topics : List B256
  data : Bytes
  blockHash : Option B256
  blockNumber : Option UInt64
  blockTimestamp : Option UInt64

def Log.topic0 (log : Log) : Option B256 := log.topics.head?

structure LogCall extends JobCall where
  logs : Option (List Log)
  inputs : Option Bytes

def u64FromLeBytes (bytes : Bytes) : UInt64 := UInt64.ofNat (ofBeBytes bytes.reverse)

def jobIdOfBytes (value : B256) : JobId where
  limb0 := u64FromLeBytes (value.val.take 8)
  limb1 := u64FromLeBytes ((value.val.drop 8).take 8)
  limb2 := u64FromLeBytes ((value.val.drop 16).take 8)
  limb3 := u64FromLeBytes ((value.val.drop 24).take 8)

def blockNumberKey : List Char := "X-EVM-BLOCK-NUMBER".toList

def blockHashKey : List Char := "X-EVM-BLOCK-HASH".toList

def blockTimestampKey : List Char := "X-EVM-BLOCK-TIMESTAMP".toList

def contractAddressKey : List Char := "X-EVM-CONTRACT-ADDRESS".toList

/-- The number of the block, with its hash and time as far as the log has them. -/
def numberMetadata (blockNumber : UInt64) (log : Log) : MetadataMap :=
  let metadata := (∅ : MetadataMap).insert blockNumberKey (MetadataValue.ofU64 blockNumber)
  let metadata :=
    match log.blockHash with
    | some blockHash => metadata.insert blockHashKey blockHash.val
    | none => metadata
  match log.blockTimestamp with
  | some blockTimestamp => metadata.insert blockTimestampKey (MetadataValue.ofU64 blockTimestamp)
  | none => metadata

def blockMetadata (blockNumber : UInt64) (log0 : Log) : MetadataMap :=
  (numberMetadata blockNumber log0).insert contractAddressKey log0.address.val

def callFor (metadata : MetadataMap) (logs : List Log) (log : Log) : LogCall where
  jobId := jobIdOfBytes (log.topic0.getD B256.default)
  metadata := metadata
  body := []
  logs := some logs
  inputs := none

def blockCalls : UInt64 × List Log → List (Log × LogCall)
  | (_, []) => []
  | (blockNumber, log0 :: rest) =>
    (log0 :: rest).map fun log =>
      (log, callFor (blockMetadata blockNumber log0) (log0 :: rest) log)

def builtCalls (logs : List Log) : List (Log × LogCall) :=
  (groupBy Log.blockNumber logs).flatMap blockCalls

def logsToJobCalls (logs : List Log) : List LogCall := (builtCalls logs).map Prod.snd

inductive MatchesContractError where
  | missingLogs
  | emptyLogs
  | notFound (address : Address)

def MatchesContract.check (address : Address) (call : LogCall) :
    Except MatchesContractError LogCall :=
  match call.logs with
  | none => .error .missingLogs
  | some [] => .error .emptyLogs
  | some (log :: logs) =>
    if (log :: logs).any fun log => log.address = address then .ok call
    else .error (.notFound address)

inductive ContractAddressRejection where
  | missingContractAddress
  | invalidContractAddress

def ContractAddress.tryFrom (call : LogCall) : Except ContractAddressRejection Address :=
  match call.metadata.lookup contractAddressKey with
  | none => .error .missingContractAddress
  | some bytes =>
    if h : bytes.length = 20 then .ok ⟨bytes, h⟩ else .error .invalidContractAddress

structure SolEvent (T : Type) where
  signatureHash : B256
  decodeLog : List B256 → Bytes → Option T

inductive EventRejection where
  | missingBlockEvents
  | eventDecodingError

variable {T : Type} (E : SolEvent T)

def SolEvent.ofLog (log : Log) : Option T :=
  if some E.signatureHash = log.topic0 then E.decodeLog log.topics log.data else none

variable (call : LogCall)

def BlockEvents.tryFrom : Except EventRejection (List Log) :=
  okOr call.logs .missingBlockEvents

def Events.tryFrom : Outcome EventRejection (List T) :=
  match call.logs with
  | none => .error (.err .missingBlockEvents)
  | some logs =>
    if logs.any fun log => log.topics.isEmpty then
      .error (.panicked "index out of bounds: the len is 0 but the index is 0")
    else .ok (logs.filterMap E.ofLog)

def FirstEvent.tryFrom : Except EventRejection T := do
  let logs ← okOr call.logs .missingBlockEvents
  okOr (logs.findSome? E.ofLog) .eventDecodingError

def LastEvent.tryFrom : Except EventRejection T := do
  let logs ← okOr call.logs .missingBlockEvents
  okOr (logs.reverse.findSome? E.ofLog) .eventDecodingError

variable {logs : List Log} {call : LogCall}

lemma mem_builtCalls {log : Log} : (log, call) ∈ builtCalls logs ↔ ∃ block log0 rest,
      log0 :: rest = logs.filter (fun l => l.blockNumber = some block) ∧ log ∈ log0 :: rest ∧
      call = callFor (blockMetadata block log0) (log0 :: rest) log := by
  rw [builtCalls, mem_flatMap]
  constructor
  · rintro ⟨⟨block, blockLogs⟩, hg, hc⟩
    obtain ⟨hne, heq⟩ := ((grouped_groupBy Log.blockNumber logs).mem _ _).mp hg
    rcases blockLogs with _ | ⟨log0, rest⟩
    · exact absurd rfl hne
    obtain ⟨l, hl, hp⟩ := mem_map.mp hc
    cases hp
    exact ⟨block, log0, rest, heq, hl, rfl⟩
  · rintro ⟨block, log0, rest, heq, hl, rfl⟩
    refine ⟨(block, log0 :: rest), ?_, mem_map.mpr ⟨log, hl, rfl⟩⟩
    exact ((grouped_groupBy Log.blockNumber logs).mem _ _).mpr ⟨cons_ne_nil _ _, heq⟩

lemma check_callFor_iff {address : Address} {md : MetadataMap} {log0 log : Log} {rest : List Log} :
    MatchesContract.check address (callFor md (log0 :: rest) log) = .ok call ↔
      call = callFor md (log0 :: rest) log ∧ ∃ l ∈ log0 :: rest, l.address = address := by
  simp only [MatchesContract.check, callFor]
  by_cases hany : ((log0 :: rest).any fun l => l.address = address) = true
  · rw [if_pos hany]
    simp only [any_eq_true, decide_eq_true_eq] at hany
    simp only [Except.ok.injEq, hany, and_true]
    exact eq_comm
  · rw [if_neg hany]
    simp only [any_eq_true, decide_eq_true_eq] at hany
    exact iff_of_false nofun fun h => hany h.2

lemma contractAddress_callFor (block : UInt64) (log0 log : Log) (logs : List Log) :
    ContractAddress.tryFrom (callFor (blockMetadata block log0) logs log) = .ok log0.address := by
  have hl : (callFor (blockMetadata block log0) logs log).metadata.lookup contractAddressKey
      = some log0.address.val := by
    exact Finmap.lookup_insert _
  rw [ContractAddress.tryFrom, hl]
  simp [dif_pos log0.address.property]

def SolEvent.decoded (logs : List Log) : List (Log × T) :=
  logs.filterMap fun log => (E.ofLog log).map fun event => (log, event)

lemma SolEvent.mem_decoded {E : SolEvent T} {p : Log × T} (h : p ∈ E.decoded logs) :
    p.1 ∈ logs := by
  obtain ⟨log, hlog, hmap⟩ := mem_filterMap.mp h
  obtain ⟨ev, -, rfl⟩ := Option.map_eq_some_iff.mp hmap
  exact hlog

lemma SolEvent.map_snd_decoded (logs : List Log) :
    (E.decoded logs).map Prod.snd = logs.filterMap E.ofLog := by
  rw [decoded, map_filterMap]
  congr 1
  funext log
  rw [Option.map_map]
  exact Option.map_id'

structure YieldsOnly (emitted : Log → Prop) (call : LogCall) : Prop where
  blockEvents : ∀ events, BlockEvents.tryFrom call = .ok events → ∀ log ∈ events, emitted log
  events : ∀ (T : Type) (E : SolEvent T) (events : List T), Events.tryFrom E call = .ok events →
    ∃ logs, call.logs = some logs ∧ events = (E.decoded logs).map Prod.snd ∧
      ∀ p ∈ E.decoded logs, emitted p.1
  firstEvent : ∀ (T : Type) (E : SolEvent T) (event : T), FirstEvent.tryFrom E call = .ok event →
    ∃ logs p, call.logs = some logs ∧ (E.decoded logs).head? = some p ∧ p.2 = event ∧ emitted p.1
  lastEvent : ∀ (T : Type) (E : SolEvent T) (event : T), LastEvent.tryFrom E call = .ok event →
    ∃ logs p, call.logs = some logs ∧ (E.decoded logs).getLast? = some p ∧ p.2 = event ∧ emitted p.1

lemma yieldsOnly_of_logs {emitted : Log → Prop} (hl : call.logs = some logs)
    (h : ∀ log ∈ logs, emitted log) : YieldsOnly emitted call where
  blockEvents := by
    intro events he
    rw [BlockEvents.tryFrom, hl] at he
    cases he
    exact h
  events := by
    intro T E events he
    simp only [Events.tryFrom, hl] at he
    by_cases hany : (logs.any fun log => log.topics.isEmpty) = true
    · rw [if_pos hany] at he
      cases he
    · rw [if_neg hany] at he
      cases he
      exact ⟨logs, hl, (E.map_snd_decoded logs).symm, fun p hp => h _ (E.mem_decoded hp)⟩
  firstEvent := by
    intro T E event hev
    rw [FirstEvent.tryFrom, hl] at hev
    have hf : logs.findSome? E.ofLog = some event := okOr_eq_ok.mp hev
    rw [← head?_filterMap, ← E.map_snd_decoded, head?_map] at hf
    obtain ⟨p, hp, rfl⟩ := Option.map_eq_some_iff.mp hf
    exact ⟨logs, p, hl, hp, rfl, h _ (E.mem_decoded (mem_of_head? hp))⟩
  lastEvent := by
    intro T E event hev
    rw [LastEvent.tryFrom, hl] at hev
    have hla : logs.reverse.findSome? E.ofLog = some event := okOr_eq_ok.mp hev
    rw [← getLast?_filterMap, ← E.map_snd_decoded, getLast?_map] at hla
    obtain ⟨p, hp, rfl⟩ := Option.map_eq_some_iff.mp hla
    exact ⟨logs, p, hl, hp, rfl, h _ (E.mem_decoded (mem_of_getLast? hp))⟩

/-- The filter is sound for a contract: a call that passes was made of a log of the contract,
and a job behind it sees only events of the contract. -/
structure FilterSound (logs : List Log) (address : Address) : Prop where
  emitted : ∀ log call, (log, call) ∈ builtCalls logs → ∀ passed,
    MatchesContract.check address call = .ok passed → log.address = address
  named : ∀ log call, (log, call) ∈ builtCalls logs → ContractAddress.tryFrom call = .ok log.address
  yields : ∀ log call, (log, call) ∈ builtCalls logs → ∀ passed,
    MatchesContract.check address call = .ok passed →
    YieldsOnly (fun l => l.address = address) passed

def OneContractPerBlock (logs : List Log) : Prop :=
  ∀ log ∈ logs, ∀ log' ∈ logs, ∀ block, log.blockNumber = some block →
    log'.blockNumber = some block → log.address = log'.address

lemma oneContractPerBlock_of_named (h : ∀ log call, (log, call) ∈ builtCalls logs →
      ContractAddress.tryFrom call = .ok log.address) : OneContractPerBlock logs := by
  intro log hlog log' hlog' block hbl hb'
  have hmem : ∀ l ∈ logs, l.blockNumber = some block →
      l ∈ logs.filter fun l => l.blockNumber = some block := by
    intro l hl hb
    exact mem_filter.mpr ⟨hl, decide_eq_true hb⟩
  rcases hf : logs.filter fun l => l.blockNumber = some block with _ | ⟨log0, rest⟩
  · have hin := hmem log hlog hbl
    rw [hf] at hin
    cases hin
  -- both logs have the address of the first one
  have hfi : ∀ l ∈ logs, l.blockNumber = some block → l.address = log0.address := by
    intro l hl hb
    have hin := hmem l hl hb
    rw [hf] at hin
    have hn := h l _ (mem_builtCalls.mpr ⟨block, log0, rest, hf.symm, hin, rfl⟩)
    rw [contractAddress_callFor] at hn
    exact (Except.ok.inj hn).symm
  rw [hfi log hlog hbl, hfi log' hlog' hb']

/-- **The contract filter.** For the logs of any fetch and any contract, the filter and the
extractors behind it are sound exactly when no block has logs of two contracts. -/
theorem filterSound_iff (logs : List Log) (address : Address) :
    FilterSound logs address ↔ OneContractPerBlock logs := by
  constructor
  · intro h
    exact oneContractPerBlock_of_named h.named
  · intro hone
    -- the logs of a block have one address
    have hs : ∀ block log0 rest, log0 :: rest = logs.filter (fun l => l.blockNumber = some block) →
        ∀ l ∈ log0 :: rest, ∀ l' ∈ log0 :: rest, l.address = l'.address := by
      intro block log0 rest heq l hl l' hl'
      rw [heq, mem_filter, decide_eq_true_eq] at hl hl'
      exact hone l hl.1 l' hl'.1 block hl.2 hl'.2
    refine ⟨?_, ?_, ?_⟩
    · intro log call hc passed hp
      obtain ⟨block, log0, rest, heq, hlog, rfl⟩ := mem_builtCalls.mp hc
      obtain ⟨-, l, hl, ha⟩ := check_callFor_iff.mp hp
      rw [hs block log0 rest heq log hlog l hl, ha]
    · intro log call hc
      obtain ⟨block, log0, rest, heq, hlog, rfl⟩ := mem_builtCalls.mp hc
      rw [contractAddress_callFor, hs block log0 rest heq log hlog log0 mem_cons_self]
    · intro log call hc passed hp
      obtain ⟨block, log0, rest, heq, hlog, rfl⟩ := mem_builtCalls.mp hc
      obtain ⟨rfl, l, hl, ha⟩ := check_callFor_iff.mp hp
      refine yieldsOnly_of_logs rfl ?_
      intro l' hl'
      rw [hs block log0 rest heq l' hl' l hl, ha]

def vaultAddress : Address := ⟨List.replicate 20 1, rfl⟩

def otherAddress : Address := ⟨List.replicate 20 2, rfl⟩

def logOf (address : Address) : Log := ⟨address, [B256.default], [], none, some 5, none⟩

def foreignCall : LogCall :=
  callFor (blockMetadata 5 (logOf otherAddress)) [logOf otherAddress, logOf vaultAddress]
    (logOf otherAddress)

/-- A log of another contract in the block of a log of the contract: the call made of it passes the
filter, and the job behind the filter sees it. The call made of the log of the contract names the
other one. -/
theorem foreign_log_passes_filter : builtCalls [logOf otherAddress, logOf vaultAddress]
        = [(logOf otherAddress, foreignCall), (logOf vaultAddress, foreignCall)] ∧
      (logOf otherAddress).address ≠ vaultAddress ∧
      MatchesContract.check vaultAddress foreignCall = .ok foreignCall ∧
      BlockEvents.tryFrom foreignCall = .ok [logOf otherAddress, logOf vaultAddress] ∧
      ContractAddress.tryFrom foreignCall = .ok otherAddress :=
  ⟨rfl, by decide, rfl, rfl, contractAddress_callFor 5 _ _ _⟩

end Gadget.EvmExtra
