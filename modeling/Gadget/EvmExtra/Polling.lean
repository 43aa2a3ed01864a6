import Gadget.EvmExtra.Consumers
import Gadget.EvmExtra.Logs

/-!
# The polling producers of EVM logs

`PollingProducer` and `TangleProducer` are the same state machine, with another filter and another
conversion of logs to calls. Both keep the last block they asked for in the filter of the last
request and ask for the blocks after it.
-/

namespace Gadget.EvmExtra

open Rust Gadget.Core Lib.Run List Option

variable {ε : Type}

inductive StartBlockSource where
  | genesis
  | current (block : UInt64)
  | custom (block : UInt64)

def StartBlockSource.number : StartBlockSource → UInt64
  | .genesis => 0
  | .current block => block
  | .custom block => block

structure PollingConfig where
  startBlock : StartBlockSource
  confirmations : UInt64
  step : UInt64

namespace PollingConfig

def default : PollingConfig := ⟨.current 0, 12, 1⟩

def fromBlock (block : UInt64) : PollingConfig := { default with startBlock := .custom block }

variable (config : PollingConfig)

def initialStartBlock : ℕ :=
  config.startBlock.number.toNat - config.confirmations.toNat

end PollingConfig

structure Filter where
  address : Option Address
  eventSignature : Option B256
  fromBlock : Option ℕ
  toBlock : Option ℕ

def Filter.new : Filter := ⟨none, none, none, none⟩

def Filter.range (filter : Filter) (fromBlock toBlock : ℕ) : Filter :=
  { filter with fromBlock := some fromBlock, toBlock := some toBlock }

structure PollingKind where
  baseFilter : Filter
  toJobCalls : List Log → List LogCall
  capacity : PollingConfig → ℕ

def pollingKind : PollingKind where
  baseFilter := Filter.new
  toJobCalls := logsToJobCalls
  capacity config := config.step.toNat

structure JobSubmitted where
  serviceId : UInt64
  callId : UInt64
  jobIndex : UInt8
  caller : Address
  inputs : Bytes

def jobIndexKey : List Char := "X-EVM-JOB-INDEX".toList

def callerKey : List Char := "X-EVM-CALLER".toList

def logToTangleJobCall (E : SolEvent JobSubmitted) (log : Log) : Option LogCall :=
  match log.blockNumber with
  | none => none
  | some blockNumber =>
    match E.decodeLog log.topics log.data with
    | none => none
    | some data =>
      let metadata := numberMetadata blockNumber log
      let metadata := (((metadata.insert serviceIdKey (MetadataValue.ofU64 data.serviceId)).insert
        callIdKey (MetadataValue.ofU64 data.callId)).insert
        jobIndexKey (MetadataValue.ofU64 data.jobIndex.toUInt64)).insert
        callerKey data.caller.val
      some {
        jobId := JobId.ofU8 data.jobIndex
        metadata
        body := data.inputs
        logs := some [log]
        inputs := some data.inputs }

def tangleKind (E : SolEvent JobSubmitted) (contractAddress : Address) : PollingKind where
  baseFilter := { Filter.new with
    address := some contractAddress
    eventSignature := some E.signatureHash }
  toJobCalls logs := logs.filterMap (logToTangleJobCall E)
  capacity _ := 100

inductive PollingState where
  | fetchingBlockNumber
  | fetchingLogs
  | idle

structure PollingProducer where
  filter : Filter
  config : PollingConfig
  state : PollingState
  buffer : List LogCall

variable (overflowChecks : Bool)

def addU64 (a b : ℕ) : Except String ℕ :=
  if overflowChecks && 2 ^ 64 ≤ a + b then .error "attempt to add with overflow"
  else .ok (wrap64 (a + b))

def withCapacity (size capacity : ℕ) : Except String (List LogCall) :=
  if size * capacity < 2 ^ 63 then .ok [] else .error "capacity overflow"

variable (config : PollingConfig)

def PollingConfig.resolve (currentBlock : Except ε UInt64) :
    Except ε PollingConfig :=
  match config.startBlock with
  | .current _ => currentBlock.map fun block => { config with startBlock := .current block }
  | _ => .ok config

def PollingProducer.new (jobCallSize : ℕ) (kind : PollingKind)
    (currentBlock : Except ε UInt64) (config : PollingConfig) : Outcome ε PollingProducer := do
  let config ← orErr (config.resolve currentBlock)
  let initialToBlock ←
    orPanic (addU64 overflowChecks config.initialStartBlock config.step.toNat)
  let buffer ← orPanic (withCapacity jobCallSize (kind.capacity config))
  .ok {
    filter := kind.baseFilter.range config.initialStartBlock initialToBlock
    config
    state := .idle
    buffer }

variable {kind : PollingKind}

lemma PollingProducer.new_spec {overflowChecks : Bool} {jobCallSize : ℕ}
    {currentBlock : Except ε UInt64} {config : PollingConfig} {p : PollingProducer}
    (h : PollingProducer.new overflowChecks jobCallSize kind currentBlock config = .ok p) :
    p.config.step = config.step ∧ p.state = .idle ∧
      p.filter = kind.baseFilter.range p.config.initialStartBlock
        (wrap64 (p.config.initialStartBlock + p.config.step.toNat)) := by
  obtain ⟨resolved, hre, h⟩ := bind_eq_ok.mp h
  obtain ⟨initialToBlock, hto, h⟩ := bind_eq_ok.mp h
  obtain ⟨buf, -, h⟩ := bind_eq_ok.mp h
  cases h
  refine ⟨?_, rfl, ?_⟩
  · have hr := orErr_eq_ok.mp hre
    unfold PollingConfig.resolve at hr
    split at hr
    · obtain ⟨block, -, rfl⟩ := exceptMap_eq_ok.mp hr
      rfl
    · cases hr
      rfl
  · have hw : initialToBlock = wrap64 (resolved.initialStartBlock + resolved.step.toNat) := by
      unfold addU64 at hto
      split at hto
      · cases hto
      · cases hto
        rfl
    rw [hw]

structure Ready (ε : Type) where
  slept : Bool
  blockNumber : Option (Except ε UInt64)
  logs : Option (Except ε (List Log))

inductive Round (ε : Type) where
  | again
  | pending
  | item (item : Except ε LogCall)

def nextRange (filter : Filter) (currentBlock : UInt64) : Option (ℕ × ℕ) :=
  let safeBlock := currentBlock.toNat - config.confirmations.toNat
  let lastQueried := filter.toBlock.getD config.startBlock.number.toNat
  let nextFromBlock := saturatingAdd lastQueried 1
  let proposedToBlock := saturatingAdd lastQueried config.step.toNat
  let nextToBlock := min proposedToBlock safeBlock
  if nextFromBlock > safeBlock then none else some (nextFromBlock, nextToBlock)

def PollingProducer.round (kind : PollingKind) (p : PollingProducer) (ready : Ready ε) :
    PollingProducer × Round ε :=
  match p.buffer with
  | job :: buffer => ({ p with buffer }, .item (.ok job))
  | [] =>
    match p.state with
    | .idle =>
      if ready.slept then ({ p with state := .fetchingBlockNumber }, .again) else (p, .pending)
    | .fetchingBlockNumber =>
      match ready.blockNumber with
      | none => (p, .pending)
      | some (.error e) => ({ p with state := .idle }, .item (.error e))
      | some (.ok currentBlock) =>
        match nextRange p.config p.filter currentBlock with
        | none => ({ p with state := .idle }, .again)
        | some (fromBlock, toBlock) =>
          -- the filter moves on before the request is answered
          ({ p with
            filter := kind.baseFilter.range fromBlock toBlock
            state := .fetchingLogs }, .again)
    | .fetchingLogs =>
      match ready.logs with
      | none => (p, .pending)
      -- the range of the failed request stays in the filter, as if it had been delivered
      | some (.error e) => ({ p with state := .idle }, .item (.error e))
      | some (.ok logs) => ({ p with buffer := kind.toJobCalls logs, state := .idle }, .again)

structure Delivery where
  fromBlock : ℕ
  toBlock : ℕ
  currentBlock : ℕ

structure Polling where
  producer : PollingProducer
  currentBlock : ℕ
  delivered : List Delivery
  failed : Bool

namespace Polling

def start (producer : PollingProducer) : Polling := ⟨producer, 0, [], false⟩

variable (s : Polling) (ready : Ready ε)

def answeredBlock : Option (Except ε UInt64) :=
  match s.producer.buffer, s.producer.state with
  | [], .fetchingBlockNumber => ready.blockNumber
  | _, _ => none

def answeredLogs : Option (Except ε (List Log)) :=
  match s.producer.buffer, s.producer.state with
  | [], .fetchingLogs => ready.logs
  | _, _ => none

def requested : Delivery where
  fromBlock := s.producer.filter.fromBlock.getD 0
  toBlock := s.producer.filter.toBlock.getD 0
  currentBlock := s.currentBlock

def step (kind : PollingKind) (s : Polling) (ready : Ready ε) : Polling where
  producer := (s.producer.round kind ready).1
  currentBlock :=
    match s.answeredBlock ready with
    | some (.ok block) => block.toNat
    | _ => s.currentBlock
  delivered :=
    match s.answeredLogs ready with
    | some (.ok _) => s.delivered ++ [s.requested]
    | _ => s.delivered
  failed :=
    match s.answeredLogs ready with
    | some (.error _) => true
    | _ => s.failed

/-- The request of the round is answered with logs. -/
def Delivers : Prop :=
  ∃ logs, s.answeredLogs ready = some (.ok logs)

def blocksOf (d : Delivery) : List ℕ := List.range' d.fromBlock (d.toBlock + 1 - d.fromBlock)

def blocks : List ℕ := s.delivered.flatMap blocksOf

/-- The blocks delivered are those from the start block on, each of them once and none before it
has its confirmations. -/
structure Covered (s : Polling) : Prop where
  consecutive : s.blocks = List.range' s.producer.config.initialStartBlock s.blocks.length
  confirmed : ∀ d ∈ s.delivered, d.toBlock ≤ d.currentBlock - s.producer.config.confirmations.toNat

inductive Change (kind : PollingKind) (s s' : Polling) : Prop
  | quiet (filter : s'.producer.filter = s.producer.filter) (failed : s'.failed = s.failed)
      (fetching : s'.producer.state = .fetchingLogs →
        s.producer.state = .fetchingLogs ∧ s'.currentBlock = s.currentBlock)
      (idle : s'.producer.state ≠ .fetchingLogs → s.producer.state ≠ .fetchingLogs)
  | asked (block : UInt64) (fromBlock toBlock : ℕ) (idle : s.producer.state ≠ .fetchingLogs)
      (fetching : s'.producer.state = .fetchingLogs)
      (next : nextRange s.producer.config s.producer.filter block = some (fromBlock, toBlock))
      (filter : s'.producer.filter = kind.baseFilter.range fromBlock toBlock)
      (currentBlock : s'.currentBlock = block.toNat) (failed : s'.failed = s.failed)
  | lost (filter : s'.producer.filter = s.producer.filter) (failed : s'.failed = true)
      (idle : s'.producer.state = .idle)

lemma step_of_not_delivers (kind : PollingKind) (s : Polling) (ready : Ready ε)
    (h : ¬ s.Delivers ready) : Change kind s (s.step kind ready) ∧
      (s.step kind ready).delivered = s.delivered ∧
      (s.step kind ready).producer.config = s.producer.config := by
  obtain ⟨⟨filter, config, st, buf⟩, currentBlock, delivered, failed⟩ := s
  obtain ⟨slept, bn, logs⟩ := ready
  cases buf with
  | cons job buf => exact ⟨.quiet rfl rfl (fun h => ⟨h, rfl⟩) id, rfl, rfl⟩
  | nil =>
    cases st with
    | idle =>
      rcases slept with _ | _
      · exact ⟨.quiet rfl rfl nofun id, rfl, rfl⟩
      exact ⟨.quiet rfl rfl nofun nofun, rfl, rfl⟩
    | fetchingBlockNumber =>
      rcases bn with _ | answer
      · exact ⟨.quiet rfl rfl nofun id, rfl, rfl⟩
      rcases answer with e | block
      · exact ⟨.quiet rfl rfl nofun nofun, rfl, rfl⟩
      cases hn : nextRange config filter block with
      | none =>
        refine ⟨.quiet ?_ rfl ?_ nofun, rfl, ?_⟩
        · simp [step, PollingProducer.round, hn]
        · simp only [step, PollingProducer.round, hn]
          exact nofun
        · simp [step, PollingProducer.round, hn]
      | some range =>
        refine ⟨.asked block range.1 range.2 nofun ?_ hn ?_ rfl rfl, rfl, ?_⟩ <;>
          simp [step, PollingProducer.round, hn]
    | fetchingLogs =>
      rcases logs with _ | answer
      · exact ⟨.quiet rfl rfl (fun _ => ⟨rfl, rfl⟩) id, rfl, rfl⟩
      rcases answer with e | logs
      · exact ⟨.lost rfl rfl rfl, rfl, rfl⟩
      exact absurd ⟨logs, rfl⟩ h

lemma step_of_delivers (kind : PollingKind) (s : Polling) (ready : Ready ε)
    (h : s.Delivers ready) : s.producer.state = .fetchingLogs ∧
      (s.step kind ready).producer.state = .idle ∧
      (s.step kind ready).producer.filter = s.producer.filter ∧
      (s.step kind ready).delivered = s.delivered ++ [s.requested] ∧
      (s.step kind ready).failed = s.failed ∧
      (s.step kind ready).producer.config = s.producer.config := by
  obtain ⟨⟨filter, config, st, buf⟩, currentBlock, delivered, failed⟩ := s
  obtain ⟨slept, bn, logs⟩ := ready
  obtain ⟨arrived, ha⟩ := h
  cases buf with
  | cons job buf => cases ha
  | nil =>
    cases st with
    | idle | fetchingBlockNumber => cases ha
    | fetchingLogs =>
      have hl : logs = some (.ok arrived) := ha
      subst hl
      exact ⟨rfl, rfl, rfl, rfl, rfl, rfl⟩

lemma config_step (kind : PollingKind) (s : Polling) (ready : Ready ε) :
    (s.step kind ready).producer.config = s.producer.config := by
  by_cases h : s.Delivers ready
  · exact (step_of_delivers kind s ready h).2.2.2.2.2
  · exact (step_of_not_delivers kind s ready h).2.2

lemma nextRange_spec {config : PollingConfig} {filter : Filter} {block : UInt64}
    {last fromBlock toBlock : ℕ} (hl : filter.toBlock = some last)
    (hs : 1 ≤ config.step.toNat)
    (h : nextRange config filter block = some (fromBlock, toBlock)) :
    fromBlock = min (last + 1) u64Max ∧ fromBlock ≤ toBlock ∧
      toBlock ≤ block.toNat - config.confirmations.toNat := by
  simp only [nextRange, hl, getD_some, saturatingAdd] at h
  split at h
  · cases h
  next hle =>
  obtain ⟨rfl, rfl⟩ := h
  refine ⟨rfl, ?_, ?_⟩
  · have hmin : min (last + 1) u64Max ≤ min (last + config.step.toNat) u64Max := by omega
    exact le_min hmin (not_lt.mp hle)
  · exact min_le_right _ _

def Aligned (config : PollingConfig) : Prop :=
  config.step.toNat = u64Max ∧ 1 ≤ config.initialStartBlock

/-- A round does not deliver logs after blocks were skipped: the first filter is before the start, no
request has failed, and the last of all block numbers was not asked for. -/
def Unskipped : Prop :=
  s.Delivers ready → Aligned s.producer.config ∧ s.failed = false ∧ s.requested.toBlock < u64Max

structure OnTrack (s : Polling) : Prop where
  covered : s.Covered
  step_pos : 1 ≤ s.producer.config.step.toNat
  idle : Aligned s.producer.config → s.failed = false → s.producer.state ≠ .fetchingLogs →
    ∃ last, s.producer.filter.toBlock = some last ∧ last < u64Max ∧
      last + 1 = s.producer.config.initialStartBlock + s.blocks.length
  fetching : Aligned s.producer.config → s.failed = false → s.producer.state = .fetchingLogs →
    s.requested.fromBlock = s.producer.config.initialStartBlock + s.blocks.length ∧
      s.requested.fromBlock ≤ s.requested.toBlock ∧
      s.producer.filter.toBlock = some s.requested.toBlock ∧
      s.requested.toBlock ≤ s.currentBlock - s.producer.config.confirmations.toNat

variable {s : Polling} {ready : Ready ε}

lemma Covered.congr {s' : Polling} (h : s.Covered)
    (hc : s'.producer.config = s.producer.config) (hd : s'.delivered = s.delivered) :
    s'.Covered := by
  refine ⟨?_, ?_⟩
  · have hb : s'.blocks = s.blocks := by
      rw [blocks, blocks, hd]
    rw [hb, hc]
    exact h.consecutive
  · rw [hd, hc]
    exact h.confirmed

lemma Covered.append {s' : Polling} {d : Delivery} (h : s.Covered)
    (hc : s'.producer.config = s.producer.config)
    (hd : s'.delivered = s.delivered ++ [d])
    (hf : d.fromBlock = s.producer.config.initialStartBlock + s.blocks.length)
    (hco : d.toBlock ≤ d.currentBlock - s.producer.config.confirmations.toNat) :
    s'.Covered ∧ s'.blocks.length = s.blocks.length + (d.toBlock + 1 - d.fromBlock) := by
  have hb : s'.blocks = s.blocks ++ blocksOf d := by
    rw [blocks, hd, flatMap_append, flatMap_singleton, blocks]
  have hr : s'.blocks = range' s.producer.config.initialStartBlock
      (s.blocks.length + (d.toBlock + 1 - d.fromBlock)) := by
    rw [hb, h.consecutive, blocksOf, hf, length_range']
    exact range'_append_1
  have hl : s'.blocks.length = s.blocks.length + (d.toBlock + 1 - d.fromBlock) := by
    rw [hr, length_range']
  refine ⟨⟨?_, ?_⟩, hl⟩
  · rw [hl, hc, hr]
  · rw [hd, hc]
    exact forall_mem_append.mpr ⟨h.confirmed, forall_mem_singleton.mpr hco⟩

lemma OnTrack.step_of_delivers (h : s.OnTrack) (hdel : s.Delivers ready)
    (hsk : s.Unskipped ready) : (s.step kind ready).OnTrack := by
  obtain ⟨hs, hs', hfi, hd, hfa, hc⟩ := Polling.step_of_delivers kind s ready hdel
  obtain ⟨ha, hn, hmax⟩ := hsk hdel
  obtain ⟨hfr, hle, hto, hco⟩ := h.fetching ha hn hs
  obtain ⟨hcov, hl⟩ := h.covered.append hc hd hfr hco
  refine ⟨hcov, ?_, ?_, ?_⟩
  · rw [hc]
    exact h.step_pos
  · intro _ _ _
    refine ⟨s.requested.toBlock, ?_, hmax, ?_⟩
    · rw [hfi, hto]
    · rw [hc, hl]
      omega
  · intro _ _ hf
    rw [hs'] at hf
    cases hf

lemma OnTrack.step_of_not_delivers (h : s.OnTrack) (hdel : ¬ s.Delivers ready) :
    (s.step kind ready).OnTrack := by
  obtain ⟨hch, hd, hc⟩ := Polling.step_of_not_delivers kind s ready hdel
  have hbl : (s.step kind ready).blocks = s.blocks := by
    rw [blocks, blocks, hd]
  refine ⟨h.covered.congr hc hd, ?_, ?_, ?_⟩
  · rw [hc]
    exact h.step_pos
  · rw [hc, hbl]
    intro ha hn hi
    cases hch with
    | quiet hfi hfa _ hi' =>
      rw [hfi]
      exact h.idle ha (hfa ▸ hn) (hi' hi)
    | asked block f t _ hfe => exact absurd hfe hi
    | lost _ hfa _ =>
      rw [hfa] at hn
      cases hn
  · rw [hc, hbl]
    intro ha hn hfe
    cases hch with
    | quiet hfi hfa hf' _ =>
      obtain ⟨hs, hb⟩ := hf' hfe
      have hbe := h.fetching ha (hfa ▸ hn) hs
      simp only [requested] at hbe ⊢
      rw [hfi, hb]
      exact hbe
    | asked block f t hi _ hne hfi hb hfa =>
      obtain ⟨last, hla, hmax, hl⟩ := h.idle ha (hfa ▸ hn) hi
      obtain ⟨hf, hle, ht⟩ := nextRange_spec hla h.step_pos hne
      simp only [requested, hfi, Filter.range, getD_some, hb]
      have hmin : min (last + 1) u64Max = last + 1 := by omega
      exact ⟨by rw [hf, hmin, hl], hle, trivial, ht⟩
    | lost _ _ hi =>
      rw [hi] at hfe
      cases hfe

lemma OnTrack.step (h : s.OnTrack) (hs : s.Unskipped ready) : (s.step kind ready).OnTrack := by
  by_cases hdel : s.Delivers ready
  · exact h.step_of_delivers hdel hs
  · exact h.step_of_not_delivers hdel

section New

variable {overflowChecks : Bool} {jobCallSize : ℕ} {kind : PollingKind}
  {currentBlock : Except ε UInt64} {config : PollingConfig} {p : PollingProducer}

lemma covered_start (p : PollingProducer) : (start p).Covered := by
  refine ⟨rfl, ?_⟩
  intro d hd
  cases hd

lemma onTrack_start
    (hnew : PollingProducer.new overflowChecks jobCallSize kind currentBlock config = .ok p)
    (hs : 1 ≤ config.step.toNat) : (start p).OnTrack := by
  obtain ⟨hc, hi, hfi⟩ := PollingProducer.new_spec hnew
  refine ⟨covered_start p, ?_, ?_, ?_⟩
  · rw [start, hc]
    exact hs
  · intro ha _ _
    have hmax : p.config.step.toNat = u64Max := ha.1
    have hpos : 1 ≤ p.config.initialStartBlock := ha.2
    have hlt : p.config.initialStartBlock < 2 ^ 64 :=
      lt_of_le_of_lt (Nat.sub_le _ _) p.config.startBlock.number.toNat_lt
    have hw : wrap64 (p.config.initialStartBlock + p.config.step.toNat)
        = p.config.initialStartBlock - 1 := by
      rw [hmax, wrap64, u64Max]
      omega
    have hla : (start p).producer.filter.toBlock = some (p.config.initialStartBlock - 1) := by
      rw [start, hfi, hw]
      rfl
    have hl : p.config.initialStartBlock - 1 + 1 = p.config.initialStartBlock + 0 := by omega
    refine ⟨p.config.initialStartBlock - 1, hla, ?_, hl⟩
    rw [u64Max]
    omega
  · intro _ _ hf
    rw [start, hi] at hf
    cases hf

structure Behind (s : Polling) : Prop where
  step_pos : 1 ≤ s.producer.config.step.toNat
  start_lt : s.producer.config.initialStartBlock < u64Max
  to_gt : ∃ last, s.producer.filter.toBlock = some last ∧ s.producer.config.initialStartBlock < last
  from_gt : s.producer.state = .fetchingLogs →
    s.producer.config.initialStartBlock < s.requested.fromBlock ∧
      s.requested.fromBlock ≤ s.requested.toBlock
  nothing : s.Covered → s.delivered = []

lemma not_covered_of_first {d : Delivery} (hd : s.delivered = [d])
    (hne : s.producer.config.initialStartBlock < d.fromBlock) (hle : d.fromBlock ≤ d.toBlock) :
    ¬ s.Covered := by
  intro h
  have hb : s.blocks = range' d.fromBlock (d.toBlock + 1 - d.fromBlock) := by
    rw [blocks, hd, flatMap_singleton, blocksOf]
  have hc := h.consecutive
  rw [hb, length_range'] at hc
  obtain ⟨n, hn⟩ : ∃ n, d.toBlock + 1 - d.fromBlock = n + 1 := ⟨d.toBlock - d.fromBlock, by omega⟩
  rw [hn, range'_succ, range'_succ] at hc
  have hh : d.fromBlock = s.producer.config.initialStartBlock := (cons.inj hc).1
  omega

lemma Behind.step (h : s.Behind) (hco : s.Covered) (ready : Ready ε) :
    (s.step kind ready).Behind := by
  have hc := config_step kind s ready
  have hpos : 1 ≤ (s.step kind ready).producer.config.step.toNat := by
    rw [hc]
    exact h.step_pos
  have hs : (s.step kind ready).producer.config.initialStartBlock < u64Max := by
    rw [hc]
    exact h.start_lt
  -- where the filter stays as it is, so does its end
  have hto (hfi : (s.step kind ready).producer.filter = s.producer.filter) :
      ∃ last, (s.step kind ready).producer.filter.toBlock = some last ∧
        (s.step kind ready).producer.config.initialStartBlock < last := by
    rw [hc, hfi]
    exact h.to_gt
  by_cases hdel : s.Delivers ready
  · obtain ⟨hst, hs', hfi, hd, -⟩ := step_of_delivers kind s ready hdel
    obtain ⟨hfr, hle⟩ := h.from_gt hst
    refine ⟨hpos, hs, hto hfi, fun hfe => ?_, fun hc' => ?_⟩
    · rw [hs'] at hfe
      cases hfe
    · rw [h.nothing hco, nil_append] at hd
      rw [← hc] at hfr
      exact absurd hc' (not_covered_of_first hd hfr hle)
  · obtain ⟨hch, hd, -⟩ := step_of_not_delivers kind s ready hdel
    have hn : (s.step kind ready).Covered → (s.step kind ready).delivered = [] := by
      intro _
      rw [hd]
      exact h.nothing hco
    cases hch with
    | quiet hfi _ hf' _ =>
      refine ⟨hpos, hs, hto hfi, fun hfe => ?_, hn⟩
      obtain ⟨hst, -⟩ := hf' hfe
      simp only [requested, hfi, hc]
      exact h.from_gt hst
    | asked block f t _ _ hne hfi _ _ =>
      obtain ⟨last, hl, hgt⟩ := h.to_gt
      obtain ⟨hf, hle, -⟩ := nextRange_spec hl h.step_pos hne
      have hlt := h.start_lt
      have hfgt : s.producer.config.initialStartBlock < f := by omega
      refine ⟨hpos, hs, ?_, fun _ => ?_, hn⟩
      · rw [hc, hfi]
        exact ⟨t, rfl, lt_of_lt_of_le hfgt hle⟩
      · simp only [requested, hfi, hc, Filter.range, getD_some]
        exact ⟨hfgt, hle⟩
    | lost hfi _ hi =>
      refine ⟨hpos, hs, hto hfi, fun hfe => ?_, hn⟩
      rw [hi] at hfe
      cases hfe

lemma behind_start
    (hnew : PollingProducer.new overflowChecks jobCallSize kind currentBlock config = .ok p)
    (hs : 1 ≤ config.step.toNat)
    (hfs : p.config.initialStartBlock + p.config.step.toNat < 2 ^ 64) : (start p).Behind := by
  obtain ⟨hc, hi, hfi⟩ := PollingProducer.new_spec hnew
  have hpos : 1 ≤ p.config.step.toNat := by
    rw [hc]
    exact hs
  have hw := (wrap64_eq_self_iff _).mpr hfs
  have hlt : p.config.initialStartBlock < u64Max := by
    rw [u64Max]
    omega
  have hl : (start p).producer.filter.toBlock
      = some (p.config.initialStartBlock + p.config.step.toNat) := by
    rw [start, hfi, hw]
    rfl
  refine ⟨hpos, hlt, ⟨_, hl, Nat.lt_add_of_pos_right hpos⟩, ?_, fun _ => rfl⟩
  intro hf
  rw [start, hi] at hf
  cases hf

lemma covered_step_iff (h : s.Behind) (hc : s.Covered) (ready : Ready ε) :
    (s.step kind ready).Covered ↔ ¬ s.Delivers ready := by
  constructor
  · intro hc' hdel
    obtain ⟨-, -, -, hd, -⟩ := step_of_delivers kind s ready hdel
    rw [(h.step hc ready).nothing hc'] at hd
    exact append_ne_nil_of_right_ne_nil _ (cons_ne_nil _ _) hd.symm
  · intro hdel
    obtain ⟨-, hd, hcfg⟩ := step_of_not_delivers kind s ready hdel
    exact hc.congr hcfg hd

/-- **Block coverage.** A producer delivers the blocks from its start block on, in order, each of them
once and none before its confirmations, in every run in which no logs are delivered after blocks
were skipped. Without an overflow in the first filter, the blocks before the first request are
always skipped: there the runs are exactly those that deliver nothing. -/
theorem always_covered
    (hnew : PollingProducer.new overflowChecks jobCallSize kind currentBlock config = .ok p)
    (hstep : 1 ≤ config.step.toNat) (rounds : List (Ready ε)) :
    (Each (Polling.step kind) Unskipped (start p) rounds →
      Always (Polling.step kind) Covered (start p) rounds) ∧
    (p.config.initialStartBlock + p.config.step.toNat < 2 ^ 64 →
      (Always (Polling.step kind) Covered (start p) rounds ↔
        Each (Polling.step kind) (fun s ready => ¬ s.Delivers ready) (start p) rounds)) := by
  refine ⟨?_, ?_⟩
  · intro h
    exact always_of_each (fun s ready hs hsk => hs.step hsk) (fun s hs => hs.covered)
      (onTrack_start hnew hstep) h
  · intro hf
    have hb := behind_start hnew hstep hf
    exact always_iff_each (I := Covered) (J := Behind) (fun s ready hs hc => hs.step hc ready)
      (fun s ready hs hc => covered_step_iff hs hc ready) hb (covered_start p)
      rounds

end New

def afterSleep : Ready Unit := ⟨true, none, none⟩

def atBlock (block : UInt64) : Ready Unit := ⟨false, some (.ok block), none⟩

def noLogs : Ready Unit := ⟨false, none, some (.ok [])⟩

def logsFail : Ready Unit := ⟨false, none, some (.error ())⟩

def someTangle : PollingKind := tangleKind ⟨B256.default, fun _ _ => none⟩ vaultAddress

def largestStep : PollingConfig := ⟨.custom 13, 12, 18446744073709551615⟩

def largestStepProducer : PollingProducer :=
  ⟨someTangle.baseFilter.range 1 0, largestStep, .idle, []⟩

theorem always_covered_largestStep :
    PollingProducer.new false 64 someTangle (.ok 0 : Except Unit UInt64) largestStep
        = .ok largestStepProducer ∧
      Each (Polling.step someTangle) Unskipped (start largestStepProducer)
        [afterSleep, atBlock 20, noLogs] ∧
      Always (Polling.step someTangle) Covered (start largestStepProducer)
        [afterSleep, atBlock 20, noLogs] := by
  have hnew : PollingProducer.new false 64 someTangle (.ok 0 : Except Unit UInt64) largestStep
      = .ok largestStepProducer := rfl
  have hst : 1 ≤ largestStep.step.toNat := by decide
  have hs : Unskipped (start largestStepProducer) afterSleep := by
    rintro ⟨logs, hl⟩
    cases hl
  have hb : Unskipped (Polling.step someTangle (start largestStepProducer) afterSleep)
      (atBlock 20) := by
    rintro ⟨logs, hl⟩
    cases hl
  have hl : Unskipped (Polling.step someTangle
      (Polling.step someTangle (start largestStepProducer) afterSleep) (atBlock 20)) noLogs :=
    fun _ => ⟨⟨rfl, by decide⟩, rfl, by decide⟩
  have he : Each (Polling.step someTangle) Unskipped (start largestStepProducer)
      [afterSleep, atBlock 20, noLogs] := ⟨hs, hb, hl, trivial⟩
  exact ⟨hnew, he, (always_covered hnew hst [afterSleep, atBlock 20, noLogs]).1 he⟩

def fromBlock20 : PollingProducer :=
  ⟨Filter.new.range 8 9, PollingConfig.fromBlock 20, .idle, []⟩

/-- The default configuration never asks for the blocks 8 and 9, and begins with block 10. With the
largest step, the blocks of a failed request are not asked for again. -/
theorem blocks_skipped : PollingProducer.new true 64 pollingKind (.ok 0 : Except Unit UInt64)
        (PollingConfig.fromBlock 20) = .ok fromBlock20 ∧
      ([afterSleep, atBlock 40, noLogs].foldl (Polling.step pollingKind) (start fromBlock20)).blocks
        = [10] ∧
      ¬ ([afterSleep, atBlock 40, noLogs].foldl (Polling.step pollingKind)
        (start fromBlock20)).Covered ∧
      ([afterSleep, atBlock 20, logsFail, afterSleep, atBlock 22, noLogs].foldl
        (Polling.step someTangle) (start largestStepProducer)).blocks = [9, 10] := by
  refine ⟨rfl, rfl, ?_, rfl⟩
  intro h
  have hb : [10] = range' 8 1 := h.consecutive
  revert hb
  decide

end Polling

end Gadget.EvmExtra
