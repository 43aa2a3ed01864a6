import Gadget.TangleExtra.Consumers

/-!
# The consumers of EVM job results

`EVMConsumer` sends the transaction that a job result holds, `TangleConsumer` submits the
result to the Jobs contract. They are built like the consumers of Tangle results: a queue that
is worked off one transaction at a time. Both go on flushing when they are closed while
results wait.
-/

namespace Gadget.EvmExtra

open Rust Gadget.Core Lib.Sink Lib.Run
open TangleExtra (queued)

namespace EVMConsumer

variable {TransactionRequest : Type}

def startSend (fromSlice : Bytes → Except String TransactionRequest) (item : JobResult) :
    Except String (Option TransactionRequest) := do
  let (_, txBytes) ← item.intoParts
  let txRequest ← fromSlice txBytes
  .ok (some txRequest)

def policy : Policy := { dropsFailed := false, closeFlushes := true }

def step (fromSlice : Bytes → Except String TransactionRequest) :
    Ledger TransactionRequest String → Call JobResult String →
    Ledger TransactionRequest String :=
  Ledger.step (fun item => queued (startSend fromSlice item)) policy

end EVMConsumer

def serviceIdKey : List Char := "X-EVM-SERVICE-ID".toList

def callIdKey : List Char := "X-EVM-CALL-ID".toList

structure DerivedJobResult where
  serviceId : UInt64
  callId : UInt64
  output : Bytes

namespace TangleConsumer

def startSend : JobResult → Except String (Option DerivedJobResult)
  | .err _ => .ok none
  | .ok metadata body =>
    match metadata.lookup serviceIdKey, metadata.lookup callIdKey with
    | some serviceIdRaw, some callIdRaw => do
      let serviceId ← okOr (u64TryFrom serviceIdRaw) "Invalid service_id"
      let callId ← okOr (u64TryFrom callIdRaw) "Invalid call_id"
      .ok (some { serviceId, callId, output := body })
    | _, _ => .ok none

def policy : Policy := { dropsFailed := true, closeFlushes := true }

def step : Ledger DerivedJobResult String → Call JobResult String →
    Ledger DerivedJobResult String :=
  Ledger.step (fun item => queued (startSend item)) policy

end TangleConsumer

section Completeness

variable {TransactionRequest : Type}

/-- **Completeness.** For each consumer and every sequence of its calls: nothing is lost,
submitted twice or out of order, no completed submission is polled again, and a poll is ready
only when everything accepted has been submitted, in all states of the run, exactly when no
call closes the consumer with an empty buffer while a submission runs; `EVMConsumer` must
moreover not be polled again after a failed transaction. -/
theorem consumers_complete_iff (fromSlice : Bytes → Except String TransactionRequest) :
    (∀ calls, Always TangleExtra.TangleConsumer.step Ledger.Complete .new calls ↔
      Each TangleExtra.TangleConsumer.step Ledger.ClosesIdle .new calls) ∧
    (∀ calls, Always TangleExtra.AggregatingConsumer.step Ledger.Complete .new calls ↔
      Each TangleExtra.AggregatingConsumer.step Ledger.ClosesIdle .new calls) ∧
    (∀ calls, Always TangleConsumer.step Ledger.Complete .new calls ↔
      Each TangleConsumer.step Ledger.ClosesIdle .new calls) ∧
    (∀ calls, Always (EVMConsumer.step fromSlice) Ledger.Complete .new calls ↔
      Each (EVMConsumer.step fromSlice) (Ledger.Safe EVMConsumer.policy) .new calls) :=
  ⟨Ledger.always_complete_iff_closesIdle _ rfl, Ledger.always_complete_iff_closesIdle _ rfl,
    Ledger.always_complete_iff_closesIdle _ rfl, Ledger.always_complete_iff _ EVMConsumer.policy⟩

abbrev tangleResult : JobResult :=
  .ok (((∅ : MetadataMap).insert TangleExtra.callIdKey (MetadataValue.ofU64 3)).insert
    TangleExtra.serviceIdKey (MetadataValue.ofU64 7)) []

abbrev evmResult : JobResult :=
  .ok (((∅ : MetadataMap).insert callIdKey (MetadataValue.ofU64 3)).insert
    serviceIdKey (MetadataValue.ofU64 7)) []

theorem consumers_incomplete : ¬ Always TangleExtra.TangleConsumer.step Ledger.Complete .new
      [.startSend tangleResult, .pollFlush [], .pollClose []] ∧
    ¬ Always TangleExtra.AggregatingConsumer.step Ledger.Complete .new
      [.startSend tangleResult, .pollFlush [], .pollClose []] ∧
    ¬ Always TangleConsumer.step Ledger.Complete .new
      [.startSend evmResult, .pollFlush [], .pollClose []] ∧
    ¬ Always (EVMConsumer.step Except.ok) Ledger.Complete .new
      [.startSend evmResult, .pollFlush [], .pollClose []] ∧
    ¬ Always (EVMConsumer.step Except.ok) Ledger.Complete .new
      [.startSend evmResult, .pollFlush [.error "connection refused"], .pollFlush []] := by
  refine ⟨?_, ?_, ?_, ?_, ?_⟩
  · exact Ledger.not_complete_close_pending rfl _
  · exact Ledger.not_complete_close_pending rfl _
  · exact Ledger.not_complete_close_pending rfl _
  · exact Ledger.not_complete_close_pending rfl _
  · exact Ledger.not_complete_flush_failed rfl rfl _

end Completeness

end Gadget.EvmExtra
