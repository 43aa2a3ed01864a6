import Gadget.Lib.Sink
import Gadget.TangleExtra.Producer

/-!
# The consumers of Tangle job results

`TangleConsumer` and `AggregatingConsumer`. Both queue what they need for a submission in
`start_send` and work the queue off in `poll_flush`, one submission at a time, so their state
is a `Queue` and the two polls are `Queue.flush` and `Queue.close` at the consumer's policy.
A result that is an error, or that carries no identifiers, needs no submission.
-/

namespace Gadget.TangleExtra

open Rust Gadget.Core Lib.Sink Option

def queued {ε α : Type} : Except ε (Option α) → Option α
  | .ok item => item
  | .error _ => none

inductive ConsumerError where
  | client (e : String)
  | missingMetadata (name : String)
  | invalidMetadata (name : String)
  | transaction (e : String)

structure DerivedJobResult where
  serviceId : UInt64
  callId : UInt64
  output : Bytes

namespace TangleConsumer

def startSend : JobResult → Except ConsumerError (Option DerivedJobResult)
  | .err _ => .ok none
  | .ok metadata body =>
    match metadata.lookup callIdKey, metadata.lookup serviceIdKey with
    | some callIdRaw, some serviceIdRaw => do
      let callId ← okOr (u64TryFrom callIdRaw) (.invalidMetadata "call_id")
      let serviceId ← okOr (u64TryFrom serviceIdRaw) (.invalidMetadata "service_id")
      .ok (some { serviceId, callId, output := body })
    | _, _ => .ok none

/-- `poll_flush` goes back to waiting after a failed submission. -/
def policy : Policy := { dropsFailed := true, closeFlushes := false }

def step : Ledger DerivedJobResult ConsumerError → Call JobResult ConsumerError →
    Ledger DerivedJobResult ConsumerError :=
  Ledger.step (fun item => queued (startSend item)) policy

end TangleConsumer

inductive AggregatingConsumerError where
  | client (e : String)
  | missingMetadata (name : String)
  | invalidMetadata (name : String)
  | transaction (e : String)
  | aggregation (e : String)
  | aggregationNotConfigured

structure PendingJobResult where
  serviceId : UInt64
  callId : UInt64
  jobIndex : UInt8
  output : Bytes

inductive ThresholdType where
  | countBased
  | stakeWeighted
  deriving DecidableEq

structure AggregationConfig where
  required : Bool
  thresholdBps : UInt16
  thresholdType : ThresholdType
  deriving DecidableEq

namespace AggregatingConsumer

def u8TryFrom (value : UInt64) : Option UInt8 :=
  if value.toNat < 256 then some value.toUInt8 else none

def jobIndexOf (metadata : MetadataMap) : UInt8 :=
  (((metadata.lookup jobIndexKey).bind u64TryFrom).bind u8TryFrom).getD 0

def startSend : JobResult → Except AggregatingConsumerError (Option PendingJobResult)
  | .err _ => .ok none
  | .ok metadata body =>
    match metadata.lookup callIdKey, metadata.lookup serviceIdKey with
    | some callIdRaw, some serviceIdRaw => do
      let jobIndex := jobIndexOf metadata
      let callId ← okOr (u64TryFrom callIdRaw) (.invalidMetadata "call_id")
      let serviceId ← okOr (u64TryFrom serviceIdRaw) (.invalidMetadata "service_id")
      .ok (some { serviceId, callId, jobIndex, output := body })
    | _, _ => .ok none

/-- `poll_submission` goes back to waiting after any completed submission. -/
def policy : Policy := { dropsFailed := true, closeFlushes := false }

def step : Ledger PendingJobResult AggregatingConsumerError →
    Call JobResult AggregatingConsumerError → Ledger PendingJobResult AggregatingConsumerError :=
  Ledger.step (fun item => queued (startSend item)) policy

inductive Setup where
  | featureDisabled
  | notConfigured
  | configured

inductive ChainCall where
  | getAggregationConfig (serviceId : UInt64) (jobIndex : UInt8)
  | submitDirectResult (serviceId callId : UInt64) (output : Bytes)
  | submitAggregatedResult (serviceId callId : UInt64) (output : Bytes)
    (config : AggregationConfig)
  deriving DecidableEq

structure SubmitEnv where
  aggregationConfig : UInt64 → UInt8 → Except String AggregationConfig
  direct : Except AggregatingConsumerError Unit
  aggregated : Except AggregatingConsumerError Unit

def submitJobResult (setup : Setup) (env : SubmitEnv) (pending : PendingJobResult) :
    Except AggregatingConsumerError Unit × List ChainCall :=
  let lookup := .getAggregationConfig pending.serviceId pending.jobIndex
  match env.aggregationConfig pending.serviceId pending.jobIndex with
  | .error e => (.error (.client e), [lookup])
  | .ok config =>
    if config.required then
      match setup with
      -- only a warning without the feature
      | .featureDisabled => (.ok (), [lookup])
      | .notConfigured => (.error .aggregationNotConfigured, [lookup])
      | .configured =>
        (env.aggregated, [lookup,
          .submitAggregatedResult pending.serviceId pending.callId pending.output config])
    else
      (env.direct, [lookup, .submitDirectResult pending.serviceId pending.callId pending.output])

lemma u8TryFrom_eq_some {val : UInt64} {n : UInt8} : u8TryFrom val = some n ↔ val = n.toUInt64 := by
  constructor
  · intro h
    rw [u8TryFrom] at h
    split at h
    · next hlt =>
      rw [some.injEq] at h
      rw [← h, ← UInt64.toNat_inj, UInt8.toNat_toUInt64, UInt64.toNat_toUInt8, Nat.mod_eq_of_lt hlt]
    · cases h
  · intro h
    have hlt : n.toUInt64.toNat < 256 := by
      exact n.toNat_lt
    rw [h, u8TryFrom, if_pos hlt, UInt8.toUInt8_toUInt64]

def indexValue (j : UInt8) : MetadataValue := MetadataValue.ofU64 j.toUInt64

lemma jobIndexOf_eq_iff (md : MetadataMap) (j : UInt8) :
    jobIndexOf md = j ↔ md.lookup jobIndexKey = some (indexValue j)
      ∨ (j = 0 ∧ ∀ k, md.lookup jobIndexKey ≠ some (indexValue k)) := by
  -- reading succeeds with `k` exactly on the eight bytes of `k`
  have hre : ∀ k, ((md.lookup jobIndexKey).bind u64TryFrom).bind u8TryFrom = some k
      ↔ md.lookup jobIndexKey = some (indexValue k) := by
    intro k
    simp only [bind_eq_some_iff, u8TryFrom_eq_some, u64TryFrom_eq_some, indexValue]
    constructor
    · rintro ⟨val, ⟨raw, hraw, rfl⟩, rfl⟩
      exact hraw
    · intro h
      exact ⟨_, ⟨_, h, rfl⟩, rfl⟩
  rw [jobIndexOf]
  cases hr : ((md.lookup jobIndexKey).bind u64TryFrom).bind u8TryFrom with
  | some k =>
    have hk := (hre k).mp hr
    constructor
    · intro h
      left
      rw [hk, ← h, getD_some]
    · rintro (h | ⟨_, h⟩)
      · have hj := (hre j).mpr h
        rw [hr] at hj
        exact some.inj hj
      · exact absurd hk (h k)
  | none =>
    have hn : ∀ k, md.lookup jobIndexKey ≠ some (indexValue k) := by
      intro k hk
      rw [← hre k, hr] at hk
      cases hk
    constructor
    · intro h
      right
      exact ⟨h.symm, hn⟩
    · rintro (h | ⟨h, _⟩)
      · exact absurd h (hn j)
      · exact h.symm

end AggregatingConsumer

end Gadget.TangleExtra
