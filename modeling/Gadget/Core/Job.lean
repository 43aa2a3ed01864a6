import Gadget.Rust.BigEndian
import Gadget.Rust.HashMap

/-!
# Job calls and job results

What producers hand to the router and what consumers receive from it, with metadata that go from names
to untyped bytes. The extensions of a call are left out: only the producers of EVM logs use them, and
their model adds them. So is whether a value is sensitive, which only changes how it is printed.
-/

namespace Gadget.Core

open Rust

abbrev MetadataValue := Bytes

abbrev MetadataMap := HashMap (List Char) MetadataValue

def MetadataValue.ofU64 (value : UInt64) : MetadataValue := toBeBytes 8 value.toNat

def u64TryFrom (value : MetadataValue) : Option UInt64 :=
  if value.length = 8 then some (UInt64.ofNat (ofBeBytes value)) else none

@[simp] lemma u64TryFrom_ofU64 (value : UInt64) :
    u64TryFrom (MetadataValue.ofU64 value) = some value := by
  have hlt : value.toNat < 256 ^ 8 := value.toNat_lt
  rw [u64TryFrom, MetadataValue.ofU64, if_pos (length_toBeBytes 8 _),
    ofBeBytes_toBeBytes_of_lt hlt, UInt64.ofNat_toNat]

lemma u64TryFrom_eq_some {value : MetadataValue} {n : UInt64} :
    u64TryFrom value = some n ↔ value = MetadataValue.ofU64 n := by
  constructor
  · intro h
    by_cases hlen : value.length = 8
    · rw [u64TryFrom, if_pos hlen, Option.some.injEq] at h
      have hlt : ofBeBytes value < 2 ^ 64 := by
        have := ofBeBytes_lt value
        rw [hlen] at this
        exact this
      have hn : n.toNat = ofBeBytes value := by
        rw [← h, UInt64.toNat_ofNat_of_lt' hlt]
      rw [MetadataValue.ofU64, hn, ← hlen, toBeBytes_ofBeBytes]
    · rw [u64TryFrom, if_neg hlen] at h
      cases h
  · intro h
    rw [h, u64TryFrom_ofU64]

structure JobId where
  limb0 : UInt64
  limb1 : UInt64
  limb2 : UInt64
  limb3 : UInt64
  deriving DecidableEq

def JobId.ofU8 (value : UInt8) : JobId := ⟨0, 0, 0, value.toUInt64⟩

def JobId.ofU64 (value : UInt64) : JobId := ⟨0, 0, 0, value⟩

structure JobCall where
  jobId : JobId
  metadata : MetadataMap
  body : Bytes

inductive JobResult where
  | ok (metadata : MetadataMap) (body : Bytes)
  | err (e : String)

def JobResult.intoParts : JobResult → Except String (MetadataMap × Bytes)
  | .ok metadata body => .ok (metadata, body)
  | .err e => .error e

end Gadget.Core
