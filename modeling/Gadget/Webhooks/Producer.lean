import Gadget.Core.Job
import Gadget.Rust.Utf8

/-!
# The producer of webhook job calls

A verified webhook event is made into a job call. As for paid calls, the service and a synthetic
call number are stored under the names that the calls of the chain use.
-/

namespace Gadget.Webhooks

open Rust Gadget.Core

def originKey : List Char := "X-WEBHOOK-ORIGIN".toList

def pathKey : List Char := "X-WEBHOOK-PATH".toList

def nameKey : List Char := "X-WEBHOOK-NAME".toList

def serviceIdKey : List Char := "X-TANGLE-SERVICE-ID".toList

def callIdKey : List Char := "X-TANGLE-CALL-ID".toList

structure WebhookEvent where
  serviceId : UInt64
  jobId : UInt64
  body : Bytes
  path : List Char
  name : Option (List Char)
  callId : UInt64

def WebhookEvent.intoJobCall (e : WebhookEvent) : JobCall :=
  let metadata := ((∅ : MetadataMap).insert originKey (utf8 "webhook".toList)).insert
    pathKey (utf8 e.path)
  let metadata :=
    match e.name with
    | some name => metadata.insert nameKey (utf8 name)
    | none => metadata
  { jobId := JobId.ofU64 e.jobId
    metadata := (metadata.insert serviceIdKey (MetadataValue.ofU64 e.serviceId)).insert
      callIdKey (MetadataValue.ofU64 e.callId)
    body := e.body }

end Gadget.Webhooks
