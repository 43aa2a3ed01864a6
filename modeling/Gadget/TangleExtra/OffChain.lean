import Gadget.Router.Routing
import Gadget.TangleExtra.Consumers
import Gadget.Webhooks.Producer
import Gadget.X402.PaidJob
import Gadget.X402.PaymentGate

/-!
# From a job event to the submission of its result

The whole way of a job: the producer makes a call of the event, the layer serves it and puts
the two identifiers on the result, and the aggregating consumer looks up the aggregation
requirements of the job and submits. The identifiers arrive. The job index does not: the layer
does not copy it, and the consumer takes a result without an index for one of job zero.
-/

namespace Gadget.TangleExtra

open Rust Gadget.Core AggregatingConsumer MetadataValue HashMap

section

variable {ε : Type}

variable (svc : JobCall → Except ε (Option JobResult)) (setup : Setup) (env : SubmitEnv)
  {ev : JobSubmittedEvent} {blockNumber : ℕ} {blockHash : Bytes} {ts : ℕ} {call : JobCall}
  (hcall : jobSubmittedToCall ev blockNumber blockHash ts = call)

include hcall

lemma callId_jobSubmittedToCall : CallId.tryFrom call = .ok ev.callId := by
  subst hcall
  apply idFromMetadata_of_lookup
  rfl

lemma serviceId_jobSubmittedToCall : ServiceId.tryFrom call = .ok ev.serviceId := by
  subst hcall
  apply idFromMetadata_of_lookup
  rfl

variable (service : JobCall → Except ε (Option JobResult)) (event : JobSubmittedEvent)

def route (setup : Setup) (env : SubmitEnv) (call : JobCall) : List ChainCall :=
  match TangleSubmissionService.call service call with
  | .ok (some result) =>
    match startSend result with
    | .ok (some pending) => (submitJobResult setup env pending).2
    | _ => []
  | _ => []

def ChainCall.For : ChainCall → Prop
  | .getAggregationConfig serviceId jobIndex =>
    serviceId = event.serviceId ∧ jobIndex = event.jobIndex
  | .submitDirectResult serviceId callId _ => serviceId = event.serviceId ∧ callId = event.callId
  | .submitAggregatedResult serviceId callId _ _ =>
    serviceId = event.serviceId ∧ callId = event.callId

/-- A job is routed: for a result the requirements of the event's job are looked up, and every
call of the consumer belongs to the event. -/
def Routed (call : JobCall) (calls : List ChainCall) : Prop :=
  (∀ metadata body, service call = .ok (some (.ok metadata body)) →
    .getAggregationConfig event.serviceId event.jobIndex ∈ calls) ∧
  ∀ c ∈ calls, ChainCall.For event c

lemma call_jobSubmittedToCall {md : MetadataMap} {body : Bytes}
    (h : svc call = .ok (some (.ok md body))) : TangleSubmissionService.call svc call
      = .ok (some (.ok ((md.insert callIdKey (ofU64 ev.callId)).insert
        serviceIdKey (ofU64 ev.serviceId)) body)) := by
  rw [TangleSubmissionService.call, callId_jobSubmittedToCall hcall,
    serviceId_jobSubmittedToCall hcall]
  simp [h]

omit hcall in
lemma startSend_identified (metadata : MetadataMap) (body : Bytes) (callId serviceId : UInt64) :
    startSend (.ok ((metadata.insert callIdKey (ofU64 callId)).insert serviceIdKey
      (ofU64 serviceId)) body)
      = .ok (some { serviceId, callId, jobIndex := jobIndexOf metadata, output := body }) := by
  have hne : callIdKey ≠ serviceIdKey := by decide
  have hi : jobIndexOf ((metadata.insert callIdKey (ofU64 callId)).insert
      serviceIdKey (ofU64 serviceId)) = jobIndexOf metadata := by
    have hs : jobIndexKey ≠ serviceIdKey := by decide
    have hc : jobIndexKey ≠ callIdKey := by decide
    rw [jobIndexOf, jobIndexOf, lookup_insert_eq, lookup_insert_eq, if_neg hs,
      if_neg hc]
  simp [startSend, hne, hi, okOr, bind, Except.bind]

theorem route_result {md : MetadataMap} {body : Bytes} (h : svc call = .ok (some (.ok md body))) :
    route svc setup env call
      = (submitJobResult setup env ⟨ev.serviceId, ev.callId, jobIndexOf md, body⟩).2 := by
  rw [route, call_jobSubmittedToCall svc hcall h]
  simp [startSend_identified]

lemma route_no_result (h : ∀ md body, svc call ≠ .ok (some (.ok md body))) :
    route svc setup env call = [] := by
  rw [route, TangleSubmissionService.call, callId_jobSubmittedToCall hcall,
    serviceId_jobSubmittedToCall hcall]
  rcases hs : svc call with e | resp
  · rfl
  rcases resp with _ | result
  · rfl
  rcases result with ⟨md, body⟩ | e
  · exact absurd hs (h md body)
  rfl

omit hcall

lemma lookup_mem_submitJobResult (pend : PendingJobResult) :
    .getAggregationConfig pend.serviceId pend.jobIndex ∈ (submitJobResult setup env pend).2 := by
  simp only [submitJobResult]
  split
  · simp
  · split
    · split <;> simp
    · simp

lemma for_submitJobResult_iff (ev : JobSubmittedEvent) (job : UInt8) (output : Bytes) :
    (∀ c ∈ (submitJobResult setup env ⟨ev.serviceId, ev.callId, job, output⟩).2,
      ChainCall.For ev c) ↔ job = ev.jobIndex := by
  constructor
  · intro h
    exact (h _ (lookup_mem_submitJobResult setup env _)).2
  · rintro rfl
    simp only [submitJobResult]
    split
    · simp [ChainCall.For]
    · split
      · split <;> simp [ChainCall.For]
      · simp [ChainCall.For]

/-- **Routing.** The result of an event reaches its own job exactly when the job handler itself
has put the index on the result, in eight bytes, or when the event is one of job zero and the
handler has put none there. The service and the call are always those of the event. -/
theorem routed_iff (service : JobCall → Except ε (Option JobResult)) (setup : Setup)
    (env : SubmitEnv) (event : JobSubmittedEvent) (blockNumber : ℕ) (blockHash : Bytes)
    (timestamp : ℕ) :
    Routed service event (jobSubmittedToCall event blockNumber blockHash timestamp)
      (route service setup env (jobSubmittedToCall event blockNumber blockHash timestamp)) ↔
    ∀ metadata body, service (jobSubmittedToCall event blockNumber blockHash timestamp)
        = .ok (some (.ok metadata body)) →
      metadata.lookup jobIndexKey = some (indexValue event.jobIndex) ∨
        (event.jobIndex = 0 ∧ ∀ k, metadata.lookup jobIndexKey ≠ some (indexValue k)) := by
  generalize hcall : jobSubmittedToCall event blockNumber blockHash timestamp = call
  constructor
  · rintro ⟨_, hfor⟩ metadata body hs
    rw [route_result service setup env hcall hs, for_submitJobResult_iff] at hfor
    exact (jobIndexOf_eq_iff metadata event.jobIndex).mp hfor
  · intro h
    by_cases hr : ∃ metadata body, service call = .ok (some (.ok metadata body))
    · obtain ⟨metadata, body, hs⟩ := hr
      have hi := (jobIndexOf_eq_iff metadata event.jobIndex).mpr (h metadata body hs)
      rw [route_result service setup env hcall hs]
      refine ⟨fun _ _ _ => ?_, (for_submitJobResult_iff setup env event _ _).mpr hi⟩
      rw [← hi]
      exact lookup_mem_submitJobResult setup env _
    · push Not at hr
      rw [route_no_result service setup env hcall hr]
      exact ⟨fun metadata body hs => absurd hs (hr metadata body), nofun⟩

abbrev plainHandler : JobCall → Except String (Option JobResult) :=
  fun _ => .ok (some (.ok ∅ []))

abbrev aggregatedJobs : SubmitEnv where
  aggregationConfig _ jobIndex :=
    .ok { required := jobIndex != 0, thresholdBps := 6700, thresholdType := .countBased }
  direct := .ok ()
  aggregated := .ok ()

abbrev eventOfJobOne : JobSubmittedEvent where
  serviceId := 7
  callId := 3
  jobIndex := 1
  caller := List.replicate 20 0
  inputs := []
  blockNumber := 100
  blockHash := List.replicate 32 0

abbrev callOfJobOne : JobCall :=
  jobSubmittedToCall eventOfJobOne eventOfJobOne.blockNumber eventOfJobOne.blockHash 1700000000

/-- The requirements of job zero are looked up for an event of job one, so its result is
submitted directly although job one requires aggregation. -/
theorem jobOne_not_routed : route plainHandler .configured aggregatedJobs callOfJobOne
      = [.getAggregationConfig 7 0, .submitDirectResult 7 3 []] ∧
    ¬ Routed plainHandler eventOfJobOne callOfJobOne
      (route plainHandler .configured aggregatedJobs callOfJobOne) := by
  have hr : route plainHandler .configured aggregatedJobs callOfJobOne
      = [.getAggregationConfig 7 0, .submitDirectResult 7 3 []] := by
    rw [route_result plainHandler .configured aggregatedJobs rfl rfl]
    decide
  refine ⟨hr, ?_⟩
  rintro ⟨_, hfor⟩
  rw [hr] at hfor
  exact absurd (hfor _ List.mem_cons_self).2 (by decide)

end

/-! ## Calls that do not come from the chain

Paid calls and webhook calls carry a synthetic call number under the name of the call numbers of
the chain. `TangleLayer` cannot tell them apart: it puts the number on the result, and the
consumers submit the result under it. Nothing is submitted for such a call only if no job returns
a result for it, if one of the jobs fails, or if the consumer would not submit any result. -/

open Routing List Option

variable {ε : Type}

section Layer

def identify (callId serviceId : UInt64) : JobResult → JobResult
  | .err e => .err e
  | .ok metadata body =>
    .ok ((metadata.insert callIdKey (MetadataValue.ofU64 callId)).insert serviceIdKey
      (MetadataValue.ofU64 serviceId)) body

variable {callId serviceId : UInt64} {call : JobCall}

variable (hc : CallId.tryFrom call = .ok callId) (hs : ServiceId.tryFrom call = .ok serviceId)

include hc hs

lemma submissionService_of_ids (job : Route ε) :
    TangleSubmissionService.call job call
      = (job call).map fun answer => answer.map (identify callId serviceId) := by
  rw [TangleSubmissionService.call, hc, hs]
  rcases job call with e | answer
  · rfl
  rcases answer with _ | result
  · rfl
  rcases result with ⟨md, body⟩ | e <;> rfl

lemma fails_layer_iff (rt : Router ε) :
    (rt.layer TangleSubmissionService.call).Fails call ↔ rt.Fails call := by
  simp only [Router.Fails, Router.matched_layer, map_eq_some_iff]
  constructor
  · rintro ⟨_, ⟨jobs, hm, rfl⟩, layered, hmem, e, he⟩
    obtain ⟨job, hjob, rfl⟩ := mem_map.mp hmem
    rw [submissionService_of_ids hc hs] at he
    refine ⟨jobs, hm, job, hjob, e, ?_⟩
    rcases hj : job call with e' | answer
    · rw [hj] at he
      cases he
      rfl
    rw [hj] at he
    cases he
  · rintro ⟨jobs, hm, job, hjob, e, he⟩
    refine ⟨_, ⟨jobs, hm, rfl⟩, _, mem_map_of_mem hjob, e, ?_⟩
    rw [submissionService_of_ids hc hs, he]
    rfl

lemma answers_layer_iff (rt : Router ε) (result : JobResult) :
    (rt.layer TangleSubmissionService.call).Answers call result ↔
      ∃ plain, rt.Answers call plain ∧ result = identify callId serviceId plain := by
  simp only [Router.Answers, Router.matched_layer, map_eq_some_iff]
  constructor
  · rintro ⟨_, ⟨jobs, hm, rfl⟩, layered, hmem, ha⟩
    obtain ⟨job, hjob, rfl⟩ := mem_map.mp hmem
    rw [submissionService_of_ids hc hs, exceptMap_eq_ok] at ha
    obtain ⟨answer, ha, hmap⟩ := ha
    obtain ⟨plain, rfl, rfl⟩ := map_eq_some_iff.mp hmap
    exact ⟨plain, ⟨jobs, hm, job, hjob, ha⟩, rfl⟩
  · rintro ⟨plain, ⟨jobs, hm, job, hjob, ha⟩, rfl⟩
    refine ⟨_, ⟨jobs, hm, rfl⟩, _, mem_map_of_mem hjob, ?_⟩
    rw [submissionService_of_ids hc hs, ha]
    rfl

end Layer

inductive ResultConsumer where
  | tangle (dryRun : Bool)
  | aggregating (dryRun : Bool) (setup : AggregatingConsumer.Setup)
      (env : AggregatingConsumer.SubmitEnv) (aggregates : PendingJobResult → Bool)

namespace ResultConsumer

def ofChainCall (dryRun : Bool) (aggregates : PendingJobResult → Bool)
    (pending : PendingJobResult) : AggregatingConsumer.ChainCall → Option DerivedJobResult
  | .getAggregationConfig _ _ => none
  | .submitDirectResult serviceId callId output =>
    if dryRun then none else some ⟨serviceId, callId, output⟩
  | .submitAggregatedResult serviceId callId output _ =>
    if dryRun || !aggregates pending then none else some ⟨serviceId, callId, output⟩

def transactions : ResultConsumer → JobResult → List DerivedJobResult
  | .tangle dryRun, result =>
    match TangleConsumer.startSend result with
    | .ok (some item) => if dryRun then [] else [item]
    | _ => []
  | .aggregating dryRun setup env aggregates, result =>
    match AggregatingConsumer.startSend result with
    | .ok (some pending) =>
      (AggregatingConsumer.submitJobResult setup env pending).2.filterMap
        (ofChainCall dryRun aggregates pending)
    | _ => []

def Submits : ResultConsumer → PendingJobResult → Prop
  | .tangle dryRun, _ => dryRun = false
  | .aggregating dryRun setup env aggregates, pending =>
    dryRun = false ∧ ∃ config, env.aggregationConfig pending.serviceId pending.jobIndex = .ok config ∧
      (config.required = true → setup = .configured ∧ aggregates pending = true)

lemma tangleConsumer_startSend_identified (md : MetadataMap) (body : Bytes)
    (callId serviceId : UInt64) :
    TangleConsumer.startSend (identify callId serviceId (.ok md body))
      = .ok (some ⟨serviceId, callId, body⟩) := by
  have hne : callIdKey ≠ serviceIdKey := by decide
  simp [identify, TangleConsumer.startSend, hne, okOr, bind, Except.bind]

lemma filterMap_submitJobResult (dryRun : Bool) (setup : AggregatingConsumer.Setup)
    (env : AggregatingConsumer.SubmitEnv) (aggregates : PendingJobResult → Bool)
    (pend : PendingJobResult) :
    ((aggregating dryRun setup env aggregates).Submits pend ∧
      (submitJobResult setup env pend).2.filterMap
        (ofChainCall dryRun aggregates pend) = [⟨pend.serviceId, pend.callId, pend.output⟩]) ∨
    (¬ (aggregating dryRun setup env aggregates).Submits pend ∧
      (submitJobResult setup env pend).2.filterMap (ofChainCall dryRun aggregates pend) = []) := by
  simp only [Submits, submitJobResult]
  rcases henv : env.aggregationConfig pend.serviceId pend.jobIndex with e | cfg
  · simp [ofChainCall]
  cases hr : cfg.required with
  | false =>
    cases dryRun with
    | false =>
      left
      refine ⟨⟨rfl, cfg, rfl, fun h => ?_⟩, ?_⟩
      · rw [hr] at h
        cases h
      · simp only [hr]
        rfl
    | true => simp [hr, ofChainCall]
  | true =>
    cases setup with
    | featureDisabled | notConfigured => simp [hr, ofChainCall]
    | configured =>
      cases dryRun with
      | true => simp [hr, ofChainCall]
      | false =>
        rcases hagg : aggregates pend with _ | _
        · simp [hr, ofChainCall, hagg]
        left
        refine ⟨⟨rfl, cfg, rfl, fun _ => ⟨rfl, rfl⟩⟩, ?_⟩
        simp only [hr, if_true, filterMap_cons, ofChainCall, hagg, filterMap_nil]
        rfl

variable (con : ResultConsumer)

lemma transactions_identified (md : MetadataMap) (body : Bytes) (callId serviceId : UInt64) :
    let pending : PendingJobResult := ⟨serviceId, callId, jobIndexOf md, body⟩
    (con.Submits pending ∧ con.transactions (identify callId serviceId (.ok md body))
        = [⟨serviceId, callId, body⟩]) ∨
    (¬ con.Submits pending ∧ con.transactions (identify callId serviceId (.ok md body)) = []) := by
  cases con with
  | tangle dryRun =>
    have hq := tangleConsumer_startSend_identified md body callId serviceId
    cases dryRun with
    | false =>
      left
      refine ⟨rfl, ?_⟩
      rw [transactions, hq]
      rfl
    | true =>
      right
      refine ⟨nofun, ?_⟩
      rw [transactions, hq]
      rfl
  | aggregating dryRun setup env aggregates =>
    have hq : startSend (identify callId serviceId (.ok md body))
        = .ok (some ⟨serviceId, callId, jobIndexOf md, body⟩) :=
      startSend_identified md body callId serviceId
    simp only [transactions, hq]
    exact filterMap_submitJobResult dryRun setup env aggregates _

lemma transactions_eq_nil_iff (md : MetadataMap) (body : Bytes) (callId serviceId : UInt64) :
    con.transactions (identify callId serviceId (.ok md body)) = [] ↔
      ¬ con.Submits ⟨serviceId, callId, jobIndexOf md, body⟩ := by
  rcases con.transactions_identified md body callId serviceId
    with ⟨hs, htxs⟩ | ⟨hnot, htxs⟩
  · rw [htxs]
    exact iff_of_false (cons_ne_nil _ _) (not_not_intro hs)
  · exact iff_of_true htxs hnot

lemma transactions_err (e : String) : con.transactions (.err e) = [] := by
  rcases con with dryRun | ⟨dryRun, setup, env, aggregates⟩ <;> rfl

end ResultConsumer

section Transactions

variable {callId serviceId : UInt64} {call : JobCall}

def transactionsFor (consumer : ResultConsumer) (router : Router ε)
    (order : FinishOrder (Except ε (Option JobResult))) (call : JobCall) : List DerivedJobResult :=
  match (router.layer TangleSubmissionService.call).call order call with
  | .ok (some results) => results.flatMap consumer.transactions
  | _ => []

variable (hc : CallId.tryFrom call = .ok callId) (hs : ServiceId.tryFrom call = .ok serviceId)
  (con : ResultConsumer) (rt : Router ε) (ord : FinishOrder (Except ε (Option JobResult)))

include hc hs

lemma ids_of_mem_transactionsFor :
    ∀ tx ∈ transactionsFor con rt ord call, tx.callId = callId ∧ tx.serviceId = serviceId := by
  intro tx htx
  unfold transactionsFor at htx
  split at htx
  · next results hca =>
    obtain ⟨result, hr, htx⟩ := mem_flatMap.mp htx
    obtain ⟨plain, -, rfl⟩ :=
      (answers_layer_iff hc hs rt result).mp (((Router.call_eq_ok_some hca).2 _).mp hr)
    cases plain with
    | err e =>
      rw [identify, ResultConsumer.transactions_err] at htx
      cases htx
    | ok md body =>
      rcases con.transactions_identified md body callId serviceId
        with ⟨-, htxs⟩ | ⟨-, htxs⟩
      · rw [htxs] at htx
        rw [mem_singleton.mp htx]
        exact ⟨rfl, rfl⟩
      · rw [htxs] at htx
        cases htx
  · cases htx

lemma transactionsFor_eq_nil_iff :
    transactionsFor con rt ord call = [] ↔
      rt.Fails call ∨ ∀ md body, rt.Answers call (.ok md body) →
        ¬ con.Submits ⟨serviceId, callId, jobIndexOf md, body⟩ := by
  unfold transactionsFor
  by_cases hok : ∃ results,
      (rt.layer TangleSubmissionService.call).call ord call = .ok (some results)
  · obtain ⟨results, hca⟩ := hok
    obtain ⟨hf, hr⟩ := Router.call_eq_ok_some hca
    rw [fails_layer_iff hc hs] at hf
    rw [hca]
    simp only [flatMap_eq_nil_iff, hf, false_or]
    constructor
    · intro hn md body ha
      refine (con.transactions_eq_nil_iff md body callId serviceId).mp (hn _ ?_)
      exact (hr _).mpr ((answers_layer_iff hc hs rt _).mpr ⟨_, ha, rfl⟩)
    · intro hn result hmem
      obtain ⟨plain, ha, rfl⟩ := (answers_layer_iff hc hs rt result).mp ((hr result).mp hmem)
      rcases plain with ⟨md, body⟩ | e
      · exact (con.transactions_eq_nil_iff md body callId serviceId).mpr (hn md body ha)
      exact con.transactions_err e
  · have hnil : (match (rt.layer TangleSubmissionService.call).call ord call with
        | .ok (some results) => results.flatMap con.transactions
        | _ => ([] : List DerivedJobResult)) = [] := by
      split
      · next results hca => exact absurd ⟨results, hca⟩ hok
      · rfl
    rw [hnil]
    refine iff_of_true rfl ?_
    rcases Router.call_ne_ok_some (fun results h => hok ⟨results, h⟩) with hm | hf
    · right
      rintro md body ⟨jobs, hm', -⟩ -
      rw [Router.matched_layer, hm'] at hm
      cases hm
    · exact .inl ((fails_layer_iff hc hs rt).mp hf)

end Transactions

inductive OffChainCall (D : X402.Deps) where
  | paid (payment : X402.VerifiedPayment D)
  | webhook (event : Webhooks.WebhookEvent)

namespace OffChainCall

variable {D : X402.Deps} (asSlice : D.Address → Bytes)

def jobCall : OffChainCall D → JobCall
  | .paid payment => payment.intoJobCall asSlice
  | .webhook event => event.intoJobCall

def callId : OffChainCall D → UInt64
  | .paid payment => UInt64.ofNat payment.callId
  | .webhook event => event.callId

def serviceId : OffChainCall D → UInt64
  | .paid payment => UInt64.ofNat payment.serviceId
  | .webhook event => event.serviceId

lemma ids_jobCall (o : OffChainCall D) : CallId.tryFrom (o.jobCall asSlice) = .ok o.callId ∧
    ServiceId.tryFrom (o.jobCall asSlice) = .ok o.serviceId := by
  refine ⟨idFromMetadata_of_lookup ?_, idFromMetadata_of_lookup ?_⟩
  all_goals cases o with
    | paid payment =>
      simp only [jobCall, X402.VerifiedPayment.intoJobCall]
      rcases payment.caller with _ | caller
      · simp only [lookup_insert_eq]
        rfl
      simp only [lookup_insert_eq]
      rfl
    | webhook ev =>
      simp only [jobCall, Webhooks.WebhookEvent.intoJobCall, lookup_insert_eq]
      rfl

/-- **Off-chain calls.** What is submitted for a paid call or a webhook call is submitted under its
synthetic number, and nothing is submitted exactly when one of the jobs called fails or the consumer
would submit no result that they return. -/
theorem transactionsFor_nil_iff (asSlice : D.Address → Bytes) (o : OffChainCall D)
    (consumer : ResultConsumer) (router : Router ε)
    (order : FinishOrder (Except ε (Option JobResult))) :
    (∀ tx ∈ transactionsFor consumer router order (o.jobCall asSlice),
      tx.callId = o.callId ∧ tx.serviceId = o.serviceId) ∧
    (transactionsFor consumer router order (o.jobCall asSlice) = [] ↔
      router.Fails (o.jobCall asSlice) ∨
      ∀ metadata body, router.Answers (o.jobCall asSlice) (.ok metadata body) → ¬ consumer.Submits
          ⟨o.serviceId, o.callId, AggregatingConsumer.jobIndexOf metadata, body⟩) :=
  ⟨ids_of_mem_transactionsFor (o.ids_jobCall asSlice).1 (o.ids_jobCall asSlice).2 consumer
    router order,
    transactionsFor_eq_nil_iff (o.ids_jobCall asSlice).1 (o.ids_jobCall asSlice).2 consumer
      router order⟩

def firstPaid : OffChainCall X402.wholeDeps :=
  .paid ⟨7, 0, [42], [], X402.eip155, X402.zeroAddress, 1, none⟩

def echoRouter : Router Unit :=
  Router.new.always fun call => .ok (some (.ok ∅ call.body))

theorem paid_result_reaches_chain :
    transactionsFor (.tangle false) echoRouter (FinishOrder.started _)
      (firstPaid.jobCall fun _ => []) = [⟨7, 1, [42]⟩] := by
  have hc : (echoRouter.layer TangleSubmissionService.call).call (FinishOrder.started _)
      (firstPaid.jobCall fun _ => []) = .ok (some [identify 1 7 (.ok ∅ [42])]) := rfl
  rw [transactionsFor, hc]
  simp only [flatMap_cons, flatMap_nil, append_nil, ResultConsumer.transactions,
    ResultConsumer.tangleConsumer_startSend_identified]
  rfl

end OffChainCall

end Gadget.TangleExtra
