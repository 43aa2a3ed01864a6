import Gadget.AggregationSvc.Service

/-!
# Several aggregation services

`submit_aggregated_result` sends its signature to all services and goes on with the answer of the
last one that has taken it. A `Report` is what it returns, with the submissions that it has tried.
-/

namespace Gadget.TangleExtra.Redundancy

open Rust List
open AggregationSvc (AggregatedResultResponse)

/-- What a service that has an answer says: an aggregate, or that the call was submitted. -/
inductive ThresholdWaitResult
  | aggregated (result : AggregatedResultResponse)
  | submitted

/-- The answers of one service to the calls that are made once. -/
structure ServiceClient where
  initTaskWithMessage : Except (List Char) Unit
  submitSignature : Except (List Char) Bool
  getAggregatedOrSubmitted : Except (List Char) ThresholdWaitResult

/-- The answers of one service in one round of polling. -/
structure Poll where
  getAggregated : Except (List Char) (Option AggregatedResultResponse)
  getStatus : Except (List Char) Bool

/-- What a poll ends the waiting with. -/
def Poll.outcome (poll : Poll) : Option ThresholdWaitResult :=
  match poll.getAggregated, poll.getStatus with
  | .ok (some result), _ => some (.aggregated result)
  | _, .ok true => some .submitted
  | _, _ => none

/-- The configuration, and the answers of all services, of the chain and of the decoders. -/
structure Setting where
  submitToChain : Bool
  waitForThreshold : Bool
  dryRun : Bool
  clients : List ServiceClient
  rounds : List (List Poll)
  finalStatuses : List (Except (List Char) Bool)
  decodesSignature : Bytes → Bool
  decodesPubkey : Bytes → Bool
  submit : AggregatedResultResponse → Except (List Char) Unit

structure Report where
  value : Except (List Char) Unit
  attempted : List AggregatedResultResponse
  learnt : Bool

def isJobAlreadyCompleted (error : List Char) : Bool :=
  let message := toAsciiLowercase error
  ["jobalreadycompleted", "job already completed", "0x0a55512f"].any fun part =>
    decide (part.toList <:+: message)

namespace Setting

variable (s : Setting)

variable (output : Bytes) (result : AggregatedResultResponse)

/-- `submit_aggregated_to_chain_with_result` -/
def submitWithResult : Report :=
  if s.dryRun then ⟨.ok (), [], false⟩
  else if s.decodesSignature result.aggregatedSignature = false then
    ⟨.error "BLS error: Invalid aggregated signature".toList, [], false⟩
  else if s.decodesPubkey result.aggregatedPubkey = false then
    ⟨.error "BLS error: Invalid aggregated pubkey".toList, [], false⟩
  else ⟨s.submit result, [result], false⟩

def settle : ThresholdWaitResult → Report
  | .submitted => ⟨.ok (), [], true⟩
  | .aggregated result => s.submitWithResult result

/-- `try_submit_aggregated_to_chain`: the first service that answers decides. -/
def trySubmit : Report :=
  match s.clients.findSome? fun client => client.getAggregatedOrSubmitted.toOption with
  | some offered => s.settle offered
  | none => ⟨.error "Client error: Aggregated result not available from any service".toList, [], false⟩

/-- `wait_for_threshold_any_service` and the submission after it. -/
def waitAndSubmit : Report :=
  match s.rounds.flatten.findSome? Poll.outcome with
  | some offered => s.settle offered
  | none =>
    if s.finalStatuses.any fun status => status.toOption = some true then ⟨.ok (), [], true⟩
    else ⟨.error "Client error: Timeout waiting for aggregation threshold".toList, [], false⟩

/-- An error which says that the job is completed counts as success. -/
def forgive (r : Report) : Report :=
  match r.value with
  | .error e => if isJobAlreadyCompleted e then ⟨.ok (), r.attempted, true⟩ else r
  | .ok () => r

/-- The answer of the last service that has taken the signature. -/
def lastResponse : Option Bool :=
  (s.clients.filterMap fun client =>
    client.initTaskWithMessage.toOption.bind fun _ => client.submitSignature.toOption).getLast?

/-- `submit_aggregated_result`, from the services on. -/
def submitAggregatedResult : Report :=
  match s.lastResponse with
  | none => ⟨.error "Client error: Failed to submit to any aggregation service".toList, [], false⟩
  | some thresholdMet =>
    if s.submitToChain = false then ⟨.ok (), [], false⟩
    else if thresholdMet then forgive s.trySubmit
    else if s.waitForThreshold then forgive s.waitAndSubmit
    else ⟨.ok (), [], false⟩

/-! ## What is asked of it -/

/-- The aggregate can be decoded and is on this operator's output. -/
def Genuine : Prop :=
  s.decodesSignature result.aggregatedSignature = true ∧
    s.decodesPubkey result.aggregatedPubkey = true ∧ result.output = output

/-- A service reports the threshold met, or offers a genuine aggregate in time. -/
def Available : Prop :=
  (∃ client ∈ s.clients, client.initTaskWithMessage = .ok () ∧ client.submitSignature = .ok true) ∨
  (∃ client ∈ s.clients, ∃ result, client.getAggregatedOrSubmitted = .ok (.aggregated result) ∧
    s.Genuine output result) ∨
  ∃ round ∈ s.rounds, ∃ poll ∈ round, ∃ result, poll.getAggregated = .ok (some result) ∧ s.Genuine output result

/-- A genuine aggregate was submitted, or the call is known to be submitted. -/
def Settled (r : Report) : Prop :=
  (∃ result ∈ r.attempted, s.Genuine output result) ∨ r.learnt = true

structure Redundant (output : Bytes) : Prop where
  settled : s.submitToChain = true → s.Available output → s.Settled output s.submitAggregatedResult
  reported : ∀ result ∈ s.submitAggregatedResult.attempted, ∀ e, s.submit result = .error e →
    isJobAlreadyCompleted e = false → s.submitAggregatedResult.value ≠ .ok ()

/-- The answer leads to a submission of this output, or shows that the call was submitted: an aggregate can be
decoded, outside of a dry run, and is on this output unless the chain says that the job is completed. -/
def Usable : ThresholdWaitResult → Prop
  | .submitted => True
  | .aggregated result => s.dryRun = false ∧ s.decodesSignature result.aggregatedSignature = true ∧
      s.decodesPubkey result.aggregatedPubkey = true ∧
      (result.output = output ∨ ∃ e, s.submit result = .error e ∧ isJobAlreadyCompleted e = true)

/-- The first answer decides: of any service where the last one that has taken the signature reports the
threshold met, and of the polls where it does not and the consumer waits. -/
def Decided : Prop :=
  (s.lastResponse = some true ∧ ∃ offered, s.Usable output offered ∧
      (s.clients.findSome? fun client => client.getAggregatedOrSubmitted.toOption) = some offered) ∨
    s.lastResponse = some false ∧ s.waitForThreshold = true ∧
      ((∃ offered, s.Usable output offered ∧ s.rounds.flatten.findSome? Poll.outcome = some offered) ∨
        s.rounds.flatten.findSome? Poll.outcome = none ∧
          (s.finalStatuses.any fun status => status.toOption = some true) = true)

section

variable {s} {output : Bytes}

def Honest (s : Setting) (r : Report) : Prop := ∀ result ∈ r.attempted, r.value = s.submit result

lemma honest_settle (offered : ThresholdWaitResult) : s.Honest (s.settle offered) := by
  intro result hr
  cases offered with
  | submitted => cases hr
  | aggregated found =>
    unfold settle submitWithResult at hr ⊢
    dsimp only at hr ⊢
    split_ifs at hr ⊢ <;> simp_all

lemma reported_forgive {r : Report} (h : s.Honest r) : ∀ result ∈ (forgive r).attempted, ∀ e,
    s.submit result = .error e → isJobAlreadyCompleted e = false → (forgive r).value ≠ .ok () := by
  intro result hr e he hj
  have hv (hm : result ∈ r.attempted) : r.value = .error e := (h result hm).trans he
  unfold forgive at hr ⊢
  rcases hval : r.value with e' | u <;> simp only [hval] at hr ⊢
  · split at hr <;> rename_i hc
    · have := hv hr
      simp_all
    · simp [hc, hval]
  · have := hv hr
    simp_all

lemma honest_trySubmit : s.Honest s.trySubmit := by
  unfold trySubmit
  split
  · exact honest_settle _
  · intro result hr
    cases hr

lemma honest_waitAndSubmit : s.Honest s.waitAndSubmit := by
  unfold waitAndSubmit
  split
  · exact honest_settle _
  · split <;> intro result hr <;> cases hr

lemma reported_submitAggregatedResult : ∀ result ∈ s.submitAggregatedResult.attempted, ∀ e,
    s.submit result = .error e → isJobAlreadyCompleted e = false →
    s.submitAggregatedResult.value ≠ .ok () := by
  unfold submitAggregatedResult
  split
  · simp
  split_ifs
  · simp
  · exact reported_forgive honest_trySubmit
  · exact reported_forgive honest_waitAndSubmit
  · simp

lemma not_settled_error {e : List Char} (h : isJobAlreadyCompleted e = false) :
    ¬ s.Settled output (forgive ⟨.error e, [], false⟩) := by
  simp [forgive, h, Settled]

/-- The errors that the consumer itself makes do not say that the job is completed. -/
lemma ownErrors_not_completed : ∀ text ∈ ["BLS error: Invalid aggregated signature",
    "BLS error: Invalid aggregated pubkey", "Client error: Aggregated result not available from any service",
    "Client error: Timeout waiting for aggregation threshold"], isJobAlreadyCompleted text.toList = false := by
  decide +kernel

/-- What is settled after an answer, with the error that says that the job is completed. -/
lemma settled_settle_iff {offered : ThresholdWaitResult} :
    s.Settled output (forgive (s.settle offered)) ↔ s.Usable output offered := by
  cases offered with
  | submitted => exact iff_of_true (.inr rfl) trivial
  | aggregated result =>
    rw [settle, submitWithResult, Usable]
    by_cases hd : s.dryRun = true
    · rw [if_pos hd]
      simp [hd, forgive, Settled]
    rw [if_neg hd]
    by_cases hs : s.decodesSignature result.aggregatedSignature = false
    · rw [if_pos hs]
      exact iff_of_false (not_settled_error (ownErrors_not_completed _ (by simp))) (by simp [hs])
    rw [if_neg hs]
    by_cases hp : s.decodesPubkey result.aggregatedPubkey = false
    · rw [if_pos hp]
      exact iff_of_false (not_settled_error (ownErrors_not_completed _ (by simp))) (by simp [hp])
    rw [if_neg hp]
    rw [Bool.not_eq_true] at hd
    rw [Bool.not_eq_false] at hs hp
    cases hsub : s.submit result with
    | ok => simp [forgive, Settled, Genuine, hd, hs, hp]
    | error e =>
      by_cases hc : isJobAlreadyCompleted e = true
      · simp [forgive, Settled, hd, hs, hp, hc]
      · simp [forgive, Settled, Genuine, hd, hs, hp, hc]

lemma settled_trySubmit_iff : s.Settled output (forgive s.trySubmit) ↔
    ∃ offered, s.Usable output offered ∧
      (s.clients.findSome? fun client => client.getAggregatedOrSubmitted.toOption) = some offered := by
  unfold trySubmit
  cases s.clients.findSome? fun client => client.getAggregatedOrSubmitted.toOption with
  | some offered => simp [settled_settle_iff]
  | none =>
    exact iff_of_false (not_settled_error (ownErrors_not_completed _ (by simp))) (by simp)

lemma settled_waitAndSubmit_iff : s.Settled output (forgive s.waitAndSubmit) ↔
    (∃ offered, s.Usable output offered ∧ s.rounds.flatten.findSome? Poll.outcome = some offered) ∨
      s.rounds.flatten.findSome? Poll.outcome = none ∧
        (s.finalStatuses.any fun status => status.toOption = some true) = true := by
  unfold waitAndSubmit
  cases s.rounds.flatten.findSome? Poll.outcome with
  | some offered => simp [settled_settle_iff]
  | none =>
    by_cases hf : (s.finalStatuses.any fun status => status.toOption = some true) = true
    · rw [if_pos hf]
      exact iff_of_true (.inr rfl) (.inr ⟨rfl, hf⟩)
    · rw [if_neg hf]
      exact iff_of_false (not_settled_error (ownErrors_not_completed _ (by simp))) (by simp [hf])

lemma settled_iff (hs : s.submitToChain = true) :
    s.Settled output s.submitAggregatedResult ↔ s.Decided output := by
  unfold submitAggregatedResult Decided
  cases hl : s.lastResponse with
  | none => simp [Settled]
  | some thresholdMet =>
    simp only [hs, Bool.true_eq_false, if_false]
    cases thresholdMet with
    | true => simp [settled_trySubmit_iff]
    | false =>
      by_cases hw : s.waitForThreshold = true
      · rw [if_neg Bool.false_ne_true, if_pos hw, settled_waitAndSubmit_iff]
        simp [hw]
      · simp [hw, Settled]

end

abbrev offer (bytes : Bytes) : AggregatedResultResponse := ⟨1, 1, [], 1, [], bytes, bytes⟩

abbrev twoServices (clients : List ServiceClient) : Setting :=
  ⟨true, false, false, clients, [], [], (· ≠ []), (· ≠ []), fun _ => .ok ()⟩

abbrev lastBehind : Setting :=
  twoServices [⟨.ok (), .ok true, .ok (.aggregated (offer [1]))⟩, ⟨.ok (), .ok false, .error []⟩]

abbrev firstBroken : Setting :=
  twoServices [⟨.ok (), .ok true, .ok (.aggregated (offer []))⟩, ⟨.ok (), .ok true, .ok (.aggregated (offer [1]))⟩]

end Setting

end Gadget.TangleExtra.Redundancy
