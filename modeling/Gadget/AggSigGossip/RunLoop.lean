import Gadget.AggSigGossip.ResultConsistency

/-!
# The loop of `run`

A tick tries one message only, the one of the highest weight, and weighs it with its malicious
signers. In the round `Completion` the loop does not return the result that was accepted: it builds
one for the own message. That round is the last one, and `run` cannot be started in it again.
-/

namespace Gadget.AggSigGossip

open Rust GossipPrimitives Lib.Run Option Except

variable {S : AggregatableSignature} {PeerId : Type} [DecidableEq PeerId] [Hashing]

namespace SignatureAggregationProtocol

section Ticks

variable (p : SignatureAggregationProtocol S PeerId) (order : IterOrder Bytes) (env : Env PeerId)

/-- The first of the messages with the most weight, malicious signers included. -/
def getHighestWeightMessage : Bytes × ℕ :=
  (order.entries p.state.signaturesByMessage).foldl
    (fun best entry =>
      let weight := p.weightScheme.calculateWeight entry.2
      if best.2 < weight then (entry.1, weight) else best) ([], 0)

/-- The result for a message, if there is one. -/
def built (message : Bytes) : Option (AggregationResult S PeerId) :=
  (p.buildResult message env).toOption.join

/-- The branches of the `select` in `run`. -/
inductive Tick
  | messages
  | check
  | timeout

/-- What a tick makes `run` return. -/
def tick (isAggregator : Bool) : Tick → Option (Except AggregationError (AggregationResult S PeerId))
  | .messages =>
    let highest := p.getHighestWeightMessage order
    if isAggregator ∧ p.weightScheme.thresholdWeight ≤ highest.2 then
      (p.built env highest.1).map .ok
    else none
  | .check =>
    match p.state.round with
    | .initialization => none
    | .signatureCollection =>
      if isAggregator then (p.built env (p.getHighestWeightMessage order).1).map .ok else none
    | .completion =>
      match p.buildResult p.state.localMessage env with
      | .ok (some result) => some (.ok result)
      | .ok none => some (.error (.thresholdNotMet 0 0))
      | .error e => some (.error e)
  | .timeout =>
    match p.timeout.built env p.state.localMessage with
    | some result => some (.ok result)
    | none => some (.error .timeout)

/-- The signatures seen last from the signers that are not malicious, with their keys, aggregate to this result, and
the aggregate verifies. -/
def Aggregates (message : Bytes) (result : AggregationResult S PeerId) : Prop :=
  let honest := (env.order.toList (p.signersOf message)).filter (· ∉ p.state.malicious)
  let signatures := honest.filterMap fun q => (p.state.seenSignatures.lookup q).map Prod.fst
  ∃ sig pub, signatures ≠ [] ∧
    S.aggregate signatures (honest.filterMap p.participantPublicKeys.lookup) = .ok (sig, pub) ∧
    S.verifyAggregate message sig pub = .ok true ∧
    result = ⟨message, sig, p.signersOf message,
      some (p.weightScheme.calculateWeight (p.signersOf message)), p.state.malicious⟩

/-- The signers that are not malicious have the threshold weight, and this is the result. -/
def Gives (message : Bytes) (result : AggregationResult S PeerId) : Prop :=
  p.weightScheme.thresholdWeight ≤ p.honestWeight (p.signersOf message) ∧ p.Aggregates env message result

def Ready (message : Bytes) : Prop :=
  0 < p.weightScheme.thresholdWeight ∧ ∃ result, p.Gives env message result

/-- The message has this weight, more than those before it in the map and no less than those after it. -/
def Leads (message : Bytes) (weight : ℕ) : Prop :=
  (∃ before signers after, order.entries p.state.signaturesByMessage = before ++ (message, signers) :: after ∧
    weight = p.weightScheme.calculateWeight signers ∧ 0 < weight ∧
    (∀ entry ∈ before, p.weightScheme.calculateWeight entry.2 < weight) ∧
    ∀ entry ∈ after, p.weightScheme.calculateWeight entry.2 ≤ weight) ∨
  (message = [] ∧ weight = 0 ∧
    ∀ entry ∈ order.entries p.state.signaturesByMessage, p.weightScheme.calculateWeight entry.2 = 0)

/-- The node has accepted a completion. -/
def Accepted (result : AggregationResult S PeerId) : Prop :=
  p.state.round = .completion ∧ p.state.verifiedCompletion = some result

end Ticks

/-- A message that is ready makes the next check of an aggregator return a result, and what was
accepted is what is returned. -/
structure Progresses (p : SignatureAggregationProtocol S PeerId) : Prop where
  collects : p.state.round = .signatureCollection → ∀ order env message, p.Ready env message →
    ∃ result, p.tick order env true .check = some (.ok result) ∧
      p.weightScheme.thresholdWeight ≤ p.honestWeight result.contributors
  completes : ∀ result, p.Accepted result → ∀ order env isAggregator t out,
    p.tick order env isAggregator t = some out → out = .ok result

/-- If any message is ready, one that leads is. Once a completion is accepted, the own message gives the same result,
and so does a message that leads with the threshold weight, if it gives one. -/
structure Agrees (p : SignatureAggregationProtocol S PeerId) : Prop where
  collects : p.state.round = .signatureCollection → ∀ order env message, p.Ready env message →
    ∃ leading weight, p.Leads order leading weight ∧ p.Ready env leading
  completes : ∀ result, p.Accepted result → ∀ env, p.Gives env p.state.localMessage result ∧
    ∀ order leading weight, p.Leads order leading weight → p.weightScheme.thresholdWeight ≤ weight →
      ∀ other, p.Gives env leading other → other = result

section Best

variable {α β : Type} (weight : β → ℕ)

omit [Hashing]

lemma foldl_best_of_le {l : List (α × β)} {best : α × ℕ} (h : ∀ entry ∈ l, weight entry.2 ≤ best.2) :
    l.foldl (fun best entry => if best.2 < weight entry.2 then (entry.1, weight entry.2) else best) best = best := by
  induction l with
  | nil => rfl
  | cons entry l ih =>
    rw [List.forall_mem_cons] at h
    rw [List.foldl_cons, if_neg (not_lt.mpr h.1), ih h.2]

/-- The first entry of the most weight, or the start where no entry has more. -/
lemma foldl_best_cases (l : List (α × β)) (best : α × ℕ) :
    (∃ before entry after, l = before ++ entry :: after ∧ best.2 < weight entry.2 ∧
      (∀ e ∈ before, weight e.2 < weight entry.2) ∧ (∀ e ∈ after, weight e.2 ≤ weight entry.2) ∧
      l.foldl (fun best entry => if best.2 < weight entry.2 then (entry.1, weight entry.2) else best) best
        = (entry.1, weight entry.2)) ∨
    ((∀ e ∈ l, weight e.2 ≤ best.2) ∧
      l.foldl (fun best entry => if best.2 < weight entry.2 then (entry.1, weight entry.2) else best) best = best) := by
  induction l generalizing best with
  | nil => exact .inr ⟨nofun, rfl⟩
  | cons entry l ih =>
    rw [List.foldl_cons]
    by_cases hb : best.2 < weight entry.2
    · rw [if_pos hb]
      rcases ih (entry.1, weight entry.2) with ⟨before, e, after, rfl, hlt, hbe, haf, hf⟩ | ⟨hle, hf⟩
      · exact .inl ⟨entry :: before, e, after, rfl, hb.trans hlt, List.forall_mem_cons.mpr ⟨hlt, hbe⟩, haf, hf⟩
      · exact .inl ⟨[], entry, l, rfl, hb, nofun, hle, hf⟩
    · rw [if_neg hb]
      have hle := not_lt.mp hb
      rcases ih best with ⟨before, e, after, rfl, hlt, hbe, haf, hf⟩ | ⟨hle', hf⟩
      · exact .inl ⟨entry :: before, e, after, rfl, hlt, List.forall_mem_cons.mpr ⟨hle.trans_lt hlt, hbe⟩, haf, hf⟩
      · exact .inr ⟨List.forall_mem_cons.mpr ⟨hle, hle'⟩, hf⟩

end Best

section

variable {p : SignatureAggregationProtocol S PeerId} {env : Env PeerId} {message : Bytes}
  {result : AggregationResult S PeerId}

omit [Hashing]

lemma built_eq_some : p.built env message = some result ↔ p.buildResult message env = .ok (some result) := by
  rw [built, join_eq_some_iff, toOption_eq_some]

lemma honestWeight_eq (participants : Finset PeerId) : p.honestWeight participants =
    p.weightScheme.calculateWeight (participants.filter fun q => q ∉ p.state.malicious) := by
  rw [honestWeight, Finset.sdiff_eq_filter]

lemma aggregateAndVerify_iff :
    p.aggregateAndVerify message (p.signersOf message) none env = .ok (some result) ↔ p.Aggregates env message result := by
  unfold aggregateAndVerify collectSignaturesAndPublicKeys Aggregates
  dsimp only
  generalize (env.order.toList (p.signersOf message)).filter (· ∉ p.state.malicious) = honest
  generalize honest.filterMap (fun q => (p.state.seenSignatures.lookup q).map Prod.fst) = signatures
  by_cases hs : signatures = []
  · simp [hs]
  rw [if_neg (by simpa using hs)]
  dsimp only
  rcases S.aggregate signatures (honest.filterMap p.participantPublicKeys.lookup) with e | ⟨sig, pub⟩
  · simp
  dsimp only [getD_none]
  rcases hv : S.verifyAggregate message sig pub with e | _ | _
  all_goals simp [hs, hv, eq_comm]

lemma built_iff_gives : p.built env message = some result ↔ p.Gives env message result := by
  rw [built_eq_some, Gives, honestWeight_eq]
  constructor
  · intro h
    obtain ⟨hw, ha⟩ := buildResult_eq_some h
    exact ⟨hw, aggregateAndVerify_iff.mp ha⟩
  · rintro ⟨hw, ha⟩
    rw [buildResult, checkThreshold]
    rcases hl : p.state.signaturesByMessage.lookup message with _ | signers
    · -- nobody has signed, so there is nothing to aggregate
      obtain ⟨sig, pub, hne, -⟩ := ha
      have hn : env.order.toList (p.signersOf message) = [] := by
        rw [List.eq_nil_iff_forall_not_mem]
        intro q
        simp [env.order.mem, signersOf, hl]
      simp [hn] at hne
    · have hs : p.signersOf message = signers := by rw [signersOf, hl, getD_some]
      rw [hs] at hw
      have ha' := aggregateAndVerify_iff.mpr ha
      rw [hs] at ha'
      dsimp only
      rwa [if_neg (not_lt.mpr hw)]

omit [DecidableEq PeerId] in
/-- A message of the highest weight is one that leads. -/
lemma leads_iff {order : IterOrder Bytes} {weight : ℕ} :
    p.Leads order message weight ↔ p.getHighestWeightMessage order = (message, weight) := by
  rw [getHighestWeightMessage]
  constructor
  · rintro (⟨before, signers, after, hl, rfl, hpos, hbe, haf⟩ | ⟨rfl, rfl, hz⟩)
    · rw [hl, List.foldl_append, List.foldl_cons]
      have hlt : (before.foldl (fun best entry =>
          if best.2 < p.weightScheme.calculateWeight entry.2 then (entry.1, p.weightScheme.calculateWeight entry.2)
          else best) (([] : Bytes), 0)).2 < p.weightScheme.calculateWeight signers := by
        rcases foldl_best_cases p.weightScheme.calculateWeight before (([] : Bytes), 0) with
          ⟨b, e, a, rfl, -, -, -, hf⟩ | ⟨-, hf⟩
        · rw [hf]
          exact hbe e (by simp)
        · rw [hf]
          exact hpos
      rw [if_pos hlt]
      exact foldl_best_of_le _ haf
    · exact foldl_best_of_le _ fun entry he => (hz entry he).le
  · intro h
    rcases foldl_best_cases p.weightScheme.calculateWeight
        (order.entries p.state.signaturesByMessage) (([] : Bytes), 0) with ⟨b, e, a, hl, hp, hbe, haf, hf⟩ | ⟨hle, hf⟩
    · rw [hf] at h
      cases h
      exact .inl ⟨b, e.2, a, hl, rfl, hp, hbe, haf⟩
    · rw [hf] at h
      cases h
      exact .inr ⟨rfl, rfl, fun entry he => Nat.le_zero.mp (hle entry he)⟩

omit [DecidableEq PeerId] in
lemma timeout_of_completion (h : p.state.round = .completion) : p.timeout = p := by
  unfold timeout AggregationState.tryTransitionTo
  rw [if_pos h]

lemma completes_iff_built (h : p.state.round = .completion) :
    (∀ order env isAggregator t out, p.tick order env isAggregator t = some out → out = .ok result) ↔
    ∀ env, p.built env p.state.localMessage = some result ∧
      ∀ order, p.weightScheme.thresholdWeight ≤ (p.getHighestWeightMessage order).2 →
        ∀ other, p.built env (p.getHighestWeightMessage order).1 = some other → other = result := by
  constructor
  · intro ht env
    constructor
    · have hc := ht (.alone []) env false .check
      simp only [tick, h] at hc
      rcases hb : p.buildResult p.state.localMessage env with e | _ | r <;> simp only [hb] at hc
      · cases hc _ rfl
      · cases hc _ rfl
      · cases hc _ rfl
        exact built_eq_some.mpr hb
    · intro order hw other ho
      have := ht order env true .messages (.ok other) (by simp [tick, hw, ho])
      exact ok.inj this
  · intro hb order env isAggregator t out hout
    obtain ⟨hown, hhigh⟩ := hb env
    cases t with
    | messages =>
      simp only [tick] at hout
      split at hout
      · rename_i hw
        obtain ⟨other, ho, rfl⟩ := map_eq_some_iff.mp hout
        rw [hhigh order hw.2 other ho]
      · cases hout
    | check =>
      simp only [tick, h, built_eq_some.mp hown, some.injEq] at hout
      exact hout.symm
    | timeout =>
      simp only [tick, timeout_of_completion h, hown, some.injEq] at hout
      exact hout.symm

end

/-- The message that a tick tries. -/
def Tries (p : SignatureAggregationProtocol S PeerId) (order : IterOrder Bytes) : Tick → Bytes → Prop
  | .messages, message => ∃ weight, p.Leads order message weight
  | .check, message =>
    p.state.round = .signatureCollection ∧ (∃ weight, p.Leads order message weight) ∨
      p.state.round = .completion ∧ message = p.state.localMessage
  | .timeout, message => message = p.state.localMessage

omit [Hashing] in
/-- A tick returns what the message gives that it tries. -/
lemma tick_eq_ok {p : SignatureAggregationProtocol S PeerId} {order : IterOrder Bytes} {env : Env PeerId}
    {isAggregator : Bool} {t : Tick} {result : AggregationResult S PeerId}
    (h : p.tick order env isAggregator t = some (.ok result)) :
    ∃ tried, p.Tries order t tried ∧ p.Gives env tried result := by
  cases t with
  | messages =>
    simp only [tick] at h
    split_ifs at h
    obtain ⟨_, hb, hr⟩ := map_eq_some_iff.mp h
    cases hr
    exact ⟨_, ⟨_, leads_iff.mpr rfl⟩, built_iff_gives.mp hb⟩
  | check =>
    simp only [tick] at h
    split at h
    · cases h
    · rename_i hround
      split_ifs at h
      obtain ⟨_, hb, hr⟩ := map_eq_some_iff.mp h
      cases hr
      exact ⟨_, .inl ⟨hround, _, leads_iff.mpr rfl⟩, built_iff_gives.mp hb⟩
    · rename_i hround
      split at h
      · rename_i hb
        cases h
        exact ⟨_, .inr ⟨hround, rfl⟩, built_iff_gives.mp (built_eq_some.mpr hb)⟩
      · cases h
      · cases h
  | timeout =>
    simp only [tick] at h
    split at h
    · rename_i hb
      cases h
      have hg := built_iff_gives.mp hb
      obtain ⟨round, hround⟩ := p.state.tryTransitionTo_snd .completion
      rw [timeout, hround] at hg
      exact ⟨_, rfl, hg⟩
    · cases h

omit [Hashing] in
lemma progresses_iff_agrees (p : SignatureAggregationProtocol S PeerId) : p.Progresses ↔ p.Agrees := by
  constructor
  · intro h
    refine ⟨fun hr order env message hm => ?_, fun result ha env => ?_⟩
    · obtain ⟨result, ht, -⟩ := h.collects hr order env message hm
      simp only [tick, hr, if_true] at ht
      obtain ⟨other, hb, -⟩ := map_eq_some_iff.mp ht
      exact ⟨_, _, leads_iff.mpr rfl, hm.1, other, built_iff_gives.mp hb⟩
    · obtain ⟨hown, hhigh⟩ := (completes_iff_built ha.1).mp (h.completes result ha) env
      refine ⟨built_iff_gives.mp hown, fun order leading weight hl hw other ho => ?_⟩
      have hl := leads_iff.mp hl
      exact hhigh order (by rwa [hl]) other (by rw [hl]; exact built_iff_gives.mpr ho)
  · intro h
    refine ⟨fun hr order env message hm => ?_, fun result ha => (completes_iff_built ha.1).mpr fun env => ?_⟩
    · obtain ⟨leading, weight, hl, -, result, hg⟩ := h.collects hr order env message hm
      have hb := built_iff_gives.mpr hg
      refine ⟨result, by simp [tick, hr, leads_iff.mp hl, hb], ?_⟩
      obtain ⟨hw, sig, pub, -, -, -, rfl⟩ := hg
      exact hw
    · obtain ⟨hown, hlead⟩ := h.completes result ha env
      exact ⟨built_iff_gives.mpr hown, fun order hw other ho =>
        hlead order _ _ (leads_iff.mpr rfl) hw other (built_iff_gives.mp ho)⟩

variable (config : ProtocolConfig S PeerId) (weightScheme : SignatureWeight PeerId)
  (keys : HashMap PeerId S.Public) (es : List (Event S PeerId))

/-- **Progress.** A node makes progress in the states of a run in which a message that leads is ready where any is, and
the own message gives the completion that was accepted. -/
theorem always_progresses_iff :
    Always step Progresses (new config weightScheme keys) es ↔ Always step Agrees (new config weightScheme keys) es :=
  always_congr (J := fun _ => True) (fun _ _ _ => trivial) (fun p _ => progresses_iff_agrees p) trivial es

def heavyTwo : SignatureWeight ℕ where
  weight q := if q = 2 then 5 else 1
  totalWeight := 7
  thresholdWeight := 2

noncomputable abbrev said (q : ℕ) (message : AggSigMessage AggregatableSignature.transparent ℕ) :
    Event AggregatableSignature.transparent ℕ :=
  .message ⟨⟨0, 0, q, none⟩, .ok message⟩ { Env.quiet with order := threeOrder }

noncomputable abbrev outweighed : List (Event AggregatableSignature.transparent ℕ) :=
  [.start [7] Env.quiet, said 1 (.signatureShare 1 (1 : ℕ) [7]), said 2 (.signatureShare 2 (2 : ℕ) [8]),
    said 1 (.maliciousReport 2 (.invalidSignature (5 : ℕ) [9]))]

noncomputable abbrev overtaken : List (Event AggregatableSignature.transparent ℕ) :=
  [.start [7] Env.quiet, said 1 (.signatureShare 1 (1 : ℕ) [8]), said 2 (.signatureShare 2 (2 : ℕ) [8]),
    said 1 (.protocolComplete ⟨[8], ([1, 2] : List ℕ), {1, 2}, none, ∅⟩)]

omit [Hashing] in
lemma not_progresses_of_error {p : SignatureAggregationProtocol S PeerId} {result : AggregationResult S PeerId}
    (ha : p.Accepted result) {order : IterOrder Bytes} {env : Env PeerId}
    (ht : (p.tick order env true .check).any (·.toOption.isNone) = true) : ¬ p.Progresses := by
  intro h
  rcases ho : p.tick order env true .check with _ | out <;> rw [ho] at ht
  · cases ht
  · rw [h.completes result ha order env true .check out ho] at ht
    cases ht

omit [Hashing] in
/-- The check tries the message of the malicious peer only, and the accepted completion ends in an error. -/
theorem progress_lost :
    letI : Hashing := ⟨fun _ => Vector.replicate 32 0⟩
    ¬ Always step Progresses (new ProtocolConfig.threePeers heavyTwo threeKeys) outweighed ∧
    ¬ Always step Progresses (new ProtocolConfig.threePeers heavyTwo threeKeys) overtaken := by
  let _ : Hashing := ⟨fun _ => Vector.replicate 32 0⟩
  let env : Env ℕ := { Env.quiet with order := threeOrder }
  let order : IterOrder Bytes := .listed [[7], [8]] (by decide)
  constructor
  · intro h
    let p := outweighed.foldl step (new ProtocolConfig.threePeers heavyTwo threeKeys)
    have hb : (p.built env [7]).isSome = true := by decide +kernel
    obtain ⟨result, hb⟩ := isSome_iff_exists.mp hb
    obtain ⟨_, ht, -⟩ := h.last.collects rfl order env [7] ⟨by decide, result, built_iff_gives.mp hb⟩
    have hn : (p.tick order env true .check).isNone = true := by decide +kernel
    rw [ht] at hn
    cases hn
  · intro h
    let p := overtaken.foldl step (new ProtocolConfig.threePeers heavyTwo threeKeys)
    have hr : p.state.round = .completion := by decide +kernel
    have hv : p.state.verifiedCompletion.isSome = true := by decide +kernel
    obtain ⟨result, hv⟩ := isSome_iff_exists.mp hv
    have ht : (p.tick order env true .check).any (·.toOption.isNone) = true := by decide +kernel
    exact not_progresses_of_error ⟨hr, hv⟩ ht h.last

/-! ## Rounds -/

variable (p : SignatureAggregationProtocol S PeerId)

def outcome : Event S PeerId → Outcome AggregationError Unit
  | .start message env => (p.start message env).1
  | .message msg env => (p.handleMessage msg env).1
  | .timeout => (p.state.tryTransitionTo .completion).1.map fun _ => ()

def roundNumber : ProtocolRound → ℕ
  | .initialization => 0
  | .signatureCollection => 1
  | .completion => 2

omit [Hashing] in
lemma roundNumber_le_completion (round : ProtocolRound) : roundNumber round ≤ roundNumber .completion := by
  cases round <;> decide

/-- No panic, and no earlier round. -/
def MovesForward (e : Event S PeerId) : Prop :=
  (∀ text, p.outcome e ≠ .error (.panicked text)) ∧
    roundNumber p.state.round ≤ roundNumber (p.step e).state.round

/-- `run` is not started in the last round. -/
def StartsInTime : Event S PeerId → Prop
  | .start _ _ => p.state.round ≠ .completion
  | _ => True

section

variable {p : SignatureAggregationProtocol S PeerId}

omit [DecidableEq PeerId] [Hashing] in
lemma sendMessage_ne_panicked (msg : AggSigMessage S PeerId) (recipient : Option PeerId) (env : Env PeerId)
    (text : String) : (p.sendMessage msg recipient env).1 ≠ .error (.panicked text) := by
  unfold sendMessage
  split
  · simp
  · dsimp only
    split <;> simp

omit [Hashing] in
lemma start_eq (message : Bytes) (env : Env PeerId) (h : p.state.round ≠ .completion) :
    p.start message env = { p with state := { p.state with
      localMessage := message, round := .signatureCollection } }.signAndBroadcast message env := by
  obtain ⟨config, ⟨sigs, seen, own, malicious, round, done⟩, scheme, keys, cache⟩ := p
  cases round with
  | initialization | signatureCollection => rfl
  | completion => exact absurd rfl h

lemma start_movesForward_iff (message : Bytes) (env : Env PeerId) :
    p.MovesForward (.start message env) ↔ p.state.round ≠ .completion := by
  constructor
  · intro h hr
    obtain ⟨config, ⟨sigs, seen, own, malicious, round, done⟩, scheme, keys, cache⟩ := p
    cases hr
    exact h.1 _ rfl
  · intro hr
    let q := { p with state := { p.state with localMessage := message, round := .signatureCollection } }
    constructor
    · intro text
      rw [outcome, start_eq message env hr, signAndBroadcast]
      split
      split
      · simp
      · exact sendMessage_ne_panicked _ _ _ text
    · have hround : (p.step (.start message env)).state.round = .signatureCollection := by
        rw [step, start_eq message env hr]
        obtain ⟨config, -, ⟨-, hq⟩ | ⟨sig, -, hq⟩⟩ := q.signAndBroadcast_cases message env <;>
          exact congrArg (·.state.round) hq
      rw [hround]
      cases hp : p.state.round with
      | initialization | signatureCollection => decide
      | completion => exact absurd hp hr

lemma localMessage_start (message : Bytes) (env : Env PeerId) (h : p.state.round ≠ .completion) :
    (p.step (.start message env)).state.localMessage = message := by
  let q := { p with state := { p.state with localMessage := message, round := .signatureCollection } }
  rw [step, start_eq message env h]
  obtain ⟨config, -, ⟨-, hq⟩ | ⟨sig, -, hq⟩⟩ := q.signAndBroadcast_cases message env <;>
    exact congrArg (·.state.localMessage) hq

lemma localMessage_step {e : Event S PeerId} (he : ∀ message env, e ≠ .start message env) :
    (p.step e).state.localMessage = p.state.localMessage := by
  cases e with
  | start message env => exact absurd rfl (he message env)
  | message msg env =>
    simp only [step, handleMessage]
    rcases msg.payload with e | ⟨signer, sig, m⟩ | ⟨operator, evidence⟩ | result <;> dsimp only
    · rcases p.handleSignatureShare_cases msg.routing.sender signer sig m env with
        ⟨-, h⟩ | ⟨-, -, _, -, h⟩ | ⟨-, -, _, _, -, h⟩ <;> exact congrArg (·.state.localMessage) h
    · rcases p.handleMaliciousReport_cases operator evidence with h | ⟨-, h⟩ <;>
        exact congrArg (·.state.localMessage) h
    · rcases p.handleProtocolComplete_cases result env with ⟨-, h⟩ | ⟨-, -, h⟩ | ⟨-, -, h⟩ <;> rw [h]
  | timeout =>
    obtain ⟨round, hround⟩ := p.state.tryTransitionTo_snd .completion
    rw [step, timeout, hround]

lemma message_movesForward (msg : ProtocolMessage S PeerId) (env : Env PeerId) :
    p.MovesForward (.message msg env) := by
  simp only [MovesForward, outcome, step, handleMessage]
  rcases msg.payload with e | ⟨signer, sig, m⟩ | ⟨operator, evidence⟩ | result <;> dsimp only
  · exact ⟨by simp, le_rfl⟩
  · constructor
    · intro text
      unfold handleSignatureShare
      split
      · simp
      split
      · exact sendMessage_ne_panicked _ _ _ text
      dsimp only
      split
      · exact sendMessage_ne_panicked _ _ _ text
      · simp
    · rcases p.handleSignatureShare_cases msg.routing.sender signer sig m env with
        ⟨-, h⟩ | ⟨-, -, _, -, h⟩ | ⟨-, -, _, _, -, h⟩ <;> exact (congrArg (roundNumber ·.state.round) h).ge
  · constructor
    · intro text
      unfold handleMaliciousReport
      split <;> simp
    · rcases p.handleMaliciousReport_cases operator evidence with h | ⟨-, h⟩ <;>
        exact (congrArg (roundNumber ·.state.round) h).ge
  · constructor
    · intro text
      unfold handleProtocolComplete
      split
      · simp
      rename_i hc
      split
      · simp
      · rw [AggregationState.tryTransitionTo_completion _ (Bool.not_eq_true _ ▸ hc)]
        simp
    · rcases p.handleProtocolComplete_cases result env with ⟨-, h⟩ | ⟨-, -, h⟩ | ⟨-, -, h⟩ <;> rw [h]
      exact roundNumber_le_completion _

lemma timeout_movesForward : p.MovesForward .timeout := by
  simp only [MovesForward, outcome, step, timeout]
  cases hc : p.state.isCompleted with
  | true =>
    have hr : p.state.tryTransitionTo .completion = (.ok false, p.state) := if_pos (of_decide_eq_true hc)
    rw [hr]
    exact ⟨by simp [Except.map], le_rfl⟩
  | false =>
    rw [AggregationState.tryTransitionTo_completion _ hc]
    exact ⟨by simp [Except.map], roundNumber_le_completion _⟩

end

/-- **Rounds only move forward** exactly when `run` is not started again after a completion or a timeout. -/
theorem each_movesForward_iff :
    Each step MovesForward (new config weightScheme keys) es ↔
      Each step StartsInTime (new config weightScheme keys) es := by
  refine each_congr (fun p e => ?_) _ es
  cases e with
  | start message env => exact start_movesForward_iff message env
  | message msg env => exact iff_of_true (message_movesForward msg env) trivial
  | timeout => exact iff_of_true timeout_movesForward trivial

omit [Hashing] in
theorem second_run_panics :
    letI : Hashing := ⟨fun _ => Vector.replicate 32 0⟩
    ¬ Each step MovesForward (new ProtocolConfig.threePeers SignatureWeight.twoOfThree threeKeys)
      [.start [7] Env.quiet, .timeout, .start [7] Env.quiet] := by
  let _ : Hashing := ⟨fun _ => Vector.replicate 32 0⟩
  rintro ⟨-, -, h, -⟩
  exact h.1 _ rfl

end SignatureAggregationProtocol

end Gadget.AggSigGossip
