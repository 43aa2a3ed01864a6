import Gadget.GossipPrimitives.Dedup
import Gadget.Networking.Peers

/-!
# The gossip aggregation protocol

The trait `SignatureWeight` is a structure: a value of it is an implementation of the trait together
with the value it is called on. The signature scheme is a parameter, nothing is assumed about it here.

`SignatureAggregationProtocol` is state passing: a method that takes `&mut self` returns its outcome
together with the object it leaves, so that what a failing call has already changed stays visible. What
the surroundings decide during a call (the clock, whether a message can be encoded and sent, the order
in which a hash set is met) is the `Env` of that call.
-/

namespace Gadget.AggSigGossip

open Rust GossipPrimitives
open Networking (MessageRouting)

variable {PeerId : Type}

structure SignatureWeight (PeerId : Type) where
  weight : PeerId → ℕ
  totalWeight : ℕ
  thresholdWeight : ℕ

namespace SignatureWeight

variable (w : SignatureWeight PeerId)

variable (participants : Finset PeerId)

def calculateWeight : ℕ :=
  participants.fold saturatingAdd 0 w.weight

lemma calculateWeight_eq :
    w.calculateWeight participants = min (∑ i ∈ participants, w.weight i) u64Max :=
  fold_saturatingAdd participants w.weight

def meetsThreshold : Bool :=
  w.thresholdWeight ≤ w.calculateWeight participants

end SignatureWeight

def EqualWeight.new (totalParticipants thresholdPercentage : ℕ) :
    Except String (SignatureWeight PeerId) :=
  if thresholdPercentage ≤ 100 then
    .ok {
      weight := fun _ => 1
      totalWeight := totalParticipants
      thresholdWeight := min (totalParticipants * thresholdPercentage) u64Max / 100 }
  else .error "Threshold percentage must be <= 100"

def CustomWeight.new [DecidableEq PeerId] (weights : HashMap PeerId ℕ) (thresholdWeight : ℕ) :
    SignatureWeight PeerId where
  weight participantId := (weights.lookup participantId).getD 0
  totalWeight := weights.keys.fold saturatingAdd 0 fun id => (weights.lookup id).getD 0
  thresholdWeight := thresholdWeight

/-- The trait `AggregatableSignature` with what it takes from `KeyType`. -/
structure AggregatableSignature where
  Secret : Type
  Public : Type
  Signature : Type
  AggregatedSignature : Type
  AggregatedPublic : Type
  signWithSecret : Secret → Bytes → Except String Signature × Secret
  verify : Public → Bytes → Signature → Bool
  aggregate : List Signature → List Public → Except String (AggregatedSignature × AggregatedPublic)
  verifyAggregate : Bytes → AggregatedSignature → AggregatedPublic → Except String Bool

def AggregatableSignature.transparent : AggregatableSignature where
  Secret := ℕ
  Public := ℕ
  Signature := ℕ
  AggregatedSignature := List ℕ
  AggregatedPublic := List ℕ
  signWithSecret secret _ := (.ok secret, secret)
  verify pk _ sig := pk == sig
  aggregate signatures publicKeys := .ok (signatures, publicKeys)
  verifyAggregate _ sig pk := .ok (sig == pk)

inductive AggregationError where
  | thresholdNotMet (got need : ℕ)
  | serializationError (e : String)
  | keyNotFound
  | networkError (e : String)
  | protocol (e : String)
  | timeout
  | signingError (e : String)
  | missingData

inductive MaliciousEvidence (S : AggregatableSignature) where
  | invalidSignature (signature : S.Signature) (message : Bytes)
  | equivocation (signature1 signature2 : S.Signature) (message1 message2 : Bytes)

structure AggregationResult (S : AggregatableSignature) (PeerId : Type) where
  message : Bytes
  signature : S.AggregatedSignature
  contributors : Finset PeerId
  totalWeight : Option ℕ
  maliciousParticipants : Finset PeerId

inductive AggSigMessage (S : AggregatableSignature) (PeerId : Type) where
  | signatureShare (signerId : PeerId) (signature : S.Signature) (message : Bytes)
  | maliciousReport (operator : PeerId) (evidence : MaliciousEvidence S)
  | protocolComplete (result : AggregationResult S PeerId)

structure ProtocolMessage (S : AggregatableSignature) (PeerId : Type) where
  routing : MessageRouting PeerId
  payload : Except String (AggSigMessage S PeerId)

inductive ProtocolRound where
  | initialization
  | signatureCollection
  | completion
  deriving DecidableEq

def ProtocolRound.debug : ProtocolRound → String
  | .initialization => "Initialization"
  | .signatureCollection => "SignatureCollection"
  | .completion => "Completion"

structure AggregationState (S : AggregatableSignature) (PeerId : Type) where
  signaturesByMessage : HashMap Bytes (Finset PeerId)
  seenSignatures : HashMap PeerId (S.Signature × Bytes)
  localMessage : Bytes
  malicious : Finset PeerId
  round : ProtocolRound
  verifiedCompletion : Option (AggregationResult S PeerId)

namespace AggregationState

variable {S : AggregatableSignature} {PeerId : Type}

def new : AggregationState S PeerId where
  signaturesByMessage := ∅
  seenSignatures := ∅
  localMessage := []
  malicious := ∅
  round := .initialization
  verifiedCompletion := none

def isValidTransition : ProtocolRound → ProtocolRound → Bool
  | .initialization, .signatureCollection => true
  | .initialization, .completion => true
  | .signatureCollection, .completion => true
  | _, _ => false

variable (s : AggregationState S PeerId)

def tryTransitionTo (newRound : ProtocolRound) :
    Outcome AggregationError Bool × AggregationState S PeerId :=
  if s.round = newRound then (.ok false, s)
  else if isValidTransition s.round newRound then (.ok true, { s with round := newRound })
  else (.error (.panicked ("Invalid state transition from " ++ s.round.debug ++ " to "
    ++ newRound.debug)), s)

def isCompleted : Bool := s.round = .completion

lemma tryTransitionTo_completion (h : s.isCompleted = false) :
    s.tryTransitionTo .completion = (.ok true, { s with round := .completion }) := by
  rw [isCompleted, decide_eq_false_iff_not] at h
  rw [tryTransitionTo, if_neg h, if_pos]
  cases hr : s.round with
  | initialization | signatureCollection => rfl
  | completion => exact absurd hr h

end AggregationState

variable {S : AggregatableSignature} {PeerId : Type} [DecidableEq PeerId]

structure NetworkServiceHandle (S : AggregatableSignature) (PeerId : Type) where
  localPeerId : PeerId
  localSigningKey : S.Secret
  sent : List (ProtocolMessage S PeerId)

structure ProtocolConfig (S : AggregatableSignature) (PeerId : Type) where
  networkHandle : NetworkServiceHandle S PeerId

structure SignatureAggregationProtocol (S : AggregatableSignature) (PeerId : Type) where
  config : ProtocolConfig S PeerId
  state : AggregationState S PeerId
  weightScheme : SignatureWeight PeerId
  participantPublicKeys : HashMap PeerId S.Public
  dedupCache : DeduplicationCache

structure Env (PeerId : Type) where
  now : ℕ
  serialize : Except String Unit
  send : Except String Unit
  order : IterOrder PeerId

namespace SignatureAggregationProtocol

def new (config : ProtocolConfig S PeerId) (weightScheme : SignatureWeight PeerId)
    (participantPublicKeys : HashMap PeerId S.Public) :
    SignatureAggregationProtocol S PeerId where
  config := config
  state := AggregationState.new
  weightScheme := weightScheme
  participantPublicKeys := participantPublicKeys
  dedupCache :=
    DeduplicationCache.new (max participantPublicKeys.keys.card 100 * 10) (300 * 10 ^ 9)

variable (p : SignatureAggregationProtocol S PeerId)

def localPeerId : PeerId := p.config.networkHandle.localPeerId

variable (peerId : PeerId)

def hasSeenSignatureForMessage (message : Bytes) : Bool :=
  match p.state.signaturesByMessage.lookup message with
  | some sigMap => peerId ∈ sigMap
  | none => false

variable (message : Bytes)

def signersOf : Finset PeerId :=
  (p.state.signaturesByMessage.lookup message).getD ∅

lemma hasSeenSignatureForMessage_iff (message : Bytes) :
    p.hasSeenSignatureForMessage peerId message = true ↔ peerId ∈ p.signersOf message := by
  unfold hasSeenSignatureForMessage signersOf
  rcases p.state.signaturesByMessage.lookup message with _ | sigMap <;> simp

def addSignature (signature : S.Signature) (message : Bytes) :
    SignatureAggregationProtocol S PeerId :=
  let sigMap := (p.state.signaturesByMessage.lookup message).getD ∅
  let state := { p.state with
    signaturesByMessage := p.state.signaturesByMessage.insert message (insert peerId sigMap)
    seenSignatures := p.state.seenSignatures.insert peerId (signature, message) }
  { p with state := state }

lemma mem_signersOf_addSignature (peerId q : PeerId) (sig : S.Signature) (msg m : Bytes) :
    q ∈ (p.addSignature peerId sig msg).signersOf m
      ↔ q ∈ p.signersOf m ∨ (q = peerId ∧ m = msg) := by
  unfold signersOf addSignature
  by_cases hm : m = msg
  · subst hm
    simp [Finmap.lookup_insert, or_comm]
  · simp [Finmap.lookup_insert_of_ne _ hm, hm]

def sendMessage (message : AggSigMessage S PeerId) (recipient : Option PeerId)
    (env : Env PeerId) : Outcome AggregationError Unit × SignatureAggregationProtocol S PeerId :=
  match env.serialize with
  | .error e => (.error (.err (.serializationError e)), p)
  | .ok () =>
    let routing : MessageRouting PeerId :=
      { messageId := 0, roundId := 0, sender := p.localPeerId, recipient := recipient }
    match env.send with
    | .error e => (.error (.err (.networkError ("Failed to send message: " ++ e))), p)
    | .ok () =>
      let handle := p.config.networkHandle
      let handle := { handle with sent := handle.sent ++ [⟨routing, .ok message⟩] }
      (.ok (), { p with config := { p.config with networkHandle := handle } })

omit [DecidableEq PeerId] in
lemma sendMessage_snd (msg : AggSigMessage S PeerId) (recipient : Option PeerId)
    (env : Env PeerId) :
    ∃ config, (p.sendMessage msg recipient env).2 = { p with config := config }
      ∧ config.networkHandle.localPeerId = p.localPeerId := by
  unfold sendMessage
  rcases env.serialize with e | u
  · exact ⟨p.config, rfl, rfl⟩
  rcases env.send with e | u
  · exact ⟨p.config, rfl, rfl⟩
  exact ⟨_, rfl, rfl⟩

def markParticipantMalicious (evidence : MaliciousEvidence S)
    (env : Env PeerId) : Outcome AggregationError Unit × SignatureAggregationProtocol S PeerId :=
  let p := { p with state := { p.state with malicious := insert peerId p.state.malicious } }
  p.sendMessage (.maliciousReport peerId evidence) none env

def verifySignature (senderId : PeerId) (signature : S.Signature) (message : Bytes)
    (publicKeys : HashMap PeerId S.Public) : Bool :=
  match publicKeys.lookup senderId with
  | some publicKey => S.verify publicKey message signature
  | none => false

lemma verifySignature_iff (senderId : PeerId) (sig : S.Signature) (msg : Bytes)
    (publicKeys : HashMap PeerId S.Public) :
    verifySignature senderId sig msg publicKeys = true
      ↔ ∃ pk, publicKeys.lookup senderId = some pk ∧ S.verify pk msg sig = true := by
  unfold verifySignature
  rcases publicKeys.lookup senderId with _ | pk <;> simp

variable (contributors : Finset PeerId) (env : Env PeerId)

def signAndBroadcast : Outcome AggregationError Unit × SignatureAggregationProtocol S PeerId :=
  let handle := p.config.networkHandle
  let (signed, key) := S.signWithSecret handle.localSigningKey message
  let p := { p with
    config := { p.config with networkHandle := { handle with localSigningKey := key } } }
  match signed with
  | .error e => (.error (.err (.signingError ("Failed to sign message: " ++ e))), p)
  | .ok signature =>
    let p := p.addSignature p.localPeerId signature message
    p.sendMessage (.signatureShare p.localPeerId signature message) none env

lemma signAndBroadcast_cases :
    ∃ config, config.networkHandle.localPeerId = p.localPeerId ∧
      (((∃ e, (S.signWithSecret p.config.networkHandle.localSigningKey message).1 = .error e) ∧
        (p.signAndBroadcast message env).2 = { p with config := config }) ∨
      (∃ sig, (S.signWithSecret p.config.networkHandle.localSigningKey message).1 = .ok sig ∧
        (p.signAndBroadcast message env).2
          = { p.addSignature p.localPeerId sig message with config := config })) := by
  rcases hsw : S.signWithSecret p.config.networkHandle.localSigningKey message with ⟨signed, key⟩
  -- the object once the secret has been used
  let handle := { p.config.networkHandle with localSigningKey := key }
  let q := { p with config := { p.config with networkHandle := handle } }
  cases signed with
  | error e =>
    have hsnd : (p.signAndBroadcast message env).2 = q := by
      simp only [signAndBroadcast, hsw]
      rfl
    exact ⟨q.config, rfl, .inl ⟨⟨e, rfl⟩, hsnd⟩⟩
  | ok sig =>
    have hs : p.signAndBroadcast message env
        = (q.addSignature p.localPeerId sig message).sendMessage
            (.signatureShare p.localPeerId sig message) none env := by
      simp only [signAndBroadcast, hsw]
      rfl
    obtain ⟨config, hsnd, hl⟩ := sendMessage_snd (q.addSignature p.localPeerId sig message)
      (.signatureShare p.localPeerId sig message) none env
    rw [← hs] at hsnd
    exact ⟨config, hl, .inr ⟨sig, rfl, hsnd⟩⟩

def verifyMaliciousEvidence (operator : PeerId) (evidence : MaliciousEvidence S)
    (publicKeys : HashMap PeerId S.Public) : Except AggregationError Bool :=
  match publicKeys.lookup operator with
  | none => .error .keyNotFound
  | some operatorKey =>
    match evidence with
    | .invalidSignature signature message => .ok (!S.verify operatorKey message signature)
    | .equivocation signature1 signature2 message1 message2 =>
      if message1 = message2 then .ok false
      else .ok (S.verify operatorKey message1 signature1
        && S.verify operatorKey message2 signature2)

def handleMaliciousReport (operator : PeerId) (evidence : MaliciousEvidence S) :
    Outcome AggregationError Unit × SignatureAggregationProtocol S PeerId :=
  match verifyMaliciousEvidence operator evidence p.participantPublicKeys with
  | .error e => (.error (.err e), p)
  | .ok false => (.ok (), p)
  | .ok true =>
    (.ok (), { p with state := { p.state with malicious := insert operator p.state.malicious } })

lemma handleMaliciousReport_cases (op : PeerId) (evd : MaliciousEvidence S) :
    (p.handleMaliciousReport op evd).2 = p ∨
    (verifyMaliciousEvidence op evd p.participantPublicKeys = .ok true ∧
      (p.handleMaliciousReport op evd).2 = { p with
            state := { p.state with malicious := insert op p.state.malicious } }) := by
  unfold handleMaliciousReport
  rcases hv : verifyMaliciousEvidence op evd p.participantPublicKeys with e | isMalicious
  · exact .inl rfl
  rcases isMalicious with _ | _
  · exact .inl rfl
  exact .inr ⟨rfl, rfl⟩

def checkForEquivocation (newMessage : Bytes) (newSignature : S.Signature) :
    Option (MaliciousEvidence S) :=
  match p.state.seenSignatures.lookup peerId with
  | some (oldSignature, oldMessage) =>
    if oldMessage ≠ newMessage then
      some (.equivocation oldSignature newSignature oldMessage newMessage)
    else none
  | none => none

def checkThreshold : Except AggregationError (Option (Finset PeerId)) :=
  match p.state.signaturesByMessage.lookup message with
  | some contributors =>
    let honestContributors := contributors.filter fun id => id ∉ p.state.malicious
    let totalWeight := p.weightScheme.calculateWeight honestContributors
    let thresholdWeight := p.weightScheme.thresholdWeight
    if totalWeight < thresholdWeight then
      if p.state.round = .completion then .error (.thresholdNotMet totalWeight thresholdWeight)
      else .ok none
    else .ok (some contributors)
  | none => .ok none

def collectSignaturesAndPublicKeys : Except AggregationError (List S.Signature × List S.Public) :=
  let ids := (env.order.toList contributors).filter fun id => id ∉ p.state.malicious
  let signatures := ids.filterMap fun id => (p.state.seenSignatures.lookup id).map Prod.fst
  let publicKeys := ids.filterMap fun id => p.participantPublicKeys.lookup id
  if signatures.isEmpty then .error .missingData else .ok (signatures, publicKeys)

def aggregateAndVerify (maybeAggregatedSignature : Option S.AggregatedSignature) (env : Env PeerId) :
    Except AggregationError (Option (AggregationResult S PeerId)) :=
  match p.collectSignaturesAndPublicKeys contributors env with
  | .error e => .error e
  | .ok (signatures, publicKeys) =>
    match S.aggregate signatures publicKeys with
    | .error e => .error (.protocol ("Failed to aggregate: " ++ e))
    | .ok (aggregatedSig, aggregatedPub) =>
      let sigToVerify := maybeAggregatedSignature.getD aggregatedSig
      -- `unwrap_or(false)`: an error of the verification counts as a refusal
      match S.verifyAggregate message sigToVerify aggregatedPub with
      | .ok true =>
        .ok (some {
          message := message
          signature := sigToVerify
          contributors := contributors
          totalWeight := some (p.weightScheme.calculateWeight contributors)
          maliciousParticipants := p.state.malicious })
      | _ => .ok none

variable (result : AggregationResult S PeerId)

def verifyResult (env : Env PeerId) : Except AggregationError Unit :=
  match p.aggregateAndVerify result.message result.contributors (some result.signature) env with
  | .error e => .error e
  | .ok none => .error .missingData
  | .ok (some _) =>
    -- only an error counts: the answer that the weight is too small passes
    match p.checkThreshold result.message with
    | .error e => .error e
    | .ok _ => .ok ()

def handleProtocolComplete (env : Env PeerId) :
    Outcome AggregationError Unit × SignatureAggregationProtocol S PeerId :=
  if p.state.isCompleted then (.ok (), p)
  else
    match p.verifyResult result env with
    | .error e => (.error (.err e), p)
    | .ok () =>
      match p.state.tryTransitionTo .completion with
      | (.error fault, state) => (.error fault, { p with state := state })
      | (.ok _, state) =>
        (.ok (), { p with state := { state with verifiedCompletion := some result } })

lemma handleProtocolComplete_cases (env : Env PeerId) :
    (p.state.isCompleted = true ∧ (p.handleProtocolComplete result env).2 = p) ∨
    (p.state.isCompleted = false ∧ (∃ e, p.verifyResult result env = .error e) ∧
      (p.handleProtocolComplete result env).2 = p) ∨
    (p.state.isCompleted = false ∧ p.verifyResult result env = .ok () ∧
      (p.handleProtocolComplete result env).2 = { p with state :=
        { p.state with round := .completion, verifiedCompletion := some result } }) := by
  unfold handleProtocolComplete
  cases hc : p.state.isCompleted with
  | true => exact .inl ⟨rfl, rfl⟩
  | false =>
    rcases hv : p.verifyResult result env with e | u
    · exact .inr (.inl ⟨rfl, ⟨e, rfl⟩, rfl⟩)
    rw [AggregationState.tryTransitionTo_completion _ hc]
    exact .inr (.inr ⟨rfl, rfl, rfl⟩)

section Hashing

variable [Hashing]

def handleSignatureShare (senderId signerId : PeerId) (signature : S.Signature)
    (message : Bytes) (env : Env PeerId) :
    Outcome AggregationError Unit × SignatureAggregationProtocol S PeerId :=
  if p.hasSeenSignatureForMessage signerId message then (.ok (), p)
  else if !verifySignature signerId signature message p.participantPublicKeys then
    p.markParticipantMalicious senderId (.invalidSignature signature message) env
  else
    -- the evidence is dropped
    let _ := p.checkForEquivocation signerId message signature
    -- verified for the signer, recorded for the sender
    let p := p.addSignature senderId signature message
    let (isNew, cache) := p.dedupCache.checkAndMark (Hashing.blake3_256 message) env.now
    let p := { p with dedupCache := cache }
    if isNew then p.sendMessage (.signatureShare signerId signature message) none env
    else (.ok (), p)

lemma handleSignatureShare_cases (senderId signerId : PeerId) (signature : S.Signature)
    (message : Bytes) (env : Env PeerId) :
    (signerId ∈ p.signersOf message ∧
      (p.handleSignatureShare senderId signerId signature message env).2 = p) ∨
    (signerId ∉ p.signersOf message ∧
      verifySignature signerId signature message p.participantPublicKeys = false ∧
      ∃ config, config.networkHandle.localPeerId = p.localPeerId ∧
        (p.handleSignatureShare senderId signerId signature message env).2 = { p with
          config := config
          state := { p.state with malicious := insert senderId p.state.malicious } }) ∨
    (signerId ∉ p.signersOf message ∧
      verifySignature signerId signature message p.participantPublicKeys = true ∧
      ∃ config cache, config.networkHandle.localPeerId = p.localPeerId ∧
        (p.handleSignatureShare senderId signerId signature message env).2 =
          { p.addSignature senderId signature message with
            config := config
            dedupCache := cache }) := by
  unfold handleSignatureShare
  by_cases hs : p.hasSeenSignatureForMessage signerId message = true
  · rw [if_pos hs]
    exact .inl ⟨(p.hasSeenSignatureForMessage_iff _ _).mp hs, rfl⟩
  have hnew : signerId ∉ p.signersOf message :=
    fun h => hs ((p.hasSeenSignatureForMessage_iff _ _).mpr h)
  rw [if_neg hs]
  cases hv : verifySignature signerId signature message p.participantPublicKeys with
  | false =>
    obtain ⟨config, hsnd, hl⟩ := sendMessage_snd
      { p with state := { p.state with malicious := insert senderId p.state.malicious } }
      (.maliciousReport senderId (.invalidSignature signature message)) none env
    exact .inr (.inl ⟨hnew, rfl, config, hl, hsnd⟩)
  | true =>
    refine .inr (.inr ⟨hnew, rfl, ?_⟩)
    dsimp only
    -- whether the share is sent on depends on the cache, what is recorded does not
    rcases (p.addSignature senderId signature message).dedupCache.checkAndMark
      (Hashing.blake3_256 message) env.now with ⟨isNew, cache⟩
    rcases isNew with _ | _
    · exact ⟨p.config, cache, rfl, rfl⟩
    obtain ⟨config, hsnd, hl⟩ := sendMessage_snd
      { p.addSignature senderId signature message with dedupCache := cache }
      (.signatureShare signerId signature message) none env
    exact ⟨config, cache, hl, hsnd⟩

def handleMessage (protocolMsg : ProtocolMessage S PeerId) (env : Env PeerId) :
    Outcome AggregationError Unit × SignatureAggregationProtocol S PeerId :=
  let senderId := protocolMsg.routing.sender
  match protocolMsg.payload with
  | .error e => (.error (.err (.serializationError e)), p)
  | .ok (.signatureShare signerId signature message) =>
    p.handleSignatureShare senderId signerId signature message env
  | .ok (.maliciousReport operator evidence) => p.handleMaliciousReport operator evidence
  | .ok (.protocolComplete result) => p.handleProtocolComplete result env

end Hashing

def start (env : Env PeerId) :
    Outcome AggregationError Unit × SignatureAggregationProtocol S PeerId :=
  let p := { p with state := { p.state with localMessage := message } }
  match p.state.tryTransitionTo .signatureCollection with
  | (.error fault, state) => (.error fault, { p with state := state })
  | (.ok _, state) => { p with state := state }.signAndBroadcast message env

def timeout : SignatureAggregationProtocol S PeerId :=
  { p with state := (p.state.tryTransitionTo .completion).2 }

end SignatureAggregationProtocol

def Env.quiet : Env ℕ where
  now := 0
  serialize := .ok ()
  send := .ok ()
  order := IterOrder.sorted ℕ

def ProtocolConfig.threePeers : ProtocolConfig AggregatableSignature.transparent ℕ where
  networkHandle := ⟨0, (0 : ℕ), []⟩

def threeKeys : HashMap ℕ AggregatableSignature.transparent.Public :=
  (HashMap.collect [(0, 0), (1, 1), (2, 2)] : HashMap ℕ ℕ)

def SignatureWeight.twoOfThree : SignatureWeight ℕ where
  weight _ := 1
  totalWeight := 3
  thresholdWeight := 2

end Gadget.AggSigGossip
