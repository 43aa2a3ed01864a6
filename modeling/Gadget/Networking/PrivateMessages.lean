import Gadget.Networking.Peers

/-!
# Messages to one party

The sink of the round-based adapter looks the peer of a party up and hands the message to
`NetworkServiceHandle::send`, which takes a message without a recipient for one to all.
-/

namespace Gadget.Networking.RoundBased

open Rust

variable {PeerId M : Type}

inductive MessageDestination
  | allParties
  | oneParty (p : UInt16)

structure Outgoing (M : Type) where
  recipient : MessageDestination
  msg : M

inductive NetworkCommandMessage (PeerId : Type)
  | instanceRequest (peer : PeerId) (protocol : String) (payload : Bytes)
  | gossipMessage (source : PeerId) (topic : String) (message : Bytes)

inductive NetworkError
  | serialization (e : String)
  | send (e : String)

structure NetworkServiceHandle (PeerId : Type) where
  localPeerId : PeerId
  blueprintProtocolName : String
  encodeProtocolMessage : ProtocolMessage PeerId → Except String Bytes
  sendNetworkMessage : NetworkCommandMessage PeerId → Except String Unit

def NetworkServiceHandle.send (handle : NetworkServiceHandle PeerId) (routing : MessageRouting PeerId)
    (message : Bytes) : Except String (NetworkCommandMessage PeerId) := do
  let rawPayload ← handle.encodeProtocolMessage ⟨handle.blueprintProtocolName, routing, message⟩
  let command := match routing.recipient with
    | some recipient => .instanceRequest recipient handle.blueprintProtocolName rawPayload
    | none => .gossipMessage handle.localPeerId handle.blueprintProtocolName rawPayload
  handle.sendNetworkMessage command
  pure command

structure RoundBasedSink (PeerId M : Type) where
  handle : NetworkServiceHandle PeerId
  parties : HashMap UInt16 PeerId
  nextMsgId : ℕ
  round : M → ℕ
  toVec : M → Except String Bytes

namespace RoundBasedSink

section

variable (sink : RoundBasedSink PeerId M) (outgoing : Outgoing M)

def peerOf : Option PeerId :=
  match outgoing.recipient with
  | .allParties => none
  | .oneParty p => sink.parties.lookup p

def startSend : Except NetworkError (NetworkCommandMessage PeerId) := do
  let payload ← (sink.toVec outgoing.msg).mapError .serialization
  let routing : MessageRouting PeerId :=
    ⟨sink.nextMsgId, sink.round outgoing.msg, sink.handle.localPeerId, sink.peerOf outgoing⟩
  (sink.handle.send routing payload).mapError .send

/-- A private message goes to its party only, a public one to all. -/
def Confidential : Prop :=
  ∀ command, sink.startSend outgoing = .ok command → match outgoing.recipient, command with
    | .oneParty p, .instanceRequest peer _ _ => sink.parties.lookup p = some peer
    | .oneParty _, .gossipMessage _ _ _ => False
    | .allParties, .instanceRequest _ _ _ => False
    | .allParties, .gossipMessage _ _ _ => True

def PartyKnown : Prop :=
  ∀ p command, outgoing.recipient = .oneParty p → sink.startSend outgoing = .ok command → p ∈ sink.parties

end

variable {sink : RoundBasedSink PeerId M} {outgoing : Outgoing M}

lemma command_of_startSend {command : NetworkCommandMessage PeerId} (h : sink.startSend outgoing = .ok command) :
    ∃ payload, command = match sink.peerOf outgoing with
      | some peer => .instanceRequest peer sink.handle.blueprintProtocolName payload
      | none => .gossipMessage sink.handle.localPeerId sink.handle.blueprintProtocolName payload := by
  obtain ⟨payload, -, h⟩ := bind_eq_ok.mp h
  dsimp only at h
  rcases hs : sink.handle.send ⟨sink.nextMsgId, sink.round outgoing.msg, sink.handle.localPeerId,
    sink.peerOf outgoing⟩ payload with e | sent <;> rw [hs] at h <;> cases h
  obtain ⟨raw, -, hs⟩ := bind_eq_ok.mp hs
  obtain ⟨-, hs⟩ := unit_bind_eq_ok.mp hs
  exact ⟨raw, (Except.ok.inj hs).symm⟩

/-- **Messages to one party stay private** exactly when the party of every message that can be sent is
in the mapping. -/
theorem confidential_iff (sink : RoundBasedSink PeerId M) (outgoing : Outgoing M) :
    sink.Confidential outgoing ↔ sink.PartyKnown outgoing := by
  constructor
  · intro h p command hp hs
    have hc := h command hs
    obtain ⟨payload, rfl⟩ := command_of_startSend hs
    rw [hp] at hc
    rcases hl : sink.parties.lookup p with _ | peer
    · simp only [peerOf, hp, hl] at hc
    · exact Finmap.mem_of_lookup_eq_some hl
  · intro h command hs
    obtain ⟨payload, hc⟩ := command_of_startSend hs
    cases hr : outgoing.recipient with
    | allParties =>
      simp only [peerOf, hr] at hc
      rw [hc]
      trivial
    | oneParty p =>
      obtain ⟨peer, hl⟩ := Finmap.mem_iff.mp (h p command hr hs)
      simp only [peerOf, hr, hl] at hc
      rw [hc]
      exact hl

abbrev openSink : RoundBasedSink ℕ Bytes :=
  ⟨⟨0, "/blueprint/1.0.0", fun msg => .ok msg.payload, fun _ => .ok ()⟩,
    (∅ : HashMap UInt16 ℕ).insert 1 5, 0, fun _ => 0, .ok⟩

theorem unknown_party_gossiped :
    openSink.startSend ⟨.oneParty 2, [7]⟩ = .ok (.gossipMessage 0 "/blueprint/1.0.0" [7]) ∧
    ¬ openSink.Confidential ⟨.oneParty 2, [7]⟩ := by
  have hs : openSink.startSend ⟨.oneParty 2, [7]⟩ = .ok (.gossipMessage 0 "/blueprint/1.0.0" [7]) := rfl
  exact ⟨hs, fun h => h _ hs⟩

end RoundBasedSink

end Gadget.Networking.RoundBased
