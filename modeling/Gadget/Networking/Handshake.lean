import Gadget.Lib.Run
import Gadget.Networking.BlueprintProtocol

/-!
# Who a completed handshake verifies

A handshake completes for the peer of the connection it came over, while the signature is
about the sender that the message names. The two are never compared: a run verifies only
peers that are named by their own handshakes exactly when every handshake that completes
names the peer of its connection.
-/

namespace Gadget.Networking

open Rust PeerAction PeerManager Option
open Lib.Run (Each each_congr)

variable {N : Network}

def Event.handshake : Event N → Option (N.PeerId × Handshake N)
  | .request peer (.handshake h) _ => some (peer, h)
  | .response peer (.handshake h) _ => some (peer, h)
  | _ => none

def Node.Completes (cfg : Config N) (s : Node N) : Event N → Prop
  | .request peer (.handshake h) env => s.Accepted cfg h env ∧ Node.Answers cfg peer env
  | .response peer (.handshake h) env =>
    peer ∉ s.peerManager.verifiedPeers ∧ s.Accepted cfg h env
  | _ => False

lemma PeerAction.mem_verifiedPeers_apply (now : ℤ) (m : PeerManager N)
    (a : PeerAction N) (p : N.PeerId) :
    p ∈ (a.apply now m).verifiedPeers ↔ p ∈ m.verifiedPeers ∨ ∃ key, a = .complete p key := by
  cases a with
  | complete peer key =>
    show p ∈ insert peer m.verifiedPeers ↔ _
    simp [complete.injEq, or_comm, eq_comm]
  | disconnect peer =>
    simp only [apply, removePeerIdFromVerificationIdKey, reduceCtorEq, exists_false, or_false]
    split_ifs <;> rfl
  | refuse peer =>
    simp only [apply, handleNonwhitelistedPeer,
      verifiedPeers_banPeer, reduceCtorEq, exists_false, or_false]
    rfl
  | fail peer =>
    simp only [apply, handleHandshakeFailure, reduceCtorEq, exists_false, or_false]
    split
    · rfl
    split_ifs
    · rw [verifiedPeers_banPeer]
      rfl
    · rfl
  | ban peer d =>
    simp [apply, verifiedPeers_banPeer]
  | checkBan peer =>
    simp only [apply, isBanned, reduceCtorEq, exists_false, or_false]
    split
    · rfl
    · rfl
    · split_ifs <;> rfl
  | _ =>
    simp only [reduceCtorEq, exists_false, or_false]
    rfl

namespace Node

variable (cfg : Config N) (s : Node N)

section

variable (peer p : N.PeerId) (h : Handshake N) (env : MessageEnv)
  (key : VerificationIdentifierKey N)

lemma requestAction_eq_complete :
    s.requestAction cfg peer h env = .complete p key ↔
      (peer = p ∧ h.verificationIdKey = key) ∧ s.Accepted cfg h env ∧ Answers cfg peer env := by
  unfold requestAction Accepted Answers
  rw [← isKeyWhitelisted_iff]
  by_cases hw : s.peerManager.isKeyWhitelisted h.verificationIdKey
  · rcases hv : cfg.verifyHandshake env.checkedAtMs h with e | u
    · simp [hw]
    by_cases ha : (cfg.signHandshake peer ⟨cfg.localPeerId, env.answeredAtMs⟩).isSome
        && env.channelOpen
    · simp only [hw, ha, if_true, complete.injEq, true_and]
      exact (and_iff_left (Bool.and_eq_true_iff.mp ha)).symm
    simp only [hw, ha, if_true, Bool.false_eq_true, if_false, reduceCtorEq, true_and, false_iff,
      not_and]
    intro _ hs hc
    exact ha (by rw [hs, hc]; rfl)
  · simp [hw]

lemma responseAction_eq_complete :
    s.responseAction cfg peer h env = .complete p key ↔ (peer = p ∧ h.verificationIdKey = key) ∧
        peer ∉ s.peerManager.verifiedPeers ∧ s.Accepted cfg h env := by
  unfold responseAction Accepted
  rw [← isKeyWhitelisted_iff, ← isPeerVerified_iff]
  by_cases hp : s.peerManager.isPeerVerified peer
  · simp [hp]
  by_cases hw : s.peerManager.isKeyWhitelisted h.verificationIdKey
  · rcases hv : cfg.verifyHandshake env.checkedAtMs h with e | u
    · cases e <;> simp [hp, hw]
    simp [hp, hw]
  · simp [hp, hw]

end

lemma action_eq_complete (e : Event N) (p : N.PeerId) (key : VerificationIdentifierKey N) :
    s.action cfg e = .complete p key ↔
      ∃ h, e.handshake = some (p, h) ∧ h.verificationIdKey = key ∧ s.Completes cfg e := by
  have hs : ∀ (peer : N.PeerId) (h : Handshake N) (P : Prop),
      ((peer = p ∧ h.verificationIdKey = key) ∧ P) ↔
        ∃ h', some (peer, h) = some (p, h') ∧ h'.verificationIdKey = key ∧ P := by
    intro peer h P
    constructor
    · rintro ⟨⟨rfl, hk⟩, hP⟩
      exact ⟨h, rfl, hk, hP⟩
    · rintro ⟨h', heq, hk, hP⟩
      obtain ⟨rfl, rfl⟩ := Prod.mk.injEq .. ▸ some.inj heq
      exact ⟨⟨rfl, hk⟩, hP⟩
  cases e with
  | request peer request env =>
    rcases request with h | ⟨_, _, _⟩
    · exact (requestAction_eq_complete cfg s peer p h env key).trans (hs ..)
    simp [action, Event.handshake]
  | response peer response env =>
    cases response with
    | handshake h => exact (responseAction_eq_complete cfg s peer p h env key).trans (hs ..)
    | success | error => simp [action, Event.handshake]
  | connectionClosed | identify =>
    simp only [action, Event.handshake, reduceCtorEq, false_and, exists_false, iff_false]
    split_ifs <;> simp
  | _ => simp [action, Event.handshake]

lemma completes_elapse (d : ℕ) (e : Event N) :
    (s.elapse d).Completes cfg e ↔ s.Completes cfg e := by
  cases e with
  | request peer request env => cases request <;> exact Iff.rfl
  | response peer response env => cases response <;> exact Iff.rfl
  | _ => exact Iff.rfl

lemma mem_verifiedPeers_step (e : ℕ × Event N) (p : N.PeerId) :
    p ∈ (s.step cfg e).peerManager.verifiedPeers ↔ p ∈ s.peerManager.verifiedPeers ∨
        ∃ h, e.2.handshake = some (p, h) ∧ s.Completes cfg e.2 := by
  rw [step, handle_peerManager, mem_verifiedPeers_apply]
  apply or_congr Iff.rfl
  simp only [action_eq_complete, completes_elapse]
  constructor
  · rintro ⟨_, h, he, _, hc⟩
    exact ⟨h, he, hc⟩
  · rintro ⟨h, he, hc⟩
    exact ⟨h.verificationIdKey, h, he, rfl, hc⟩

lemma Completes.verified {cfg : Config N} {s : Node N} {e : Event N} {p : N.PeerId}
    {h : Handshake N} (hc : s.Completes cfg e) (he : e.handshake = some (p, h)) :
    h.verificationIdKey ∈ s.peerManager.whitelistedKeys ∧
    h.verificationIdKey.verify (h.msg.toBytes cfg.localPeerId)
      (N.keys.signatureToBytes h.signature) = .ok true := by
  have hacc : ∃ env, s.Accepted cfg h env := by
    cases e with
    | request peer request env =>
      rcases request with h' | ⟨_, _, _⟩
      · obtain ⟨rfl, rfl⟩ := Prod.mk.injEq .. ▸ some.inj he
        exact ⟨env, hc.1⟩
      exact hc.elim
    | response peer response env =>
      cases response with
      | handshake h' =>
        obtain ⟨rfl, rfl⟩ := Prod.mk.injEq .. ▸ some.inj he
        exact ⟨env, hc.2⟩
      | success | error => exact hc.elim
    | _ => exact hc.elim
  -- the handshake was accepted, so its signature was checked
  obtain ⟨env, hkey, hver⟩ := hacc
  refine ⟨hkey, ?_⟩
  unfold Config.verifyHandshake at hver
  split_ifs at hver
  split at hver
  · exact absurd hver (by simp)
  · exact absurd hver (by simp)
  · exact absurd hver (by simp)
  · assumption

/-- A peer that the step verifies has sent, over its own connection, a handshake that names it
and that verifies under a key whitelisted at that moment. -/
def Authenticated (cfg : Config N) (s : Node N) (e : ℕ × Event N) : Prop :=
  ∀ p, p ∉ s.peerManager.verifiedPeers → p ∈ (s.step cfg e).peerManager.verifiedPeers →
    ∃ h, e.2.handshake = some (p, h) ∧ h.msg.sender = p ∧
      h.verificationIdKey ∈ s.peerManager.whitelistedKeys ∧
      h.verificationIdKey.verify (h.msg.toBytes cfg.localPeerId)
        (N.keys.signatureToBytes h.signature) = .ok true

def NamesItsPeer (cfg : Config N) (s : Node N) (e : ℕ × Event N) : Prop :=
  ∀ p h, e.2.handshake = some (p, h) → p ∉ s.peerManager.verifiedPeers →
    s.Completes cfg e.2 → h.msg.sender = p

lemma authenticated_iff (e : ℕ × Event N) : s.Authenticated cfg e ↔ s.NamesItsPeer cfg e := by
  constructor
  · intro hau p h he hp hc
    have ha := (mem_verifiedPeers_step cfg s e p).mpr (.inr ⟨h, he, hc⟩)
    obtain ⟨h', he', hs, _⟩ := hau p hp ha
    rw [he, some.injEq, Prod.mk.injEq] at he'
    rw [he'.2]
    exact hs
  · intro hn p hp ha
    obtain hb | ⟨h, he, hc⟩ := (mem_verifiedPeers_step cfg s e p).mp ha
    · exact absurd hb hp
    · exact ⟨h, he, hn p h he hp hc, hc.verified he⟩

/-- **Handshake authentication.** A run verifies only peers that have authenticated themselves
exactly when each handshake that newly completes names the peer of its connection. -/
theorem each_authenticated_iff (cfg : Config N) (s : Node N) (es : List (ℕ × Event N)) :
    Each (Node.step cfg) (Authenticated cfg) s es ↔ Each (Node.step cfg) (NamesItsPeer cfg) s es :=
  each_congr (authenticated_iff cfg) s es

end Node

def plainConfig : Config plainNetwork :=
  ⟨(0 : ℕ), (10 : ℕ), false, "/blueprint/1.0.0"⟩

def plainHandshake : Handshake plainNetwork :=
  let msg : HandshakeMessage plainNetwork := ⟨(1 : ℕ), 5000⟩
  ⟨.instancePublicKey (11 : ℕ), UInt8.ofNat 11 :: msg.toBytes (0 : ℕ), msg⟩

noncomputable def plainOrder : KeyOrder plainNetwork :=
  ⟨IterOrder.alone (Vector.replicate 20 0), IterOrder.alone (11 : ℕ)⟩

noncomputable def plainNode : Node plainNetwork :=
  Node.new plainOrder (.instancePublicKeys {(11 : ℕ)}) 0

def plainConnection (p : ℕ) : ℕ × Event plainNetwork := (0, .connectionEstablished p 6000)

def plainRequest (p : ℕ) (h : Handshake plainNetwork) : ℕ × Event plainNetwork :=
  (0, .request p (.handshake h) ⟨6000, 6000, true⟩)

noncomputable def replayTarget : Node plainNetwork :=
  [plainConnection 1, plainRequest 1 plainHandshake, plainConnection 2].foldl
    (Node.step plainConfig) plainNode

/-- Peer 1 is whitelisted and sends its handshake. Peer 2, without a key of its own, sends the
same bytes over its own connection and is verified. -/
theorem Node.replayed_handshake_verifies_peer :
    ¬ Each (Node.step plainConfig) (Node.Authenticated plainConfig) plainNode
        [plainConnection 1, plainRequest 1 plainHandshake, plainConnection 2,
          plainRequest 2 plainHandshake] := by
  -- peer 2 is not verified before the last step, and the handshake names peer 1
  rintro ⟨_, _, _, ha, _⟩
  have hn := (authenticated_iff _ replayTarget _).mp ha (2 : ℕ) plainHandshake rfl
  have hb : (2 : ℕ) ∉ replayTarget.peerManager.verifiedPeers := by decide
  have hkey : plainHandshake.verificationIdKey ∈ replayTarget.peerManager.whitelistedKeys := by
    decide
  have hs := hn hb ⟨⟨hkey, rfl⟩, rfl, rfl⟩
  exact absurd hs (by decide)

end Gadget.Networking
