import Gadget.Networking.Handshake

/-!
# Verified peers, links and bans

Messages are accepted from a connected peer as soon as it is verified. The tables are
consistent when such a peer resolves to a whitelisted key and is not banned. No operation
removes a peer from the verified ones, so most operations can break this; `Harmless` is what
an event has to satisfy for the node to stay consistent, and it is exact.
-/

namespace Gadget.Networking

open Rust Function PeerManager Option Finset HashMap
open Lib.Run (Always Each always_iff_each)

variable {N : Network}

namespace PeerManager

variable {conns : N.PeerId → ℕ} {now : ℤ} {m : PeerManager N}

def Active (conns : N.PeerId → ℕ) (m : PeerManager N) (p : N.PeerId) : Prop :=
  0 < conns p ∧ p ∈ m.verifiedPeers

def Sound (conns : N.PeerId → ℕ) (now : ℤ) (m : PeerManager N) : Prop :=
  ∀ p, m.Active conns p → m.Resolvable p ∧ ¬ m.Banned now p

def Relinkable (conns : N.PeerId → ℕ) (m : PeerManager N) (peer : N.PeerId)
    (key : VerificationIdentifierKey N) : Prop :=
  ∀ q, q ≠ peer → m.Active conns q → m.verificationIdKeysToPeerIds.lookup key = some q →
    ∃ key' ∈ m.whitelistedKeys, key' ≠ key ∧ m.verificationIdKeysToPeerIds.lookup key' = some q

lemma resolvable_link (m : PeerManager N) (peer : N.PeerId) (key : VerificationIdentifierKey N)
    (q : N.PeerId) :
    (m.linkPeerIdToVerificationIdKey peer key).Resolvable q ↔ (q = peer ∧ key ∈ m.whitelistedKeys) ∨
        ∃ key' ∈ m.whitelistedKeys, key' ≠ key ∧
          m.verificationIdKeysToPeerIds.lookup key' = some q := by
  have hl : ∀ k, (m.linkPeerIdToVerificationIdKey peer key).verificationIdKeysToPeerIds.lookup k
      = if k = key then some peer else m.verificationIdKeysToPeerIds.lookup k :=
    fun k => lookup_insert_eq _ _ _ _
  constructor
  · rintro ⟨k, hk, hq⟩
    rw [hl] at hq
    by_cases hkey : k = key
    · rw [if_pos hkey, some.injEq] at hq
      exact .inl ⟨hq.symm, hkey ▸ hk⟩
    · rw [if_neg hkey] at hq
      exact .inr ⟨k, hk, hkey, hq⟩
  · rintro (⟨rfl, hk⟩ | ⟨k, hk, hkey, hq⟩)
    · exact ⟨key, hk, by rw [hl, if_pos rfl]⟩
    · exact ⟨k, hk, by rw [hl, if_neg hkey, hq]⟩

lemma sound_link (hs : m.Sound conns now) (peer : N.PeerId) (key : VerificationIdentifierKey N) :
    (m.linkPeerIdToVerificationIdKey peer key).Sound conns now ↔ m.Relinkable conns peer key := by
  constructor
  · intro hs' q hq hact _
    have hres := (hs' q hact).1
    obtain ⟨rfl, _⟩ | hother := (m.resolvable_link peer key q).mp hres
    · exact absurd rfl hq
    · exact hother
  · intro hrel q hact
    have hq := hs q hact
    refine ⟨(m.resolvable_link peer key q).mpr ?_, hq.2⟩
    obtain ⟨k, hk, hl⟩ := hq.1
    -- the key that q resolved to is the relinked one, or still there
    by_cases hkey : k = key
    · subst hkey
      by_cases hp : q = peer
      · exact .inl ⟨hp, hk⟩
      · exact .inr (hrel q hp hact hl)
    · exact .inr ⟨k, hk, hkey, hl⟩

lemma sound_verifyPeer (m : PeerManager N) (peer : N.PeerId) :
    (m.verifyPeer peer).Sound conns now ↔
      m.Sound conns now ∧ (0 < conns peer → m.Resolvable peer ∧ ¬ m.Banned now peer) := by
  constructor
  · intro hs
    exact ⟨fun q hq => hs q ⟨hq.1, mem_insert_of_mem hq.2⟩,
      fun hc => hs peer ⟨hc, mem_insert_self _ _⟩⟩
  · rintro ⟨hs, hp⟩ q ⟨hc, hq⟩
    obtain rfl | hq := mem_insert.mp hq
    · exact hp hc
    · exact hs q ⟨hc, hq⟩

lemma sound_complete (hs : m.Sound conns now) (peer : N.PeerId)
    {key : VerificationIdentifierKey N} (hkey : key ∈ m.whitelistedKeys) :
    ((m.linkPeerIdToVerificationIdKey peer key).verifyPeer peer).Sound conns now ↔
      m.Relinkable conns peer key ∧ (0 < conns peer → ¬ m.Banned now peer) := by
  rw [sound_verifyPeer, sound_link hs]
  have hres := (m.resolvable_link peer key peer).mpr (.inl ⟨rfl, hkey⟩)
  apply and_congr Iff.rfl
  exact forall_congr' fun _ => and_iff_right hres

lemma sound_banPeer (hs : m.Sound conns now) (peer : N.PeerId) (d : Option ℕ) :
    (m.banPeer now peer d).Sound conns now ↔ (m.Active conns peer → ¬ Bites now d) := by
  have hact : ∀ q, (m.banPeer now peer d).Active conns q ↔ m.Active conns q := by
    intro q
    rw [Active, Active, verifiedPeers_banPeer]
  constructor
  · intro hs' hp
    rw [← banned_banPeer_self (hs peer hp).2]
    exact (hs' peer ((hact peer).mpr hp)).2
  · -- other peers keep their bans, and the banned one was not active or not hit
    intro hb q hq
    rw [hact] at hq
    rw [resolvable_banPeer]
    refine ⟨(hs q hq).1, ?_⟩
    by_cases hne : q = peer
    · subst hne
      rw [banned_banPeer_self (hs q hq).2]
      exact hb hq
    · rw [banned_banPeer_of_ne m now hne]
      exact (hs q hq).2

def FailureBans (now : ℤ) (m : PeerManager N) (peer : N.PeerId) : Prop :=
  ∃ info, m.getPeerInfo peer = some info ∧ 3 ≤ wrap32 (info.failures + 1) ∧
    Bites now (some (fromSecs 300))

section

variable (hs : m.Sound conns now) (peer : N.PeerId)

include hs

lemma sound_handleHandshakeFailure :
    (m.handleHandshakeFailure now peer).Sound conns now ↔
      (m.Active conns peer → ¬ m.FailureBans now peer) := by
  unfold handleHandshakeFailure FailureBans
  rcases m.getPeerInfo peer with _ | info
  · simpa using hs
  by_cases ht : 3 ≤ wrap32 (info.failures + 1)
  · have hs' : (m.updatePeer peer ⟨wrap32 (info.failures + 1)⟩).Sound conns now := hs
    simp only [ge_iff_le, ht, if_true]
    rw [sound_banPeer hs']
    simp only [some.injEq, exists_eq_left', ht, true_and]
    exact Iff.rfl
  · simp only [ge_iff_le, ht, if_false, some.injEq, exists_eq_left', false_and,
      not_false_eq_true, implies_true, iff_true]
    exact hs

lemma sound_unbanPeer : (m.unbanPeer peer).Sound conns now := by
  intro q hq
  refine ⟨(hs q hq).1, fun hban => (hs q hq).2 ?_⟩
  obtain ⟨expiry, hl, hexp⟩ := hban
  have he : (m.bannedPeers.erase peer).lookup q = some expiry := hl
  rw [lookup_erase_eq] at he
  split_ifs at he
  exact ⟨expiry, he, hexp⟩

lemma sound_isBanned : (m.isBanned now peer).2.Sound conns now := by
  unfold isBanned
  split
  · exact hs
  · exact hs
  · split_ifs
    · exact sound_unbanPeer hs peer
    · exact hs

lemma sound_disconnect :
    (PeerAction.apply now m (.disconnect peer)).Sound (update conns peer 0) now := by
  -- the information of a peer is not part of the invariant
  have hs' : (if m.isPeerVerified peer then m.removePeer peer else m).Sound conns now := by
    split_ifs <;> exact hs
  simp only [PeerAction.apply]
  rintro q ⟨hc, hq⟩
  have hne : q ≠ peer := by
    rintro rfl
    rw [update_self] at hc
    exact absurd hc (lt_irrefl 0)
  rw [update_of_ne hne] at hc
  obtain ⟨⟨key, hkey, hl⟩, hban⟩ := hs' q ⟨hc, hq⟩
  refine ⟨⟨key, hkey, ?_⟩, hban⟩
  exact lookup_retain_eq_some.mpr ⟨hl, by simpa using hne⟩

lemma sound_connect :
    m.Sound (update conns peer (conns peer + 1)) now ↔
      (conns peer = 0 → peer ∈ m.verifiedPeers → m.Resolvable peer ∧ ¬ m.Banned now peer) := by
  constructor
  · intro hs' _ hver
    exact hs' peer ⟨by rw [update_self]; omega, hver⟩
  · rintro hf q ⟨hc, hq⟩
    by_cases hne : q = peer
    · subst hne
      by_cases hz : conns q = 0
      · exact hf hz hq
      · exact hs q ⟨Nat.pos_of_ne_zero hz, hq⟩
    · rw [update_of_ne hne] at hc
      exact hs q ⟨hc, hq⟩

end

lemma Sound.anti {conns' : N.PeerId → ℕ} (hs : m.Sound conns now)
    (hle : ∀ p, conns' p ≤ conns p) : m.Sound conns' now :=
  fun q hq => hs q ⟨lt_of_lt_of_le hq.1 (hle q), hq.2⟩

end PeerManager

/-- The action leaves every active peer with a whitelisted key of its own and makes no banned
peer active, bans no active peer. -/
def PeerAction.Harmless (conns : N.PeerId → ℕ) (now : ℤ) (m : PeerManager N) :
    PeerAction N → Prop
  | .link peer key => m.Relinkable conns peer key
  | .complete peer key => m.Relinkable conns peer key ∧ (0 < conns peer → ¬ m.Banned now peer)
  | .refuse peer => ¬ m.Active conns peer
  | .fail peer => m.Active conns peer → ¬ m.FailureBans now peer
  | .ban peer duration => m.Active conns peer → ¬ PeerManager.Bites now duration
  | .allow order keys =>
    ∀ p, m.Active conns p →
      ∃ key ∈ keys.intoIter order, m.verificationIdKeysToPeerIds.lookup key = some p
  | _ => True

lemma PeerAction.sound_apply {conns : N.PeerId → ℕ} {now : ℤ} {m : PeerManager N}
    (hs : m.Sound conns now) (a : PeerAction N) (hdis : ∀ p, a ≠ .disconnect p)
    (hkey : ∀ p key, a = .complete p key → key ∈ m.whitelistedKeys) :
    (a.apply now m).Sound conns now ↔ a.Harmless conns now m := by
  cases a with
  | link peer key => exact sound_link hs peer key
  | complete peer key => exact sound_complete hs peer (hkey peer key rfl)
  | refuse peer =>
    have hs' : (m.removePeer peer).Sound conns now := hs
    apply (sound_banPeer hs' peer none).trans
    show (m.Active conns peer → ¬ True) ↔ ¬ m.Active conns peer
    rw [not_true]
  | fail peer => exact sound_handleHandshakeFailure hs peer
  | ban peer dur => exact sound_banPeer hs peer dur
  | allow order keys =>
    have hli : (m.updateAllowedKeys order keys).whitelistedKeys = keys.intoIter order :=
      List.nil_append _
    constructor
    · intro hs' p hp
      obtain ⟨key, hk, hl⟩ := (hs' p hp).1
      exact ⟨key, hli ▸ hk, hl⟩
    · intro hke p hp
      obtain ⟨key, hk, hl⟩ := hke p hp
      exact ⟨⟨key, hli.symm ▸ hk, hl⟩, (hs p hp).2⟩
  | disconnect peer => exact absurd rfl (hdis peer)
  | unban peer => exact iff_of_true (sound_unbanPeer hs peer) trivial
  | checkBan peer => exact iff_of_true (sound_isBanned hs peer) trivial
  | _ => exact iff_of_true hs trivial

namespace Node

/-- A verified peer with a connection has a number and is not banned. -/
def Consistent (s : Node N) : Prop :=
  ∀ p, s.peerManager.isPeerVerified p = true → 0 < s.connections p →
    (s.peerManager.getWhitelistIndexFromPeerId p).isSome = true ∧
    (s.peerManager.isBanned s.clock p).1 = false

lemma consistent_iff (s : Node N) : s.Consistent ↔ s.peerManager.Sound s.connections s.clock := by
  have hpe : ∀ p, ((s.peerManager.getWhitelistIndexFromPeerId p).isSome = true ∧
      (s.peerManager.isBanned s.clock p).1 = false) ↔
      s.peerManager.Resolvable p ∧ ¬ s.peerManager.Banned s.clock p := by
    intro p
    rw [getWhitelistIndexFromPeerId_isSome, ← isBanned_iff, Bool.not_eq_true]
  simp only [Consistent, PeerManager.Sound, PeerManager.Active, hpe, isPeerVerified_iff]
  constructor
  · intro h p hp
    exact h p hp.2 hp.1
  · intro h p hver hc
    exact h p ⟨hc, hver⟩

variable (cfg : Config N)

/-- What an event has to satisfy, when it comes after a time in which nothing happened: a
verified peer that connects resolves and is not banned, and the action of any other event is
harmless. -/
def Harmless (s : Node N) (e : ℕ × Event N) : Prop :=
  match e.2 with
  | .connectionEstablished peer _ =>
    s.connections peer = 0 → peer ∈ s.peerManager.verifiedPeers →
      s.peerManager.Resolvable peer ∧ ¬ s.peerManager.Banned (s.elapse e.1).clock peer
  | event =>
    ((s.elapse e.1).action cfg event).Harmless s.connections (s.elapse e.1).clock s.peerManager

lemma whitelisted_of_action {cfg : Config N} {s : Node N} {e : Event N} {p : N.PeerId}
    {key : VerificationIdentifierKey N} (h : s.action cfg e = .complete p key) :
    key ∈ s.peerManager.whitelistedKeys := by
  obtain ⟨h, he, rfl, hc⟩ := (action_eq_complete cfg s e p key).mp h
  exact (hc.verified he).1

lemma action_ne_disconnect (s : Node N) (e : Event N)
    (he : ∀ peer, e ≠ .connectionClosed peer) (p : N.PeerId) : s.action cfg e ≠ .disconnect p := by
  cases e with
  | connectionClosed peer => exact absurd rfl (he peer)
  | request peer request env =>
    cases request with
    | handshake h =>
      simp only [action, requestAction]
      split_ifs
      · split <;> simp
      · split <;> simp
      · simp
    | protocol _ _ _ => simp [action]
  | response peer response env =>
    cases response with
    | handshake h =>
      simp only [action, responseAction]
      split_ifs
      · simp
      · split <;> simp
      · simp
    | success | error => simp [action]
  | identify peer protocols =>
    simp only [action]
    split_ifs <;> simp
  | _ => simp [action]

lemma sound_connectionClosed (cfg : Config N) (s : Node N) (peer : N.PeerId)
    (hs : s.peerManager.Sound s.connections s.clock) :
    ((s.action cfg (.connectionClosed peer)).apply s.clock s.peerManager).Sound
      (s.connectionsAfter (.connectionClosed peer)) s.clock := by
  by_cases hl : s.connections peer = 1
  · simp only [action, connectionsAfter, hl, if_true]
    exact sound_disconnect hs peer
  simp only [action, connectionsAfter, hl, if_false]
  apply PeerManager.Sound.anti hs
  intro p
  by_cases hp : p = peer
  · subst hp
    rw [update_self]
    omega
  · rw [update_of_ne hp]

lemma consistent_step (cfg : Config N) (s : Node N) (e : ℕ × Event N) (hs : s.Consistent) :
    (s.step cfg e).Consistent ↔ s.Harmless cfg e := by
  obtain ⟨d, event⟩ := e
  -- time alone keeps the tables sound
  have hs' : s.peerManager.Sound s.connections (s.elapse d).clock := by
    intro p hp
    have hle : s.clock ≤ (s.elapse d).clock := by
      show s.clock ≤ s.clock + d
      omega
    have hp' := (consistent_iff s).mp hs p hp
    exact ⟨hp'.1, fun hban => hp'.2 (hban.mono hle)⟩
  have hc : ((s.elapse d).handle cfg event).1.connections = (s.elapse d).connectionsAfter event :=
    congrArg Prod.fst (swarm_handle cfg (s.elapse d) event)
  have hcl : ((s.elapse d).handle cfg event).1.clock = (s.elapse d).clock :=
    congrArg Prod.snd (swarm_handle cfg (s.elapse d) event)
  have hst : (s.step cfg (d, event)).Consistent ↔
      (((s.elapse d).action cfg event).apply (s.elapse d).clock s.peerManager).Sound
        ((s.elapse d).connectionsAfter event) (s.elapse d).clock := by
    rw [consistent_iff, step, handle_peerManager, hc, hcl]
    rfl
  rw [hst]
  cases event with
  | connectionEstablished peer nowMs => exact sound_connect hs' peer
  | connectionClosed peer =>
    apply iff_of_true (sound_connectionClosed cfg (s.elapse d) peer hs')
    simp only [Harmless, action]
    split_ifs <;> exact trivial
  | _ =>
    exact PeerAction.sound_apply hs' _ (action_ne_disconnect cfg _ _ (by simp))
      fun p key => whitelisted_of_action

/-- **Consistency of the peer tables.** A run from the start of a node is consistent in every
state exactly when each of its steps is harmless. -/
theorem always_consistent_iff (cfg : Config N) (order : KeyOrder N) (allowedKeys : AllowedKeys N)
    (now : ℤ) (es : List (ℕ × Event N)) :
    Always (Node.step cfg) Consistent (Node.new order allowedKeys now) es ↔
      Each (Node.step cfg) (Harmless cfg) (Node.new order allowedKeys now) es := by
  have hst : (Node.new order allowedKeys now).Consistent :=
    fun p hver _ => absurd (of_decide_eq_true hver) (notMem_empty p)
  exact always_iff_each (J := fun _ => True) (fun _ _ _ _ => trivial)
    (fun s e _ hs => consistent_step cfg s e hs) trivial hst es

def plainRun (es : List (Event plainNetwork)) : List (ℕ × Event plainNetwork) :=
  plainConnection 1 :: plainRequest 1 plainHandshake :: es.map fun e => (0, e)

/-- A verified peer that is banned, or whose key leaves the whitelist, stays verified while it
is connected. One that reconnects is verified, has no link and is sent no handshake. -/
theorem verified_peer_outlives_its_tables :
    ¬ Always (Node.step plainConfig) Consistent plainNode (plainRun [.banPeer (1 : ℕ) none]) ∧
    ¬ Always (Node.step plainConfig) Consistent plainNode
        (plainRun [.allowedKeys plainOrder (.instancePublicKeys ∅)]) ∧
    ¬ Always (Node.step plainConfig) Consistent plainNode
        (plainRun [.connectionClosed (1 : ℕ), .connectionEstablished (1 : ℕ) 7000]) := by
  refine ⟨?_, ?_, ?_⟩
  · -- banned for good
    rintro ⟨_, _, _, hend⟩
    have hb := (hend (1 : ℕ) (by decide) (by decide)).2
    exact absurd hb (by decide)
  · -- an empty whitelist
    rintro ⟨_, _, _, hend⟩
    have hi := (hend (1 : ℕ) (by decide) (by decide)).1
    exact absurd hi (by decide)
  · -- the link went with the first connection
    rintro ⟨_, _, _, _, hend⟩
    have hi := (hend (1 : ℕ) (by decide) (by decide)).1
    exact absurd hi (by decide)

end Node

end Gadget.Networking
