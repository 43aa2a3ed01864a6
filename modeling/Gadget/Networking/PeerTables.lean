import Gadget.Networking.Handshake
import Mathlib.Data.Int.ConditionallyCompleteOrder

/-!
# Party numbers and bans

A party number is a position in the whitelist, and the whitelist is filled from a hash set. Two nodes
agree on the numbers when they have met the keys in the same order.
-/

namespace Gadget.Networking

open List Option

variable {N : Network}

namespace PeerManager

section

variable (m : PeerManager N)

def whitelistIndex (key : VerificationIdentifierKey N) : Option ℕ :=
  m.whitelistedKeys.findIdx? (· == key)

def getPeerIdFromWhitelistIndex (index : ℕ) : Option N.PeerId :=
  m.whitelistedKeys[index]?.bind m.getPeerIdFromVerificationIdKey

/-- Numbers and peers are looked up one from the other. -/
def LookupsInverse : Prop :=
  ∀ peer i, m.getWhitelistIndexFromPeerId peer = some i ↔ m.getPeerIdFromWhitelistIndex i = some peer

/-- No peer has two whitelisted keys. -/
def OneKeyEach : Prop :=
  ∀ key ∈ m.whitelistedKeys, ∀ other ∈ m.whitelistedKeys, ∀ peer,
    m.getPeerIdFromVerificationIdKey key = some peer →
    m.getPeerIdFromVerificationIdKey other = some peer → key = other

end

lemma nodup_intoIter (keys : AllowedKeys N) (order : KeyOrder N) : (keys.intoIter order).Nodup := by
  cases keys with
  | evmAddresses addresses =>
    exact (order.addresses.nodup _).map fun _ _ h => VerificationIdentifierKey.evmAddress.inj h
  | instancePublicKeys publicKeys =>
    exact (order.publicKeys.nodup _).map fun _ _ h => VerificationIdentifierKey.instancePublicKey.inj h

variable {m m' : PeerManager N}

lemma getPeerIdFromWhitelistIndex_eq_some {i : ℕ} {peer : N.PeerId} :
    m.getPeerIdFromWhitelistIndex i = some peer ↔
      ∃ key, m.whitelistedKeys[i]? = some key ∧ m.getPeerIdFromVerificationIdKey key = some peer :=
  Option.bind_eq_some_iff

lemma getWhitelistIndexFromPeerId_eq_some {i : ℕ} {peer : N.PeerId} :
    m.getWhitelistIndexFromPeerId peer = some i ↔ m.getPeerIdFromWhitelistIndex i = some peer ∧
      ∀ j < i, m.getPeerIdFromWhitelistIndex j ≠ some peer := by
  have hat (j : ℕ) (hj : j < m.whitelistedKeys.length) :
      m.getPeerIdFromWhitelistIndex j = m.getPeerIdFromVerificationIdKey m.whitelistedKeys[j] := by
    rw [getPeerIdFromWhitelistIndex, List.getElem?_eq_getElem hj, bind_some]
  rw [getWhitelistIndexFromPeerId, List.findIdx?_eq_some_iff_getElem]
  constructor
  · rintro ⟨hi, hp, hlt⟩
    refine ⟨(hat i hi).trans (eq_of_beq hp), fun j hj hjp => hlt j hj ?_⟩
    rw [hat j (hj.trans hi)] at hjp
    exact beq_iff_eq.mpr hjp
  · rintro ⟨hp, hlt⟩
    obtain ⟨key, hk, -⟩ := getPeerIdFromWhitelistIndex_eq_some.mp hp
    obtain ⟨hi, -⟩ := List.getElem?_eq_some_iff.mp hk
    refine ⟨hi, beq_iff_eq.mpr ((hat i hi).symm.trans hp), fun j hj hjp => hlt j hj ?_⟩
    rw [hat j (hj.trans hi)]
    exact eq_of_beq hjp

lemma whitelistIndex_eq_some (hnd : m.whitelistedKeys.Nodup) {key : VerificationIdentifierKey N} {i : ℕ} :
    m.whitelistIndex key = some i ↔ m.whitelistedKeys[i]? = some key := by
  rw [whitelistIndex, findIdx?_eq_some_iff_getElem, getElem?_eq_some_iff]
  constructor
  · rintro ⟨hi, hk, -⟩
    exact ⟨hi, eq_of_beq hk⟩
  · rintro ⟨hi, rfl⟩
    refine ⟨hi, beq_self_eq_true _, fun j hj hjk => hj.ne ?_⟩
    exact hnd.getElem_inj_iff.mp (eq_of_beq hjk)

lemma lookupsInverse_iff (hnd : m.whitelistedKeys.Nodup) : m.LookupsInverse ↔ m.OneKeyEach := by
  constructor
  · intro h key hk other ho peer hkp hop
    obtain ⟨i, hi⟩ := List.getElem?_of_mem hk
    obtain ⟨j, hj⟩ := List.getElem?_of_mem ho
    have hii := (h peer i).mpr (getPeerIdFromWhitelistIndex_eq_some.mpr ⟨key, hi, hkp⟩)
    have hjj := (h peer j).mpr (getPeerIdFromWhitelistIndex_eq_some.mpr ⟨other, hj, hop⟩)
    have hij : i = j := some.inj (hii.symm.trans hjj)
    subst hij
    exact some.inj (hi.symm.trans hj)
  · intro h peer i
    rw [getWhitelistIndexFromPeerId_eq_some, and_iff_left_iff_imp]
    intro hi j hj hjp
    obtain ⟨key, hki, hk⟩ := getPeerIdFromWhitelistIndex_eq_some.mp hi
    obtain ⟨other, hoj, ho⟩ := getPeerIdFromWhitelistIndex_eq_some.mp hjp
    have heq := h key (List.mem_of_getElem? hki) other (List.mem_of_getElem? hoj) peer hk ho
    subst heq
    obtain ⟨hil, hki⟩ := List.getElem?_eq_some_iff.mp hki
    obtain ⟨hjl, hoj⟩ := List.getElem?_eq_some_iff.mp hoj
    exact hj.ne ((hnd.getElem_inj_iff).mp (hoj.trans hki.symm))

/-- **Two nodes agree on the party numbers** exactly when they have met the keys in the same order,
and the lookups are inverse exactly when no peer is linked to two keys. -/
theorem partyNumbers_agree_iff (keys : AllowedKeys N) (order order' : KeyOrder N) (m m' : PeerManager N)
    (h : m.whitelistedKeys = keys.intoIter order) (h' : m'.whitelistedKeys = keys.intoIter order') :
    ((∀ key, m.whitelistIndex key = m'.whitelistIndex key) ∧ m.LookupsInverse ∧ m'.LookupsInverse) ↔
      keys.intoIter order = keys.intoIter order' ∧ m.OneKeyEach ∧ m'.OneKeyEach := by
  have hnd : m.whitelistedKeys.Nodup := h ▸ nodup_intoIter _ _
  have hnd' : m'.whitelistedKeys.Nodup := h' ▸ nodup_intoIter _ _
  rw [lookupsInverse_iff hnd, lookupsInverse_iff hnd', and_congr_left_iff]
  intro _
  constructor
  · intro hi
    rw [← h, ← h']
    apply ext_getElem?
    intro i
    ext key
    rw [← whitelistIndex_eq_some hnd, hi key, whitelistIndex_eq_some hnd']
  · intro hl key
    rw [whitelistIndex, whitelistIndex, h, h', hl]

lemma oneKeyEach_of_empty (h : m.verificationIdKeysToPeerIds = ∅) : m.OneKeyEach := by
  intro key _ other _ peer hk
  rw [getPeerIdFromVerificationIdKey, h, Finmap.lookup_empty] at hk
  cases hk

abbrev twoKeys : AllowedKeys plainNetwork := .instancePublicKeys {(11 : ℕ), (12 : ℕ)}

noncomputable abbrev listed (l : List ℕ) (hl : l.Nodup) : KeyOrder plainNetwork :=
  ⟨.alone (Vector.replicate 20 0), .listed l hl⟩

theorem partyNumbers_agree_replaced :
    let order := listed [11, 12] (by decide)
    ∀ key, (new order twoKeys).whitelistIndex key =
      ((new (listed [12, 11] (by decide)) twoKeys).updateAllowedKeys order twoKeys).whitelistIndex key := by
  intro order
  exact ((partyNumbers_agree_iff twoKeys order order _ _ rfl rfl).mpr
    ⟨rfl, oneKeyEach_of_empty rfl, oneKeyEach_of_empty rfl⟩).1

/-- Two orders give two numbers to the key 11. Of a peer that is linked to both keys only the first number is found. -/
theorem partyNumbers_differ :
    (new (listed [11, 12] (by decide)) twoKeys).whitelistIndex (.instancePublicKey (11 : ℕ)) = some 0 ∧
    (new (listed [12, 11] (by decide)) twoKeys).whitelistIndex (.instancePublicKey (11 : ℕ)) = some 1 ∧
    ¬ LookupsInverse (((new (listed [11, 12] (by decide)) twoKeys).linkPeerIdToVerificationIdKey (1 : ℕ)
      (.instancePublicKey (11 : ℕ))).linkPeerIdToVerificationIdKey (1 : ℕ) (.instancePublicKey (12 : ℕ))) := by
  refine ⟨by decide +kernel, by decide +kernel, fun h => ?_⟩
  have hs := (h (1 : ℕ) 1).mpr (by decide +kernel)
  exact absurd hs (by decide +kernel)

end PeerManager

/-! ## Bans over time

The ban of a peer is read, set and removed by separate operations on a concurrent map. A task
between two of them is what it is about to do: insert the ban whose end it has computed, or remove
the entry that it has seen expired. The end of a ban is an element of `WithBot (WithTop ℤ)`: `⊥`
without an entry, `⊤` for a permanent ban. -/

open Lib.Run Rust PeerManager Finmap

inductive Pending (N : Network) where
  /-- `ban_peer`, with the end it has computed. -/
  | insert (peer : N.PeerId) (expiresAt : Option ℤ)
  | remove (peer : N.PeerId)

structure BanTable (N : Network) where
  manager : PeerManager N
  now : ℤ
  pending : List (Pending N)
  owed : N.PeerId → WithBot (WithTop ℤ)

namespace BanTable

variable (s : BanTable N)

variable (peer : N.PeerId) (duration : Option ℕ)

def entry : WithBot (WithTop ℤ) := s.manager.bannedPeers.lookup peer

def start (m : PeerManager N) (now : ℤ) : BanTable N := ⟨m, now, [], fun peer => m.bannedPeers.lookup peer⟩

def ban : BanTable N :=
  match duration with
  | none => { s with manager := s.manager.removePeer peer, pending := s.pending ++ [.insert peer none] }
  | some d =>
    match checkedAdd s.now d with
    | none => s
    | some expiry =>
      { s with manager := s.manager.removePeer peer, pending := s.pending ++ [.insert peer (some expiry)] }

def findExpired : BanTable N :=
  match s.manager.bannedPeers.lookup peer with
  | some (some expiry) => if s.now ≥ expiry then { s with pending := s.pending ++ [.remove peer] } else s
  | _ => s

def finish : Pending N → BanTable N
  | .insert peer expiresAt =>
    { s with
      manager := { s.manager with bannedPeers := s.manager.bannedPeers.insert peer expiresAt }
      owed := fun q => if q = peer then max (s.owed q) (some expiresAt) else s.owed q }
  | .remove peer => { s with manager := s.manager.unbanPeer peer }

inductive Event (N : Network) where
  | ban (peer : N.PeerId) (duration : Option ℕ)
  | isBanned (peer : N.PeerId)
  | cleanup (peer : N.PeerId)
  | resume (i : ℕ)
  | unban (peer : N.PeerId)
  | updatePeer (peer : N.PeerId) (info : PeerInfo)
  | tick (elapsed : ℕ)

def step : Event N → BanTable N
  | .ban peer duration => s.ban peer duration
  | .isBanned peer | .cleanup peer => s.findExpired peer
  | .resume i =>
    match s.pending[i]? with
    | some task => { s with pending := s.pending.eraseIdx i }.finish task
    | none => s
  | .unban peer =>
    { s with
      manager := s.manager.unbanPeer peer
      owed := fun q => if q = peer then ⊥ else s.owed q }
  | .updatePeer peer info => { s with manager := s.manager.updatePeer peer info }
  | .tick elapsed => { s with now := s.now + elapsed }

/-- A ban that is owed is in the table until it ends. -/
def Lasting : Prop :=
  ∀ peer, (WithTop.some s.now : WithTop ℤ) < s.owed peer → s.owed peer ≤ s.entry peer

def Respects : Pending N → Prop
  | .insert peer expiresAt =>
    (WithTop.some s.now : WithTop ℤ) < s.owed peer → s.owed peer ≤ some expiresAt
  | .remove peer => s.owed peer ≤ (WithTop.some s.now : WithTop ℤ)

def Keeps : Event N → Prop
  | .resume i => ∀ task ∈ s.pending[i]?, s.Respects task
  | _ => True

lemma resume_ban :
    ((s.step (.ban peer duration)).step (.resume s.pending.length)).manager
      = s.manager.banPeer s.now peer duration := by
  rcases duration with _ | d
  · simp [step, ban, finish, banPeer, banUntil]
  cases h : checkedAdd s.now d <;>
    simp [step, ban, finish, banPeer, banUntil, h]

lemma resume_isBanned :
    ((s.step (.isBanned peer)).step (.resume s.pending.length)).manager
      = (s.manager.isBanned s.now peer).2 := by
  rcases h : s.manager.bannedPeers.lookup peer with _ | exp
  · simp [step, findExpired, isBanned, h]
  rcases exp with _ | expiry
  · simp [step, findExpired, isBanned, h]
  by_cases ho : expiry ≤ s.now <;> simp [step, findExpired, finish, isBanned, h, ho]

lemma lasting_finish_iff {s : BanTable N} (h : s.Lasting) (task : Pending N) :
    (s.finish task).Lasting ↔ s.Respects task := by
  cases task with
  | insert peer expiresAt =>
    have hs : (s.finish (.insert peer expiresAt)).entry peer = some expiresAt := lookup_insert _
    constructor
    · intro hl hr
      have hle := hl peer
      rw [hs] at hle
      simp only [finish, if_true] at hle
      exact (le_max_left _ _).trans (hle (lt_max_of_lt_left hr))
    · intro hre q hr
      by_cases hq : q = peer
      · subst hq
        rw [hs]
        simp only [finish, if_true] at hr ⊢
        refine max_le ?_ le_rfl
        -- a ban that has ended is no longer than one that has not
        rcases lt_or_ge (s.now : WithBot (WithTop ℤ)) (s.owed q) with hold | hold
        · exact hre hold
        · exact hold.trans ((lt_max_iff.mp hr).resolve_left hold.not_gt).le
      · have ho : (s.finish (.insert peer expiresAt)).entry q = s.entry q :=
          lookup_insert_of_ne _ hq
        rw [ho]
        simp only [finish, if_neg hq] at hr ⊢
        exact h q hr
  | remove peer =>
    have hs : (s.finish (.remove peer)).entry peer = ⊥ := lookup_erase _ _
    constructor
    · intro hl
      by_contra hr
      have hle := hl peer (not_le.mp hr)
      rw [hs] at hle
      exact not_lt_bot ((not_le.mp hr).trans_le hle)
    · intro hre q hr
      have hq : q ≠ peer := fun hq => (hq ▸ hre).not_gt hr
      have ho : (s.finish (.remove peer)).entry q = s.entry q := lookup_erase_ne hq
      rw [ho]
      exact h q hr

/-- **Bans are neither shortened nor lost** in exactly the runs where no ban replaces a longer one
that still runs, and no task removes the entry of a ban that was renewed after it had looked. -/
theorem always_lasting_iff (m : PeerManager N) (now : ℤ) (es : List (Event N)) :
    Always step Lasting (start m now) es ↔ Each step Keeps (start m now) es := by
  have hs (s : BanTable N) (e : Event N) (_ : True) (h : s.Lasting) : (step s e).Lasting ↔ s.Keeps e := by
    cases e with
    | resume i =>
      simp only [step, Keeps]
      rcases s.pending[i]? with _ | task
      · simpa using h
      simp only [Option.mem_def, Option.some.injEq, forall_eq']
      exact lasting_finish_iff (s := { s with pending := s.pending.eraseIdx i }) h task
    | ban peer duration =>
      refine iff_of_true ?_ trivial
      simp only [step, ban]
      split
      · exact h
      · split <;> exact h
    | isBanned peer | cleanup peer =>
      refine iff_of_true ?_ trivial
      simp only [step, findExpired]
      split
      · split <;> exact h
      · exact h
    | unban peer =>
      refine iff_of_true (fun q hr => ?_) trivial
      by_cases hq : q = peer
      · simp [step, hq] at hr
      have ho : (step s (.unban peer)).entry q = s.entry q := lookup_erase_ne hq
      rw [ho]
      simp only [step, if_neg hq] at hr ⊢
      exact h q hr
    | updatePeer peer info => exact iff_of_true h trivial
    | tick elapsed =>
      refine iff_of_true (fun q hr => h q (lt_of_le_of_lt ?_ hr)) trivial
      exact_mod_cast Int.le_add_of_nonneg_right (Int.natCast_nonneg elapsed)
  exact always_iff_each (fun _ _ _ _ => trivial) hs trivial (fun _ _ => le_rfl) es

noncomputable abbrev nobody : PeerManager plainNetwork := .new plainOrder (.instancePublicKeys ∅)

/-- A permanent ban is replaced by the five minutes of a failed handshake; a ban renewed between the
look of `is_banned` and its removal is lost. -/
theorem bans_shortened_and_lost : ¬ Always step Lasting (start nobody 0)
        [.ban (1 : ℕ) none, .resume 0, .ban (1 : ℕ) (some (PeerManager.fromSecs 300)), .resume 0] ∧
    ¬ Always step Lasting (start nobody 0)
        [.ban (1 : ℕ) (some 5), .resume 0, .tick 5, .isBanned (1 : ℕ), .ban (1 : ℕ) none, .resume 1,
          .resume 0] := by
  have htop (t : ℤ) : ((t : WithTop ℤ) : WithBot (WithTop ℤ)) < ⊤ := WithBot.coe_lt_coe.mpr (WithTop.coe_lt_top t)
  constructor
  · intro h
    have hle := h.last (1 : ℕ) (lt_max_of_lt_left (lt_max_of_lt_right (htop 0)))
    exact ((le_max_right _ _).trans (le_max_left _ _)).trans hle |>.not_gt (htop _)
  · intro h
    have hle := h.last (1 : ℕ) (lt_max_of_lt_right (htop 5))
    exact not_lt_bot ((htop 5).trans_le ((le_max_right _ _).trans hle))

end BanTable

end Gadget.Networking
