import Gadget.GossipPrimitives.Dedup
import Gadget.Rust.HashMap
import Mathlib.Algebra.Order.Ring.Int

/-!
# The message store

`MessageStore` keeps messages by their hash, with two indices: the hashes of each sender, and the
hash received at each instant, from which the oldest messages are evicted. Instants are integers.
-/

namespace Gadget.GossipPrimitives

open Lib.Run Rust HashMap List Option Finset

variable {M PeerId : Type} [DecidableEq PeerId]

structure MessageEntry (M PeerId : Type) where
  message : M
  hash : MessageHash
  sender : Option PeerId
  receivedAt : ℤ
  processed : Bool := false

structure StoreConfig where
  maxMessages : ℕ := 10000
  indexBySender : Bool := true

structure MessageStore (M PeerId : Type) where
  messages : HashMap MessageHash (MessageEntry M PeerId) := ∅
  bySender : HashMap PeerId (List MessageHash) := ∅
  insertionOrder : HashMap ℤ MessageHash := ∅
  config : StoreConfig

namespace MessageStore

variable (s : MessageStore M PeerId)

def len : ℕ := s.messages.keys.card

def hashesOf (peer : PeerId) : List MessageHash :=
  (s.bySender.lookup peer).getD []

def unindex (bySender : HashMap PeerId (List MessageHash)) (sender : Option PeerId) (hash : MessageHash) :
    HashMap PeerId (List MessageHash) :=
  match sender.bind fun peer => (bySender.lookup peer).map fun hashes => (peer, hashes) with
  | some (peer, hashes) => bySender.insert peer (hashes.filter (· ≠ hash))
  | none => bySender

def discard (time : ℤ) (hash : MessageHash) : MessageStore M PeerId :=
  match s.messages.lookup hash with
  | some entry =>
    { s with
      messages := s.messages.erase hash
      bySender := unindex s.bySender entry.sender hash
      insertionOrder := s.insertionOrder.erase time }
  | none => { s with insertionOrder := s.insertionOrder.erase time }

def remove (hash : MessageHash) : MessageStore M PeerId :=
  match s.messages.lookup hash with
  | some entry => s.discard entry.receivedAt hash
  | none => s

def discardAt (time : ℤ) : MessageStore M PeerId :=
  match s.insertionOrder.lookup time with
  | some hash => s.discard time hash
  | none => s

def times : List ℤ := s.insertionOrder.keys.sort (· ≤ ·)

def toEvict : List ℤ :=
  if s.len < s.config.maxMessages then [] else s.times.take (max (s.config.maxMessages / 10) 1)

def maybeEvict : MessageStore M PeerId := s.toEvict.foldl discardAt s

def removeOlderThan (cutoff : ℤ) : MessageStore M PeerId :=
  (s.times.filter (· < cutoff)).foldl discardAt s

def push (entry : MessageEntry M PeerId) : MessageStore M PeerId :=
  { s with
    messages := s.messages.insert entry.hash entry
    bySender :=
      match entry.sender with
      | some peer =>
        if s.config.indexBySender then s.bySender.insert peer (s.hashesOf peer ++ [entry.hash]) else s.bySender
      | none => s.bySender
    insertionOrder := s.insertionOrder.insert entry.receivedAt entry.hash }

def insert (entry : MessageEntry M PeerId) : Bool × MessageStore M PeerId :=
  let s := s.maybeEvict
  if (s.messages.lookup entry.hash).isSome then (false, s) else (true, s.push entry)

def getBySender (peer : PeerId) : List (MessageEntry M PeerId) :=
  (s.hashesOf peer).filterMap s.messages.lookup

def clear : MessageStore M PeerId := { config := s.config }

inductive Op (M PeerId : Type) where
  | insert (entry : MessageEntry M PeerId)
  | remove (hash : MessageHash)
  | removeOlderThan (cutoff : ℤ)
  | clear
  | getBySender (peer : PeerId)

def step : Op M PeerId → MessageStore M PeerId
  | .insert entry => (s.insert entry).2
  | .remove hash => s.remove hash
  | .removeOlderThan cutoff => s.removeOlderThan cutoff
  | .clear => s.clear
  | .getBySender _ => s

/-! ## What the indices describe -/

structure Represents (s : MessageStore M PeerId) : Prop where
  hash : ∀ hash entry, s.messages.lookup hash = some entry → entry.hash = hash
  order : ∀ time hash, s.insertionOrder.lookup time = some hash ↔
    ∃ entry, s.messages.lookup hash = some entry ∧ entry.receivedAt = time
  senders : ∀ peer hash, hash ∈ s.hashesOf peer ↔
    ∃ entry, s.messages.lookup hash = some entry ∧ entry.sender = some peer
  nodup : ∀ peer, (s.hashesOf peer).Nodup

/-- What an operation owes its caller: the maps describe the same messages, within the bound;
`getBySender` returns exactly the messages of a sender; what an insertion evicts is not newer than
what it keeps; and an insertion answered `false` changes nothing. -/
structure Sound (s : MessageStore M PeerId) (op : Op M PeerId) : Prop where
  represents : (s.step op).Represents
  bounded : (s.step op).len ≤ s.config.maxMessages
  bySender : ∀ peer, ((s.step op).getBySender peer).Nodup ∧ ∀ entry, entry ∈ (s.step op).getBySender peer ↔
    (s.step op).messages.lookup entry.hash = some entry ∧ entry.sender = some peer
  oldest : ∀ new, op = .insert new → ∀ gone kept, s.messages.lookup gone.hash = some gone →
    s.messages.lookup kept.hash = some kept → kept.hash ≠ new.hash →
    (s.step op).messages.lookup gone.hash = none → (s.step op).messages.lookup kept.hash = some kept →
    gone.receivedAt ≤ kept.receivedAt
  duplicate : ∀ entry, op = .insert entry → (s.insert entry).1 = false → s.step op = s

def Fits : Op M PeerId → Prop
  | .insert entry =>
    if (s.insert entry).1 then
      s.maybeEvict.insertionOrder.lookup entry.receivedAt = none ∧
        (entry.sender ≠ none → s.config.indexBySender = true)
    else s.len < s.config.maxMessages
  | _ => True

lemma hashesOf_unindex (snd : Option PeerId) (hash : MessageHash) (peer : PeerId) :
    ((unindex s.bySender snd hash).lookup peer).getD []
      = if snd = some peer then (s.hashesOf peer).filter (· ≠ hash) else s.hashesOf peer := by
  rcases snd with _ | q
  · rfl
  cases hq : s.bySender.lookup q with
  | none =>
    by_cases hp : q = peer
    · subst hp
      simp [unindex, hashesOf, hq]
    · simp [unindex, hashesOf, hq, hp]
  | some hashes =>
    simp only [unindex, hq, bind_some, map_some, lookup_insert_eq]
    by_cases hp : q = peer
    · subst hp
      simp [hashesOf, hq]
    · simp [hashesOf, hp, Ne.symm hp]

namespace Represents

variable {s : MessageStore M PeerId}

variable (h : s.Represents)

include h

variable {entry : MessageEntry M PeerId} {hash : MessageHash}

lemma discard (he : s.messages.lookup hash = some entry) :
    (s.discard entry.receivedAt hash).Represents := by
  have hh (peer : PeerId) : (s.discard entry.receivedAt hash).hashesOf peer
      = if entry.sender = some peer then (s.hashesOf peer).filter (· ≠ hash) else s.hashesOf peer := by
    rw [MessageStore.discard, he]
    exact hashesOf_unindex s entry.sender hash peer
  have hm (hash' : MessageHash) : (s.discard entry.receivedAt hash).messages.lookup hash'
      = if hash' = hash then none else s.messages.lookup hash' := by
    rw [MessageStore.discard, he]
    exact lookup_erase_eq _ _ _
  have ho (time : ℤ) : (s.discard entry.receivedAt hash).insertionOrder.lookup time
      = if time = entry.receivedAt then none else s.insertionOrder.lookup time := by
    rw [MessageStore.discard, he]
    exact lookup_erase_eq _ _ _
  refine ⟨fun hash' ent' hl => ?_, fun time hash' => ?_, fun peer hash' => ?_, fun peer => ?_⟩
  · rw [hm] at hl
    split at hl
    · cases hl
    · exact h.hash _ _ hl
  · -- an instant has one message
    have hold := (h.order _ _).mpr ⟨entry, he, rfl⟩
    have hiff := h.order time hash'
    rw [ho, hm]
    grind
  · have hiff := h.senders peer hash'
    rw [hh, hm]
    grind
  · rw [hh]
    split
    · exact (h.nodup peer).filter _
    · exact h.nodup peer

lemma discardAt (time : ℤ) :
    (s.discardAt time).Represents ∧ (s.discardAt time).config = s.config ∧
      ∀ hash entry, (s.discardAt time).messages.lookup hash = some entry ↔
        s.messages.lookup hash = some entry ∧ entry.receivedAt ≠ time := by
  cases ht : s.insertionOrder.lookup time with
  | none =>
    have hs : s.discardAt time = s := by rw [MessageStore.discardAt, ht]
    rw [hs]
    refine ⟨h, rfl, fun hash entry => (and_iff_left_of_imp ?_).symm⟩
    rintro he rfl
    exact some_ne_none _ (((h.order _ _).mpr ⟨entry, he, rfl⟩).symm.trans ht)
  | some old =>
    obtain ⟨entry, he, rfl⟩ := (h.order time old).mp ht
    have hd : s.discardAt entry.receivedAt = s.discard entry.receivedAt old := by
      rw [MessageStore.discardAt, ht]
    rw [hd]
    refine ⟨h.discard he, by simp only [MessageStore.discard, he], fun hash ent' => ?_⟩
    simp only [MessageStore.discard, he, lookup_erase_eq]
    have hiff := h.order entry.receivedAt hash
    grind

lemma foldl_discardAt (times : List ℤ) :
    (times.foldl MessageStore.discardAt s).Represents ∧
      (times.foldl MessageStore.discardAt s).config = s.config ∧
      ∀ hash entry, (times.foldl MessageStore.discardAt s).messages.lookup hash = some entry ↔
        s.messages.lookup hash = some entry ∧ entry.receivedAt ∉ times := by
  induction times generalizing s with
  | nil => exact ⟨h, rfl, fun hash entry => by simp⟩
  | cons time times ih =>
    obtain ⟨hone, hc, hl⟩ := h.discardAt time
    obtain ⟨hr, hc', hl'⟩ := ih hone
    refine ⟨hr, hc'.trans hc, fun hash entry => ?_⟩
    rw [List.foldl_cons, hl', hl, List.mem_cons, not_or, and_assoc]

lemma mem_times (he : s.messages.lookup hash = some entry) : entry.receivedAt ∈ s.times := by
  rw [times, mem_sort, mem_keys_iff_lookup]
  exact ⟨hash, (h.order _ _).mpr ⟨entry, he, rfl⟩⟩

lemma len_maybeEvict_lt (hmax : 1 ≤ s.config.maxMessages) (hlen : s.len ≤ s.config.maxMessages) :
    s.maybeEvict.len < s.config.maxMessages := by
  obtain ⟨-, -, hl⟩ := h.foldl_discardAt s.toEvict
  by_cases hf : s.len < s.config.maxMessages
  · rw [maybeEvict, toEvict, if_pos hf]
    exact hf
  refine lt_of_lt_of_le (card_lt_card ⟨fun hash hmem => ?_, fun hsub => ?_⟩) hlen
  · obtain ⟨entry, he⟩ := (mem_keys_iff_lookup _ _).mp hmem
    exact (mem_keys_iff_lookup _ _).mpr ⟨entry, ((hl hash entry).mp he).1⟩
  · -- the store is not empty, and so the oldest message goes
    rcases ht : s.times with _ | ⟨time, rest⟩
    · obtain ⟨hash, hmem⟩ := card_pos.mp (show 0 < s.len by omega)
      obtain ⟨entry, he⟩ := (mem_keys_iff_lookup _ _).mp hmem
      exact not_mem_nil (ht ▸ h.mem_times he)
    have hti : time ∈ s.times := ht ▸ mem_cons_self
    rw [times, mem_sort, mem_keys_iff_lookup] at hti
    obtain ⟨hash, hh⟩ := hti
    obtain ⟨entry, he, rfl⟩ := (h.order _ _).mp hh
    have hmem := hsub ((mem_keys_iff_lookup _ _).mpr ⟨entry, he⟩)
    obtain ⟨entry', he'⟩ := (mem_keys_iff_lookup _ _).mp hmem
    obtain ⟨hs, hnot⟩ := (hl hash entry').mp he'
    obtain rfl : entry = entry' := some.inj (he.symm.trans hs)
    apply hnot
    rw [toEvict, if_neg hf, ht, take_cons (by omega)]
    exact mem_cons_self

lemma oldest_maybeEvict {gone kept : MessageEntry M PeerId}
    (hg : s.messages.lookup gone.hash = some gone) (hke : s.messages.lookup kept.hash = some kept)
    (hg' : s.maybeEvict.messages.lookup gone.hash = none)
    (hk' : s.maybeEvict.messages.lookup kept.hash = some kept) :
    gone.receivedAt ≤ kept.receivedAt := by
  obtain ⟨-, -, hlo⟩ := h.foldl_discardAt s.toEvict
  have he : gone.receivedAt ∈ s.toEvict := by
    by_contra hnot
    exact some_ne_none _ (((hlo _ _).mpr ⟨hg, hnot⟩).symm.trans hg')
  have hl : kept.receivedAt ∉ s.toEvict := ((hlo _ _).mp hk').2
  have hk := h.mem_times hke
  rw [toEvict] at he hl
  split at he
  · cases he
  rw [if_neg ‹_›] at hl
  have hs : s.times.Pairwise (· ≤ ·) := pairwise_sort _ _
  rw [← take_append_drop (max (s.config.maxMessages / 10) 1) s.times] at hs hk
  exact (pairwise_append.mp hs).2.2 _ he _ ((mem_append.mp hk).resolve_left hl)

lemma push (hnew : s.messages.lookup entry.hash = none)
    (hf : s.insertionOrder.lookup entry.receivedAt = none)
    (hi : entry.sender ≠ none → s.config.indexBySender = true) : (s.push entry).Represents := by
  have hh (peer : PeerId) : (s.push entry).hashesOf peer
      = if entry.sender = some peer then s.hashesOf peer ++ [entry.hash] else s.hashesOf peer := by
    rcases hs : entry.sender with _ | q
    · simp [MessageStore.push, hashesOf, hs]
    have hon := hi (by simp [hs])
    simp only [MessageStore.push, hashesOf, hs, hon, if_true, lookup_insert_eq]
    by_cases hp : peer = q
    · subst hp
      simp
    · simp [hp, Ne.symm hp]
  refine ⟨fun hash ent' hl => ?_, fun time hash => ?_, fun peer hash => ?_, fun peer => ?_⟩
  · have hold := h.hash hash ent'
    simp only [MessageStore.push, lookup_insert_eq] at hl
    grind
  · have hold := h.order time hash
    simp only [MessageStore.push, lookup_insert_eq]
    grind
  · have hold := h.senders peer hash
    rw [hh]
    simp only [MessageStore.push, lookup_insert_eq]
    grind
  · have hold := h.senders peer entry.hash
    have hn := h.nodup peer
    rw [hh]
    grind

lemma getBySender (peer : PeerId) :
    (s.getBySender peer).Nodup ∧ ∀ entry, entry ∈ s.getBySender peer ↔
      s.messages.lookup entry.hash = some entry ∧ entry.sender = some peer := by
  constructor
  · refine (h.nodup peer).filterMap fun hash hash' entry he he' => ?_
    exact (h.hash hash entry he).symm.trans (h.hash hash' entry he')
  · intro entry
    rw [MessageStore.getBySender, List.mem_filterMap]
    constructor
    · rintro ⟨hash, hmem, he⟩
      obtain ⟨ent', he', hs⟩ := (h.senders peer hash).mp hmem
      obtain rfl : ent' = entry := some.inj (he'.symm.trans he)
      exact ⟨(h.hash hash _ he).symm ▸ he, hs⟩
    · rintro ⟨he, hs⟩
      exact ⟨entry.hash, (h.senders peer _).mpr ⟨entry, he, hs⟩, he⟩

end Represents

lemma represents_empty (config : StoreConfig) : ({ config } : MessageStore M PeerId).Represents := by
  constructor <;> simp [hashesOf]

omit [DecidableEq PeerId] in
lemma len_le_of_lookup {s s' : MessageStore M PeerId}
    (h : ∀ hash entry, s'.messages.lookup hash = some entry → s.messages.lookup hash = some entry) :
    s'.len ≤ s.len := by
  refine card_le_card fun hash hmem => ?_
  obtain ⟨entry, he⟩ := (mem_keys_iff_lookup _ _).mp hmem
  exact (mem_keys_iff_lookup _ _).mpr ⟨entry, h hash entry he⟩

section Step

variable {s : MessageStore M PeerId} (h : s.Represents) (hmax : 1 ≤ s.config.maxMessages)
  (hlen : s.len ≤ s.config.maxMessages)

include h hlen

lemma sound_remove (hash : MessageHash) : s.Sound (.remove hash) := by
  have hs (s' : MessageStore M PeerId) (hst : s.remove hash = s') (h' : s'.Represents)
      (hle : s'.len ≤ s.len) : s.Sound (.remove hash) := by
    subst hst
    exact ⟨h', hle.trans hlen, h'.getBySender, nofun, nofun⟩
  rcases hl : s.messages.lookup hash with _ | entry
  · exact hs s (by rw [remove, hl]) h le_rfl
  refine hs _ (by rw [remove, hl]) (h.discard hl) (len_le_of_lookup fun hash' ent' he' => ?_)
  simp only [discard, hl, lookup_erase_eq] at he'
  grind

lemma sound_removeOlderThan (cut : ℤ) : s.Sound (.removeOlderThan cut) := by
  obtain ⟨h', -, hl⟩ := h.foldl_discardAt (s.times.filter (· < cut))
  refine ⟨h', (len_le_of_lookup fun hash entry he => ?_).trans hlen, h'.getBySender, nofun, nofun⟩
  exact ((hl hash entry).mp he).1

include hmax

lemma sound_insert {entry : MessageEntry M PeerId} (hf : s.Fits (.insert entry)) :
    s.Sound (.insert entry) := by
  obtain ⟨he, hc, hl⟩ := h.foldl_discardAt s.toEvict
  cases hnew : s.maybeEvict.messages.lookup entry.hash with
  | some old =>
    have hi : s.insert entry = (false, s.maybeEvict) := by simp [insert, hnew]
    rw [Fits, hi, if_neg Bool.false_ne_true] at hf
    have hse : s.maybeEvict = s := by rw [maybeEvict, toEvict, if_pos hf]; rfl
    have hs : s.step (.insert entry) = s := by rw [step, hi, hse]
    refine ⟨by rwa [hs], by rwa [hs], by rw [hs]; exact h.getBySender, ?_, fun _ _ _ => hs⟩
    intro _ _ gone kept hg _ _ hg'
    rw [hs, hg] at hg'
    cases hg'
  | none =>
    have hi : s.insert entry = (true, s.maybeEvict.push entry) := by simp [insert, hnew]
    rw [Fits, hi, if_pos rfl] at hf
    have hs : s.step (.insert entry) = s.maybeEvict.push entry := by rw [step, hi]
    have hp := he.push hnew hf.1 (hc ▸ hf.2)
    refine ⟨hs ▸ hp, ?_, fun peer => hs ▸ hp.getBySender peer, ?_, ?_⟩
    · have hr := h.len_maybeEvict_lt hmax hlen
      have hke : (s.maybeEvict.push entry).len ≤ s.maybeEvict.len + 1 := by
        show (s.maybeEvict.messages.insert entry.hash entry).keys.card ≤ _
        rw [keys_insert]
        exact card_insert_le _ _
      rw [hs]
      omega
    · rintro _ ⟨rfl⟩ gone kept hg hk hne hg' hk'
      rw [hs] at hg' hk'
      simp only [push, lookup_insert_eq] at hg' hk'
      apply h.oldest_maybeEvict hg hk
      · grind
      · rwa [if_neg hne] at hk'
    · rintro _ ⟨rfl⟩ hfa
      rw [hi] at hfa
      cases hfa

lemma sound_of_fits {op : Op M PeerId} (hf : s.Fits op) : s.Sound op := by
  cases op with
  | insert entry => exact sound_insert h hmax hlen hf
  | remove hash => exact sound_remove h hlen hash
  | removeOlderThan cut => exact sound_removeOlderThan h hlen cut
  | clear =>
    have he : ({ config := s.config } : MessageStore M PeerId).Represents := represents_empty _
    exact ⟨he, Nat.zero_le _, he.getBySender, nofun, nofun⟩
  | getBySender peer => exact ⟨h, hlen, h.getBySender, nofun, nofun⟩

end Step

lemma Represents.config_step {s : MessageStore M PeerId} (h : s.Represents) (op : Op M PeerId) :
    (s.step op).config = s.config := by
  cases op with
  | insert entry =>
    simp only [step, insert]
    split <;> exact (h.foldl_discardAt s.toEvict).2.1
  | remove hash =>
    simp only [step, remove]
    split
    · unfold MessageStore.discard
      split <;> rfl
    · rfl
  | removeOlderThan cut => exact (h.foldl_discardAt _).2.1
  | _ => rfl

/-- **The store keeps its word** in every run whose operations fit: no message comes at an instant
that the store has a message for, messages with a sender come to a store that indexes senders, and
no duplicate comes to a full store. -/
theorem each_sound_of_fits (config : StoreConfig) (hmax : 1 ≤ config.maxMessages) (ops : List (Op M PeerId))
    (h : Each step Fits { config } ops) : Each step Sound { config } ops := by
  have hrun (ops : List (Op M PeerId)) (s : MessageStore M PeerId) (hs : s.Represents) (hmax : 1 ≤ s.config.maxMessages)
      (hlen : s.len ≤ s.config.maxMessages) (h : Each step Fits s ops) : Each step Sound s ops := by
    induction ops generalizing s with
    | nil => trivial
    | cons op ops ih =>
      have hso := sound_of_fits hs hmax hlen h.1
      have hc := hs.config_step op
      exact ⟨hso, ih _ hso.represents (hc ▸ hmax) (hc ▸ hso.bounded) h.2⟩
  exact hrun ops _ (represents_empty config) hmax (Nat.zero_le _) h

abbrev plainMessage (n : UInt8) (receivedAt : ℤ) : MessageEntry Unit ℕ :=
  ⟨(), Vector.replicate 32 n, none, receivedAt, false⟩

theorem two_instants_sound : Each step Sound { config := {} }
      [.insert (plainMessage 1 5), .insert (plainMessage 2 6), .removeOlderThan 6, .getBySender 0] :=
  each_sound_of_fits {} (by decide) _ ⟨⟨rfl, nofun⟩, ⟨rfl, nofun⟩, trivial, trivial, trivial⟩

theorem same_instant_overwritten :
    ¬ Each step Sound { config := {} } [.insert (plainMessage 1 5), .insert (plainMessage 2 5)] := by
  rintro ⟨-, h, -⟩
  have hm := (h.represents.order 5 (Vector.replicate 32 1)).mpr ⟨plainMessage 1 5, rfl, rfl⟩
  exact absurd hm (by decide)

end MessageStore

end Gadget.GossipPrimitives
