import Gadget.Lib.Run
import Gadget.Rust.Control
import Gadget.Rust.Int
import Gadget.Rust.LruCache

/-!
# Deduplication of gossiped messages

`DeduplicationCache` remembers the hashes of the messages seen lately: a bounded cache with
a time to live. Instants and durations are nanoseconds; the reading of the clock is an
argument. `mark_seen` on a hash that still has an entry leaves its time as it is, so a hash is held
back for the time to live after its first marking and not after its last.
-/

namespace Gadget.GossipPrimitives

open Rust Lib.Run Option Function

abbrev MessageHash := Vector UInt8 32

class Hashing where
  blake3_256 : Bytes → MessageHash

structure CacheEntry where
  firstSeen : ℕ
  seenCount : ℕ

structure DeduplicationCache where
  cache : LruCache MessageHash CacheEntry
  ttl : ℕ

namespace DeduplicationCache

def new (capacity ttl : ℕ) : DeduplicationCache where
  cache := LruCache.new capacity
  ttl := ttl

def checkAndMark (c : DeduplicationCache) (hash : MessageHash) (now : ℕ) :
    Bool × DeduplicationCache :=
  match c.cache.peek hash with
  | some entry =>
    if now - entry.firstSeen > c.ttl then
      (true, { c with cache := c.cache.put hash ⟨now, 1⟩ })
    else
      let seenCount := min (entry.seenCount + 1) u32Max
      (false, { c with cache := c.cache.put hash ⟨entry.firstSeen, seenCount⟩ })
  | none => (true, { c with cache := c.cache.put hash ⟨now, 1⟩ })

section

variable (c : DeduplicationCache) (hash : MessageHash) (now : ℕ)

def shouldProcess : Bool × DeduplicationCache :=
  match c.cache.peek hash with
  | some entry =>
    if now - entry.firstSeen > c.ttl then (true, { c with cache := c.cache.pop hash })
    -- `get` promotes the entry
    else (false, { c with cache := c.cache.put hash entry })
  | none => (true, c)

def markSeen : DeduplicationCache :=
  match c.cache.peek hash with
  | some entry =>
    { c with cache := c.cache.put hash ⟨entry.firstSeen, min (entry.seenCount + 1) u32Max⟩ }
  | none => { c with cache := c.cache.put hash ⟨now, 1⟩ }

def gc : DeduplicationCache :=
  { c with cache := c.cache.retain fun e => !decide (now - e.2.firstSeen > c.ttl) }

def clear : DeduplicationCache := { c with cache := c.cache.retain fun _ => false }

def processAndMark : Bool × DeduplicationCache :=
  match c.shouldProcess hash now with
  | (true, c) => (true, c.markSeen hash now)
  | (false, c) => (false, c)

end

inductive Op
  | shouldProcess (hash : MessageHash)
  | markSeen (hash : MessageHash)
  | checkAndMark (hash : MessageHash)
  | gc
  | clear

def perform (c : DeduplicationCache) (now : ℕ) : Op → Option Bool × DeduplicationCache
  | .shouldProcess hash => (c.shouldProcess hash now).map some id
  | .markSeen hash => (none, c.markSeen hash now)
  | .checkAndMark hash => (c.checkAndMark hash now).map some id
  | .gc => (none, c.gc now)
  | .clear => (none, c.clear)

def answers : DeduplicationCache → List (ℕ × Op) → List (Option Bool)
  | _, [] => []
  | c, (now, op) :: ops => (c.perform now op).1 :: answers (c.perform now op).2 ops

def times (c : DeduplicationCache) : List (MessageHash × ℕ) :=
  c.cache.entries.map fun e => (e.1, e.2.firstSeen)

structure Alike (c c' : DeduplicationCache) : Prop where
  ttl : c.ttl = c'.ttl
  capacity : c.cache.capacity = c'.cache.capacity
  times : c.times = c'.times

variable {c c' : DeduplicationCache}

lemma mem_times {hash : MessageHash} {first : ℕ} :
    (hash, first) ∈ c.times ↔ ∃ e, c.cache.peek hash = some e ∧ e.firstSeen = first := by
  simp [DeduplicationCache.times, LruCache.peek_eq_some]

lemma Alike.peek (h : Alike c c') (hash : MessageHash) :
    (c.cache.peek hash = none ∧ c'.cache.peek hash = none) ∨
    ∃ e e', c.cache.peek hash = some e ∧ c'.cache.peek hash = some e' ∧ e.firstSeen = e'.firstSeen := by
  rcases hc : c.cache.peek hash with _ | e
  · refine .inl ⟨rfl, eq_none_iff_forall_ne_some.mpr fun e' hc' => ?_⟩
    obtain ⟨e, he, -⟩ := mem_times.mp (h.times ▸ mem_times.mpr ⟨e', hc', rfl⟩)
    rw [hc] at he
    cases he
  · obtain ⟨e', hc', he⟩ := mem_times.mp (h.times ▸ mem_times.mpr ⟨e, hc, rfl⟩)
    exact .inr ⟨e, e', rfl, hc', he.symm⟩

lemma Alike.put (h : Alike c c') (hash : MessageHash) {e e' : CacheEntry} (he : e.firstSeen = e'.firstSeen) :
    Alike { c with cache := c.cache.put hash e } { c' with cache := c'.cache.put hash e' } := by
  have ht (c : DeduplicationCache) (e : CacheEntry) : ({ c with cache := c.cache.put hash e } : DeduplicationCache).times
      = ((hash, e.firstSeen) :: c.times.filter fun e => e.1 ≠ hash).take c.cache.capacity := by
    simp [DeduplicationCache.times, LruCache.put, List.map_take, List.filter_map, comp_def]
  exact ⟨h.ttl, h.capacity, by rw [ht, ht, h.times, h.capacity, he]⟩

lemma Alike.retain (h : Alike c c') (p : MessageHash → ℕ → Bool) :
    Alike { c with cache := c.cache.retain fun e => p e.1 e.2.firstSeen }
      { c' with cache := c'.cache.retain fun e => p e.1 e.2.firstSeen } := by
  have ht (c : DeduplicationCache) :
      ({ c with cache := c.cache.retain fun e => p e.1 e.2.firstSeen } : DeduplicationCache).times
        = c.times.filter fun e => p e.1 e.2 := by
    simp [DeduplicationCache.times, LruCache.retain, List.filter_map, comp_def]
  exact ⟨h.ttl, h.capacity, by rw [ht, ht, h.times]⟩

lemma Alike.perform (h : Alike c c') (now : ℕ) (op : Op) :
    (c.perform now op).1 = (c'.perform now op).1 ∧ Alike (c.perform now op).2 (c'.perform now op).2 := by
  obtain ⟨cache, ttl⟩ := c
  obtain ⟨cache', ttl'⟩ := c'
  obtain rfl : ttl = ttl' := h.ttl
  cases op with
  | gc => exact ⟨rfl, h.retain fun _ first => !decide (now - first > ttl)⟩
  | clear => exact ⟨rfl, h.retain fun _ _ => false⟩
  | shouldProcess hash =>
    rcases h.peek hash with ⟨h1, h2⟩ | ⟨e, e', h1, h2, he⟩ <;>
      simp only [DeduplicationCache.perform, DeduplicationCache.shouldProcess, h1, h2]
    · exact ⟨rfl, h⟩
    · rw [he]
      split
      · exact ⟨rfl, h.retain fun k _ => k ≠ hash⟩
      · exact ⟨rfl, h.put hash he⟩
  | markSeen hash =>
    rcases h.peek hash with ⟨h1, h2⟩ | ⟨e, e', h1, h2, he⟩ <;>
      simp only [DeduplicationCache.perform, DeduplicationCache.markSeen, h1, h2]
    · exact ⟨trivial, h.put hash rfl⟩
    · exact ⟨trivial, h.put hash he⟩
  | checkAndMark hash =>
    rcases h.peek hash with ⟨h1, h2⟩ | ⟨e, e', h1, h2, he⟩ <;>
      simp only [DeduplicationCache.perform, DeduplicationCache.checkAndMark, h1, h2]
    · exact ⟨rfl, h.put hash rfl⟩
    · rw [he]
      split <;> exact ⟨rfl, h.put hash rfl⟩

lemma Alike.answers (h : Alike c c') (ops : List (ℕ × Op)) : c.answers ops = c'.answers ops := by
  induction ops generalizing c c' with
  | nil => rfl
  | cons e ops ih =>
    obtain ⟨ha, hn⟩ := h.perform e.1 e.2
    rw [answers, answers, ha, ih hn]

lemma processAndMark_alike (c : DeduplicationCache) (hash : MessageHash) (now : ℕ) :
    (c.processAndMark hash now).1 = (c.checkAndMark hash now).1 ∧
      Alike (c.processAndMark hash now).2 (c.checkAndMark hash now).2 := by
  unfold processAndMark shouldProcess checkAndMark
  rcases hp : c.cache.peek hash with _ | e
  · simp only [markSeen, hp]
    exact ⟨trivial, rfl, rfl, rfl⟩
  dsimp only
  by_cases he : now - e.firstSeen > c.ttl
  · have hpop : (c.cache.pop hash).peek hash = none := by simp [LruCache.pop, LruCache.peek_retain, hp]
    simp only [if_pos he, markSeen, hpop]
    refine ⟨trivial, rfl, rfl, ?_⟩
    simp [DeduplicationCache.times, LruCache.put, LruCache.pop, LruCache.retain]
  · simp only [if_neg he]
    exact ⟨trivial, Alike.put ⟨rfl, rfl, rfl⟩ hash rfl⟩

structure Tracked where
  cache : DeduplicationCache
  now : ℕ
  marked : MessageHash → Option ℕ

namespace Tracked

def new (capacity ttl : ℕ) : Tracked := ⟨.new capacity ttl, 0, fun _ => none⟩

variable (s : Tracked) (e : ℕ × Op)

def step : Tracked :=
  let now := s.now + e.1
  let after := s.cache.perform now e.2
  let kept hash :=
    if (s.cache.cache.peek hash).isSome ∧ after.2.cache.peek hash = none then none else s.marked hash
  { cache := after.2
    now := now
    marked :=
      match e.2 with
      | .markSeen hash => Function.update kept hash (some now)
      | .checkAndMark hash => if after.1 = some true then Function.update kept hash (some now) else kept
      | .clear => fun _ => none
      | .shouldProcess _ | .gc => s.marked }

def Lawful : Prop :=
  ∀ hash t, s.marked hash = some t → ∀ later, s.now ≤ later →
    (s.cache.shouldProcess hash later).1 = decide (t + s.cache.ttl < later)

def Refreshes : Prop :=
  ∀ hash entry, e.2 = .markSeen hash → s.cache.cache.peek hash = some entry → entry.firstSeen = s.now + e.1

def answer (ttl later : ℕ) (entry : Option CacheEntry) : Bool :=
  entry.all fun entry => decide (entry.firstSeen + ttl < later)

lemma shouldProcess_fst (c : DeduplicationCache) (hash : MessageHash) (later : ℕ) :
    (c.shouldProcess hash later).1 = answer c.ttl later (c.cache.peek hash) := by
  unfold shouldProcess answer
  rcases c.cache.peek hash with _ | entry
  · rfl
  · dsimp only
    split <;> simp <;> omega

inductive Outcome (s s' : Tracked) (e : ℕ × Op) (hash : MessageHash) : Prop
  | lost (hm : s'.marked hash = none)
  | stays (hm : s'.marked hash = s.marked hash) (ha : ∀ later, s'.now ≤ later →
      answer s.cache.ttl later (s'.cache.cache.peek hash) = answer s.cache.ttl later (s.cache.cache.peek hash))
  | marks (entry : CacheEntry) (hm : s'.marked hash = some s'.now)
      (hp : s'.cache.cache.peek hash = some entry) (hn : entry.firstSeen = s'.now)
  | bumps (entry entry' : CacheEntry) (he : e.2 = .markSeen hash) (hm : s'.marked hash = some s'.now)
      (hp : s.cache.cache.peek hash = some entry) (hp' : s'.cache.cache.peek hash = some entry')
      (hs : entry'.firstSeen = entry.firstSeen)

lemma Outcome.of_put {s s' : Tracked} {e : ℕ × Op} {hash k : MessageHash} (hne : hash ≠ k) {entry : CacheEntry}
    (hc : s'.cache.cache = s.cache.cache.put k entry)
    (hm : s'.marked hash = if (s.cache.cache.peek hash).isSome ∧ s'.cache.cache.peek hash = none then none
      else s.marked hash) : Outcome s s' e hash := by
  split at hm
  · exact .lost hm
  rename_i hk
  refine .stays hm fun later _ => ?_
  rw [hc] at hk ⊢
  rcases LruCache.peek_put_of_ne hne with hp | hp
  · rw [hp]
  · rcases hq : s.cache.cache.peek hash with _ | entry'
    · rw [hp]
    · exact absurd ⟨hq ▸ rfl, hp⟩ hk

lemma step_markSeen {s : Tracked} {hash : MessageHash} {entry : CacheEntry}
    (hp : s.cache.cache.peek hash = some entry) (d : ℕ) :
    (s.step (d, .markSeen hash)).marked hash = some (s.now + d) ∧
      (s.step (d, .markSeen hash)).cache.cache.peek hash
        = some ⟨entry.firstSeen, min (entry.seenCount + 1) u32Max⟩ := by
  refine ⟨by simp [step], ?_⟩
  simp only [step, perform, markSeen, hp]
  exact LruCache.peek_put_self

lemma outcome_step (hash : MessageHash) : Outcome s (s.step e) e hash := by
  obtain ⟨d, op⟩ := e
  cases op with
  | clear => exact .lost rfl
  | gc =>
    refine .stays rfl fun later hl => ?_
    have hp : (s.step (d, .gc)).cache.cache.peek hash = (s.cache.cache.peek hash).filter fun entry =>
        !decide (s.now + d - entry.firstSeen > s.cache.ttl) := LruCache.peek_retain _
    rw [hp]
    rcases s.cache.cache.peek hash with _ | entry
    · rfl
    simp only [filter_some]
    split
    · rfl
    rename_i hx
    simp only [step] at hl
    simp [answer] at hx ⊢
    omega
  | shouldProcess k =>
    refine .stays rfl fun later hl => ?_
    simp only [step, perform, shouldProcess] at hl ⊢
    rcases hp : s.cache.cache.peek k with _ | entry
    · rfl
    dsimp only
    by_cases hx : s.now + d - entry.firstSeen > s.cache.ttl
    · rw [if_pos hx]
      have hq : (s.cache.cache.pop k).peek hash = (s.cache.cache.peek hash).filter fun _ => hash ≠ k :=
        LruCache.peek_retain _
      simp only [Prod.map, id, hq]
      by_cases hk : hash = k
      · subst hk
        simp [hp, answer]
        omega
      · simp only [ne_eq, hk, not_false_eq_true, decide_true]
        cases s.cache.cache.peek hash <;> rfl
    · rw [if_neg hx]
      simp only [Prod.map, id]
      by_cases hk : hash = k
      · rw [hk, LruCache.peek_put_self, hp]
      · rw [LruCache.peek_put_of_peek hp hk]
  | markSeen k =>
    by_cases hk : hash = k
    · subst hk
      rcases hp : s.cache.cache.peek hash with _ | entry
      · refine .marks ⟨s.now + d, 1⟩ (by simp [step]) ?_ rfl
        simp only [step, perform, markSeen, hp]
        exact LruCache.peek_put_self
      · obtain ⟨hm, hp'⟩ := step_markSeen hp d
        exact .bumps entry _ rfl hm hp hp' rfl
    · obtain ⟨entry, hc⟩ : ∃ entry, (s.cache.markSeen k (s.now + d)).cache = s.cache.cache.put k entry := by
        unfold markSeen
        split <;> exact ⟨_, rfl⟩
      refine .of_put hk hc ?_
      simp only [step]
      exact update_of_ne hk _ _
  | checkAndMark k =>
    by_cases hk : hash = k
    · subst hk
      rcases hp : s.cache.cache.peek hash with _ | entry
      · refine .marks ⟨s.now + d, 1⟩ ?_ ?_ rfl <;> simp only [step, perform, checkAndMark, hp, Prod.map, id]
        · simp
        · exact LruCache.peek_put_self
      by_cases hx : s.now + d - entry.firstSeen > s.cache.ttl
      · refine .marks ⟨s.now + d, 1⟩ ?_ ?_ rfl <;>
          simp only [step, perform, checkAndMark, hp, if_pos hx, Prod.map, id]
        · simp
        · exact LruCache.peek_put_self
      · refine .stays ?_ fun later _ => ?_ <;>
          simp only [step, perform, checkAndMark, hp, if_neg hx, Prod.map, id]
        · simp [LruCache.peek_put_self]
        · rw [LruCache.peek_put_self]
          rfl
    · obtain ⟨entry, hc⟩ : ∃ entry, (s.cache.checkAndMark k (s.now + d)).2.cache = s.cache.cache.put k entry := by
        unfold checkAndMark
        split
        · dsimp only
          split <;> exact ⟨_, rfl⟩
        · exact ⟨_, rfl⟩
      refine .of_put hk hc ?_
      simp only [step]
      split
      · rw [update_of_ne hk]
      · rfl

lemma step_ttl : (s.step e).cache.ttl = s.cache.ttl := by
  obtain ⟨d, op⟩ := e
  cases op <;> simp only [step, perform, shouldProcess, markSeen, checkAndMark, gc, clear, Prod.map, id] <;>
    repeat' (first | rfl | split)

lemma lawful_step_iff {s : Tracked} (hs : s.Lawful) (e : ℕ × Op) : (s.step e).Lawful ↔ s.Refreshes e := by
  constructor
  · rintro h hash entry he hp
    obtain ⟨d, op⟩ := e
    obtain rfl : op = .markSeen hash := he
    obtain ⟨hm, hp'⟩ := step_markSeen hp d
    have hlaw (later : ℕ) (hl : s.now + d ≤ later) :
        entry.firstSeen + s.cache.ttl < later ↔ s.now + d + s.cache.ttl < later := by
      have ha := h hash _ hm later hl
      rw [shouldProcess_fst, hp', step_ttl] at ha
      simpa [answer] using ha
    -- at the last time of the marking, and right after it
    have hlast := hlaw (s.now + d + s.cache.ttl) (by omega)
    have hnext := hlaw (s.now + d + s.cache.ttl + 1) (by omega)
    omega
  · intro h hash t hm later hl
    rw [shouldProcess_fst, step_ttl]
    have hnow : s.now ≤ (s.step e).now := Nat.le_add_right _ _
    rcases s.outcome_step e hash with hm' | ⟨hm', ha⟩ | ⟨entry, hm', hp, hn⟩ | ⟨entry, entry', he, hm', hp, hp', hf⟩
    · rw [hm'] at hm
      cases hm
    · rw [ha later hl, ← shouldProcess_fst]
      exact hs hash t (hm' ▸ hm) later (hnow.trans hl)
    · obtain rfl : (s.step e).now = t := some.inj (hm'.symm.trans hm)
      rw [hp, ← hn]
      rfl
    · obtain rfl : (s.step e).now = t := some.inj (hm'.symm.trans hm)
      have hn : entry'.firstSeen = (s.step e).now := hf.trans (h hash entry he hp)
      rw [hp', ← hn]
      rfl

/-- **Deduplication.** The pair `should_process`, `mark_seen` is `check_and_mark` to every later
caller, and markings are held for the time to live in those runs in which `mark_seen` never meets an
older entry. -/
theorem deduplicates_iff (capacity ttl : ℕ) (es : List (ℕ × Op)) :
    (∀ (c : DeduplicationCache) hash now ops,
      (c.processAndMark hash now).1 = (c.checkAndMark hash now).1 ∧
        (c.processAndMark hash now).2.answers ops = (c.checkAndMark hash now).2.answers ops) ∧
    (Always step Lawful (new capacity ttl) es ↔ Each step Refreshes (new capacity ttl) es) := by
  refine ⟨fun c hash now ops => ?_, ?_⟩
  · obtain ⟨ha, hc⟩ := processAndMark_alike c hash now
    exact ⟨ha, hc.answers ops⟩
  · exact always_iff_each (J := fun _ => True) (fun _ _ _ _ => trivial) (fun _ e _ hs => lawful_step_iff hs e)
      trivial (fun _ _ hm => by cases hm) es

/-- A message is marked at 0 and once more at 5, and its entry is in the cache. It is to be processed
again at 8, and the marking at 5 should have held it back until 12. -/
theorem second_marking_forgotten :
    let hash : MessageHash := Vector.replicate 32 0
    let s := [(0, Op.markSeen hash), (5, Op.markSeen hash)].foldl step (new 10 7)
    s.marked hash = some 5 ∧ (s.cache.cache.peek hash).isSome ∧ (s.cache.shouldProcess hash 8).1 = true := by
  decide +kernel

end Tracked

end DeduplicationCache

end Gadget.GossipPrimitives
