import Gadget.Lib.Labels
import Gadget.X402.DelegatedReplay

/-!
# Settled requests and their quotes

Any number of requests whose payment has been settled, in any order of their steps. A request
that its policy admits inserts a quote, consumes it, draws a call number and is sent to the
runner; each of these is one access to shared state. The collector of expired quotes runs beside
them and works through the registry one shard at a time.
-/

namespace Gadget.X402

open Rust Lib.Run Lib.Labels List HashMap

variable {D : Deps} {P : PayDeps D}

structure PaidRequest (D : Deps) where
  serviceId : ℕ
  jobIndex : ℕ
  body : Bytes
  attribution : PaymentAttribution D
  priceWei : ℕ
  caller : Option D.Address

def PaidRequest.quoteInput (r : PaidRequest D) (timestampNanos : ℕ) : Bytes :=
  toBeBytes 8 r.serviceId ++ toBeBytes 4 r.jobIndex ++ toBeBytes 32 r.priceWei
    ++ toBeBytes 16 timestampNanos

def PaidRequest.payment (gateway : X402Gateway D) (r : PaidRequest D) (digest : Bytes)
    (callId : ℕ) : VerifiedPayment D :=
  let (network, token) := resolvedPaymentMetadata gateway.config r.attribution
  ⟨r.serviceId, r.jobIndex, r.body, digest, network, token, callId, r.caller⟩

inductive PaidHandler (D : Deps) where
  | admitted (r : PaidRequest D)
  /-- `insert_dynamic` has returned. -/
  | quoted (r : PaidRequest D) (digest : Bytes)
  /-- `consume` has succeeded. -/
  | consumed (r : PaidRequest D) (digest : Bytes)
  | counted (r : PaidRequest D) (digest : Bytes) (callId : ℕ)
  | enqueued (r : PaidRequest D) (digest : Bytes) (callId : ℕ)
  | refused (r : PaidRequest D) (fault : Fault PolicyRejection)

namespace PaidHandler

def digest : PaidHandler D → Option Bytes
  | .admitted _ => none
  | .quoted _ d => some d
  | .consumed _ d => some d
  | .counted _ d _ => some d
  | .enqueued _ d _ => some d
  | .refused _ _ => none

def callId : PaidHandler D → Option ℕ
  | .counted _ _ c => some c
  | .enqueued _ _ c => some c
  | _ => none

def answer : PaidHandler D → Option (Outcome PolicyRejection EnqueuedReceipt)
  | .enqueued _ d c => some (.ok ⟨c, hexEncode d⟩)
  | .refused _ fault => some (.error fault)
  | _ => none

end PaidHandler

structure PaidGate (D : Deps) where
  seen : SeenNonces
  quotes : QuoteRegistry
  callIdCounter : ℕ
  sent : List (ℕ × VerifiedPayment D)
  closed : Bool
  handlers : HashMap ℕ (PaidHandler D)
  made : List Bytes
  drawn : ℕ

inductive PaidEvent (D : Deps) where
  | arrive (id : ℕ) (authEnv : AuthEnv D) (serviceId jobIndex : ℕ) (body : Bytes)
      (headers : HeaderMap) (attribution : PaymentAttribution D) (protocol : PaymentProtocol)
  | insert (id : ℕ) (env : EnqueueEnv)
  | consume (id : ℕ) (env : EnqueueEnv)
  | count (id : ℕ)
  | send (id : ℕ)
  /-- `gc`, which read the clock before, reaches a shard. -/
  | gc (now : ℤ) (shard : Bytes → Bool)
  | close

namespace PaidGate

def start : PaidGate D := ⟨∅, ∅, 1, [], false, ∅, [], 0⟩

variable (g : PaidGate D)

def put (id : ℕ) (h : PaidHandler D) : PaidGate D :=
  { g with handlers := g.handlers.insert id h }

def gcShard (quotes : QuoteRegistry) (now : ℤ) (shard : Bytes → Bool) : QuoteRegistry :=
  HashMap.retain quotes fun digest entry =>
    !shard digest || (!entry.consumed && decide (entry.expiresAt > now))

def insertQuote (P : PayDeps D) (gateway : X402Gateway D) (g : PaidGate D) (id : ℕ)
    (env : EnqueueEnv) (r : PaidRequest D) : PaidGate D :=
  match insertDynamic P env g.quotes gateway.config.quoteTtlSecs r.serviceId r.jobIndex
      r.priceWei with
  -- the lifetime of the quote does not fit an `Instant`
  | .error message => g.put id (.refused r (.panicked message))
  | .ok (digest, quotes) =>
    { g with quotes := quotes, made := r.quoteInput env.timestampNanos :: g.made }.put id
      (.quoted r digest)

def consume (id : ℕ) (env : EnqueueEnv) (r : PaidRequest D) (digest : Bytes) : PaidGate D :=
  match consumeQuote env g.quotes digest with
  | none => g.put id (.refused r (.err (.conflict "quote_conflict"
      "quote already consumed or expired")))
  | some quotes => { g with quotes := quotes }.put id (.consumed r digest)

def draw (id : ℕ) (r : PaidRequest D) (digest : Bytes) : PaidGate D :=
  { g with callIdCounter := wrap64 (g.callIdCounter + 1), drawn := g.drawn + 1 }.put id
    (.counted r digest g.callIdCounter)

variable (gateway : X402Gateway D)

def enqueue (g : PaidGate D) (id : ℕ) (r : PaidRequest D)
    (digest : Bytes) (callId : ℕ) : PaidGate D :=
  if g.closed then
    g.put id (.refused r (.err (.serviceUnavailable "shutting_down" "service shutting down")))
  else
    { g with sent := g.sent ++ [(id, r.payment gateway digest callId)] }.put id
      (.enqueued r digest callId)

def step (P : PayDeps D) (gateway : X402Gateway D) (g : PaidGate D) : PaidEvent D → PaidGate D
  | .arrive id authEnv serviceId jobIndex body headers attribution protocol =>
    match g.handlers.lookup id with
    | some _ => g
    | none =>
      match admitCaller P authEnv gateway g.seen serviceId jobIndex body headers
          attribution.settledPayer protocol with
      -- refused before a quote is made; a nonce that was recorded stays recorded
      | (.error _, seen) => { g with seen := seen }
      | (.ok (priceWei, caller), seen) =>
        { g with seen := seen }.put id
          (.admitted ⟨serviceId, jobIndex, body, attribution, priceWei, caller⟩)
  | .insert id env =>
    match g.handlers.lookup id with
    | some (.admitted r) => g.insertQuote P gateway id env r
    | _ => g
  | .consume id env =>
    match g.handlers.lookup id with
    | some (.quoted r digest) => g.consume id env r digest
    | _ => g
  | .count id =>
    match g.handlers.lookup id with
    | some (.consumed r digest) => g.draw id r digest
    | _ => g
  | .send id =>
    match g.handlers.lookup id with
    | some (.counted r digest callId) => g.enqueue gateway id r digest callId
    | _ => g
  | .gc now shard => { g with quotes := gcShard g.quotes now shard }
  | .close => { g with closed := true }

def toPaidState : PaidState D :=
  ⟨g.seen, g.quotes, g.callIdCounter, g.sent.map Prod.snd, g.closed⟩

section Step

variable {gateway : X402Gateway D} {g : PaidGate D} {id : ℕ} {r : PaidRequest D} {d : Bytes}
  {env : EnqueueEnv}

lemma step_insert (h : g.handlers.lookup id = some (.admitted r)) :
    g.step P gateway (.insert id env) = g.insertQuote P gateway id env r := by
  simp [step, h]

lemma step_consume (h : g.handlers.lookup id = some (.quoted r d)) :
    g.step P gateway (.consume id env) = g.consume id env r d := by
  simp [step, h]

lemma lookup_put (h : PaidHandler D) : (g.put id h).handlers.lookup id = some h :=
  Finmap.lookup_insert _

lemma foldl_step_refused {fault : Fault PolicyRejection}
    (h : g.handlers.lookup id = some (.refused r fault)) :
    [.consume id env, .count id, .send id].foldl (step P gateway) g = g := by
  simp [step, h]

/-- A paid request that no other disturbs is `enqueuePaid`. -/
theorem foldl_step_alone (h : g.handlers.lookup id = some (.admitted r)) :
    let g' := [.insert id env, .consume id env, .count id, .send id].foldl (step P gateway) g
    let result := enqueuePaid P env gateway g.toPaidState r.serviceId r.jobIndex r.body
      r.attribution r.priceWei r.caller
    (g'.handlers.lookup id).bind PaidHandler.answer = some result.1 ∧
      g'.toPaidState = result.2 := by
  rw [foldl_cons, step_insert h, insertQuote, enqueuePaid, toPaidState]
  rcases insertDynamic P env g.quotes gateway.config.quoteTtlSecs r.serviceId r.jobIndex
      r.priceWei with msg | inserted
  · simp only
    rw [foldl_step_refused (lookup_put _), lookup_put]
    exact ⟨rfl, rfl⟩
  obtain ⟨digest, quotes⟩ := inserted
  rw [foldl_cons, step_consume (lookup_put _), consume]
  simp only [put]
  rcases consumeQuote env quotes digest with _ | quotes'
  · simp only [foldl_cons, foldl_nil, step, Finmap.lookup_insert]
    exact ⟨rfl, rfl⟩
  simp only [foldl_cons, foldl_nil, step, Finmap.lookup_insert, draw, put, enqueue]
  by_cases hc : g.closed = true
  · simp [hc, PaidHandler.answer, toPaidState]
  · simp [hc, PaidHandler.answer, PaidRequest.payment, toPaidState]

end Step

/-- Every admitted request that was answered has sent exactly its own payment, the others have
sent nothing yet, and no two payments share a call number or a quote. -/
structure ExactlyOnce (gateway : X402Gateway D) (g : PaidGate D) : Prop where
  answered : ∀ id h answer, g.handlers.lookup id = some h → h.answer = some answer →
    ∃ r d c, h = .enqueued r d c ∧ g.sent.filter (fun e => e.1 = id) = [(id, r.payment gateway d c)]
  unanswered : ∀ id h, g.handlers.lookup id = some h → h.answer = none →
    g.sent.filter (fun e => e.1 = id) = []
  callIds : (g.sent.map fun e => e.2.callId).Nodup
  digests : (g.sent.map fun e => e.2.quoteDigest).Nodup

/-- The condition on a step: the lifetime of a new quote fits an instant and no quote was made of
the same job, price and reading, a quote is consumed in its lifetime and not collected before, fewer
than `2 ^ 64` call numbers were drawn, and the runner listens. -/
def Orderly (g : PaidGate D) : PaidEvent D → Prop
  | .insert id env => ∀ r, g.handlers.lookup id = some (.admitted r) →
      (checkedAdd env.insertedAt (gateway.config.quoteTtlSecs * 10 ^ 9)).isSome ∧
      r.quoteInput env.timestampNanos ∉ g.made
  | .consume id env => ∀ r d entry, g.handlers.lookup id = some (.quoted r d) →
      g.quotes.lookup d = some entry → env.consumedAt ≤ entry.expiresAt
  | .count _ => g.drawn < 2 ^ 64
  | .send _ => g.closed = false
  | .gc now shard => ∀ id r d entry, g.handlers.lookup id = some (.quoted r d) →
      g.quotes.lookup d = some entry → shard d = true → now < entry.expiresAt
  | _ => True

/-- What orderly steps keep: call numbers and quotes are those of one handler each, a quote that
waits to be consumed is in the registry, and what was sent is what the finished handlers say. -/
structure Sound (P : PayDeps D) (gateway : X402Gateway D) (g : PaidGate D) : Prop where
  counter : g.callIdCounter = wrap64 (1 + g.drawn)
  drawn : ∀ id h c, g.handlers.lookup id = some h → h.callId = some c →
    ∃ k < g.drawn, c = wrap64 (1 + k)
  calls : Labelled PaidHandler.callId g.handlers
  made : ∀ id h d, g.handlers.lookup id = some h → h.digest = some d →
    ∃ input ∈ g.made, d = P.keccak256 input
  digests : Labelled PaidHandler.digest g.handlers
  live : ∀ id r d, g.handlers.lookup id = some (.quoted r d) →
    ∃ entry, g.quotes.lookup d = some entry ∧ entry.consumed = false
  sent : ∀ id p, (id, p) ∈ g.sent ↔
    ∃ r d c, g.handlers.lookup id = some (.enqueued r d c) ∧ p = r.payment gateway d c
  once : (g.sent.map Prod.fst).Nodup
  kept : ∀ id r fault, g.handlers.lookup id ≠ some (.refused r fault)

lemma sound_start : Sound P gateway (start : PaidGate D) where
  counter := rfl
  drawn id h c hl := by simp [start] at hl
  calls id id' h h' a hl := by simp [start] at hl
  made id h d hl := by simp [start] at hl
  digests id id' h h' a hl := by simp [start] at hl
  live id r d hl := by simp [start] at hl
  sent id p := by simp [start]
  once := nodup_nil
  kept id r fault := by simp [start]

section Sound

variable {gateway : X402Gateway D} {g : PaidGate D}

lemma Sound.nodup_label {α : Type} {label : PaidHandler D → Option α}
    {read : VerifiedPayment D → α} (hg : g.Sound P gateway) (hl : Labelled label g.handlers)
    (hr : ∀ (r : PaidRequest D) d c,
      label (.enqueued r d c) = some (read (r.payment gateway d c))) :
    (g.sent.map fun e => read e.2).Nodup := by
  have hk : g.sent.Pairwise fun a b => a.1 ≠ b.1 := pairwise_map.mp hg.once
  refine pairwise_map.mpr (hk.imp_of_mem fun {a b} ha hb hne heq => hne ?_)
  obtain ⟨r, d, c, hla, hpa⟩ := (hg.sent a.1 a.2).mp ha
  obtain ⟨r', d', c', hlb, hpb⟩ := (hg.sent b.1 b.2).mp hb
  refine hl a.1 b.1 _ _ (read a.2) hla hlb ?_ ?_
  · rw [hr, hpa]
  · rw [hr, heq, hpb]

lemma Sound.exactlyOnce (hg : g.Sound P gateway) : g.ExactlyOnce gateway where
  answered id h answer hl hanswer := by
    cases h with
    | enqueued r d c =>
      exact ⟨r, d, c, rfl, filter_key_eq hg.once ((hg.sent id _).mpr ⟨r, d, c, hl, rfl⟩)⟩
    | refused r fault => exact absurd hl (hg.kept id r fault)
    | _ => cases hanswer
  unanswered id h hl hanswer := by
    rw [filter_eq_nil_iff]
    rintro ⟨id', p⟩ hmem heq
    have hid : id' = id := of_decide_eq_true heq
    obtain ⟨r, d, c, hl', -⟩ := (hg.sent id' p).mp hmem
    rw [hid, hl] at hl'
    cases hl'
    cases hanswer
  callIds := hg.nodup_label hg.calls fun _ _ _ => rfl
  digests := hg.nodup_label hg.digests fun _ _ _ => rfl

variable {id : ℕ} {r : PaidRequest D}

lemma Sound.put {h : PaidHandler D} (hg : g.Sound P gateway) (ho : h.answer = none)
    (hb : ∀ r d c, g.handlers.lookup id ≠ some (.enqueued r d c))
    (hca : ∀ c, h.callId = some c → ∃ k < g.drawn, c = wrap64 (1 + k))
    (hc : Labelled PaidHandler.callId (g.handlers.insert id h))
    (hm : ∀ d, h.digest = some d → ∃ input ∈ g.made, d = P.keccak256 input)
    (hd : Labelled PaidHandler.digest (g.handlers.insert id h))
    (hli : ∀ r d, h = .quoted r d → ∃ entry, g.quotes.lookup d = some entry ∧
      entry.consumed = false) :
    (g.put id h).Sound P gateway where
  counter := hg.counter
  drawn := forall_label_insert hg.drawn hca
  calls := hc
  made := forall_label_insert hg.made hm
  digests := hd
  live id' r d hl := by
    rcases lookup_insert_cases hl with ⟨-, rfl⟩ | hl
    · exact hli r d rfl
    · exact hg.live id' r d hl
  sent id' p := by
    rw [PaidGate.put, hg.sent]
    simp only [lookup_insert_eq]
    by_cases hid : id' = id
    · subst hid
      rw [if_pos rfl]
      constructor
      · rintro ⟨r, d, c, hl, -⟩
        exact absurd hl (hb r d c)
      · rintro ⟨r, d, c, hl, -⟩
        cases hl
        cases ho
    · rw [if_neg hid]
  once := hg.once
  kept id' r fault := by
    rw [PaidGate.put, lookup_insert_eq]
    split
    · intro hl
      cases hl
      cases ho
    · exact hg.kept id' r fault

lemma Sound.withQuotes {quotes : QuoteRegistry} (hg : g.Sound P gateway)
    (hl : ∀ id r d, g.handlers.lookup id = some (.quoted r d) →
      ∃ entry, quotes.lookup d = some entry ∧ entry.consumed = false) :
    Sound P gateway { g with quotes := quotes } :=
  { hg with live := hl }

lemma Sound.arrive (hg : g.Sound P gateway) (hn : g.handlers.lookup id = none)
    (seen : SeenNonces) (r : PaidRequest D) :
    Sound P gateway ({ g with seen := seen }.put id (.admitted r)) := by
  have hs : Sound P gateway { g with seen := seen } := { hg with }
  refine hs.put rfl ?_ nofun (hg.calls.insert_none rfl)
    nofun (hg.digests.insert_none rfl) nofun
  intro r d c hl
  rw [hn] at hl
  cases hl

lemma Sound.insertQuote {env : EnqueueEnv} (hP : Function.Injective P.keccak256)
    (hg : g.Sound P gateway) (hl : g.handlers.lookup id = some (.admitted r))
    (hfi : (checkedAdd env.insertedAt (gateway.config.quoteTtlSecs * 10 ^ 9)).isSome)
    (hf : r.quoteInput env.timestampNanos ∉ g.made) :
    (g.insertQuote P gateway id env r).Sound P gateway := by
  obtain ⟨exp, hexp⟩ := Option.isSome_iff_exists.mp hfi
  have hi : g.insertQuote P gateway id env r = { g with
        quotes := g.quotes.insert (P.keccak256 (r.quoteInput env.timestampNanos))
          ⟨r.serviceId, r.jobIndex, r.priceWei, exp, false⟩
        made := r.quoteInput env.timestampNanos :: g.made }.put id
      (.quoted r (P.keccak256 (r.quoteInput env.timestampNanos))) := by
    simp only [PaidGate.insertQuote, insertDynamic, hexp]
    rfl
  rw [hi]
  refine Sound.put ?_ rfl ?_ nofun (hg.calls.insert_none rfl) ?_ ?_ ?_
  · refine { hg with made := ?_, live := ?_ }
    · intro id' h d hl' hd
      obtain ⟨input, hmem, heq⟩ := hg.made id' h d hl' hd
      exact ⟨input, mem_cons_of_mem _ hmem, heq⟩
    · intro id' r' d hl'
      simp only [lookup_insert_eq]
      split
      · exact ⟨_, rfl, rfl⟩
      · exact hg.live id' r' d hl'
  · intro r' d c hl'
    rw [hl] at hl'
    cases hl'
  · intro d hd
    cases hd
    exact ⟨_, mem_cons_self, rfl⟩
  · -- the digest of another handler was made of earlier bytes
    refine hg.digests.insert fun d hd id' h' hl' hd' => ?_
    cases hd
    obtain ⟨input, hmem, heq⟩ := hg.made id' h' _ hl' hd'
    exact absurd (hP heq ▸ hmem) hf
  · intro r' d hq
    cases hq
    exact ⟨_, Finmap.lookup_insert _, rfl⟩

section

variable (hg : g.Sound P gateway)

include hg

lemma Sound.consume {d : Bytes} {env : EnqueueEnv} (hl : g.handlers.lookup id = some (.quoted r d))
    (hli : ∀ entry, g.quotes.lookup d = some entry → env.consumedAt ≤ entry.expiresAt) :
    (g.consume id env r d).Sound P gateway := by
  obtain ⟨entry, he, ho⟩ := hg.live id r d hl
  have hco : g.consume id env r d = { g.put id (.consumed r d) with
        quotes := g.quotes.insert d { entry with consumed := true } } := by
    have hnot : ¬ (entry.expiresAt < env.consumedAt ∨ entry.consumed = true) := by
      rintro (h | h)
      · exact absurd (hli entry he) (not_le.mpr h)
      · rw [ho] at h
        cases h
    simp only [PaidGate.consume, consumeQuote, he]
    rw [if_neg hnot]
    rfl
  have hput : (g.put id (.consumed r d)).Sound P gateway := by
    refine hg.put rfl ?_ nofun (hg.calls.insert_none rfl)
      (fun d' hd => ?_) (hg.digests.insert_same hl rfl) nofun
    · intro r' d' c hl'
      rw [hl] at hl'
      cases hl'
    · exact hg.made id (.quoted r d) d' hl hd
  rw [hco]
  refine hput.withQuotes fun id' r' d' hl' => ?_
  have hne : d' ≠ d := by
    rintro rfl
    rw [PaidGate.put, lookup_insert_eq] at hl'
    split at hl'
    · cases hl'
    · next hid => exact hid (hg.digests id' id _ _ d' hl' hl rfl rfl)
  rw [lookup_insert_eq, if_neg hne]
  exact hput.live id' r' d' hl'

lemma Sound.draw {d : Bytes} (hl : g.handlers.lookup id = some (.consumed r d))
    (hdr : g.drawn < 2 ^ 64) : (g.draw id r d).Sound P gateway := by
  refine Sound.put ?_ rfl ?_ ?_ ?_ (fun d' hd => ?_) (hg.digests.insert_same hl rfl)
    nofun
  · refine { hg with counter := ?_, drawn := ?_ }
    · simp only [hg.counter, wrap64]
      omega
    · intro id' h c hl' hc
      obtain ⟨k, hk, heq⟩ := hg.drawn id' h c hl' hc
      exact ⟨k, Nat.lt_succ_of_lt hk, heq⟩
  · intro r' d' c hl'
    rw [hl] at hl'
    cases hl'
  · intro c hc
    cases hc
    exact ⟨g.drawn, Nat.lt_succ_self _, hg.counter⟩
  · refine hg.calls.insert fun c hc id' h' hl' hc' => ?_
    cases hc
    obtain ⟨k, hk, heq⟩ := hg.drawn id' h' _ hl' hc'
    rw [hg.counter] at heq
    simp only [wrap64] at heq
    omega
  · exact hg.made id (.consumed r d) d' hl hd

lemma Sound.enqueue {d : Bytes} {c : ℕ} (hl : g.handlers.lookup id = some (.counted r d c))
    (ho : g.closed = false) : (g.enqueue gateway id r d c).Sound P gateway := by
  have hnew : id ∉ g.sent.map Prod.fst := by
    intro hmem
    obtain ⟨⟨id', p⟩, hp, rfl⟩ := mem_map.mp hmem
    obtain ⟨r', d', c', hl', -⟩ := (hg.sent _ _).mp hp
    rw [hl] at hl'
    cases hl'
  rw [PaidGate.enqueue, if_neg (by rw [ho]; exact Bool.false_ne_true)]
  exact {
    counter := hg.counter
    drawn := forall_label_insert hg.drawn fun c' hc => hg.drawn id (.counted r d c) c' hl hc
    calls := hg.calls.insert_same hl rfl
    made := forall_label_insert hg.made fun d' hd => hg.made id (.counted r d c) d' hl hd
    digests := hg.digests.insert_same hl rfl
    live := by
      intro id' r' d' hl'
      rcases lookup_insert_cases hl' with ⟨-, ⟨⟩⟩ | hl'
      exact hg.live id' r' d' hl'
    sent := by
      intro id' p
      simp only [PaidGate.put, mem_append, mem_singleton, Prod.mk.injEq, hg.sent, lookup_insert_eq]
      by_cases hid : id' = id
      · subst hid
        rw [hl]
        constructor
        · rintro (⟨r', d', c', h, -⟩ | ⟨-, rfl⟩)
          · cases h
          · exact ⟨r, d, c, if_pos rfl, rfl⟩
        · rintro ⟨r', d', c', h, rfl⟩
          rw [if_pos rfl] at h
          cases h
          exact .inr ⟨rfl, rfl⟩
      · simp [hid]
    once := by
      simp only [PaidGate.put, map_append, map_cons, map_nil]
      refine nodup_append.mpr ⟨hg.once, nodup_singleton _, ?_⟩
      intro a ha b hb
      rw [mem_singleton.mp hb]
      exact fun heq => hnew (heq ▸ ha)
    kept := by
      intro id' r' fault
      rw [PaidGate.put, lookup_insert_eq]
      split
      · exact nofun
      · exact hg.kept id' r' fault }

lemma Sound.gc {now : ℤ} {shard : Bytes → Bool}
    (hli : ∀ id r d entry, g.handlers.lookup id = some (.quoted r d) →
      g.quotes.lookup d = some entry → shard d = true → now < entry.expiresAt) :
    Sound P gateway { g with quotes := gcShard g.quotes now shard } := by
  refine hg.withQuotes fun id r d hl => ?_
  obtain ⟨entry, he, ho⟩ := hg.live id r d hl
  refine ⟨entry, lookup_retain_eq_some.mpr ⟨he, ?_⟩, ho⟩
  rcases hs : shard d with _ | _
  · rfl
  simp [ho, hli id r d entry hl he hs]

end

lemma Sound.step (hP : Function.Injective P.keccak256) (hg : g.Sound P gateway)
    {e : PaidEvent D} (he : g.Orderly gateway e) : (g.step P gateway e).Sound P gateway := by
  cases e with
  | arrive id aenv serviceId job body headers attr proto =>
    simp only [PaidGate.step]
    split
    · exact hg
    next hn =>
    split
    · exact { hg with }
    · exact hg.arrive hn _ _
  | insert id env =>
    simp only [PaidGate.step]
    split
    · next r hl => exact hg.insertQuote hP hl (he r hl).1 (he r hl).2
    · exact hg
  | consume id env =>
    simp only [PaidGate.step]
    split
    · next r d hl => exact hg.consume hl fun entry => he r d entry hl
    · exact hg
  | count id =>
    simp only [PaidGate.step]
    split
    · next r d hl => exact hg.draw hl he
    · exact hg
  | send id =>
    simp only [PaidGate.step]
    split
    · next r d c hl => exact hg.enqueue hl he
    · exact hg
  | gc now shard => exact hg.gc he
  | close => exact { hg with }

end Sound

/-- **Exactly once.** With a digest that is collision-free, over every order of the steps of any
requests, every admitted request is enqueued exactly once under a call number and a quote of its
own, as long as all steps are orderly. -/
theorem always_exactlyOnce (hP : Function.Injective P.keccak256) (gateway : X402Gateway D)
    {es : List (PaidEvent D)} (h : Each (step P gateway) (Orderly gateway) start es) :
    Always (step P gateway) (ExactlyOnce gateway) start es :=
  always_of_each (J := Sound P gateway) (fun _ _ hg he => hg.step hP he)
    (fun _ hg => hg.exactlyOnce) (sound_start gateway) h

abbrev ownDigestDeps : PayDeps wholeDeps := { plainPayDeps with keccak256 := fun bytes => bytes }

def paidCall (id : ℕ) : PaidEvent wholeDeps :=
  .arrive id ⟨0, 0, fun _ _ _ _ => .ok true⟩ 1 0 [] ∅ ⟨none, none, none⟩ .x402

def paidRequest : PaidRequest wholeDeps := ⟨1, 0, [], ⟨none, none, none⟩, 10 ^ 18, none⟩

def handled (id timestampNanos : ℕ) : List (PaidEvent wholeDeps) :=
  [.insert id ⟨0, timestampNanos, 0⟩, .consume id ⟨0, timestampNanos, 0⟩, .count id, .send id]

theorem paidCall_alone :
    ((handled 0 7).foldl (step ownDigestDeps dollarGateway)
      (start.step ownDigestDeps dollarGateway (paidCall 0))).toPaidState
      = (enqueuePaid ownDigestDeps ⟨0, 7, 0⟩ dollarGateway start.toPaidState 1 0 [] ⟨none, none, none⟩
        (10 ^ 18) none).2 :=
  (foldl_step_alone (r := paidRequest) rfl).2

lemma dollarGateway_quote_fits :
    checkedAdd 0 (dollarGateway.config.quoteTtlSecs * 10 ^ 9) = some 300000000000 := by
  have httl : dollarGateway.config.quoteTtlSecs = 300 := rfl
  rw [httl, checkedAdd]
  norm_num [instantBound]

theorem always_exactlyOnce_two_readings :
    Each (step ownDigestDeps dollarGateway) (Orderly dollarGateway) start
      ([paidCall 0, paidCall 1] ++ handled 0 7 ++ handled 1 8) ∧
    Always (step ownDigestDeps dollarGateway) (ExactlyOnce dollarGateway) start
      ([paidCall 0, paidCall 1] ++ handled 0 7 ++ handled 1 8) := by
  have hf : (checkedAdd 0 (dollarGateway.config.quoteTtlSecs * 10 ^ 9)).isSome = true := by
    rw [dollarGateway_quote_fits]
    rfl
  have hea : Each (step ownDigestDeps dollarGateway) (Orderly dollarGateway) start
      ([paidCall 0, paidCall 1] ++ handled 0 7 ++ handled 1 8) := by
    refine ⟨trivial, trivial, ?_, ?_, ?_, rfl, ?_, ?_, ?_, rfl, trivial⟩
    · intro r hr
      have hr' : some (PaidHandler.admitted paidRequest) = some (PaidHandler.admitted r) := hr
      cases hr'
      exact ⟨hf, not_mem_nil⟩
    · intro r d entry hr he
      have hr' : some (PaidHandler.quoted paidRequest (paidRequest.quoteInput 7))
          = some (PaidHandler.quoted r d) := hr
      cases hr'
      have he' : some (⟨1, 0, 10 ^ 18, 300000000000, false⟩ : QuoteEntry) = some entry := he
      cases he'
      decide
    · exact Nat.zero_lt_succ _
    · intro r hr
      have hr' : some (PaidHandler.admitted paidRequest) = some (PaidHandler.admitted r) := hr
      cases hr'
      refine ⟨hf, ?_⟩
      have hm : paidRequest.quoteInput 8 ∉ [paidRequest.quoteInput 7] := by decide
      exact hm
    · intro r d entry hr he
      have hr' : some (PaidHandler.quoted paidRequest (paidRequest.quoteInput 8))
          = some (PaidHandler.quoted r d) := hr
      cases hr'
      have he' : some (⟨1, 0, 10 ^ 18, 300000000000, false⟩ : QuoteEntry) = some entry := he
      cases he'
      decide
    · exact Nat.one_lt_two_pow (by decide)
  exact ⟨hea, always_exactlyOnce (fun _ _ h => h) dollarGateway hea⟩

/-- Both requests insert their quote in the same nanosecond: the second is refused although it was
paid for. One after the other, they are enqueued with the same quote. -/
theorem same_reading_shares_quote : Function.Injective ownDigestDeps.keccak256 ∧
    ((([paidCall 0, paidCall 1, .insert 0 ⟨0, 7, 0⟩, .insert 1 ⟨0, 7, 0⟩, .consume 0 ⟨0, 7, 0⟩,
      .consume 1 ⟨0, 7, 0⟩] : List (PaidEvent wholeDeps)).foldl (step ownDigestDeps dollarGateway)
        start).handlers.lookup 1).bind PaidHandler.answer
      = some (.error (.err (.conflict "quote_conflict" "quote already consumed or expired"))) ∧
    ¬ Always (step ownDigestDeps dollarGateway) (ExactlyOnce dollarGateway) start
      ([paidCall 0, paidCall 1] ++ handled 0 7 ++ handled 1 7) := by
  refine ⟨fun _ _ h => h, rfl, fun h => ?_⟩
  have hl := h.last.digests
  have hd : ((([paidCall 0, paidCall 1] ++ handled 0 7 ++ handled 1 7).foldl
      (step ownDigestDeps dollarGateway) start).sent.map fun e => e.2.quoteDigest)
      = [paidRequest.quoteInput 7, paidRequest.quoteInput 7] := rfl
  rw [hd] at hl
  simp at hl

end PaidGate

end Gadget.X402
