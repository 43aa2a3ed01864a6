import Gadget.Lib.Run
import Gadget.TangleExtra.Producer
import Mathlib.Data.List.Intervals
import Mathlib.Data.Prod.Lex

/-!
# Delivery of job events

What the producer is for: the submissions of its service at or after the start block, each
once, in the order of block and log index. The chain is a list of logs for every block; the
node answers truthfully about the blocks it has reported, in any order, or not at all.
-/

namespace Gadget.TangleExtra

open Rust Gadget.Core Lib.Run List Log Option

/-- Positions in the order of block and log index, `⊥` before all logs of its block. -/
abbrev Position := ℕ ×ₗ WithBot ℕ

def cursorPosition (block : ℕ) (index : Option ℕ) : Position :=
  match index with
  | none => toLex (block, ⊥)
  | some i => toLex (block, WithBot.some i)

def Log.position (log : Log) : Position := toLex (log.block, WithBot.some log.index)

lemma Log.le_iff (a b : Log) : le a b ↔ a.position ≤ b.position := by
  rw [le, position, position, Prod.Lex.toLex_le_toLex]
  simp [WithBot.coe_le_coe]

instance : Std.Total Log.le where
  total a b := by
    rw [Log.le_iff, Log.le_iff]
    exact le_total _ _

instance : IsTrans Log Log.le where
  trans a b c hab hbc := by
    rw [Log.le_iff] at *
    exact hab.trans hbc

lemma position_le_cursor_none (log : Log) (block : ℕ) :
    log.position ≤ cursorPosition block none ↔ log.block < block := by
  rw [position, cursorPosition, Prod.Lex.toLex_le_toLex]
  simp

lemma position_le_cursor_some (log : Log) (block i : ℕ) :
    log.position ≤ cursorPosition block (some i) ↔
      log.block < block ∨ (log.block = block ∧ log.index ≤ i) := by
  rw [position, cursorPosition, Prod.Lex.toLex_le_toLex]
  simp [WithBot.coe_le_coe]

variable {log : Log} {block : ℕ}

lemma position_le_of_block_lt (index : Option ℕ) (h : log.block < block) :
    log.position ≤ cursorPosition block index := by
  rcases index with _ | i
  · exact (position_le_cursor_none log block).mpr h
  exact (position_le_cursor_some log block i).mpr (.inl h)

lemma not_position_le_of_lt_block (index : Option ℕ) (h : block < log.block) :
    ¬ log.position ≤ cursorPosition block index := by
  rcases index with _ | i
  · rw [position_le_cursor_none]
    omega
  rw [position_le_cursor_some]
  omega

/-- The cursor has passed the log. -/
abbrev passed (block : ℕ) (index : Option ℕ) (log : Log) : Bool :=
  decide (log.position ≤ cursorPosition block index)

lemma filter_append_filter_not {α : Type} {r : α → α → Prop} {p : α → Bool} {l : List α}
    (hl : l.Pairwise r) (hp : ∀ a b, r a b → p b = true → p a = true) :
    l.filter p ++ l.filter (fun a => !p a) = l := by
  induction l with
  | nil => rfl
  | cons a l ih =>
    rw [pairwise_cons] at hl
    cases ha : p a with
    | true => simp [ha, ih hl.2]
    | false =>
      have hn : l.filter p = [] := by
        rw [filter_eq_nil_iff]
        intro b hb hpb
        rw [hp a b (hl.1 b hb) hpb] at ha
        cases ha
      have hr := ih hl.2
      rw [hn, nil_append] at hr
      simp [ha, hn, hr]

structure Chain where
  logs : ℕ → List Log
  timestamp : ℕ → ℕ
  blockNumber_eq : ∀ n, ∀ log ∈ logs n, log.blockNumber = some n
  blockHash_isSome : ∀ n, ∀ log ∈ logs n, log.blockHash.isSome
  logIndex_isSome : ∀ n, ∀ log ∈ logs n, log.logIndex.isSome
  blockTimestamp_eq : ∀ n, ∀ log ∈ logs n, ∀ t, log.blockTimestamp = some t → t = timestamp n
  ordered : ∀ n, (logs n).Pairwise fun a b => a.index < b.index

namespace Chain

variable (chain : Chain)

def between (a b : ℕ) : List Log := (List.Ico a b).flatMap chain.logs

variable (serviceId : UInt64)

def callOf (log : Log) : Option JobCall :=
  match decodeLog log with
  | .error _ => none
  | .ok event =>
    if event.serviceId = serviceId then
      some (jobSubmittedToCall event event.blockNumber event.blockHash
        (chain.timestamp event.blockNumber))
    else none

def submissions (a b : ℕ) : List JobCall :=
  (chain.between a b).filterMap (chain.callOf serviceId)

def logsUpTo (start block : ℕ) (index : Option ℕ) : List Log :=
  (chain.between start (block + 1)).filter fun log =>
    decide (log.position ≤ cursorPosition block index)

def submissionsUpTo (start block : ℕ) (index : Option ℕ) : List JobCall :=
  (chain.logsUpTo start block index).filterMap (chain.callOf serviceId)

variable {chain}

variable {a b n : ℕ}

lemma mem_between : log ∈ chain.between a b ↔ ∃ n, a ≤ n ∧ n < b ∧ log ∈ chain.logs n := by
  simp [between, mem_flatMap, List.Ico.mem, and_assoc]

lemma block_of_mem (h : log ∈ chain.logs n) : log.block = n := by
  rw [block, chain.blockNumber_eq n log h, getD_some]

lemma block_of_mem_between (h : log ∈ chain.between a b) : a ≤ log.block ∧ log.block < b := by
  obtain ⟨n, ha, hb, hn⟩ := mem_between.mp h
  rw [block_of_mem hn]
  exact ⟨ha, hb⟩

lemma between_append {c : ℕ} (hab : a ≤ b) (hbc : b ≤ c) :
    chain.between a b ++ chain.between b c = chain.between a c := by
  rw [between, between, between, ← flatMap_append, List.Ico.append_consecutive hab hbc]

lemma callOf_of_event {serviceId : UInt64} {ev : JobSubmittedEvent}
    (hd : decodeLog log = .ok ev) (hs : ev.serviceId = serviceId) :
    chain.callOf serviceId log = some (jobSubmittedToCall ev ev.blockNumber ev.blockHash
      (chain.timestamp ev.blockNumber)) := by
  simp [callOf, hd, hs]

lemma callOf_of_other {serviceId : UInt64}
    (h : ∀ ev, decodeLog log = .ok ev → ev.serviceId ≠ serviceId) :
    chain.callOf serviceId log = none := by
  rcases hd : decodeLog log with fault | ev
  · simp [callOf, hd]
  simp [callOf, hd, h ev hd]

lemma pairwise_between (chain : Chain) (a b : ℕ) :
    (chain.between a b).Pairwise fun x y => x.position < y.position := by
  rw [between, pairwise_flatMap]
  constructor
  · intro n _
    apply (chain.ordered n).imp_of_mem
    intro x y hx hy hxy
    rw [position, position, Prod.Lex.toLex_lt_toLex, block_of_mem hx, block_of_mem hy]
    exact .inr ⟨rfl, WithBot.coe_lt_coe.mpr hxy⟩
  · apply (List.Ico.pairwise_lt a b).imp
    intro m n hmn x hx y hy
    rw [position, position, Prod.Lex.toLex_lt_toLex, block_of_mem hx, block_of_mem hy]
    exact .inl hmn

lemma eq_of_position_eq {x y : Log} (hx : x ∈ chain.between a b) (hy : y ∈ chain.between a b)
    (h : x.position = y.position) : x = y := by
  have hn : ((chain.between a b).map position).Nodup :=
    pairwise_map.mpr ((chain.pairwise_between a b).imp fun hlt => hlt.ne)
  exact inj_on_of_nodup_map hn hx hy h

lemma insertionSort_of_perm {logs : List Log} (h : logs.Perm (chain.between a b)) :
    logs.insertionSort le = chain.between a b := by
  have hp := (perm_insertionSort le logs).trans h
  refine hp.eq_of_pairwise ?_ (pairwise_insertionSort le logs) ?_
  · intro x y hx hy hxy hyx
    rw [le_iff] at hxy hyx
    exact eq_of_position_eq (hp.subset hx) hy (le_antisymm hxy hyx)
  · exact (chain.pairwise_between a b).imp fun hxy => (le_iff _ _).mpr hxy.le

lemma filter_between_of_le (chain : Chain) (start : ℕ) (index : Option ℕ) (hs : start ≤ block)
    (hn : block ≤ n) :
    (chain.between start (n + 1)).filter (passed block index) = chain.logsUpTo start block index := by
  have hl : (chain.between (block + 1) (n + 1)).filter (passed block index) = [] := by
    rw [filter_eq_nil_iff]
    intro log hlog
    have hb := (block_of_mem_between hlog).1
    rw [decide_eq_true_eq]
    exact not_position_le_of_lt_block index (by omega)
  rw [← between_append (b := block + 1) (by omega) (by omega), filter_append, hl,
    append_nil, logsUpTo]

/-- **Advance of the cursor.** When everything up to block `n` lies before the new cursor, the
new cursor adds the logs up to block `n` that lie after the old one. -/
theorem logsUpTo_advance {start blk' : ℕ} (index : Option ℕ) {idx' : Option ℕ}
    (hs : start ≤ block) (hn : block ≤ n) (hb' : start ≤ blk') (hn' : blk' ≤ n)
    (hall : ∀ log ∈ chain.between start (n + 1), log.position ≤ cursorPosition blk' idx') :
    chain.logsUpTo start blk' idx' = chain.logsUpTo start block index ++
      (chain.between block (n + 1)).filter (!passed block index ·) := by
  -- the logs before the start of the round lie before the old cursor
  have he : (chain.between start block).filter (!passed block index ·) = [] := by
    rw [filter_eq_nil_iff]
    intro log hlog
    have hle := position_le_of_block_lt index (block_of_mem_between hlog).2
    simp [hle]
  have ha : (chain.between start (n + 1)).filter (!passed block index ·)
      = (chain.between block (n + 1)).filter (!passed block index ·) := by
    rw [← between_append (b := block) hs (by omega), filter_append, he, nil_append]
  calc chain.logsUpTo start blk' idx' = (chain.between start (n + 1)).filter (passed blk' idx') :=
        (filter_between_of_le chain start idx' hb' hn').symm
    _ = chain.between start (n + 1) := by
        rw [filter_eq_self]
        intro log hlog
        exact decide_eq_true (hall log hlog)
    _ = (chain.between start (n + 1)).filter (passed block index) ++
        (chain.between start (n + 1)).filter (!passed block index ·) := by
        refine (filter_append_filter_not (chain.pairwise_between start (n + 1)) ?_).symm
        intro x y hxy hy
        rw [decide_eq_true_eq] at hy ⊢
        exact hxy.le.trans hy
    _ = _ := by rw [filter_between_of_le chain start index hs hn, ha]

lemma submissionsUpTo_prefix (chain : Chain) (serviceId : UInt64) (start : ℕ) (index : Option ℕ)
    (hst : start ≤ block) (hn : block ≤ n) :
    chain.submissionsUpTo serviceId start block index
      <+: chain.submissions serviceId start (n + 1) := by
  have hs := filter_append_filter_not
    (p := passed block index)
    (chain.pairwise_between start (n + 1)) (by
      intro x y hxy hy
      rw [decide_eq_true_eq] at hy ⊢
      exact hxy.le.trans hy)
  rw [filter_between_of_le chain start index hst hn] at hs
  rw [submissions, ← hs, filterMap_append]
  exact prefix_append _ _

end Chain

/-- The node answers truthfully: the logs of blocks up to the one it has reported, in any order,
and the timestamps of blocks. -/
structure Rpc.Honest (chain : Chain) (rpc : Rpc) : Prop where
  getLogs : ∀ latest a b logs, rpc.blockNumber = .ok latest → b ≤ latest →
    rpc.getLogs a b = .ok logs → logs.Perm (chain.between a (b + 1))
  getBlock : ∀ n t, rpc.getBlock n = .ok (some t) → t = chain.timestamp n

section Rounds

variable {chain : Chain} {serviceId : UInt64} {rpc : Rpc}

lemma logsAfter_between (chain : Chain) (block n : ℕ) (index : Option ℕ) :
    logsAfter block index (chain.between block n)
      = (chain.between block n).filter (!passed block index ·) := by
  cases index with
  | none =>
    refine (filter_eq_self.mpr ?_).symm
    intro log hlog
    have hb := (Chain.block_of_mem_between hlog).1
    have hle : ¬ log.position ≤ cursorPosition block none := by
      rw [position_le_cursor_none]
      omega
    simp [hle]
  | some i =>
    apply filter_congr
    intro log hlog
    have hb := (Chain.block_of_mem_between hlog).1
    have hc := position_le_cursor_some log block i
    by_cases hlt : block < log.block
    · have hle := hc.not.mpr (by omega)
      simp [hle, hlt, Nat.not_lt.mpr hb]
    have heq : log.block = block := by omega
    by_cases hi : log.index ≤ i
    · have hle := hc.mpr (by omega)
      simp [passed, heq, hle, hi]
    · have hle := hc.not.mpr (by omega)
      simp [heq, hle, Nat.lt_of_not_le hi]

lemma cursorPosition_le_of_lt {n : ℕ} (index index' : Option ℕ) (h : block < n) :
    cursorPosition block index ≤ cursorPosition n index' := by
  cases index <;> cases index' <;> exact Prod.Lex.toLex_le_toLex.mpr (.inl h)

lemma cursorPosition_of_mem {m : ℕ} (h : log ∈ chain.logs m) (n : ℕ) :
    cursorPosition (log.blockNumber.getD n) log.logIndex = log.position ∧
      log.blockNumber.getD n = m := by
  have hb := chain.blockNumber_eq m log h
  obtain ⟨i, hi⟩ := isSome_iff_exists.mp (chain.logIndex_isSome m log h)
  rw [position, Chain.block_of_mem h, index, hb, hi]
  exact ⟨rfl, rfl⟩

lemma le_getLast_of_pairwise {α β : Type} [Preorder β] {f : α → β} {l : List α} {last x : α}
    (h : l.Pairwise fun x y => f x < f y) (hl : l.getLast? = some last) (hx : x ∈ l) :
    f x ≤ f last := by
  obtain ⟨before, rfl⟩ := getLast?_eq_some_iff.mp hl
  rw [pairwise_append] at h
  rcases mem_append.mp hx with hb | hend
  · exact (h.2.2 x hb last mem_cons_self).le
  · rw [mem_singleton.mp hend]

lemma nextCursor_spec (chain : Chain) {n : ℕ} (hn : block ≤ n) (index : Option ℕ)
    {cursor : ℕ × Option ℕ}
    (hc : cursor = nextCursor block n index ((chain.between block (n + 1)).filter
      (!passed block index ·))) :
    (block ≤ cursor.1 ∧ cursor.1 ≤ n) ∧
    cursorPosition block index ≤ cursorPosition cursor.1 cursor.2 ∧
    ∀ log ∈ chain.between block (n + 1), log.position ≤ cursorPosition cursor.1 cursor.2 := by
  subst hc
  rw [nextCursor]
  split
  · -- the last log of the round
    next last hl =>
    obtain ⟨hb, hnot⟩ := mem_filter.mp (mem_of_getLast? hl)
    obtain ⟨m, hbl, hm, hlog⟩ := Chain.mem_between.mp hb
    obtain ⟨hp, hnu⟩ := cursorPosition_of_mem hlog n
    have ha : cursorPosition block index < last.position := by simpa using hnot
    rw [hp, hnu]
    refine ⟨⟨hbl, by omega⟩, ha.le, ?_⟩
    intro log hlog'
    by_cases hle : log.position ≤ cursorPosition block index
    · exact hle.trans ha.le
    · refine le_getLast_of_pairwise ((chain.pairwise_between block (n + 1)).filter _) hl ?_
      exact mem_filter.mpr ⟨hlog', by simp [hle]⟩
  · -- no log after the cursor
    next hno =>
    rw [getLast?_eq_none_iff, filter_eq_nil_iff] at hno
    have hold : ∀ log ∈ chain.between block (n + 1), log.position ≤ cursorPosition block index := by
      intro log hlog
      simpa using hno log hlog
    by_cases heq : n = block
    · rw [if_pos heq]
      exact ⟨⟨le_rfl, hn⟩, le_rfl, hold⟩
    · rw [if_neg heq]
      have hle := cursorPosition_le_of_lt index none (show block < n by omega)
      exact ⟨⟨hn, le_rfl⟩, hle, fun log hlog => (hold log hlog).trans hle⟩

lemma eventTimestamp_eq_ok (hrpc : rpc.Honest chain) (hlog : log ∈ chain.logs block)
    {known known' : HashMap ℕ ℕ} {ts : ℕ}
    (hk : ∀ n t, known.lookup n = some t → t = chain.timestamp n)
    (h : eventTimestamp rpc log block known = .ok (ts, known')) :
    ts = chain.timestamp block ∧ ∀ n t, known'.lookup n = some t → t = chain.timestamp n := by
  -- a block that is remembered is remembered with its timestamp
  have hi : ∀ t, t = chain.timestamp block → ∀ n t', (known.insert block t).lookup n = some t' →
      t' = chain.timestamp n := by
    intro t ht n t' hn
    rcases HashMap.lookup_insert_cases hn with ⟨heq, hv⟩ | hn
    · rw [heq, ← ht, hv]
    · exact hk n t' hn
  rw [eventTimestamp] at h
  split at h
  · next t hl =>
    have ht := chain.blockTimestamp_eq block log hlog t hl
    cases h
    exact ⟨ht, hi _ ht⟩
  split at h
  · next t hlo =>
    cases h
    exact ⟨hk block _ hlo, hk⟩
  split at h
  · next t hget =>
    have ht := hrpc.getBlock block t hget
    cases h
    exact ⟨ht, hi _ ht⟩
  · cases h
  · cases h

lemma collectJobs_eq_ok (hrpc : rpc.Honest chain) {logs : List Log} {known : HashMap ℕ ℕ}
    {calls : List JobCall} (hl : ∀ log ∈ logs, ∃ n, log ∈ chain.logs n)
    (hk : ∀ n t, known.lookup n = some t → t = chain.timestamp n)
    (h : collectJobs serviceId rpc logs known = .ok calls) :
    calls = logs.filterMap (chain.callOf serviceId) := by
  induction logs generalizing known calls with
  | nil =>
    cases h
    rfl
  | cons log logs ih =>
    rw [forall_mem_cons] at hl
    rw [filterMap_cons]
    rcases collectJobs_cons_eq_ok h with
      ⟨ho, h⟩ | ⟨event, timestamp, known', rest, hd, hs, hti, hr, rfl⟩
    · rw [Chain.callOf_of_other ho]
      exact ih hl.2 hk h
    obtain ⟨m, hm⟩ := hl.1
    have hb : event.blockNumber = m := by
      have hn := blockNumber_of_decodeLog hd
      rw [chain.blockNumber_eq m log hm] at hn
      exact (some.inj hn).symm
    obtain ⟨ht, hk'⟩ := eventTimestamp_eq_ok hrpc (hb ▸ hm) hk hti
    rw [Chain.callOf_of_event hd hs, ht, ← ih hl.2 hk' hr]

lemma pollRound_eq_ok {fromBlock : ℕ} {fromLogIndex : Option ℕ} {result : ProducerPollResult}
    (hf : fromBlock ≠ 0) (h : pollRound serviceId fromBlock fromLogIndex rpc = .ok result) :
    ∃ latest logs, rpc.blockNumber = .ok latest ∧ fromBlock ≤ latest ∧
      rpc.getLogs fromBlock (min latest (saturatingAdd fromBlock 9)) = .ok logs ∧
      collectJobs serviceId rpc
        (logsAfter fromBlock fromLogIndex (logs.insertionSort le)) ∅ = .ok result.jobs ∧
      (result.lastBlock, result.lastLogIndex) = nextCursor fromBlock
        (min latest (saturatingAdd fromBlock 9)) fromLogIndex
        (logsAfter fromBlock fromLogIndex (logs.insertionSort le)) := by
  rw [pollRound, bind_eq_ok] at h
  obtain ⟨latest, hl, h⟩ := h
  simp only [if_neg hf] at h
  rw [unit_bind_eq_ok, orErr_eq_ok, rejectIf_eq_ok] at h
  obtain ⟨hr, h⟩ := h
  obtain ⟨logs, hlo, h⟩ := bind_eq_ok.mp h
  obtain ⟨jobs, hj, h⟩ := bind_eq_ok.mp h
  cases h
  exact ⟨latest, logs, mapError_eq_ok.mp hl, by omega, mapError_eq_ok.mp hlo, hj, rfl⟩

def Accounted (chain : Chain) (serviceId : UInt64) (start : ℕ) (calls : List JobCall) (block : ℕ)
    (index : Option ℕ) : Prop :=
  start ≤ block ∧ block ≤ u64Max ∧ calls = chain.submissionsUpTo serviceId start block index

theorem accounted_pollRound (hrpc : rpc.Honest chain) {start : ℕ} {index : Option ℕ}
    {calls : List JobCall} {result : ProducerPollResult} (hst : 1 ≤ start)
    (hc : Accounted chain serviceId start calls block index)
    (h : pollRound serviceId block index rpc = .ok result) :
    Accounted chain serviceId start (calls ++ result.jobs) result.lastBlock result.lastLogIndex ∧
      cursorPosition block index ≤ cursorPosition result.lastBlock result.lastLogIndex := by
  obtain ⟨hb, hmax, hc⟩ := hc
  obtain ⟨latest, logs, hl, hr, hlo, hj, hcu⟩ := pollRound_eq_ok (by omega) h
  have hto : block ≤ min latest (saturatingAdd block 9) := by
    simp only [saturatingAdd]
    omega
  have htm : min latest (saturatingAdd block 9) ≤ u64Max := by
    simp only [saturatingAdd]
    omega
  have hs := Chain.insertionSort_of_perm (hrpc.getLogs latest _ _ _ hl (min_le_left _ _) hlo)
  rw [hs, logsAfter_between] at hj hcu
  obtain ⟨⟨hf, hla⟩, hm, hall⟩ := nextCursor_spec chain hto index hcu
  have hin : ∀ log ∈ (chain.between block (min latest (saturatingAdd block 9) + 1)).filter
      (!passed block index ·),
      ∃ n, log ∈ chain.logs n := by
    intro log hlog
    obtain ⟨n, _, _, hn⟩ := Chain.mem_between.mp (mem_filter.mp hlog).1
    exact ⟨n, hn⟩
  have ha := Chain.logsUpTo_advance index hb hto (by omega) hla (by
    intro log hlog
    by_cases hlt : log.block < block
    · exact (position_le_of_block_lt index hlt).trans hm
    · obtain ⟨n, hn, hn', hmem⟩ := Chain.mem_between.mp hlog
      have hn'' := Chain.block_of_mem hmem
      exact hall log (Chain.mem_between.mpr ⟨n, by omega, hn', hmem⟩))
  refine ⟨⟨by omega, by omega, ?_⟩, hm⟩
  rw [collectJobs_eq_ok hrpc hin (fun n t ht => by simp at ht) hj, hc,
    Chain.submissionsUpTo, Chain.submissionsUpTo, ha, filterMap_append]

end Rounds

structure Delivery where
  state : ProducerState
  yielded : List JobCall

namespace Delivery

def new (startBlock : ℕ) : Delivery := ⟨.new startBlock, []⟩

def cursor (d : Delivery) : Position := cursorPosition d.state.lastBlock d.state.lastLogIndex

def record (yielded : List JobCall) : StreamReply × ProducerState → Delivery
  | (.item call, state) => ⟨state, yielded ++ [call]⟩
  | (.pending, state) => ⟨state, yielded⟩
  | (.panicked _, state) => ⟨state, yielded⟩

def step (serviceId : UInt64) (d : Delivery) (rpcs : List Rpc) : Delivery :=
  record d.yielded (pollNext serviceId d.state rpcs)

/-- What is yielded and what is buffered is exactly what lies before the cursor, and a running
round has been started at the cursor. -/
structure Exact (chain : Chain) (serviceId : UInt64) (start : ℕ) (d : Delivery) : Prop where
  account : Accounted chain serviceId start (d.yielded ++ d.state.buffer) d.state.lastBlock
    d.state.lastLogIndex
  future : ∀ f, d.state.pollFuture = some f → f = ⟨d.state.lastBlock, d.state.lastLogIndex⟩

variable {chain : Chain} {serviceId : UInt64} {start : ℕ}

lemma exact_new (chain : Chain) (serviceId : UInt64) (hmax : start ≤ u64Max) :
    Exact chain serviceId start (new start) where
  account := by
    refine ⟨le_rfl, hmax, ?_⟩
    have hn : chain.logsUpTo start start none = [] := by
      rw [Chain.logsUpTo, filter_eq_nil_iff]
      intro log hlog
      have hb := (Chain.block_of_mem_between hlog).1
      rw [decide_eq_true_eq, position_le_cursor_none]
      omega
    change [] = (chain.logsUpTo start start none).filterMap (chain.callOf serviceId)
    rw [hn, filterMap_nil]
  future f hf := nomatch hf

lemma exact_driveFuture (hs : 1 ≤ start) {rpcs : List Rpc}
    (hr : ∀ rpc ∈ rpcs, rpc.Honest chain) {st : ProducerState} {yielded : List JobCall}
    (hb : st.buffer = [])
    (ha : Accounted chain serviceId start yielded st.lastBlock st.lastLogIndex) :
    Exact chain serviceId start (record yielded
      (driveFuture serviceId rpcs ⟨st.lastBlock, st.lastLogIndex⟩ st)) ∧
    cursorPosition st.lastBlock st.lastLogIndex ≤ (record yielded
      (driveFuture serviceId rpcs ⟨st.lastBlock, st.lastLogIndex⟩ st)).cursor := by
  -- round by round; a round that starts again changes nothing
  induction rpcs generalizing st with
  | nil =>
    refine ⟨⟨?_, ?_⟩, le_rfl⟩
    · simpa [driveFuture, record, hb] using ha
    · intro f hf
      simpa [driveFuture, record, eq_comm] using hf
  | cons rpc rpcs ih =>
    rw [forall_mem_cons] at hr
    rw [driveFuture]
    cases hro : pollRound serviceId st.lastBlock st.lastLogIndex rpc with
    | error fault =>
      rcases fault with restart | msg
      · exact ih hr.2 hb ha
      refine ⟨⟨?_, ?_⟩, le_rfl⟩
      · simpa [record, hb] using ha
      · intro f hf
        simpa [record, eq_comm] using hf
    | ok result =>
      obtain ⟨hn, hm⟩ := accounted_pollRound hr.1 hs ha hro
      cases hj : result.jobs with
      | nil =>
        rw [hj, append_nil] at hn
        have he : (ProducerState.mk result.lastBlock result.lastLogIndex st.buffer none
          st.poisoned).buffer = [] := hb
        obtain ⟨hex, hl⟩ := ih hr.2 he hn
        simp only [hj]
        exact ⟨hex, hm.trans hl⟩
      | cons call calls =>
        rw [hj] at hn
        simp only [hj]
        refine ⟨⟨?_, nofun⟩, hm⟩
        simpa [record] using hn

/-- **One poll.** It keeps the account, and the cursor does not go back. -/
theorem exact_step (hs : 1 ≤ start) {d : Delivery} (hd : Exact chain serviceId start d)
    {rpcs : List Rpc} (hr : ∀ rpc ∈ rpcs, rpc.Honest chain) :
    Exact chain serviceId start (d.step serviceId rpcs) ∧
      d.cursor ≤ (d.step serviceId rpcs).cursor := by
  rw [step, pollNext]
  by_cases hp : d.state.poisoned = true
  · rw [if_pos hp]
    exact ⟨hd, le_rfl⟩
  rw [if_neg hp]
  cases hb : d.state.buffer with
  | cons call calls =>
    refine ⟨⟨?_, hd.future⟩, le_rfl⟩
    have ha := hd.account
    rw [hb] at ha
    simpa [record] using ha
  | nil =>
    have ha := hd.account
    rw [hb, append_nil] at ha
    have hfu : d.state.pollFuture.getD ⟨d.state.lastBlock, d.state.lastLogIndex⟩
        = ⟨d.state.lastBlock, d.state.lastLogIndex⟩ := by
      rcases hf : d.state.pollFuture with _ | f
      · rfl
      exact hd.future f hf
    simp only [hfu]
    exact exact_driveFuture hs hr hb ha

/-- The calls yielded so far are a first part of the submissions up to any block that the
cursor has not passed, and together with the buffered ones they are the submissions before the
cursor. -/
def InOrder (chain : Chain) (serviceId : UInt64) (start : ℕ) (d : Delivery) : Prop :=
  (∀ n, d.state.lastBlock ≤ n → d.yielded <+: chain.submissions serviceId start (n + 1)) ∧
  d.yielded ++ d.state.buffer
    = chain.submissionsUpTo serviceId start d.state.lastBlock d.state.lastLogIndex

lemma Exact.inOrder {d : Delivery} (hd : Exact chain serviceId start d) :
    InOrder chain serviceId start d := by
  obtain ⟨hs, _, hc⟩ := hd.account
  refine ⟨fun n hn => ?_, hc⟩
  have hp := Chain.submissionsUpTo_prefix chain serviceId start d.state.lastLogIndex hs hn
  rw [← hc] at hp
  exact (prefix_append _ _).trans hp

/-- **Delivery.** From a start block on, whatever the node answers and however often it fails:
in every state the yielded calls are a first part of the submissions to the service, in order,
none left out or repeated; the cursor has passed no submission that is neither yielded nor
buffered; and it never goes back. -/
theorem delivery_inOrder (chain : Chain) (serviceId : UInt64) {start : ℕ} (hstart : 1 ≤ start)
    (hmax : start ≤ u64Max) (polls : List (List Rpc))
    (hpolls : ∀ rpcs ∈ polls, ∀ rpc ∈ rpcs, rpc.Honest chain) :
    Always (step serviceId) (InOrder chain serviceId start) (new start) polls ∧
    Each (step serviceId) (fun d rpcs => d.cursor ≤ (d.step serviceId rpcs).cursor) (new start)
      polls := by
  have hnew := exact_new chain serviceId hmax
  generalize new start = d at hnew
  induction polls generalizing d with
  | nil => exact ⟨hnew.inOrder, trivial⟩
  | cons rpcs polls ih =>
    rw [forall_mem_cons] at hpolls
    obtain ⟨he, hm⟩ := exact_step hstart hnew hpolls.1
    obtain ⟨ha, hea⟩ := ih hpolls.2 _ he
    exact ⟨⟨hnew.inOrder, ha⟩, hm, hea⟩

end Delivery

abbrev submissionIn (n : ℕ) : JobSubmittedEvent where
  serviceId := 7
  callId := UInt64.ofNat n
  jobIndex := 0
  caller := List.replicate 20 0
  inputs := []
  blockNumber := n
  blockHash := List.replicate 32 0

abbrev threeBlocks : Chain where
  logs n := if 5 ≤ n ∧ n ≤ 7 then [jobSubmittedLog (submissionIn n) [] 0] else []
  timestamp _ := 0
  blockNumber_eq n log hlog := by
    split at hlog
    · rw [List.mem_singleton.mp hlog]
      rfl
    · cases hlog
  blockHash_isSome n log hlog := by
    split at hlog
    · rw [List.mem_singleton.mp hlog]
      rfl
    · cases hlog
  logIndex_isSome n log hlog := by
    split at hlog
    · rw [List.mem_singleton.mp hlog]
      rfl
    · cases hlog
  blockTimestamp_eq n log hlog t ht := by
    split at hlog
    · rw [List.mem_singleton.mp hlog] at ht
      cases ht
    · cases hlog
  ordered n := by
    split
    · exact List.pairwise_singleton _ _
    · exact List.Pairwise.nil

abbrev nodeAtSeven : Rpc where
  blockNumber := .ok 7
  getLogs a b := .ok (threeBlocks.between a (b + 1))
  getBlock _ := .ok (some 0)

lemma honest_nodeAtSeven : nodeAtSeven.Honest threeBlocks where
  getLogs latest a b logs _ _ h := by
    rw [← Except.ok.inj h]
  getBlock n t h := by
    rw [← some.inj (Except.ok.inj h)]

theorem delivery_inOrder_threeBlocks :
    (1 ≤ 5 ∧ 5 ≤ u64Max ∧ ∀ rpcs ∈ [[nodeAtSeven]], ∀ rpc ∈ rpcs, rpc.Honest threeBlocks) ∧
    Always (Delivery.step 7) (Delivery.InOrder threeBlocks 7 5) (Delivery.new 5) [[nodeAtSeven]] ∧
    Each (Delivery.step 7) (fun d rpcs => d.cursor ≤ (d.step 7 rpcs).cursor) (Delivery.new 5)
      [[nodeAtSeven]] := by
  have hh : ∀ rpcs ∈ [[nodeAtSeven]], ∀ rpc ∈ rpcs, rpc.Honest threeBlocks := by
    simp [honest_nodeAtSeven]
  exact ⟨⟨by decide, by decide, hh⟩,
    Delivery.delivery_inOrder threeBlocks 7 (by decide) (by decide) _ hh⟩

/-- After the first poll one call is yielded and the cursor stands at block seven, past the
submission in block six, which is buffered. -/
theorem cursor_past_buffered :
    (Delivery.step 7 (Delivery.new 5) [nodeAtSeven]).state.lastBlock = 7 ∧
    (Delivery.step 7 (Delivery.new 5) [nodeAtSeven]).yielded.length = 1 ∧
    (threeBlocks.submissions 7 5 7).length = 2 := by
  decide +kernel

end Gadget.TangleExtra
