import Mathlib.Data.List.Nodup

/-!
# Bounded caches with least-recently-used eviction

The cache of the `lru` crate: distinct keys, the most recently used first, never more than
`capacity` of them.
-/

namespace Gadget.Rust

structure LruCache (κ ν : Type) where
  capacity : ℕ
  entries : List (κ × ν)
  capacity_pos : 0 < capacity
  length_le : entries.length ≤ capacity
  nodup : (entries.map Prod.fst).Nodup

namespace LruCache

variable {κ ν : Type} [DecidableEq κ]

def new (capacity : ℕ) : LruCache κ ν where
  capacity := max capacity 1
  entries := []
  capacity_pos := by omega
  length_le := Nat.zero_le _
  nodup := List.nodup_nil

variable (c : LruCache κ ν)

def peek (k : κ) : Option ν := c.entries.lookup k

def put (k : κ) (v : ν) : LruCache κ ν where
  capacity := c.capacity
  entries := ((k, v) :: c.entries.filter fun e => e.1 ≠ k).take c.capacity
  capacity_pos := c.capacity_pos
  length_le := List.length_take_le _ _
  nodup := by
    have hrest : ((c.entries.filter fun e => e.1 ≠ k).map Prod.fst).Nodup :=
      c.nodup.sublist (List.filter_sublist.map _)
    have hk : k ∉ (c.entries.filter fun e => e.1 ≠ k).map Prod.fst := by
      rw [List.mem_map]
      rintro ⟨e, he, rfl⟩
      simpa using (List.mem_filter.mp he).2
    have hall : (((k, v) :: c.entries.filter fun e => e.1 ≠ k).map Prod.fst).Nodup :=
      List.nodup_cons.mpr ⟨hk, hrest⟩
    exact hall.sublist ((List.take_sublist _ _).map _)

def retain (p : κ × ν → Bool) : LruCache κ ν where
  capacity := c.capacity
  entries := c.entries.filter p
  capacity_pos := c.capacity_pos
  length_le := Nat.le_trans (List.length_filter_le _ _) c.length_le
  nodup := c.nodup.sublist (List.filter_sublist.map _)

def pop (k : κ) : LruCache κ ν := c.retain fun e => e.1 ≠ k

variable {c : LruCache κ ν} {k h : κ} {v w : ν}

lemma peek_eq_some : c.peek k = some v ↔ (k, v) ∈ c.entries := by
  have hl (es : List (κ × ν)) (hnd : (es.map Prod.fst).Nodup) : es.lookup k = some v ↔ (k, v) ∈ es := by
    induction es with
    | nil => simp
    | cons e es ih =>
      obtain ⟨hne, hnd⟩ := List.nodup_cons.mp hnd
      rw [List.lookup_cons, List.mem_cons, Prod.ext_iff]
      by_cases hk : k = e.1
      · subst hk
        have hn : (e.1, v) ∉ es := fun hv => hne (List.mem_map.mpr ⟨_, hv, rfl⟩)
        simp [hn, eq_comm]
      · rw [beq_false_of_ne hk]
        simp [hk, ih hnd]
  exact hl c.entries c.nodup

lemma peek_retain (p : κ × ν → Bool) : (c.retain p).peek k = (c.peek k).filter fun v => p (k, v) := by
  ext v
  simp [peek_eq_some, retain, Option.filter_eq_some_iff]

lemma peek_put_self : (c.put k v).peek k = some v := by
  rw [peek_eq_some, put]
  obtain ⟨n, hn⟩ := Nat.exists_eq_add_of_lt c.capacity_pos
  simp [hn]

lemma peek_put_of_ne (hne : h ≠ k) : (c.put k v).peek h = c.peek h ∨ (c.put k v).peek h = none := by
  rcases hp : (c.put k v).peek h with _ | w
  · exact .inr rfl
  have hm := List.mem_of_mem_take (peek_eq_some.mp hp)
  rw [List.mem_cons, List.mem_filter] at hm
  rcases hm with heq | hm
  · exact absurd (congrArg Prod.fst heq) hne
  · exact .inl (peek_eq_some.mpr hm.1).symm

lemma peek_put_of_peek (hk : c.peek k = some w) (hne : h ≠ k) : (c.put k v).peek h = c.peek h := by
  have hlt : (c.entries.filter fun e => e.1 ≠ k).length < c.entries.length :=
    List.length_filter_lt_length_iff_exists.mpr ⟨(k, w), peek_eq_some.mp hk, by simp⟩
  have hle : ((k, v) :: c.entries.filter fun e => e.1 ≠ k).length ≤ c.capacity :=
    Nat.le_trans (Nat.succ_le_of_lt hlt) c.length_le
  ext u
  rw [peek_eq_some, peek_eq_some, put]
  simp only [List.take_of_length_le hle, List.mem_cons, List.mem_filter]
  simp [hne]

end LruCache

end Gadget.Rust
