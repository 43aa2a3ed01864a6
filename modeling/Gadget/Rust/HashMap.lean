import Mathlib.Data.Finmap
import Mathlib.Data.Finset.Sort

/-!
# Hash maps and hash sets

A `HashMap` is Mathlib's `Finmap`: a finite map known only through its lookups, with
extensional equality (`Finmap.ext_lookup`). A `HashSet` is a `Finset`.
-/

namespace Gadget.Rust

open Finmap

abbrev HashMap (κ ν : Type) := Finmap fun _ : κ => ν

variable {κ ν ν' : Type} [DecidableEq κ]

variable (m : HashMap κ ν)

variable (f : κ → ν → Option ν') (keep : κ → ν → Bool) (k : κ)

def HashMap.filterMap : HashMap κ ν' :=
  Finmap.keysLookupEquiv.symm
    ⟨(m.keys.filter fun k => ((m.lookup k).bind (f k)).isSome, fun k => (m.lookup k).bind (f k)), by
      intro k
      simp only [Finset.mem_filter, Finmap.mem_keys]
      constructor
      · intro h
        refine ⟨?_, h⟩
        rw [← Finmap.lookup_isSome]
        rcases hk : m.lookup k with _ | v
        · simp [hk] at h
        rfl
      · exact fun h => h.2⟩

@[simp] lemma HashMap.lookup_filterMap :
    (HashMap.filterMap m f).lookup k = (m.lookup k).bind (f k) := by
  simp [HashMap.filterMap]

def HashMap.retain : HashMap κ ν :=
  HashMap.filterMap m fun k v => if keep k v then some v else none

lemma HashMap.lookup_retain : (HashMap.retain m keep).lookup k = (m.lookup k).filter (keep k) := by
  rw [HashMap.retain, HashMap.lookup_filterMap]
  rcases m.lookup k with _ | v
  · rfl
  simp [Option.filter]

lemma HashMap.lookup_retain_eq_some {m : HashMap κ ν} {keep : κ → ν → Bool} {k : κ} {v : ν} :
    (HashMap.retain m keep).lookup k = some v ↔ m.lookup k = some v ∧ keep k v = true := by
  rw [HashMap.lookup_retain, Option.filter_eq_some_iff]

lemma HashMap.lookup_insert_eq (k' : κ) (v : ν) :
    (m.insert k v).lookup k' = if k' = k then some v else m.lookup k' := by
  by_cases h : k' = k
  · subst h
    rw [if_pos rfl, lookup_insert]
  · rw [if_neg h, lookup_insert_of_ne m h]

lemma HashMap.lookup_insert_cases {m : HashMap κ ν} {k k' : κ} {v w : ν}
    (h : (m.insert k v).lookup k' = some w) : (k' = k ∧ v = w) ∨ m.lookup k' = some w := by
  rw [HashMap.lookup_insert_eq] at h
  split_ifs at h with hk
  · exact .inl ⟨hk, Option.some.inj h⟩
  · exact .inr h

lemma HashMap.lookup_erase_eq (k' : κ) :
    (m.erase k).lookup k' = if k' = k then none else m.lookup k' := by
  by_cases h : k' = k
  · subst h
    rw [if_pos rfl, lookup_erase]
  · rw [if_neg h, lookup_erase_ne h]

lemma HashMap.keys_insert (v : ν) : (m.insert k v).keys = insert k m.keys := by
  ext k'
  rw [mem_keys, mem_insert, Finset.mem_insert, mem_keys]

lemma HashMap.mem_keys_iff_lookup : k ∈ m.keys ↔ ∃ v, m.lookup k = some v := by
  rw [mem_keys, ← lookup_isSome, Option.isSome_iff_exists]

structure IterOrder (κ : Type) where
  toList : Finset κ → List κ
  nodup : ∀ s, (toList s).Nodup
  mem : ∀ s a, a ∈ toList s ↔ a ∈ s

def IterOrder.sorted (κ : Type) [LinearOrder κ] : IterOrder κ where
  toList s := s.sort (· ≤ ·)
  nodup s := Finset.sort_nodup s (· ≤ ·)
  mem _ _ := Finset.mem_sort (· ≤ ·)

noncomputable def IterOrder.alone (a : κ) : IterOrder κ where
  toList s := if s = ∅ then [] else if s = {a} then [a] else s.toList
  nodup s := by
    split
    · exact List.nodup_nil
    · split
      · exact List.nodup_singleton a
      · exact s.nodup_toList
  mem s b := by
    split
    · simp [*]
    · split
      · simp [*]
      · exact Finset.mem_toList

noncomputable def IterOrder.listed (l : List κ) (hl : l.Nodup) : IterOrder κ where
  toList s := if ∀ a ∈ s, a ∈ l then l.filter (· ∈ s) else s.toList
  nodup s := by
    split
    · exact hl.filter _
    · exact s.nodup_toList
  mem s a := by
    split
    · next h => simpa using h a
    · exact Finset.mem_toList

variable (o : IterOrder κ)

def IterOrder.entries (m : HashMap κ ν) : List (κ × ν) :=
  (o.toList m.keys).filterMap fun k => (m.lookup k).map fun v => (k, v)

lemma IterOrder.mem_entries (m : HashMap κ ν) (k : κ) (v : ν) :
    (k, v) ∈ o.entries m ↔ m.lookup k = some v := by
  rw [IterOrder.entries, List.mem_filterMap]
  constructor
  · rintro ⟨k', -, hk'⟩
    rcases hv : m.lookup k' with _ | v'
    · simp [hv] at hk'
    rw [hv, Option.map_some, Option.some.injEq, Prod.mk.injEq] at hk'
    obtain ⟨rfl, rfl⟩ := hk'
    exact hv
  · intro hv
    refine ⟨k, (o.mem _ _).mpr ?_, by rw [hv, Option.map_some]⟩
    exact mem_keys.mpr (mem_of_lookup_eq_some hv)

lemma IterOrder.nodup_keys_entries (m : HashMap κ ν) : ((o.entries m).map Prod.fst).Nodup := by
  have hke : (o.entries m).map Prod.fst
      = (o.toList m.keys).filter fun k => (m.lookup k).isSome := by
    rw [IterOrder.entries]
    induction o.toList m.keys with
    | nil => rfl
    | cons k ks ih =>
      rcases hk : m.lookup k with _ | v <;> simp [hk, ih]
  rw [hke]
  exact (o.nodup _).filter _

section Rel

variable {α β : Type} {r r' : α → β → Prop} {a : Option α} {b : Option β}

lemma optionRel_imp (h : Option.Rel r a b) (hr : ∀ x y, r x y → r' x y) : Option.Rel r' a b := by
  cases h with
  | none => exact .none
  | some hxy => exact .some (hr _ _ hxy)

lemma optionRel_imp_of_eq (h : Option.Rel r a b)
    (hr : ∀ x y, a = some x → b = some y → r x y → r' x y) : Option.Rel r' a b := by
  cases h with
  | none => exact .none
  | some hxy => exact .some (hr _ _ rfl rfl hxy)

lemma optionRel_isSome (h : Option.Rel r a b) : a.isSome = b.isSome := by
  cases h <;> rfl

lemma optionRel_some_right {y : β} (h : Option.Rel r a (some y)) : ∃ x, a = some x ∧ r x y := by
  cases h with
  | some hxy => exact ⟨_, rfl, hxy⟩

lemma optionRel_some_left {x : α} (h : Option.Rel r (some x) b) : ∃ y, b = some y ∧ r x y := by
  cases h with
  | some hxy => exact ⟨_, rfl, hxy⟩

lemma optionRel_map (g : β → α) (hg : ∀ y, r (g y) y) (b : Option β) :
    Option.Rel r (b.map g) b := by
  rcases b with _ | y
  · exact .none
  exact .some (hg y)

lemma HashMap.keys_eq_of_rel {m : HashMap κ α} {m' : HashMap κ β}
    (h : ∀ k, Option.Rel r (m.lookup k) (m'.lookup k)) : m.keys = m'.keys := by
  ext k
  rw [mem_keys, mem_keys, ← lookup_isSome, ← lookup_isSome, optionRel_isSome (h k)]

end Rel

def HashMap.collect (l : List (κ × ν)) : HashMap κ ν :=
  l.foldl (fun m e => m.insert e.1 e.2) ∅

lemma HashMap.mem_of_lookup_collect {l : List (κ × ν)} {k : κ} {v : ν}
    (h : (HashMap.collect l).lookup k = some v) : (k, v) ∈ l := by
  have hf : ∀ (l : List (κ × ν)) (m : HashMap κ ν),
      (l.foldl (fun m e => m.insert e.1 e.2) m).lookup k = some v →
        (k, v) ∈ l ∨ m.lookup k = some v := by
    intro l
    induction l with
    | nil => exact fun m hm => .inr hm
    | cons e l ih =>
      intro m hm
      rcases ih _ hm with hmem | hl
      · exact .inl (List.mem_cons_of_mem _ hmem)
      · rcases HashMap.lookup_insert_cases hl with ⟨rfl, rfl⟩ | hl
        · exact .inl List.mem_cons_self
        · exact .inr hl
  rcases hf l ∅ h with hmem | he
  · exact hmem
  · rw [lookup_empty] at he
    cases he

lemma HashMap.lookup_collect_of_nodup {l : List (κ × ν)} (h : (l.map Prod.fst).Nodup) (k : κ)
    (v : ν) : (HashMap.collect l).lookup k = some v ↔ (k, v) ∈ l := by
  have hf : ∀ m : HashMap κ ν, (l.foldl (fun m e => m.insert e.1 e.2) m).lookup k = some v ↔
        (k, v) ∈ l ∨ (k ∉ l.map Prod.fst ∧ m.lookup k = some v) := by
    induction l with
    | nil => simp
    | cons e l ih =>
      obtain ⟨a, b⟩ := e
      rw [List.map_cons, List.nodup_cons] at h
      intro m
      rw [List.foldl_cons, ih h.2, HashMap.lookup_insert_eq]
      by_cases ha : k = a
      · subst ha
        have hnot : (k, v) ∉ l := fun hm => h.1 (List.mem_map.mpr ⟨(k, v), hm, rfl⟩)
        simp [h.1, hnot, eq_comm]
      · simp [ha]
  rw [HashMap.collect, hf ∅, lookup_empty]
  simp

lemma HashMap.lookup_collect_map (l : List κ) (f : κ → ν) (k : κ) :
    (HashMap.collect (l.map fun k => (k, f k))).lookup k = if k ∈ l then some (f k) else none := by
  have hf : ∀ m : HashMap κ ν,
      ((l.map fun k => (k, f k)).foldl (fun m e => m.insert e.1 e.2) m).lookup k
        = if k ∈ l then some (f k) else m.lookup k := by
    induction l with
    | nil => simp
    | cons a l ih =>
      intro m
      rw [List.map_cons, List.foldl_cons, ih, HashMap.lookup_insert_eq]
      by_cases hl : k ∈ l
      · simp [hl]
      · by_cases ha : k = a
        · simp [ha]
        · simp [hl, ha]
  rw [HashMap.collect, hf ∅, lookup_empty]

/-- `iter().map(..).collect::<Result<HashMap<..>>>()`: convert the values, or stop at the first
error met. -/
def IterOrder.tryMapValues {ε : Type} (o : IterOrder κ) (f : ν → Except ε ν')
    (m : HashMap κ ν) : Except ε (HashMap κ ν') :=
  match (o.entries m).mapM fun e => (f e.2).map fun v => (e.1, v) with
  | .error e => .error e
  | .ok l => .ok (HashMap.collect l)

lemma IterOrder.tryMapValues_ok {ε : Type} (o : IterOrder κ) {f : ν → Except ε ν'}
    {g : ν → ν'} (m : HashMap κ ν) (hf : ∀ v, f v = .ok (g v)) :
    ∃ m', o.tryMapValues f m = .ok m' ∧ ∀ k, m'.lookup k = (m.lookup k).map g := by
  have hmap : ((o.entries m).mapM fun e => (f e.2).map fun v => (e.1, v))
      = .ok ((o.entries m).map fun e => (e.1, g e.2)) := by
    have hp : (fun e : κ × ν => (f e.2).map fun v => (e.1, v)) = fun e => pure (e.1, g e.2) := by
      funext e
      rw [hf]
      rfl
    rw [hp, List.mapM_pure]
    rfl
  refine ⟨_, by rw [IterOrder.tryMapValues, hmap], fun k => ?_⟩
  have hn : (((o.entries m).map fun e => (e.1, g e.2)).map Prod.fst).Nodup := by
    rw [List.map_map]
    exact o.nodup_keys_entries m
  ext w
  rw [HashMap.lookup_collect_of_nodup hn, List.mem_map, Option.map_eq_some_iff]
  constructor
  · rintro ⟨⟨k', v⟩, hmem, heq⟩
    obtain ⟨rfl, rfl⟩ := heq
    exact ⟨v, (o.mem_entries m _ v).mp hmem, rfl⟩
  · rintro ⟨v, hv, rfl⟩
    exact ⟨(k, v), (o.mem_entries m k v).mpr hv, rfl⟩

end Gadget.Rust
