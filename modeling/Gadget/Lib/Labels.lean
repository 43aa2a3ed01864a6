import Mathlib.Data.Finmap

/-!
# Finite maps whose values carry distinct labels

A component keeps its parties in a finite map, and a party may hold a label: a number it has
drawn, a name it has reserved. `Labelled` says that no two parties hold the same one, and the
lemmas say what a party may do without losing that: keep its label, give it up, or take one that
nobody holds.
-/

namespace Gadget.Lib.Labels

variable {κ ν α : Type*} [DecidableEq κ] {label : ν → Option α} {m : Finmap fun _ : κ => ν}

def Labelled (label : ν → Option α) (m : Finmap fun _ : κ => ν) : Prop :=
  ∀ k k' v v' a, m.lookup k = some v → m.lookup k' = some v' → label v = some a →
    label v' = some a → k = k'

variable {k : κ} {v : ν}

lemma Labelled.insert (hm : Labelled label m)
    (hnew : ∀ a, label v = some a → ∀ k' v', m.lookup k' = some v' → label v' = some a → k' = k) :
    Labelled label (m.insert k v) := by
  intro k₁ k₂ v₁ v₂ a hl₁ hl₂ ha₁ ha₂
  by_cases hk₁ : k₁ = k
  · by_cases hk₂ : k₂ = k
    · rw [hk₁, hk₂]
    rw [hk₁, Finmap.lookup_insert] at hl₁
    rw [Finmap.lookup_insert_of_ne m hk₂] at hl₂
    cases hl₁
    exact hk₁.trans (hnew a ha₁ k₂ v₂ hl₂ ha₂).symm
  · rw [Finmap.lookup_insert_of_ne m hk₁] at hl₁
    by_cases hk₂ : k₂ = k
    · rw [hk₂, Finmap.lookup_insert] at hl₂
      cases hl₂
      exact (hnew a ha₂ k₁ v₁ hl₁ ha₁).trans hk₂.symm
    · rw [Finmap.lookup_insert_of_ne m hk₂] at hl₂
      exact hm k₁ k₂ v₁ v₂ a hl₁ hl₂ ha₁ ha₂

lemma Labelled.insert_same (hm : Labelled label m) {v₀ : ν} (h₀ : m.lookup k = some v₀)
    (hs : label v = label v₀) : Labelled label (m.insert k v) :=
  hm.insert fun a ha k' v' hl' ha' => hm k' k v' v₀ a hl' h₀ ha' (hs ▸ ha)

lemma Labelled.insert_none (hm : Labelled label m) (hn : label v = none) :
    Labelled label (m.insert k v) :=
  hm.insert fun a ha => by
    rw [hn] at ha
    cases ha

/-- What holds of all labels still holds after an entry got one of which it holds. -/
lemma forall_label_insert {Q : α → Prop}
    (hm : ∀ k v a, m.lookup k = some v → label v = some a → Q a)
    (hnew : ∀ a, label v = some a → Q a) :
    ∀ k' v' a, (m.insert k v).lookup k' = some v' → label v' = some a → Q a := by
  intro k' v' a hl ha
  by_cases hk : k' = k
  · rw [hk, Finmap.lookup_insert] at hl
    cases hl
    exact hnew a ha
  · rw [Finmap.lookup_insert_of_ne m hk] at hl
    exact hm k' v' a hl ha

lemma filter_key_eq {l : List (κ × α)} (hl : (l.map Prod.fst).Nodup) {a : α} (ha : (k, a) ∈ l) :
    l.filter (fun e => e.1 = k) = [(k, a)] := by
  induction l with
  | nil => cases ha
  | cons e l ih =>
    rw [List.map_cons, List.nodup_cons] at hl
    rcases List.mem_cons.mp ha with rfl | ha
    · have hr : l.filter (fun e => e.1 = k) = [] := by
        rw [List.filter_eq_nil_iff]
        intro e he heq
        exact hl.1 (List.mem_map.mpr ⟨e, he, of_decide_eq_true heq⟩)
      rw [List.filter_cons_of_pos (by simp), hr]
    · have hne : e.1 ≠ k := fun h => hl.1 (List.mem_map.mpr ⟨(k, a), ha, h.symm⟩)
      rw [List.filter_cons_of_neg (by simpa using hne), ih hl.2 ha]

end Gadget.Lib.Labels
