import Gadget.Lib.Run
import Mathlib.Data.List.Pairwise

/-!
# Guards against replay

An attempt has a key and a mark. It is refused when the mark stored under its key is not below its
own; otherwise it waits, and later stores its mark and is granted. The check and the write are two
steps, so that other attempts can come between them.

What should hold of a run is given by two relations: `clash earlier later` says that two grants must
not both be given, and `akin earlier later` that one attempt may refuse the other. `always_good_iff`
says which steps keep a run good, and `always_good` that a run is good when no two attempts with one
key are under way at once and attempts with one key are akin, the later with no higher mark.
-/

namespace Gadget.Lib.ReplayGuard

open Lib.Run List Option

/-- What attempts consist of, and what should hold of them. -/
structure Rules (α κ : Type) where
  key : α → κ
  mark : α → ℕ
  clash : α → α → Prop
  akin : α → α → Prop

/-- The stored marks, the attempts that have passed the check, and what has become of the others,
the newest first. A refused attempt stands with the one whose mark refused it. -/
structure Guard (α κ : Type) where
  marks : κ → Option ℕ
  waiting : List α
  marked : List α
  granted : List α
  refused : List (α × Option α)

inductive Ending where
  | unwritten
  | ungranted
  | granted

inductive Event (α : Type) where
  | skip
  | check (a : α)
  | settle (a : α) (ending : Ending)

variable {α κ : Type} [DecidableEq α] [DecidableEq κ] (R : Rules α κ)

namespace Guard

variable (guard : Guard α κ)

def lastMarked (k : κ) : Option α := guard.marked.find? fun b => R.key b = k

def Refuses (a : α) : Prop := ∃ m, guard.marks (R.key a) = some m ∧ R.mark a ≤ m

instance (guard : Guard α κ) (a : α) : Decidable (guard.Refuses R a) :=
  decidable_of_iff ((guard.marks (R.key a)).any fun m => decide (R.mark a ≤ m)) <| by
    simp [Refuses, Option.any_eq_true]

def put (a : α) : Guard α κ :=
  { guard with
    marks := Function.update guard.marks (R.key a) (some (R.mark a))
    waiting := guard.waiting.erase a
    marked := a :: guard.marked }

def settle (a : α) : Ending → Guard α κ
  | .unwritten => { guard with waiting := guard.waiting.erase a }
  | .ungranted => guard.put R a
  | .granted => { guard.put R a with granted := a :: guard.granted }

def step : Event α → Guard α κ
  | .skip => guard
  | .check a =>
    if guard.Refuses R a then
      { guard with refused := (a, guard.lastMarked R (R.key a)) :: guard.refused }
    else { guard with waiting := a :: guard.waiting }
  | .settle a ending => if a ∈ guard.waiting then guard.settle R a ending else guard

structure Good (guard : Guard α κ) : Prop where
  granted : guard.granted.Pairwise fun later earlier => ¬ R.clash earlier later
  refused : ∀ a b, (a, some b) ∈ guard.refused → R.akin b a

def Kept : Event α → Prop
  | .skip => True
  | .check a => ∀ b, guard.lastMarked R (R.key a) = some b → R.mark a ≤ R.mark b → R.akin b a
  | .settle a ending => a ∈ guard.waiting → ending = .granted → ∀ b ∈ guard.granted, ¬ R.clash b a

/-- An attempt is checked while no other one with its key is under way, and after akin ones only,
whose marks are not lower. -/
def Alone : Event α → Prop
  | .check a => (∀ b ∈ guard.waiting, R.key b ≠ R.key a) ∧
      ∀ b ∈ guard.marked, R.key b = R.key a → R.akin b a ∧ R.mark a ≤ R.mark b
  | _ => True

/-! ## The stored marks -/

def Recorded : Prop := ∀ k, guard.marks k = (guard.lastMarked R k).map R.mark

variable {R}

variable {guard : Guard α κ}

omit [DecidableEq α] in
lemma of_lastMarked {k : κ} {b : α} (h : guard.lastMarked R k = some b) :
    b ∈ guard.marked ∧ R.key b = k := by
  have hkey := find?_some h
  exact ⟨mem_of_find?_eq_some h, of_decide_eq_true hkey⟩

lemma Recorded.put (h : guard.Recorded R) (a : α) : (guard.put R a).Recorded R := by
  intro k
  by_cases hk : R.key a = k
  · subst hk
    simp [Guard.put, lastMarked]
  · have hne : k ≠ R.key a := fun heq => hk heq.symm
    simpa [Guard.put, lastMarked, Function.update_of_ne hne, hk] using h k

lemma Recorded.step (h : guard.Recorded R) (e : Event α) : (guard.step R e).Recorded R := by
  cases e with
  | skip => exact h
  | check a =>
    rw [Guard.step]
    split <;> exact h
  | settle a ending =>
    rw [Guard.step]
    split
    · cases ending with
      | unwritten => exact h
      | ungranted | granted => exact h.put a
    · exact h

omit [DecidableEq α] in
lemma Recorded.refuses_iff (h : guard.Recorded R) (a : α) : guard.Refuses R a ↔
      ∃ b, guard.lastMarked R (R.key a) = some b ∧ R.mark a ≤ R.mark b := by
  rw [Refuses, h (R.key a)]
  constructor
  · rintro ⟨m, hm, hle⟩
    obtain ⟨b, hb, rfl⟩ := map_eq_some_iff.mp hm
    exact ⟨b, hb, hle⟩
  · rintro ⟨b, hb, hle⟩
    exact ⟨R.mark b, by rw [hb, map_some], hle⟩

/-! ## Which steps keep a run good -/

lemma good_check_iff (hre : guard.Recorded R) (h : guard.Good R) (a : α) :
    (guard.step R (.check a)).Good R ↔ guard.Kept R (.check a) := by
  rw [step]
  by_cases hr : guard.Refuses R a
  · rw [if_pos hr]
    obtain ⟨b, hb, hle⟩ := (hre.refuses_iff a).mp hr
    constructor
    · intro hg b' hb' _
      exact hg.refused a b' (mem_cons.mpr (.inl (by rw [hb'])))
    · refine fun hk => ⟨h.granted, fun a' b' hmem => ?_⟩
      obtain heq | hmem := mem_cons.mp hmem
      · obtain ⟨rfl, hb'⟩ := Prod.mk.inj heq
        rw [hb] at hb'
        cases hb'
        exact hk b hb hle
      · exact h.refused a' b' hmem
  · rw [if_neg hr]
    refine ⟨fun _ b hb hle => ?_, fun _ => ⟨h.granted, h.refused⟩⟩
    exact absurd ((hre.refuses_iff a).mpr ⟨b, hb, hle⟩) hr

lemma good_settle_iff (h : guard.Good R) (a : α) (ending : Ending) :
    (guard.step R (.settle a ending)).Good R ↔ guard.Kept R (.settle a ending) := by
  rw [step]
  by_cases hw : a ∈ guard.waiting
  · rw [if_pos hw]
    cases ending with
    | unwritten | ungranted =>
      exact ⟨fun _ _ hne => (by cases hne), fun _ => ⟨h.granted, h.refused⟩⟩
    | granted =>
      constructor
      · exact fun hg _ _ => (pairwise_cons.mp hg.granted).1
      · exact fun hk => ⟨pairwise_cons.mpr ⟨hk hw rfl, h.granted⟩, h.refused⟩
  · rw [if_neg hw]
    exact ⟨fun _ hmem => absurd hmem hw, fun _ => h⟩

/-- **Exact rule.** A run stays good exactly when each of its steps gives no clashing grant and
refuses no attempt because of one that is not akin. -/
theorem always_good_iff (hre : guard.Recorded R) (h : guard.Good R) (es : List (Event α)) :
    Always (step R) (Good R) guard es ↔ Each (step R) (Kept R) guard es := by
  refine always_iff_each (J := Recorded R) (fun _ e hr _ => hr.step e) ?_ hre h es
  intro guard e hr hg
  cases e with
  | skip => exact ⟨fun _ => trivial, fun _ => hg⟩
  | check a => exact good_check_iff hr hg a
  | settle a ending => exact good_settle_iff hg a ending

/-! ## Attempts that are alone -/

/-- The attempts under way have different keys, under none of which a mark is stored. -/
structure Apart (R : Rules α κ) (guard : Guard α κ) : Prop where
  recorded : guard.Recorded R
  waiting : guard.waiting.Pairwise fun a b => R.key a ≠ R.key b
  unmarked : ∀ a ∈ guard.waiting, ∀ b ∈ guard.marked, R.key b ≠ R.key a
  granted : ∀ b ∈ guard.granted, b ∈ guard.marked

lemma Apart.put (h : guard.Apart R) {a : α} (ha : a ∈ guard.waiting) : (guard.put R a).Apart R where
  recorded := h.recorded.put a
  waiting := h.waiting.sublist erase_sublist
  unmarked := by
    intro b hb c hc
    have hpe := perm_cons_erase ha
    have hp := (hpe.pairwise_iff fun hne => Ne.symm hne).mp h.waiting
    obtain rfl | hc := mem_cons.mp hc
    · exact (pairwise_cons.mp hp).1 b hb
    · exact h.unmarked b (mem_of_mem_erase hb) c hc
  granted := fun b hb => mem_cons_of_mem a (h.granted b hb)

lemma Apart.step (h : guard.Apart R) {e : Event α} (ha : guard.Alone R e) :
    (guard.step R e).Apart R := by
  cases e with
  | skip => exact h
  | check a =>
    rw [Guard.step]
    by_cases hr : guard.Refuses R a
    · rw [if_pos hr]
      exact ⟨h.recorded, h.waiting, h.unmarked, h.granted⟩
    rw [if_neg hr]
    refine ⟨h.recorded, pairwise_cons.mpr ⟨?_, h.waiting⟩, ?_, h.granted⟩
    · exact fun b hb heq => ha.1 b hb heq.symm
    · intro b hb c hc heq
      obtain rfl | hb := mem_cons.mp hb
      · -- the last mark under this key is not below that of the attempt
        have hl : ∃ last, guard.lastMarked R (R.key b) = some last := by
          refine isSome_iff_exists.mp (find?_isSome.mpr ⟨c, hc, ?_⟩)
          exact decide_eq_true heq
        obtain ⟨last, hl⟩ := hl
        obtain ⟨hm, hkey⟩ := of_lastMarked hl
        have hle := (ha.2 last hm hkey).2
        exact hr ((h.recorded.refuses_iff b).mpr ⟨last, hl, hle⟩)
      · exact h.unmarked b hb c hc heq
  | settle a ending =>
    rw [Guard.step]
    by_cases hw : a ∈ guard.waiting
    · rw [if_pos hw]
      have hput := h.put hw
      cases ending with
      | unwritten =>
        exact ⟨h.recorded, hput.waiting, fun b hb => h.unmarked b (mem_of_mem_erase hb), h.granted⟩
      | ungranted => exact hput
      | granted =>
        refine ⟨hput.recorded, hput.waiting, hput.unmarked, fun b hb => ?_⟩
        obtain rfl | hb := mem_cons.mp hb
        · exact mem_cons_self
        · exact hput.granted b hb
    · rw [if_neg hw]
      exact h

omit [DecidableEq α] in
lemma Apart.kept (hc : ∀ a b, R.clash a b → R.key a = R.key b) (h : guard.Apart R)
    {e : Event α} (ha : guard.Alone R e) : guard.Kept R e := by
  cases e with
  | skip => trivial
  | check a =>
    intro b hb _
    obtain ⟨hm, hkey⟩ := of_lastMarked hb
    exact (ha.2 b hm hkey).1
  | settle a ending =>
    intro hw _ b hb hbad
    exact h.unmarked a hw b (h.granted b hb) (hc b a hbad)

/-- **Attempts one at a time.** A run whose attempts are alone does no harm at any step. -/
theorem each_kept (hc : ∀ a b, R.clash a b → R.key a = R.key b) (h : guard.Apart R)
    {es : List (Event α)} (ha : Each (step R) (Alone R) guard es) :
    Each (step R) (Kept R) guard es := by
  induction es generalizing guard with
  | nil => trivial
  | cons e es ih => exact ⟨h.kept hc ha.1, ih (h.step ha.1) ha.2⟩

def empty : Guard α κ := ⟨fun _ => none, [], [], [], []⟩

omit [DecidableEq α] [DecidableEq κ] in
lemma good_empty : (empty : Guard α κ).Good R := ⟨List.Pairwise.nil, fun _ _ hmem => by cases hmem⟩

omit [DecidableEq α] in
lemma apart_empty : (empty : Guard α κ).Apart R where
  recorded _ := rfl
  waiting := List.Pairwise.nil
  unmarked _ hmem := by cases hmem
  granted _ hmem := by cases hmem

end Guard

end Gadget.Lib.ReplayGuard
