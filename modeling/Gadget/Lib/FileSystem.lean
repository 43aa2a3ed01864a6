import Mathlib.Logic.Function.Basic
import Mathlib.Data.Nat.Notation

/-!
# Files, directories and symbolic links

Names lead to files, directories or links to other names. Opening a name follows links, up to a
limit; removing and renaming act on the name itself. Directories are only seen as names that can
neither be written nor replaced.

`follow` is where a name leads, `visits` the names on the way. The lemmas say what a write, a
removal or a renaming does to what can be read under a name.
-/

namespace Gadget.Lib.FileSystem

open Function List Option

variable {π β : Type}

inductive Entry (π β : Type) where
  | file (content : β)
  | dir
  | link (target : π)
  deriving DecidableEq

abbrev Fs (π β : Type) := π → Option (Entry π β)

namespace Fs

def next (fs : Fs π β) (p : π) : Option π :=
  match fs p with
  | some (.link q) => some q
  | _ => none

def follow (fs : Fs π β) : ℕ → π → Option π
  | 0, _ => none
  | n + 1, p =>
    match fs.next p with
    | some q => fs.follow n q
    | none => some p

def visits (fs : Fs π β) : ℕ → π → List π
  | 0, _ => []
  | n + 1, p =>
    p :: match fs.next p with
      | some q => fs.visits n q
      | none => []

/-- `try_exists`, with an error counted as absence. -/
def present (fs : Fs π β) (n : ℕ) (p : π) : Bool :=
  match fs.follow n p with
  | some q => (fs q).isSome
  | none => false

def read (fs : Fs π β) (n : ℕ) (p : π) : Option β :=
  match fs.follow n p with
  | some q =>
    match fs q with
    | some (.file b) => some b
    | _ => none
  | none => none

/-- The name of the file that is created or truncated when `p` is opened for writing. -/
def creates (fs : Fs π β) (n : ℕ) (p : π) : Option π :=
  match fs.follow n p with
  | some q =>
    match fs q with
    | some .dir => none
    | _ => some q
  | none => none

def put [DecidableEq π] (fs : Fs π β) (q : π) (b : β) : Fs π β := Function.update fs q (some (.file b))

def unlink [DecidableEq π] (fs : Fs π β) (p : π) : Option (Fs π β) :=
  match fs p with
  | none => none
  | some .dir => none
  | some _ => some (Function.update fs p none)

def rename [DecidableEq π] (fs : Fs π β) (p q : π) : Option (Fs π β) :=
  match fs p, fs q with
  | none, _ => none
  | some .dir, _ => none
  | _, some .dir => none
  | some e, _ => some (Function.update (Function.update fs p none) q (some e))

/-! ## Where names lead -/

variable {fs fs' : Fs π β} {p q r : π} {b : β} {n : ℕ}

@[simp]
lemma next_eq_some : fs.next p = some q ↔ fs p = some (.link q) := by
  unfold next
  rcases fs p with _ | e
  · simp
  cases e <;> simp

lemma next_of_follow (h : fs.follow n p = some q) : fs.next q = none := by
  induction n generalizing p with
  | zero => cases h
  | succ n ih =>
    rw [follow] at h
    rcases hp : fs.next p with _ | r
    · rw [hp] at h
      cases h
      exact hp
    rw [hp] at h
    exact ih h

/-- A higher limit finds no other end, and no other names on the way. -/
lemma follow_mono {m : ℕ} (h : fs.follow n p = some q) (hnm : n ≤ m) :
    fs.follow m p = some q ∧ fs.visits m p = fs.visits n p := by
  induction n generalizing p m with
  | zero => cases h
  | succ n ih =>
    obtain ⟨m, rfl⟩ : ∃ k, m = k + 1 := ⟨m - 1, by omega⟩
    rw [follow] at h ⊢
    rw [visits, visits]
    rcases hp : fs.next p with _ | r
    · rw [hp] at h
      exact ⟨h, rfl⟩
    rw [hp] at h
    obtain ⟨hf, hv⟩ := ih h (Nat.le_of_succ_le_succ hnm)
    exact ⟨hf, congrArg (p :: ·) hv⟩

lemma follow_mem_visits (h : fs.follow n p = some q) : q ∈ fs.visits n p := by
  induction n generalizing p with
  | zero => cases h
  | succ n ih =>
    rw [follow] at h
    rw [visits]
    rcases hp : fs.next p with _ | r
    · rw [hp] at h
      cases h
      exact mem_cons_self
    rw [hp] at h
    exact mem_cons_of_mem p (ih h)

lemma mem_visits_succ :
    r ∈ fs.visits (n + 1) p ↔ r = p ∨ ∃ x, fs.next p = some x ∧ r ∈ fs.visits n x := by
  rw [visits, mem_cons]
  rcases fs.next p with _ | x <;> simp

/-- A name on a way leads to the same end, and is nearer to it unless it is the start. -/
lemma follow_of_mem_visits (h : fs.follow n p = some q) (hr : r ∈ fs.visits n p) :
    ∃ m ≤ n, fs.follow m r = some q := by
  induction n generalizing p with
  | zero => cases h
  | succ n ih =>
    obtain rfl | ⟨x, hp, hr⟩ := mem_visits_succ.mp hr
    · exact ⟨n + 1, Nat.le_refl _, h⟩
    · rw [follow, hp] at h
      obtain ⟨m, hm, hf⟩ := ih h hr
      exact ⟨m, by omega, hf⟩

/-- A way that has an end does not come back to its start. -/
lemma not_mem_visits_next {p' : π} (hp : fs.next p = some p') (h : fs.follow n p' = some q) :
    p ∉ fs.visits n p' := by
  -- otherwise `p` leads to `q` within fewer and fewer steps
  intro hmem
  have hl : ∀ k, fs.follow k p' = some q → p ∈ fs.visits k p' →
      ∃ m < k, fs.follow m p' = some q ∧ p ∈ fs.visits m p' := by
    intro k hk hkm
    obtain ⟨m, hm, hf⟩ := follow_of_mem_visits hk hkm
    rcases m with _ | m
    · cases hf
    rw [follow, hp] at hf
    refine ⟨m, by omega, hf, ?_⟩
    rw [← (follow_mono hf (show m ≤ k by omega)).2]
    exact hkm
  induction n using Nat.strongRecOn with
  | ind n ih =>
    obtain ⟨m, hm, hf, hmem'⟩ := hl n h hmem
    exact ih m hm hf hmem'

lemma follow_congr (fs fs' : Fs π β) (h : ∀ r ∈ fs.visits n p, fs'.next r = fs.next r) :
    fs'.follow n p = fs.follow n p ∧ fs'.visits n p = fs.visits n p := by
  induction n generalizing p with
  | zero => exact ⟨rfl, rfl⟩
  | succ n ih =>
    have hp : fs'.next p = fs.next p := h p (by rw [visits]; exact mem_cons_self)
    rw [follow, follow, visits, visits, hp]
    rcases hq : fs.next p with _ | q
    · exact ⟨rfl, rfl⟩
    have hre : ∀ r ∈ fs.visits n q, fs'.next r = fs.next r := by
      intro r hr
      apply h
      rw [visits, hq]
      exact mem_cons_of_mem p hr
    exact ⟨(ih hre).1, congrArg (p :: ·) (ih hre).2⟩

lemma read_eq_some :
    fs.read n p = some b ↔ ∃ q, fs.follow n p = some q ∧ fs q = some (.file b) := by
  unfold read
  rcases fs.follow n p with _ | q
  · simp
  rcases hq : fs q with _ | e
  · simp [hq]
  cases e <;> simp [hq]

lemma creates_eq_some : fs.creates n p = some q ↔ fs.follow n p = some q ∧ fs q ≠ some .dir := by
  unfold creates
  rcases fs.follow n p with _ | r
  · simp
  by_cases hdir : fs r = some .dir
  · simp only [hdir, reduceCtorEq, some.injEq, false_iff, not_and, not_not]
    rintro rfl
    exact hdir
  simp only [some.injEq]
  constructor
  · rintro rfl
    exact ⟨rfl, hdir⟩
  · exact fun h => h.1

lemma next_of_creates (h : fs.creates n p = some q) : fs.next q = none :=
  next_of_follow (creates_eq_some.mp h).1

/-! ## Writing -/

variable [DecidableEq π]

lemma next_put (hq : fs.next q = none) (b : β) (p : π) : (fs.put q b).next p = fs.next p := by
  by_cases h : p = q
  · subst h
    rw [hq]
    simp [next, put]
  · simp [next, put, h]

lemma follow_put (hq : fs.next q = none) (b : β) (n : ℕ) (p : π) :
    (fs.put q b).follow n p = fs.follow n p :=
  (follow_congr fs _ fun r _ => next_put hq b r).1

lemma visits_put (hq : fs.next q = none) (b : β) (n : ℕ) (p : π) :
    (fs.put q b).visits n p = fs.visits n p :=
  (follow_congr fs _ fun r _ => next_put hq b r).2

lemma read_put_of_follow (b : β) (h : fs.follow n p = some q) : (fs.put q b).read n p = some b := by
  rw [read_eq_some]
  exact ⟨q, by rw [follow_put (next_of_follow h), h], by simp [put]⟩

lemma read_put_of_creates (b : β) (h : fs.creates n p = some q) :
    (fs.put q b).read n p = some b := read_put_of_follow b (creates_eq_some.mp h).1

lemma read_put_of_ne (hq : fs.next q = none) (b : β) (h : fs.follow n p ≠ some q) :
    (fs.put q b).read n p = fs.read n p := by
  unfold read
  rw [follow_put hq]
  rcases hp : fs.follow n p with _ | r
  · rfl
  have hr : r ≠ q := fun heq => h (by rw [hp, heq])
  simp [put, hr]

lemma creates_put {p₀ : π} (hq : fs.creates n p₀ = some q) (b : β) (p : π) :
    (fs.put q b).creates n p = fs.creates n p := by
  obtain ⟨hf, hdir⟩ := creates_eq_some.mp hq
  ext r
  rw [creates_eq_some, creates_eq_some, follow_put (next_of_follow hf)]
  refine and_congr_right fun _ => ?_
  by_cases hr : r = q
  · subst hr
    simp [put, hdir]
  · simp [put, hr]

/-! ## Removing -/

lemma unlink_eq_some (h : fs.unlink p = some fs') : fs' = update fs p none := by
  unfold unlink at h
  split at h
  · cases h
  · cases h
  · exact (some.inj h).symm

lemma read_of_read_remove (h : Fs.read (update fs r none) n p = some b) : fs.read n p = some b := by
  rw [read_eq_some] at h ⊢
  obtain ⟨q, hf, hq⟩ := h
  have hqr : q ≠ r := by
    rintro rfl
    simp at hq
  refine ⟨q, ?_, by simpa [hqr] using hq⟩
  induction n generalizing p with
  | zero => cases hf
  | succ n ih =>
    by_cases hp : p = r
    · -- a way that comes to the removed name ends there
      have hn : Fs.next (update fs r none) p = none := by simp [next, hp]
      rw [follow, hn] at hf
      exact absurd ((some.inj hf).symm.trans hp) hqr
    have hne : Fs.next (update fs r none) p = fs.next p := by simp [next, hp]
    rw [follow, hne] at hf
    rw [follow]
    rcases hp' : fs.next p with _ | p'
    · rw [hp'] at hf
      exact hf
    rw [hp'] at hf
    exact ih hf

lemma read_remove_of_not_mem (h : r ∉ fs.visits n p) :
    Fs.read (update fs r none) n p = fs.read n p := by
  have hw := follow_congr fs (update fs r none) (n := n) (p := p) (by
    intro r' hr'
    have hne : r' ≠ r := fun heq => h (heq ▸ hr')
    simp [next, hne])
  unfold read
  rw [hw.1]
  rcases hp : fs.follow n p with _ | q
  · rfl
  have hne : q ≠ r := fun heq => h (heq ▸ follow_mem_visits hp)
  simp [hne]

/-- Nothing is left under a name whose way passes the removed one. -/
lemma read_remove_of_mem (h : r ∈ fs.visits n p) : Fs.read (update fs r none) n p = none := by
  have hf : Fs.follow (update fs r none) n p = some r := by
    induction n generalizing p with
    | zero => cases h
    | succ n ih =>
      by_cases hp : p = r
      · have hn : Fs.next (update fs r none) p = none := by simp [next, hp]
        rw [follow, hn, hp]
      have hne : Fs.next (update fs r none) p = fs.next p := by simp [next, hp]
      obtain ⟨x, hx, hr⟩ := (mem_visits_succ.mp h).resolve_left (Ne.symm hp)
      rw [follow, hne, hx]
      exact ih hr
  simp [read, hf]

/-! ## Renaming -/

abbrev moved (fs : Fs π β) (p q : π) (e : Entry π β) : Fs π β := update (update fs p none) q (some e)

lemma next_moved_new (x : π) : (fs.moved p q (.link x)).next q = some x := by
  simp [next]

lemma rename_eq_some (h : fs.rename p q = some fs') :
    ∃ e, fs p = some e ∧ e ≠ .dir ∧ fs q ≠ some .dir ∧ fs' = fs.moved p q e := by
  unfold rename at h
  rcases hp : fs p with _ | e
  · simp [hp] at h
  cases e with
  | dir => simp [hp] at h
  | file | link =>
    split at h <;> simp_all

lemma next_rename {e : Entry π β} (hp : r ≠ p) (hq : r ≠ q) :
    (fs.moved p q e).next r = fs.next r := by
  simp [next, hp, hq]

/-- After the renaming of a link, the way from its target to something that is there comes to
neither of the two names. -/
lemma not_mem_visits_rename {x : π} (hpq : p ≠ q)
    (hf : (fs.moved p q (.link x)).follow n x = some r)
    (hs : (fs.moved p q (.link x) r).isSome = true) :
    p ∉ (fs.moved p q (.link x)).visits n x ∧ q ∉ (fs.moved p q (.link x)).visits n x := by
  constructor
  · intro hmem
    obtain ⟨m, -, hm⟩ := follow_of_mem_visits hf hmem
    rcases m with _ | m
    · cases hm
    -- the way would end at the old name, where nothing is left
    have hn : (fs.moved p q (.link x)).next p = none := by simp [next, hpq]
    rw [follow, hn] at hm
    cases hm
    simp [hpq] at hs
  · exact not_mem_visits_next (next_moved_new x) hf

section

variable (hpq : p ≠ q) (h : fs.rename p q = some fs')

include hpq h

/-- Where the new name leads after a renaming, the old one led before, over the same names. -/
lemma follow_of_present_rename (hpr : fs'.present n q = true) :
    ∃ r r', fs'.follow n q = some r ∧ fs.follow n p = some r' ∧ fs' r = fs r' ∧
      (fs'.visits n q).tail = (fs.visits n p).tail ∧ q ∉ fs.visits n p := by
  obtain ⟨e, he, hdir, -, rfl⟩ := rename_eq_some h
  obtain ⟨r, hf, hs⟩ : ∃ r, (fs.moved p q e).follow n q = some r ∧
      (fs.moved p q e r).isSome = true := by
    unfold present at hpr
    rcases hr : (fs.moved p q e).follow n q with _ | r
    · simp [hr] at hpr
    exact ⟨r, rfl, by simpa [hr] using hpr⟩
  rcases n with _ | n
  · cases hf
  cases e with
  | dir => exact absurd rfl hdir
  | file b =>
    have hn : fs.next p = none := by simp [next, he]
    have hn' : (fs.moved p q (.file b)).next q = none := by simp [next]
    refine ⟨q, p, by rw [follow, hn'], by rw [follow, hn], by simp [he], ?_, ?_⟩
    · rw [visits, visits, hn, hn']
      rfl
    · simp [visits, hn, hpq.symm]
  | link x =>
    have hn : fs.next p = some x := next_eq_some.mpr he
    have hre : (fs.moved p q (.link x)).follow n x = some r := by
      rw [follow, next_moved_new] at hf
      exact hf
    obtain ⟨hp, hq⟩ := not_mem_visits_rename hpq hre hs
    have hw := follow_congr (fs.moved p q (.link x)) fs (n := n) (p := x) (by
        intro r' hr'
        have hr'p : r' ≠ p := fun heq => hp (heq ▸ hr')
        have hr'q : r' ≠ q := fun heq => hq (heq ▸ hr')
        exact (next_rename hr'p hr'q).symm)
    have hr : r ∈ (fs.moved p q (.link x)).visits n x := follow_mem_visits hre
    have hrp : r ≠ p := fun heq => hp (heq ▸ hr)
    have hrq : r ≠ q := fun heq => hq (heq ▸ hr)
    refine ⟨r, r, hf, ?_, by simp [hrp, hrq], ?_, ?_⟩
    · rw [follow, hn]
      exact hw.1.trans hre
    · rw [visits, visits, hn, next_moved_new]
      exact hw.2.symm
    · rw [visits, hn]
      simp only [mem_cons, not_or]
      exact ⟨hpq.symm, by rw [hw.2]; exact hq⟩

lemma read_of_read_rename (hr : fs'.read n q = some b) : fs.read n p = some b := by
  obtain ⟨r, hf, hfi⟩ := read_eq_some.mp hr
  have hp : fs'.present n q = true := by simp [present, hf, hfi]
  obtain ⟨r₁, r', hf₁, hf', heq, -⟩ := follow_of_present_rename hpq h hp
  rw [hf] at hf₁
  cases hf₁
  exact read_eq_some.mpr ⟨r', hf', heq ▸ hfi⟩

lemma read_rename_of_present (hp : fs'.present n q = true) (hr : fs.read n p = some b) :
    fs'.read n q = some b := by
  obtain ⟨r, r', hf, hf', heq, -⟩ := follow_of_present_rename hpq h hp
  obtain ⟨r₁, hf₁, hfi⟩ := read_eq_some.mp hr
  rw [hf'] at hf₁
  cases hf₁
  exact read_eq_some.mpr ⟨r, hf, heq.trans hfi⟩

end

/-- A link that does not pass the new name leads to the same place under it. -/
lemma follow_rename_link {x : π} (hp : fs p = some (.link x)) (hq : fs q ≠ some .dir)
    (hv : q ∉ fs.visits (n + 1) p) (hf : fs.follow (n + 1) p = some r) :
    ∃ fs', fs.rename p q = some fs' ∧ fs'.follow (n + 1) q = some r ∧ fs' r = fs r ∧
      fs'.visits (n + 1) q = q :: fs.visits n x ∧ fs'.next p = none ∧
      ∀ r', r' ≠ p → r' ≠ q → fs' r' = fs r' := by
  have hpx : fs.next p = some x := next_eq_some.mpr hp
  have hren : fs.rename p q = some (fs.moved p q (.link x)) := by
    unfold rename
    rw [hp]
    rcases hd : fs q with _ | e
    · rfl
    cases e with
    | dir => exact absurd hd hq
    | file | link => rfl
  have hre : fs.follow n x = some r := by
    rw [follow, hpx] at hf
    exact hf
  have hp' : p ∉ fs.visits n x := not_mem_visits_next hpx hre
  rw [visits, hpx] at hv
  obtain ⟨hqp, hq'⟩ : q ≠ p ∧ q ∉ fs.visits n x := by simpa using hv
  have hw := follow_congr fs (fs.moved p q (.link x)) (n := n) (p := x) (by
      intro r' hr'
      exact next_rename (fun heq => hp' (heq ▸ hr')) (fun heq => hq' (heq ▸ hr')))
  have hr : r ∈ fs.visits n x := follow_mem_visits hre
  refine ⟨_, hren, ?_, ?_, ?_, ?_, ?_⟩
  · rw [follow, next_moved_new]
    exact hw.1.trans hre
  · have hrp : r ≠ p := fun heq => hp' (heq ▸ hr)
    have hrq : r ≠ q := fun heq => hq' (heq ▸ hr)
    simp [hrp, hrq]
  · rw [visits, next_moved_new]
    exact congrArg (q :: ·) hw.2
  · simp [next, hqp.symm]
  · intro r' hr'p hr'q
    simp [hr'p, hr'q]

end Fs

end Gadget.Lib.FileSystem
