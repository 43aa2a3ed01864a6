import Mathlib.Data.List.Basic
import Mathlib.Init

/-!
# Outcomes of calls

A call either returns or unwinds. `Fault` is what stands in the place of the value when it
does not return `Ok`: an error of the program, or the message of a panic.
-/

namespace Gadget.Rust

inductive Fault (ε : Type) where
  | err (e : ε)
  | panicked (message : String)
  deriving DecidableEq

abbrev Outcome (ε α : Type) := Except (Fault ε) α

variable {ε α β : Type}

def orPanic : Except String α → Outcome ε α
  | .ok a => .ok a
  | .error message => .error (.panicked message)

def orErr : Except ε α → Outcome ε α
  | .ok a => .ok a
  | .error e => .error (.err e)

def okOr (x : Option α) (e : ε) : Except ε α :=
  match x with
  | some a => .ok a
  | none => .error e

def rejectIf (condition : Prop) [Decidable condition] (e : ε) : Except ε Unit :=
  if condition then .error e else .ok ()

lemma ok_bind (a : α) (f : α → Except ε β) : (Except.ok a >>= f) = f a := rfl

lemma error_bind (e : ε) (f : α → Except ε β) : (Except.error e >>= f) = .error e := rfl

variable {a : α} {x : Except ε α}

lemma orPanic_eq_ok {x : Except String α} : (orPanic x : Outcome ε α) = .ok a ↔ x = .ok a := by
  rcases x with msg | b <;> simp [orPanic]

variable {b : β} {e : ε} {f : α → Outcome ε β}

lemma okOr_eq_ok {x : Option α} : okOr x e = .ok a ↔ x = some a := by
  rcases x with _ | b <;> simp [okOr]

lemma rejectIf_eq_ok {condition : Prop} [Decidable condition] :
    rejectIf condition e = .ok () ↔ ¬ condition := by
  by_cases h : condition <;> simp [rejectIf, h]

lemma orErr_eq_ok : (orErr x : Outcome ε α) = .ok a ↔ x = .ok a := by
  rcases x with e | b <;> simp [orErr]

lemma exceptMap_inj {f : α → β} (hf : ∀ a b, f a = f b → a = b) {y : Except ε α} :
    x.map f = y.map f ↔ x = y := by
  constructor
  · intro h
    rcases x with e | a
    · rcases y with e' | b
      · simpa [Except.map] using h
      simp [Except.map] at h
    rcases y with e' | b
    · simp [Except.map] at h
    simp only [Except.map, Except.ok.injEq] at h
    rw [hf a b h]
  · intro h
    rw [h]

lemma exceptMap_eq_ok {f : α → β} : x.map f = .ok b ↔ ∃ a, x = .ok a ∧ f a = b := by
  rcases x with e | a <;> simp [Except.map]

lemma mapError_eq_ok {ε' : Type} {f : ε → ε'} : x.mapError f = .ok a ↔ x = .ok a := by
  rcases x with e | b
  · constructor <;> intro h <;> cases h
  constructor <;>
    · intro h
      cases h
      rfl

def Failed (x : Except ε α) : Prop := ∃ e, x = .error e

lemma failed_error (e : ε) : Failed (.error e : Except ε α) := ⟨e, rfl⟩

lemma not_failed_ok (a : α) : ¬ Failed (.ok a : Except ε α) := by
  rintro ⟨e, h⟩
  cases h

lemma toOption_eq_some : x.toOption = some a ↔ x = .ok a := by
  rcases x with e | b <;> simp [Except.toOption]

lemma bind_eq_ok {f : α → Except ε β} : (x >>= f) = .ok b ↔ ∃ a, x = .ok a ∧ f a = .ok b := by
  rcases x with e | a <;> simp [bind, Except.bind]

lemma unit_bind_eq_ok {x : Except ε Unit} {f : Unit → Except ε β} :
    (x >>= f) = .ok b ↔ x = .ok () ∧ f () = .ok b := by
  rcases x with e | a <;> simp [bind, Except.bind]

lemma okOr_bind_eq_ok {x : Option α} {f : α → Except ε β} :
    (okOr x e >>= f) = .ok b ↔ ∃ a, x = some a ∧ f a = .ok b := by
  simp [bind_eq_ok, okOr_eq_ok]

lemma forM_eq_ok {f : α → Except ε Unit} {l : List α} :
    l.forM f = .ok () ↔ ∀ x ∈ l, f x = .ok () := by
  induction l with
  | nil => simp [pure, Except.pure]
  | cons a l ih =>
    rw [List.forM, bind_eq_ok, List.forall_mem_cons, ← ih]
    constructor
    · rintro ⟨⟨⟩, ha, hl⟩
      exact ⟨ha, hl⟩
    · rintro ⟨ha, hl⟩
      exact ⟨(), ha, hl⟩

def NoPanic {ε α : Type} : Outcome ε α → Prop
  | .error (.panicked _) => False
  | _ => True

lemma noPanic_bind (x : Outcome ε α) (hf : ∀ a, NoPanic (f a)) : NoPanic (x >>= f) ↔ NoPanic x := by
  rcases x with (e | msg) | a
  · exact Iff.rfl
  · exact Iff.rfl
  · exact iff_of_true (hf a) trivial

/-- A sequence does not panic exactly when no step that it gets to does. -/
lemma noPanic_bind_iff {x : Outcome ε α} :
    NoPanic (x >>= f) ↔ NoPanic x ∧ ∀ a, x = .ok a → NoPanic (f a) := by
  rcases x with (e | msg) | a
  · exact iff_of_true trivial ⟨trivial, nofun⟩
  · exact iff_of_false id fun h => h.1
  · exact ⟨fun h => ⟨trivial, fun _ hb => by cases hb; exact h⟩, fun h => h.2 a rfl⟩

lemma NoPanic.bind {x : Outcome ε α} (hx : NoPanic x) (hf : ∀ a, x = .ok a → NoPanic (f a)) :
    NoPanic (x >>= f) := by
  rcases x with (e | msg) | a
  · trivial
  · exact hx
  · exact hf a rfl

lemma noPanic_orErr (x : Except ε α) : NoPanic (orErr x : Outcome ε α) := by
  cases x <;> trivial

abbrev Bytes := List UInt8

/-! ## Writing a file in place

`fs::write` empties the file and then writes the new content. When it fails, or the program ends before
it is done, the file can be as it was or have a part of the new content. -/

inductive WriteAttempt where
  | done
  | refused (text : String)
  | torn (missing : ℕ) (text : String)

def cutOff (content : Bytes) (missing : ℕ) : Bytes := content.take (content.length - (missing + 1))

lemma cutOff_eq_take {content : Bytes} (h : content ≠ []) (missing : ℕ) :
    ∃ n, n < content.length ∧ cutOff content missing = content.take n := by
  have hpos : 0 < content.length := List.length_pos_iff.mpr h
  exact ⟨content.length - (missing + 1), by omega, rfl⟩

end Gadget.Rust
