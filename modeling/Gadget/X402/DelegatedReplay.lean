import Gadget.Lib.Run
import Gadget.X402.PaidJob
import Gadget.X402.PaymentGate

/-!
# Single use of delegated signatures

Requests under the policy `DelegatedCallerSignature`, in any order of their steps: the
signature is checked at one reading of the clock, `reserve` takes a second reading, and then
waits for the lock under which used nonces are swept and looked up. The clock never goes back.
-/

namespace Gadget.X402

open Rust Lib.Run List

variable {D : Deps} {P : PayDeps D}

structure DelegatedUse (D : Deps) where
  caller : D.Address
  serviceId : ℕ
  jobIndex : ℕ
  nonce : List Char
  expiry : ℕ

def DelegatedUse.key (P : PayDeps D) (u : DelegatedUse D) : List Char :=
  nonceKey P u.serviceId u.jobIndex u.caller u.nonce

inductive DelegatedHandler (D : Deps) where
  | verified (u : DelegatedUse D)
  /-- `reserve` has read the clock and waits for the lock. -/
  | timed (u : DelegatedUse D) (now : ℕ)

structure DelegatedPass (D : Deps) where
  used : DelegatedUse D
  since : List ℕ

structure DelegatedGate (D : Deps) where
  clock : ℤ
  seen : SeenNonces
  handlers : HashMap ℕ (DelegatedHandler D)
  passed : List (DelegatedPass D)

inductive DelegatedEvent where
  | tick (secs : ℕ)
  | verify (id serviceId jobIndex : ℕ) (body : Bytes) (headers : HeaderMap)
  /-- `reserve` reads the clock. -/
  | readClock (id : ℕ)
  /-- `reserve` holds the lock. -/
  | reserve (id : ℕ)

namespace DelegatedGate

def start (clock : ℤ) : DelegatedGate D := ⟨clock, ∅, ∅, []⟩

def heldAgain (now : ℕ) (p : DelegatedPass D) : DelegatedPass D := ⟨p.used, now :: p.since⟩

def lock (P : PayDeps D) (g : DelegatedGate D) (id : ℕ) (u : DelegatedUse D) (now : ℕ) :
    DelegatedGate D :=
  let (result, seen) := reserveLocked g.seen now (u.key P) u.expiry
  { g with
    seen := seen
    handlers := g.handlers.erase id
    passed :=
      match result with
      | .error _ => g.passed.map (heldAgain now)
      | .ok () => ⟨u, []⟩ :: g.passed.map (heldAgain now) }

def step (P : PayDeps D) (g : DelegatedGate D) : DelegatedEvent → DelegatedGate D
  | .tick secs => { g with clock := g.clock + secs }
  | .verify id serviceId jobIndex body headers =>
    match g.handlers.lookup id, verifyDelegatedSignature P g.clock serviceId jobIndex body headers with
    | none, .ok a =>
      { g with
        handlers := g.handlers.insert id
          (.verified ⟨a.caller, serviceId, jobIndex, a.nonce, a.expiry⟩) }
    | _, _ => g
  | .readClock id =>
    match g.handlers.lookup id with
    | some (.verified u) =>
      match unixTimestampSecs g.clock with
      | .ok now => { g with handlers := g.handlers.insert id (.timed u now) }
      | .error _ => { g with handlers := g.handlers.erase id }
    | _ => g
  | .reserve id =>
    match g.handlers.lookup id with
    | some (.timed u now) => g.lock P id u now
    | _ => g

/-- No signature has passed twice. -/
def SingleUse (g : DelegatedGate D) : Prop := (g.passed.map (·.used)).Nodup

def Outlasts (now : ℕ) (p : DelegatedPass D) : Prop := ∀ r ∈ now :: p.since, r < p.used.expiry

/-- A signature that has passed before gets to the lock only while an earlier pass with its
nonce still outlasts its reading. -/
def Remembered (P : PayDeps D) (g : DelegatedGate D) : DelegatedEvent → Prop
  | .reserve id => ∀ u now, g.handlers.lookup id = some (.timed u now) →
      u ∈ g.passed.map (·.used) → ∃ p ∈ g.passed, p.used.key P = u.key P ∧ Outlasts now p
  | _ => True

def Tracks (P : PayDeps D) (g : DelegatedGate D) : Prop :=
  ∀ key expiry, g.seen.lookup key = some expiry ↔
    ∃ p ∈ g.passed, p.used.key P = key ∧ p.used.expiry = expiry ∧ ∀ r ∈ p.since, r < p.used.expiry

variable {g : DelegatedGate D}

lemma lookup_sweep (hg : g.Tracks P) (now : ℕ) (key : List Char) (exp : ℕ) :
    (sweepNonces g.seen now).lookup key = some exp ↔
      ∃ p ∈ g.passed, p.used.key P = key ∧ p.used.expiry = exp ∧ Outlasts now p := by
  rw [sweepNonces, HashMap.lookup_retain_eq_some, decide_eq_true_eq, gt_iff_lt, hg key exp]
  constructor
  · rintro ⟨⟨p, hp, hkey, rfl, hs⟩, hnow⟩
    exact ⟨p, hp, hkey, rfl, forall_mem_cons.mpr ⟨hnow, hs⟩⟩
  · rintro ⟨p, hp, hkey, rfl, hout⟩
    obtain ⟨hnow, hs⟩ := forall_mem_cons.mp hout
    exact ⟨⟨p, hp, hkey, rfl, hs⟩, hnow⟩

lemma lookup_sweep_isSome (hg : g.Tracks P) (now : ℕ) (key : List Char) :
    ((sweepNonces g.seen now).lookup key).isSome ↔
      ∃ p ∈ g.passed, p.used.key P = key ∧ Outlasts now p := by
  rw [Option.isSome_iff_exists]
  constructor
  · rintro ⟨exp, hl⟩
    obtain ⟨p, hp, hkey, -, hout⟩ := (lookup_sweep hg now key exp).mp hl
    exact ⟨p, hp, hkey, hout⟩
  · rintro ⟨p, hp, hkey, hout⟩
    exact ⟨p.used.expiry, (lookup_sweep hg now key _).mpr ⟨p, hp, hkey, rfl, hout⟩⟩

lemma lock_of_outlasts (hg : g.Tracks P) {id : ℕ} {u : DelegatedUse D} {now : ℕ}
    (h : ∃ p ∈ g.passed, p.used.key P = u.key P ∧ Outlasts now p) :
    g.lock P id u now = { g with
        seen := sweepNonces g.seen now
        handlers := g.handlers.erase id
        passed := g.passed.map (heldAgain now) } := by
  have hs := (lookup_sweep_isSome hg now (u.key P)).mpr h
  rw [lock, reserveLocked, if_pos hs]

lemma lock_of_not_outlasts (hg : g.Tracks P) {id : ℕ} {u : DelegatedUse D} {now : ℕ}
    (h : ¬ ∃ p ∈ g.passed, p.used.key P = u.key P ∧ Outlasts now p) :
    g.lock P id u now = { g with
        seen := (sweepNonces g.seen now).insert (u.key P) u.expiry
        handlers := g.handlers.erase id
        passed := ⟨u, []⟩ :: g.passed.map (heldAgain now) } := by
  have hs := mt (lookup_sweep_isSome hg now (u.key P)).mp h
  rw [lock, reserveLocked, if_neg hs]

lemma exists_heldAgain (g : DelegatedGate D) (now : ℕ) (key : List Char) (exp : ℕ) :
    (∃ p ∈ g.passed.map (heldAgain now), p.used.key P = key ∧ p.used.expiry = exp ∧
      ∀ r ∈ p.since, r < p.used.expiry) ↔
    ∃ p ∈ g.passed, p.used.key P = key ∧ p.used.expiry = exp ∧ Outlasts now p := by
  constructor
  · rintro ⟨_, hmem, h⟩
    obtain ⟨p, hp, rfl⟩ := mem_map.mp hmem
    exact ⟨p, hp, h⟩
  · rintro ⟨p, hp, h⟩
    exact ⟨heldAgain now p, mem_map_of_mem hp, h⟩

lemma Tracks.lock (hg : g.Tracks P) (id : ℕ) (u : DelegatedUse D) (now : ℕ) :
    (g.lock P id u now).Tracks P := by
  intro key exp
  by_cases h : ∃ p ∈ g.passed, p.used.key P = u.key P ∧ Outlasts now p
  · rw [lock_of_outlasts hg h]
    exact (lookup_sweep hg now key exp).trans (exists_heldAgain g now key exp).symm
  rw [lock_of_not_outlasts hg h]
  simp only [HashMap.lookup_insert_eq, exists_mem_cons_iff]
  rw [exists_heldAgain]
  split_ifs with hkey
  · -- no swept entry has the key, so only the new pass can account for it
    subst hkey
    constructor
    · intro he
      cases he
      exact .inl ⟨rfl, rfl, fun r hr => absurd hr not_mem_nil⟩
    · rintro (⟨-, rfl, -⟩ | ⟨p, hp, hpk, -, hout⟩)
      · rfl
      · exact absurd ⟨p, hp, hpk, hout⟩ h
  · rw [lookup_sweep hg now key exp]
    exact ⟨.inr, fun hor => hor.resolve_left fun hnew => hkey hnew.1.symm⟩

lemma Tracks.step (hg : g.Tracks P) (e : DelegatedEvent) : (g.step P e).Tracks P := by
  cases e with
  | tick secs => exact hg
  | verify id serviceId job body headers =>
    simp only [DelegatedGate.step]
    split <;> exact hg
  | readClock id =>
    simp only [DelegatedGate.step]
    split
    · split <;> exact hg
    · exact hg
  | reserve id =>
    simp only [DelegatedGate.step]
    split
    · exact hg.lock id _ _
    · exact hg

/-- **What is remembered**, in every order of steps: the nonces of exactly those passed signatures that
no holder of the lock has found expired since. -/
theorem always_tracks (clock : ℤ) (es : List DelegatedEvent) :
    Always (step P) (Tracks P) (start clock : DelegatedGate D) es :=
  always_of_step (fun _ e h => h.step e) (fun key exp => by simp [start]) es

lemma passed_step_of_not_reserve (g : DelegatedGate D) {e : DelegatedEvent}
    (he : ∀ id, e ≠ .reserve id) : (g.step P e).passed = g.passed := by
  cases e with
  | tick secs => rfl
  | verify id serviceId job body headers =>
    simp only [DelegatedGate.step]
    split <;> rfl
  | readClock id =>
    simp only [DelegatedGate.step]
    split
    · split <;> rfl
    · rfl
  | reserve id => exact absurd rfl (he id)

lemma used_heldAgain (now : ℕ) (ps : List (DelegatedPass D)) :
    (ps.map (heldAgain now)).map (·.used) = ps.map (·.used) := by
  rw [map_map]
  rfl

lemma singleUse_step_iff (hg : g.Tracks P) (hs : g.SingleUse) (e : DelegatedEvent) :
    (g.step P e).SingleUse ↔ g.Remembered P e := by
  cases e with
  | reserve id =>
    rcases hid : g.handlers.lookup id with _ | handler
    · simp [DelegatedGate.step, Remembered, hid, hs]
    rcases handler with u | ⟨u, now⟩
    · simp [DelegatedGate.step, Remembered, hid, hs]
    have hst : g.step P (.reserve id) = g.lock P id u now := by
      simp [DelegatedGate.step, hid]
    have hc : g.Remembered P (.reserve id) ↔ (u ∈ g.passed.map (·.used) →
        ∃ p ∈ g.passed, p.used.key P = u.key P ∧ Outlasts now p) := by
      simp only [Remembered, hid, Option.some.injEq, DelegatedHandler.timed.injEq]
      exact ⟨fun h => h u now ⟨rfl, rfl⟩, by rintro h _ _ ⟨rfl, rfl⟩; exact h⟩
    rw [hst, hc]
    by_cases hout : ∃ p ∈ g.passed, p.used.key P = u.key P ∧ Outlasts now p
    · -- refused: nothing new has passed
      rw [lock_of_outlasts hg hout, SingleUse, used_heldAgain]
      exact iff_of_true hs fun _ => hout
    · rw [lock_of_not_outlasts hg hout, SingleUse, map_cons, used_heldAgain, nodup_cons]
      exact ⟨fun h hmem => absurd hmem h.1, fun h => ⟨fun hmem => hout (h hmem), hs⟩⟩
  | tick secs => exact iff_of_true hs trivial
  | verify id serviceId job body headers =>
    have hp : (g.step P (.verify id serviceId job body headers)).passed = g.passed :=
      passed_step_of_not_reserve g (by simp)
    exact iff_of_true (by rw [SingleUse, hp]; exact hs) trivial
  | readClock id =>
    have hp : (g.step P (.readClock id)).passed = g.passed := passed_step_of_not_reserve g (by simp)
    exact iff_of_true (by rw [SingleUse, hp]; exact hs) trivial

/-- **Single use.** From a fresh guard, over every order of the steps of any requests and every
clock that does not go back, no signature passes twice exactly when no signature that has passed
gets to the lock again after its nonce could be forgotten. -/
theorem always_singleUse_iff (clock : ℤ) (es : List DelegatedEvent) :
    Always (step P) SingleUse (start clock : DelegatedGate D) es ↔
      Each (step P) (Remembered P) (start clock : DelegatedGate D) es := by
  have hst : (start clock : DelegatedGate D).SingleUse := nodup_nil
  exact always_iff_each (J := Tracks P) (fun g e hg _ => hg.step e)
    (fun g e hg hs => singleUse_step_iff hg hs e) (fun key exp => by simp [start]) hst es

end DelegatedGate

abbrev plainPayDeps : PayDeps wholeDeps where
  addressEq := inferInstanceAs (DecidableEq (List Char))
  display a := String.ofList a
  display_injective := fun a b h => by simpa using congrArg String.toList h
  lowerHex a := a
  base64Decode bytes := some bytes
  parseSettleResponse bytes := some (.success (bytes.map fun b => Char.ofNat b.toNat) eip155)
  Json := Unit
  parseJson _ := none
  member _ _ := none
  asStr _ := none
  Signature := List Char
  parseSignature text := some text
  recover signature text :=
    if signature.drop 42 = text then some (signature.take 42) else none
  keccak256 _ := []

namespace DelegatedGate

def delegatedHeaders : HeaderMap :=
  let payload := delegatedAuthPayload plainPayDeps 1 0 [] ['7'] 100
  ((((∅ : HeaderMap).set headerCaller (zeroAddress.map asciiByte)).set headerCallerNonce
    (['7'].map asciiByte)).set headerCallerExpiry (['1', '0', '0'].map asciiByte)).set
    headerCallerSig ((zeroAddress ++ payload).map asciiByte)

def delegatedCall (id : ℕ) : List DelegatedEvent :=
  [.verify id 1 0 [] delegatedHeaders, .readClock id, .reserve id]

theorem used_twice_in_last_second :
    ¬ Always (step plainPayDeps) SingleUse (start 100) (delegatedCall 0 ++ delegatedCall 1) := by
  intro h
  have hl : SingleUse ((delegatedCall 0 ++ delegatedCall 1).foldl (step plainPayDeps)
      (start 100)) := h.last
  have hu : ((delegatedCall 0 ++ delegatedCall 1).foldl (step plainPayDeps)
      (start 100)).passed.map (·.used)
        = [⟨zeroAddress, 1, 0, ['7'], 100⟩, ⟨zeroAddress, 1, 0, ['7'], 100⟩] := rfl
  rw [SingleUse, hu] at hl
  simp at hl

end DelegatedGate

end Gadget.X402
