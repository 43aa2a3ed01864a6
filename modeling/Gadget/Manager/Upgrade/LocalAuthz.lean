import Gadget.Lib.WriteBehind
import Gadget.Manager.Upgrade.Watcher

/-!
# The persisted record of local authorisations

A store opened by `new_persisted` keeps the record of each service in memory and in a file. Every
call takes the lock of the whole map for its change, and writes the file after it has given the lock
up. A file stands for what `serde_json` reads from it, or for nothing where it is not read.
-/

namespace Gadget.Manager

open Rust Lib.Run Lib.WriteBehind

/-- What a call makes of the record of a service. -/
inductive AuthzChange where
  | setWhitelist (versions : Finset ℕ)
  | setPin (versionId : Option ℕ)
  | addSkip (versionId : ℕ) (reason : String)
  | clearSkip (versionId : ℕ)

def AuthzChange.apply (authz : LocalAuthz) : AuthzChange → LocalAuthz
  | .setWhitelist versions => { authz with whitelisted := versions }
  | .setPin versionId => { authz with pinned := versionId }
  | .addSkip versionId reason => { authz with skipped := authz.skipped.insert versionId reason }
  | .clearSkip versionId => { authz with skipped := authz.skipped.erase versionId }

inductive LocalAuthzError where
  | io (text : String)
  | parse (text : String)

/-- The files, by the service in their name. -/
abbrev AuthzFiles := HashMap ℕ (Option LocalAuthz)

variable (files : AuthzFiles)

/-- `new_persisted`: files that cannot be read are skipped. -/
def LocalAuthzStore.newPersisted : LocalAuthzStore :=
  HashMap.filterMap files fun _ content => content

/-- `persist`: the rename replaces the file, and every step that fails before it leaves it. -/
def persist (serviceId : ℕ) (authz : LocalAuthz)
    (outcome : Except LocalAuthzError Unit) : AuthzFiles :=
  match outcome with
  | .ok () => files.insert serviceId (some authz)
  | .error _ => files

/-- The store, its files, and the calls that have changed the memory and not yet returned. -/
structure AuthzRun where
  memory : LocalAuthzStore
  files : AuthzFiles
  calls : List (Pending ℕ LocalAuthz)
  failed : List (Pending ℕ LocalAuthz)

inductive AuthzEvent where
  | mutate (serviceId : ℕ) (change : AuthzChange)
  | consumePinIf (serviceId versionId : ℕ)
  | persist (position : ℕ) (outcome : Except LocalAuthzError Unit)

namespace AuthzRun

def newPersisted (files : AuthzFiles) : AuthzRun where
  memory := LocalAuthzStore.newPersisted files
  files := files
  calls := []
  failed := []

variable (run : AuthzRun)

def step : AuthzEvent → AuthzRun
  | .mutate serviceId change =>
    let entry := LocalAuthzStore.get run.memory serviceId
    let snapshot := change.apply entry
    { run with
      memory := run.memory.insert serviceId snapshot
      calls := run.calls ++ [⟨serviceId, entry, snapshot⟩] }
  | .consumePinIf serviceId versionId =>
    let entry := LocalAuthzStore.get run.memory serviceId
    let memory := LocalAuthzStore.consumePinIf run.memory serviceId versionId
    -- without the pin there is nothing to write, and the call ends here
    if entry.pinned = some versionId then
      { run with
        memory := memory
        calls := run.calls ++ [⟨serviceId, entry, LocalAuthzStore.get memory serviceId⟩] }
    else { run with memory := memory }
  | .persist position outcome =>
    match run.calls[position]? with
    | none => run
    | some call =>
      let calls := run.calls.take position ++ run.calls.drop (position + 1)
      let files := persist run.files call.key call.after outcome
      match outcome with
      | .ok () => { run with files := files, calls := calls }
      | .error _ => { run with files := files, calls := calls, failed := run.failed ++ [call] }

/-- Once all calls have returned, a restart finds for every service what `get` returns; and a call
that returned an error left the record as it was. -/
structure Survives (run : AuthzRun) : Prop where
  restart : run.calls = [] → ∀ serviceId,
    LocalAuthzStore.get (LocalAuthzStore.newPersisted run.files) serviceId
      = LocalAuthzStore.get run.memory serviceId
  unchanged : ∀ call ∈ run.failed, call.before = call.after

/-- A write succeeds after those of the calls that changed the same record before, and fails only where the call has
changed nothing. -/
def WritesInOrder : AuthzEvent → Prop
  | .persist position outcome => ∀ call, run.calls[position]? = some call →
    match outcome with
    | .ok () => ∀ earlier ∈ run.calls.take position, earlier.key ≠ call.key
    | .error _ => call.before = call.after
  | _ => True

def view : Store ℕ LocalAuthz where
  memory := LocalAuthzStore.get run.memory
  disk := LocalAuthzStore.get (LocalAuthzStore.newPersisted run.files)
  pending := run.calls
  failed := run.failed

end AuthzRun

def AuthzEvent.act : AuthzEvent → Event ℕ LocalAuthz
  | .mutate serviceId change => .change serviceId fun authz => some (change.apply authz)
  | .consumePinIf serviceId versionId =>
    .change serviceId fun authz =>
      if authz.pinned = some versionId then some { authz with pinned := none } else none
  | .persist position outcome => .finish position outcome.toBool

variable (store : LocalAuthzStore) (serviceId : ℕ) (authz : LocalAuthz)

lemma get_insert :
    LocalAuthzStore.get (store.insert serviceId authz)
      = Function.update (LocalAuthzStore.get store) serviceId authz := by
  funext service
  by_cases h : service = serviceId
  · subst h
    simp [LocalAuthzStore.get]
  · simp [LocalAuthzStore.get, h]

lemma get_newPersisted_insert :
    LocalAuthzStore.get (LocalAuthzStore.newPersisted (files.insert serviceId (some authz)))
      = Function.update (LocalAuthzStore.get (LocalAuthzStore.newPersisted files)) serviceId authz := by
  funext service
  by_cases h : service = serviceId
  · subst h
    simp [LocalAuthzStore.get, LocalAuthzStore.newPersisted]
  · simp [LocalAuthzStore.get, LocalAuthzStore.newPersisted, h]

lemma get_consumePinIf (vid : ℕ) :
    LocalAuthzStore.get (LocalAuthzStore.consumePinIf store serviceId vid)
      = if (LocalAuthzStore.get store serviceId).pinned = some vid then
          Function.update (LocalAuthzStore.get store) serviceId
            { LocalAuthzStore.get store serviceId with pinned := none }
        else LocalAuthzStore.get store := by
  rw [LocalAuthzStore.consumePinIf, get_insert]
  by_cases h : (LocalAuthzStore.get store serviceId).pinned = some vid
  · rw [if_pos h, if_pos h]
  · rw [if_neg h, if_neg h, Function.update_eq_self]

namespace AuthzRun

variable (run : AuthzRun)

lemma view_step (e : AuthzEvent) : (run.step e).view = run.view.step e.act := by
  cases e with
  | mutate serviceId change =>
    simp [AuthzRun.step, view, AuthzEvent.act, Store.step, get_insert]
  | consumePinIf serviceId vid =>
    by_cases h : (LocalAuthzStore.get run.memory serviceId).pinned = some vid <;>
      simp [AuthzRun.step, view, AuthzEvent.act, Store.step, h, get_consumePinIf]
  | persist position out =>
    rcases hc : run.calls[position]? with _ | call
    · simp [AuthzRun.step, view, AuthzEvent.act, Store.step, hc]
    rcases out with e | u
    · simp [AuthzRun.step, view, AuthzEvent.act, Store.step, hc, persist, Except.toBool]
    simp [AuthzRun.step, view, AuthzEvent.act, Store.step, hc, persist, Except.toBool,
      get_newPersisted_insert]

lemma survives_iff : run.Survives ↔ run.view.Sound :=
  ⟨fun h => ⟨fun hn => funext (h.restart hn), h.unchanged⟩,
    fun h => ⟨fun hn => congrFun (h.agree hn), h.unchanged⟩⟩

lemma writesInOrder_iff (e : AuthzEvent) : run.WritesInOrder e ↔ run.view.InOrder e.act := by
  cases e with
  | mutate | consumePinIf => exact Iff.rfl
  | persist position out =>
    rcases out with e | u <;> simp [WritesInOrder, AuthzEvent.act, Store.InOrder, Except.toBool, view]

/-- **Local authorisations** survive restarts in every run in which the records of a service are written in the order of
their changes in memory, and a write fails only where the call has changed nothing. -/
theorem always_survives (files : AuthzFiles) (es : List AuthzEvent)
    (h : Each step WritesInOrder (newPersisted files) es) : Always step Survives (newPersisted files) es := by
  have hs : Always step Survives (newPersisted files) es ↔
      Always Store.step Store.Sound (newPersisted files).view (es.map AuthzEvent.act) :=
    (always_congr (J := fun _ => True) (fun _ _ _ => trivial) (fun run _ => survives_iff run)
      trivial es).trans (always_iff_of_simulation view_step _ es)
  have hw : Each Store.step Store.InOrder (newPersisted files).view (es.map AuthzEvent.act) :=
    ((each_congr writesInOrder_iff _ es).trans (each_iff_of_simulation view_step _ es)).mp h
  exact hs.mpr (Store.always_sound rfl rfl rfl hw)

/-- The pin is set and consumed, and the two writes succeed in this order. -/
theorem consumed_pin_survives :
    Always step Survives (newPersisted ∅)
      [.mutate 7 (.setPin (some 1)), .consumePinIf 7 1, .persist 0 (.ok ()), .persist 0 (.ok ())] :=
  always_survives ∅ _ (by simp [Each, WritesInOrder])

def overtakenPin : List AuthzEvent :=
  [.mutate 7 (.setPin (some 1)), .consumePinIf 7 1, .persist 1 (.ok ()), .persist 0 (.ok ())]

def failedRevocation : List AuthzEvent :=
  [.mutate 7 (.setPin (some 1)), .persist 0 (.ok ()), .mutate 7 (.setPin none),
    .persist 0 (.error (.io "No space left on device (os error 28)"))]

/-- In both runs all calls have returned and nothing authorises version 1, until a restart. In the
second the call that returned the error has revoked the pin in memory. -/
theorem revoked_pin_authorises_after_restart :
    (overtakenPin.foldl step (newPersisted ∅)).calls = [] ∧
      (LocalAuthzStore.get (overtakenPin.foldl step (newPersisted ∅)).memory 7).decide 1 = .hold ∧
      (LocalAuthzStore.get (LocalAuthzStore.newPersisted
        (overtakenPin.foldl step (newPersisted ∅)).files) 7).decide 1 = .swap true ∧
      ¬ Always step Survives (newPersisted ∅) overtakenPin ∧
      (failedRevocation.foldl step (newPersisted ∅)).failed.map
        (fun call => (call.before.pinned, call.after.pinned)) = [(some 1, none)] ∧
      (LocalAuthzStore.get (failedRevocation.foldl step (newPersisted ∅)).memory 7).decide 1 = .hold ∧
      (LocalAuthzStore.get (LocalAuthzStore.newPersisted
        (failedRevocation.foldl step (newPersisted ∅)).files) 7).decide 1 = .swap true ∧
      ¬ Always step Survives (newPersisted ∅) failedRevocation := by
  have he : (overtakenPin.foldl step (newPersisted ∅)).calls = [] := rfl
  have hh : (LocalAuthzStore.get (overtakenPin.foldl step (newPersisted ∅)).memory 7).decide 1
      = .hold := by decide +kernel
  have hb : (LocalAuthzStore.get (LocalAuthzStore.newPersisted
      (overtakenPin.foldl step (newPersisted ∅)).files) 7).decide 1 = .swap true := by decide +kernel
  have hf : (failedRevocation.foldl step (newPersisted ∅)).failed.map
      (fun call => (call.before.pinned, call.after.pinned)) = [(some 1, none)] := by decide +kernel
  refine ⟨he, hh, hb, ?_, hf, by decide +kernel, by decide +kernel, ?_⟩
  · intro h
    have hs := h.last.restart he 7
    rw [hs, hh] at hb
    cases hb
  · intro h
    obtain ⟨call, hca, hp⟩ := List.mem_map.mp (hf ▸ List.mem_singleton_self _)
    rw [h.last.unchanged call hca] at hp
    obtain ⟨hset, hc⟩ := Prod.mk.inj hp
    rw [hc] at hset
    cases hset

end AuthzRun

end Gadget.Manager
