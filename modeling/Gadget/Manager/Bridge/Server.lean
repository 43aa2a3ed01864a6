import Gadget.Auth.TlsAdmin

/-!
# The bridge between the manager and a service

Every service talks to the manager over a socket of its own. The calls that concern the proxy work on
one database that all bridges share: they look at the id that the manager expects, if it expects one,
and at the pin, the id that the bridge has registered. A call is a sequence of such looks, of
operations on the database and of changes of the pin; a `Task` is what a call does next.
-/

namespace Gadget.Manager.Bridge

open Auth Lib.Run Rust List Option Function

inductive Code where
  | permissionDenied
  | failedPrecondition
  | invalidArgument
  | notFound
  | alreadyExists
  | internal

/-- An error of the bridge. -/
structure Status where
  code : Code
  message : String

/-- `validate_tls_profile` -/
def validateTlsProfile (profile : TlsRecord) : Except Status Unit := do
  if profile.tlsEnabled then
    rejectIf (profile.encryptedServerCert = [] ∨ profile.encryptedServerKey = [])
      ⟨.invalidArgument, "Server certificate and key are required when TLS is enabled"⟩
    rejectIf (profile.requireClientMtls ∧ profile.encryptedClientCaBundle = [])
      ⟨.invalidArgument, "Client CA bundle is required when mutual TLS authentication is enabled"⟩

/-- The calls that change a record. -/
inductive Edit where
  | addOwner (owner : Option ServiceOwnerModel)
  | removeOwner (owner : Option ServiceOwnerModel)
  | updateTls (profile : Option TlsRecord)

def Edit.check : Edit → Except Status Unit
  | .addOwner none => .error ⟨.invalidArgument, "owner_to_add is required"⟩
  | .removeOwner none => .error ⟨.invalidArgument, "owner_to_remove is required"⟩
  | _ => .ok ()

def Edit.owners (edit : Edit) (owners : List ServiceOwnerModel) : List ServiceOwnerModel :=
  match edit with
  | .addOwner (some owner) => if owner ∈ owners then owners else owners ++ [owner]
  | .removeOwner (some owner) => owners.filter (· ≠ owner)
  | _ => owners

/-- The changed record, or that there is nothing to save. -/
def Edit.apply (edit : Edit) (service : ServiceRecord) : Except Status (Option ServiceRecord) :=
  match edit with
  | .updateTls profile => do
    profile.forM validateTlsProfile
    return some { service with tlsProfile := profile }
  | _ =>
    let owners := edit.owners service.owners
    .ok (if owners.length = service.owners.length then none else some { service with owners })

/-- A call on a bridge. -/
inductive Rpc where
  | register (id : ℕ) (service : ServiceRecord)
  | unregister (id : ℕ)
  | edit (id : ℕ) (edit : Edit)

def Rpc.id : Rpc → ℕ
  | .register id _ | .unregister id | .edit id _ => id

/-- What a call does next. -/
inductive Task where
  | verify (rpc : Rpc)
  | verifyRegistered (id : ℕ) (edit : Option Edit)
  | isUpdate (id : ℕ) (service : ServiceRecord)
  | save (id : ℕ) (service : ServiceRecord)
  /-- `save_if_absent`, in three operations of its transaction. -/
  | txnGet (id : ℕ) (service : ServiceRecord)
  | txnPut (id : ℕ) (service : ServiceRecord)
  | txnCommit (id : ℕ) (service : ServiceRecord) (version : ℕ)
  | pin (id : ℕ)
  | delete (id : ℕ)
  | clearPin (id : ℕ)
  | load (id : ℕ) (edit : Edit)
  | store (id : ℕ) (service : ServiceRecord)
  /-- The rest of `drop`, after it has taken the pin. -/
  | cleanUp (id : ℕ)

def Task.id : Task → ℕ
  | .verify rpc => rpc.id
  | .verifyRegistered id _ | .isUpdate id _ | .save id _ | .txnGet id _ | .txnPut id _ | .txnCommit id _ _
  | .pin id | .delete id | .clearPin id | .load id _ | .store id _ | .cleanUp id => id

/-- The database, and the bridges over it with their calls. -/
structure System where
  db : HashMap ℕ ServiceRecord
  writes : ℕ → ℕ := fun _ => 0
  /-- `registered_service_id` of a bridge. -/
  pins : ℕ → Option ℕ := fun _ => none
  dropped : Finset ℕ := ∅
  tasks : List (ℕ × Task) := []

def start (db : HashMap ℕ ServiceRecord) : System where
  db := db

def createBridge (_bridge : ℕ) : Option ℕ := none

namespace System

variable (expected : ℕ → Option ℕ) (s : System)

/-- One operation on the database, which a transaction in progress can notice. -/
def write (id : ℕ) (service : Option ServiceRecord) : System :=
  { s with
    db := match service with
      | some service => s.db.insert id service
      | none => s.db.erase id
    writes := Function.update s.writes id (s.writes id + 1) }

/-- `verify_service_id` -/
def verifyServiceId (bridge id : ℕ) : Except Status Unit := do
  (expected bridge).forM fun e => rejectIf (id ≠ e)
    ⟨.permissionDenied, "Bridge is configured for service_id " ++ toString e ++ ", got " ++ toString id⟩
  (s.pins bridge).forM fun p => rejectIf (id ≠ p)
    ⟨.permissionDenied, "Bridge is pinned to service_id " ++ toString p ++ ", cannot operate on " ++ toString id⟩

/-- One look, operation or change of a pin. -/
def advance (bridge : ℕ) : Task → System × Except Status (Option Task)
  | .verify rpc =>
    (s, do
      verifyServiceId expected s bridge rpc.id
      match rpc with
      | .register id service =>
        service.tlsProfile.forM validateTlsProfile
        return some (.isUpdate id service)
      | .unregister id => return some (.verifyRegistered id none)
      | .edit id edit => return some (.verifyRegistered id (some edit)))
  | .verifyRegistered id edit =>
    (s, do
      rejectIf (s.pins bridge = none) ⟨.failedPrecondition, "No service registered on this bridge"⟩
      match edit with
      | none => return some (.delete id)
      | some edit =>
        edit.check
        return some (.load id edit))
  | .isUpdate id service => (s, .ok (some (if (s.pins bridge).isSome then .save id service else .txnGet id service)))
  | .save id service => (s.write id (some service), .ok (some (.pin id)))
  | .txnGet id service =>
    (s, do
      rejectIf ((s.db.lookup id).isSome)
        ⟨.alreadyExists, "Service " ++ toString id ++ ":0 is already registered by another bridge"⟩
      return some (.txnPut id service))
  | .txnPut id service => (s, .ok (some (.txnCommit id service (s.writes id))))
  | .txnCommit id service version =>
    if s.writes id = version then (s.write id (some service), .ok (some (.pin id)))
    else (s, .error ⟨.internal, "Database error: Resource busy: "⟩)
  | .pin id => ({ s with pins := Function.update s.pins bridge (some id) }, .ok none)
  | .delete id => (s.write id none, .ok (some (.clearPin id)))
  | .clearPin _ => ({ s with pins := Function.update s.pins bridge none }, .ok none)
  | .load id edit =>
    match s.db.lookup id with
    | none => (s, .error ⟨.notFound, "Service " ++ toString id ++ ":0 not found"⟩)
    | some service =>
      match edit.apply service with
      | .error e => (s, .error e)
      | .ok (some service) => (s, .ok (some (.store id service)))
      | .ok none => (s, .ok none)
  | .store id service => (s.write id (some service), .ok none)
  | .cleanUp id => (s.write id none, .ok none)

inductive Event where
  | call (bridge : ℕ) (rpc : Rpc)
  | resume (i : ℕ)
  | drop (bridge : ℕ)

def resume (bridge : ℕ) (task : Task) : System :=
  match advance expected s bridge task with
  | (s, .ok (some task)) => { s with tasks := s.tasks ++ [(bridge, task)] }
  | (s, _) => s

def step : Event → System
  | .call bridge rpc =>
    if bridge ∈ s.dropped then s else { s with tasks := s.tasks ++ [(bridge, .verify rpc)] }
  | .resume i =>
    match s.tasks[i]? with
    | some (bridge, task) => resume expected { s with tasks := s.tasks.eraseIdx i } bridge task
    | none => s
  | .drop bridge =>
    { s with
      pins := Function.update s.pins bridge none
      dropped := insert bridge s.dropped
      tasks := s.tasks ++ ((s.pins bridge).map fun id => (bridge, .cleanUp id)).toList }

/-! ## A bridge and the id that the manager expects -/

variable {expected}

lemma lookup_write (id : ℕ) (service : Option ServiceRecord) (id' : ℕ) :
    (s.write id service).db.lookup id' = if id' = id then service else s.db.lookup id' := by
  rcases service with _ | service
  · exact HashMap.lookup_erase_eq _ _ _
  exact HashMap.lookup_insert_eq _ _ _ _

variable {br : ℕ} {next : Except Status (Option Task)}

lemma verifyServiceId_eq_ok {s : System} {id : ℕ} :
    verifyServiceId expected s br id = .ok () ↔
      (∀ e ∈ expected br, id = e) ∧ ∀ p ∈ s.pins br, id = p := by
  have hf (x : Option ℕ) (text : ℕ → Status) :
      x.forM (fun e => rejectIf (id ≠ e) (text e)) = .ok () ↔ ∀ e ∈ x, id = e := by
    rcases x with _ | e
    · exact iff_of_true rfl (by simp)
    have he : rejectIf (id ≠ e) (text e) = .ok () ↔ _ := rejectIf_eq_ok
    simpa using he
  rw [verifyServiceId, unit_bind_eq_ok, hf, hf]

/-- What one step of a task can change. -/
structure Local (s : System) (bridge : ℕ) (task : Task) (r : System × Except Status (Option Task)) : Prop where
  tasks : r.1.tasks = s.tasks
  db : ∀ id, id ≠ task.id → r.1.db.lookup id = s.db.lookup id
  otherPins : ∀ b, b ≠ bridge → r.1.pins b = s.pins b
  pin : ∀ p ∈ r.1.pins bridge, p ∈ s.pins bridge ∨ task = .pin p
  next : ∀ t, r.2 = .ok (some t) → t.id = task.id

lemma local_write {s : System} (task : Task) {service : Option ServiceRecord}
    (hn : ∀ t, next = .ok (some t) → t.id = task.id) : Local s br task (s.write task.id service, next) :=
  ⟨rfl, fun id hid => by rw [lookup_write, if_neg hid], fun _ _ => rfl, fun _ hp => .inl hp, hn⟩

lemma local_self {s : System} {task : Task} (hn : ∀ t, next = .ok (some t) → t.id = task.id) :
    Local s br task (s, next) :=
  ⟨rfl, fun _ _ => rfl, fun _ _ => rfl, fun _ hp => .inl hp, hn⟩

variable (expected) in
lemma local_advance (br : ℕ) (task : Task) : Local s br task (advance expected s br task) := by
  cases task with
  | verify rpc =>
    refine local_self fun t ht => ?_
    obtain ⟨-, ht⟩ := unit_bind_eq_ok.mp ht
    cases rpc with
    | register id service =>
      obtain ⟨-, ht⟩ := unit_bind_eq_ok.mp ht
      cases ht
      rfl
    | unregister id | edit id edit =>
      cases ht
      rfl
  | verifyRegistered id edit =>
    refine local_self fun t ht => ?_
    obtain ⟨-, ht⟩ := unit_bind_eq_ok.mp ht
    rcases edit with _ | edit
    · cases ht
      rfl
    obtain ⟨-, ht⟩ := unit_bind_eq_ok.mp ht
    cases ht
    rfl
  | isUpdate id service =>
    refine local_self fun t ht => ?_
    cases ht
    split <;> rfl
  | save id service => exact local_write (.save id service) (by rintro _ ⟨⟩; rfl)
  | txnGet id service =>
    refine local_self fun t ht => ?_
    obtain ⟨-, ht⟩ := unit_bind_eq_ok.mp ht
    cases ht
    rfl
  | txnPut id service => exact local_self (by rintro _ ⟨⟩; rfl)
  | txnCommit id service ver =>
    rw [advance]
    split
    · exact local_write (.txnCommit id service ver) (by rintro _ ⟨⟩; rfl)
    · exact local_self (by simp)
  | pin id =>
    refine ⟨rfl, fun _ _ => rfl, fun b hb => update_of_ne hb _ _, fun p hp => .inr ?_, fun _ h => by cases h⟩
    simp_all [advance]
  | delete id => exact local_write (.delete id) (by rintro _ ⟨⟩; rfl)
  | clearPin id =>
    refine ⟨rfl, fun _ _ => rfl, fun b hb => update_of_ne hb _ _, fun p hp => ?_, fun _ h => by cases h⟩
    simp [advance] at hp
  | load id edit =>
    rw [advance]
    split
    · exact local_self (by simp)
    split
    · exact local_self (by simp)
    · exact local_self (by rintro _ ⟨⟩; rfl)
    · exact local_self (by simp)
  | store id service => exact local_write (.store id service) (by simp)
  | cleanUp id => exact local_write (.cleanUp id) (by simp)

/-- A step of the bridge leaves all other records. -/
def Confined (expected : ℕ → Option ℕ) (bridge own : ℕ) (s : System) (e : Event) : Prop :=
  ∀ i task, e = .resume i → s.tasks[i]? = some (bridge, task) →
    ∀ id, id ≠ own → (s.step expected e).db.lookup id = s.db.lookup id

/-- The bridge has pinned nothing but its own id, and works on nothing else. -/
structure OwnOnly (bridge own : ℕ) (s : System) : Prop where
  pin : ∀ p ∈ s.pins bridge, p = own
  tasks : ∀ task, (bridge, task) ∈ s.tasks → (∃ rpc, task = .verify rpc) ∨ task.id = own

lemma db_resume (br : ℕ) (task : Task) :
    (s.resume expected br task).db = (advance expected s br task).1.db := by
  unfold resume
  split <;> simp [*]

lemma OwnOnly.resume {br own : ℕ} {s : System} (h : OwnOnly br own s)
    (he : expected br = some own) {b : ℕ} {task : Task}
    (htk : b = br → (∃ rpc, task = .verify rpc) ∨ task.id = own) :
    OwnOnly br own (s.resume expected b task) := by
  have hl := local_advance expected s b task
  -- a call of the bridge goes on with its own id only: its first check compares it with what is expected
  have hown : b = br → ∀ t, (advance expected s b task).2 = .ok (some t) → t.id = own := by
    rintro rfl t ht
    rcases htk rfl with ⟨rpc, rfl⟩ | hid
    · obtain ⟨hv, -⟩ := unit_bind_eq_ok.mp ht
      exact (hl.next t ht).trans ((verifyServiceId_eq_ok.mp hv).1 own he)
    · exact (hl.next t ht).trans hid
  have hpi : ∀ p ∈ (advance expected s b task).1.pins br, p = own := by
    intro p hp
    by_cases hb : b = br
    · subst hb
      rcases hl.pin p hp with hold | rfl
      · exact h.pin p hold
      · exact (htk rfl).resolve_left (by simp)
    · exact h.pin p (hl.otherPins br (Ne.symm hb) ▸ hp)
  have hta : ∀ t, (br, t) ∈ (advance expected s b task).1.tasks → (∃ rpc, t = .verify rpc) ∨ t.id = own :=
    fun t ht => h.tasks t (hl.tasks ▸ ht)
  unfold System.resume
  split
  · rename_i s' t heq
    rw [heq] at hpi hta hown
    refine ⟨hpi, fun t' ht' => ?_⟩
    rcases mem_append.mp ht' with hold | hnew
    · exact hta t' hold
    · cases mem_singleton.mp hnew
      exact .inr (hown rfl _ rfl)
  · rename_i s' r hnot heq
    rw [heq] at hpi hta
    exact ⟨hpi, hta⟩

lemma OwnOnly.step {bridge own : ℕ} {s : System} (h : OwnOnly bridge own s)
    (he : expected bridge = some own) (e : Event) : OwnOnly bridge own (s.step expected e) := by
  cases e with
  | call b rpc =>
    simp only [System.step]
    split
    · exact h
    refine ⟨h.pin, fun t ht => ?_⟩
    rcases mem_append.mp ht with hold | hnew
    · exact h.tasks t hold
    · cases mem_singleton.mp hnew
      exact .inl ⟨rpc, rfl⟩
  | resume i =>
    simp only [System.step]
    split
    · rename_i b task hta
      have hr : OwnOnly bridge own { s with tasks := s.tasks.eraseIdx i } :=
        ⟨h.pin, fun t ht => h.tasks t (mem_of_mem_eraseIdx ht)⟩
      apply hr.resume he
      rintro rfl
      exact h.tasks task (mem_of_getElem? hta)
    · exact h
  | drop b =>
    refine ⟨fun p hp => ?_, fun t ht => ?_⟩
    · by_cases hb : bridge = b
      · simp [System.step, hb] at hp
      · have ho : (s.step expected (.drop b)).pins bridge = s.pins bridge := update_of_ne hb _ _
        exact h.pin p (ho ▸ hp)
    · rcases mem_append.mp ht with hold | hnew
      · exact h.tasks t hold
      · obtain ⟨p, hp, heq⟩ := map_eq_some_iff.mp (mem_toList.mp hnew)
        cases heq
        exact .inr (h.pin p hp)

/-- **A bridge that was told its service is confined to it**, whatever it is asked and however its
calls and those of other bridges interleave. -/
theorem each_confined_of_expected (bridge own : ℕ) (hexpected : expected bridge = some own)
    (db : HashMap ℕ ServiceRecord) (es : List Event) :
    Each (step expected) (Confined expected bridge own) (start db) es := by
  have hall : Always (step expected) (OwnOnly bridge own) (start db) es :=
    always_of_step (fun s e h => h.step hexpected e) ⟨by simp [start], by simp [start]⟩ es
  refine each_of_always (fun s e h _ => ?_) hall
  rintro i task rfl ht id hid
  simp only [step, ht, db_resume]
  rcases h.tasks task (mem_of_getElem? ht) with ⟨rpc, rfl⟩ | hown
  · rfl
  · exact (local_advance _ _ _ _).db id (hown ▸ hid)

abbrev plainService (apiKeyPrefix : List Char) : ServiceRecord := ⟨apiKeyPrefix, [], [], none⟩

abbrev registerSeven : List Event :=
  .call 0 (.register 7 (plainService ['a'])) :: List.replicate 6 (.resume 0)

theorem told_bridge_confined :
    Each (step fun _ => some 1) (Confined (fun _ => some 1) 0 1) (start ∅) registerSeven :=
  each_confined_of_expected 0 1 rfl ∅ registerSeven

theorem foreign_record_registered :
    ¬ Each (step createBridge) (Confined createBridge 0 1) (start ∅) registerSeven := by
  rintro ⟨-, -, -, -, -, h, -⟩
  exact some_ne_none _ (h 0 (.txnCommit 7 (plainService ['a']) 0) rfl rfl 7 (by decide))

end System

end Gadget.Manager.Bridge
