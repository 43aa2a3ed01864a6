import Gadget.Auth.Exchange
import Gadget.Lib.Run

/-!
# Revocation of API keys

An API key is revoked by saving its record with `is_enabled = false` or by deleting it. The proxy
and the exchange endpoint read the record of a key, check it, and then write the whole record back
with a new `last_used`. These are separate operations of the database, and those of several calls
interleave: a record that was read before the revocation can be written after it, enabled as it
was.
-/

namespace Gadget.Auth

open Rust Lib.Run ApiKeyModel List HashMap

inductive KeyCall where
  | checked (model : ApiKeyModel)
  | recordWritten (model : ApiKeyModel)
  | disabling (model : ApiKeyModel)

structure Acceptance where
  keyId : List Char
  afterRevocation : Bool
  deriving DecidableEq

structure KeyRun where
  db : Db
  calls : HashMap ℕ KeyCall
  revoked : List (List Char)
  accepted : List Acceptance

inductive KeyUser where
  | proxied
  | exchange

inductive KeyEvent where
  | lookup (call : ℕ) (user : KeyUser) (apiKey : List Char) (now : ℕ)
  | writeRecord (call : ℕ) (now : ℕ)
  | writeNumber (call : ℕ)
  | disable (call : ℕ) (model : ApiKeyModel)
  | delete (model : ApiKeyModel)

def KeyUser.find (D : AuthDeps) (apiKey : List Char) (db : Db) (now : ℕ) :
    KeyUser → Option ApiKeyModel
  | .proxied => (findValidKey D apiKey db now).toOption
  | .exchange => (exchangeKey D apiKey db now).toOption

namespace KeyRun

variable (D : AuthDeps) (run : KeyRun)

def revoke (keyId : List Char) : KeyRun :=
  { run with revoked := keyId :: run.revoked }

def saveRecord (call : ℕ) (model : ApiKeyModel) (next : KeyCall) : KeyRun :=
  if model.id = 0 then { run with db := model.create run.db, calls := run.calls.erase call }
  else { run with db := model.putKey run.db, calls := run.calls.insert call next }

def step : KeyEvent → KeyRun
  | .lookup call user apiKey now =>
    match run.calls.lookup call, user.find D apiKey run.db now with
    | none, some model =>
      { run with
        calls := run.calls.insert call (.checked model)
        accepted := ⟨model.keyId, run.revoked.contains model.keyId⟩ :: run.accepted }
    | _, _ => run
  | .writeRecord call now =>
    match run.calls.lookup call with
    | some (.checked model) =>
      run.saveRecord call { model with lastUsed := now }
        (.recordWritten { model with lastUsed := now })
    | _ => run
  | .writeNumber call =>
    match run.calls.lookup call with
    | some (.recordWritten model) =>
      { run with db := model.putKeyId run.db, calls := run.calls.erase call }
    | some (.disabling model) =>
      { run with db := model.putKeyId run.db, calls := run.calls.erase call }.revoke model.keyId
    | _ => run
  | .disable call model =>
    match run.calls.lookup call with
    | none =>
      let disabled := { model with isEnabled := false }
      let run := run.saveRecord call disabled (.disabling disabled)
      if model.id = 0 then run.revoke model.keyId else run
    | some _ => run
  | .delete model => { run with db := model.delete run.db }.revoke model.keyId

/-- Revocation is final: no revoked key is enabled in the database, and none was accepted by a
lookup after its revocation. -/
structure Final (run : KeyRun) : Prop where
  disabled : ∀ keyId ∈ run.revoked, ∀ model, run.db.apiKeys.lookup keyId = some model →
    model.isEnabled = false
  rejected : ∀ acceptance ∈ run.accepted, acceptance.afterRevocation = false

/-- No record is written back for a key that has been revoked, and the record of a key that is being
disabled is still disabled when that is completed. -/
def Undisturbed : KeyEvent → Prop
  | .writeRecord call _ => ∀ model, run.calls.lookup call = some (.checked model) →
      model.keyId ∉ run.revoked
  | .writeNumber call => ∀ model, run.calls.lookup call = some (.disabling model) →
      ∀ stored, run.db.apiKeys.lookup model.keyId = some stored → stored.isEnabled = false
  | _ => True

end KeyRun

variable {D : AuthDeps}

section

variable {user : KeyUser} {apiKey : List Char} {db : Db} {now : ℕ} {model : ApiKeyModel}

lemma KeyUser.find_eq_some :
    user.find D apiKey db now = some model ↔ findValidKey D apiKey db now = .ok model := by
  rcases user with _ | _
  · exact toOption_eq_some
  rw [KeyUser.find, toOption_eq_some, exchangeKey_eq_ok]

lemma KeyUser.enabled_of_find (h : user.find D apiKey db now = some model) :
    db.apiKeys.lookup model.keyId = some model ∧ model.isEnabled = true := by
  obtain ⟨parts, hp, hl, hv, -, he⟩ := findValidKey_eq_ok.mp (KeyUser.find_eq_some.mp h)
  simp only [validatesKey, hp, Bool.and_eq_true, beq_iff_eq] at hv
  rw [hv.1] at hl
  exact ⟨hl, he⟩

end

namespace KeyRun

variable (run : KeyRun) (call : ℕ) (model : ApiKeyModel) (next : KeyCall)

lemma lookup_saveRecord :
    ∃ stored : ApiKeyModel, stored.isEnabled = model.isEnabled ∧ ∀ keyId,
      (run.saveRecord call model next).db.apiKeys.lookup keyId
        = if keyId = model.keyId then some stored else run.db.apiKeys.lookup keyId := by
  by_cases hid : model.id = 0
  · refine ⟨model.numbered run.db, rfl, fun keyId => ?_⟩
    simp only [saveRecord, hid, if_true, create, putKeyId, putKey, lookup_insert_eq]
    rfl
  · refine ⟨model, rfl, fun keyId => ?_⟩
    simp [saveRecord, hid, putKey, lookup_insert_eq]

@[simp] lemma revoked_saveRecord : (run.saveRecord call model next).revoked = run.revoked := by
  unfold saveRecord
  split_ifs <;> rfl

@[simp] lemma accepted_saveRecord : (run.saveRecord call model next).accepted = run.accepted := by
  unfold saveRecord
  split_ifs <;> rfl

variable {run : KeyRun}

lemma final_saveRecord_iff (h : run.Final) (call : ℕ) (model : ApiKeyModel) (next : KeyCall) :
    (run.saveRecord call model next).Final ↔
      (model.keyId ∈ run.revoked → model.isEnabled = false) := by
  obtain ⟨stored, hs, hl⟩ := run.lookup_saveRecord call model next
  constructor
  · intro hf hr
    rw [← hs]
    apply hf.disabled model.keyId (by rwa [revoked_saveRecord])
    rw [hl, if_pos rfl]
  · intro himp
    refine ⟨fun kid hr other ho => ?_, by rw [accepted_saveRecord]; exact h.rejected⟩
    rw [revoked_saveRecord] at hr
    rw [hl] at ho
    split_ifs at ho with heq
    · cases ho
      rw [hs]
      exact himp (heq ▸ hr)
    · exact h.disabled kid hr other ho

lemma final_revoke_iff (h : run.Final) (kid : List Char) : (run.revoke kid).Final ↔
      ∀ model, run.db.apiKeys.lookup kid = some model → model.isEnabled = false := by
  constructor
  · intro hf
    exact hf.disabled kid mem_cons_self
  · intro hd
    refine ⟨fun other hother => ?_, h.rejected⟩
    obtain rfl | hother := mem_cons.mp hother
    · exact hd
    · exact h.disabled other hother

def RemembersEnabled (run : KeyRun) : Prop :=
  ∀ call model, run.calls.lookup call = some (.checked model) → model.isEnabled = true

lemma RemembersEnabled.erase (h : run.RemembersEnabled) (call : ℕ) (db : Db) :
    RemembersEnabled { run with db := db, calls := run.calls.erase call } := by
  intro other model ho
  rw [lookup_erase_eq] at ho
  split_ifs at ho
  exact h other model ho

lemma RemembersEnabled.saveRecord (h : run.RemembersEnabled) (call : ℕ) (model : ApiKeyModel)
    {next : KeyCall} (hn : ∀ other, next ≠ .checked other) :
    (run.saveRecord call model next).RemembersEnabled := by
  unfold KeyRun.saveRecord
  split_ifs
  · exact h.erase call _
  intro other remembered ho
  rcases lookup_insert_cases ho with ⟨-, he⟩ | ho
  · exact absurd he (hn remembered)
  · exact h other remembered ho

lemma RemembersEnabled.step (h : run.RemembersEnabled) (e : KeyEvent) :
    (run.step D e).RemembersEnabled := by
  cases e with
  | lookup call user apiKey now =>
    simp only [KeyRun.step]
    split
    · rename_i model hc hf
      intro other remembered ho
      rcases lookup_insert_cases ho with ⟨-, ⟨⟩⟩ | ho
      · exact (KeyUser.enabled_of_find hf).2
      · exact h other remembered ho
    · exact h
  | writeRecord call now =>
    simp only [KeyRun.step]
    split
    · exact h.saveRecord call _ nofun
    · exact h
  | writeNumber call =>
    simp only [KeyRun.step]
    split
    · exact h.erase call run.db
    · exact h.erase call run.db
    · exact h
  | disable call model =>
    simp only [KeyRun.step]
    split
    · split_ifs <;> exact h.saveRecord call _ nofun
    · exact h
  | delete model => exact h

lemma final_lookup (h : run.Final) (call : ℕ) (user : KeyUser) (apiKey : List Char) (now : ℕ) :
    (run.step D (.lookup call user apiKey now)).Final := by
  simp only [step]
  split
  · rename_i model hc hf
    obtain ⟨hs, he⟩ := KeyUser.enabled_of_find hf
    refine ⟨h.disabled, fun acceptance hmem => ?_⟩
    obtain rfl | hmem := mem_cons.mp hmem
    · -- a revoked key would be disabled, and was found enabled
      rw [← Bool.not_eq_true, contains_iff_mem]
      intro hr
      rw [h.disabled model.keyId hr model hs] at he
      cases he
    · exact h.rejected acceptance hmem
  · exact h

lemma final_disable (h : run.Final) (call : ℕ) (model : ApiKeyModel) :
    (run.step D (.disable call model)).Final := by
  simp only [step]
  split
  · have hs := (final_saveRecord_iff h call { model with isEnabled := false }
      (.disabling { model with isEnabled := false })).mpr fun _ => rfl
    split_ifs with hid
    · rw [final_revoke_iff hs]
      obtain ⟨stored, hst, hl⟩ := run.lookup_saveRecord call
        { model with isEnabled := false } (.disabling { model with isEnabled := false })
      intro other ho
      rw [hl, if_pos rfl] at ho
      cases ho
      exact hst
    · exact hs
  · exact h

lemma final_delete (h : run.Final) (model : ApiKeyModel) : (run.step D (.delete model)).Final := by
  have hl : ∀ keyId, (model.delete run.db).apiKeys.lookup keyId
      = if keyId = model.keyId then none else run.db.apiKeys.lookup keyId := by
    intro keyId
    rw [delete, lookup_erase_eq]
  refine ⟨fun keyId hrevoked other ho => ?_, h.rejected⟩
  have ho' : (model.delete run.db).apiKeys.lookup keyId = some other := ho
  rw [hl] at ho'
  split_ifs at ho' with heq
  obtain rfl | hrevoked := mem_cons.mp hrevoked
  · exact absurd rfl heq
  · exact h.disabled keyId hrevoked other ho'

lemma final_writeRecord_iff (hre : run.RemembersEnabled) (h : run.Final) (call now : ℕ) :
    (run.step D (.writeRecord call now)).Final ↔ run.Undisturbed (.writeRecord call now) := by
  simp only [step, Undisturbed]
  split
  · rename_i model hc
    have he : model.isEnabled = true := hre call model hc
    rw [final_saveRecord_iff h, hc]
    constructor
    · intro himp other ho hr
      cases ho
      rw [himp hr] at he
      cases he
    · intro hnot hr
      exact absurd hr (hnot model rfl)
  · rename_i hc
    exact iff_of_true h fun model hm => absurd hm (hc model)

lemma final_writeNumber_iff (h : run.Final) (call : ℕ) :
    (run.step D (.writeNumber call)).Final ↔ run.Undisturbed (.writeNumber call) := by
  simp only [step, Undisturbed]
  split
  · rename_i model hc
    have hk : Final { run with db := model.putKeyId run.db, calls := run.calls.erase call } :=
      ⟨h.disabled, h.rejected⟩
    refine iff_of_true hk fun other ho => ?_
    rw [hc] at ho
    cases ho
  · rename_i model hc
    have hk : Final { run with db := model.putKeyId run.db, calls := run.calls.erase call } :=
      ⟨h.disabled, h.rejected⟩
    rw [final_revoke_iff hk, hc]
    constructor
    · intro hdi other ho
      cases ho
      exact hdi
    · intro hall
      exact hall model rfl
  · rename_i hw hd
    exact iff_of_true h fun model hm => absurd hm (hd model)

lemma final_step_iff (hr : run.RemembersEnabled) (h : run.Final) (e : KeyEvent) :
    (run.step D e).Final ↔ run.Undisturbed e := by
  cases e with
  | lookup call user apiKey now => exact iff_of_true (final_lookup h call user apiKey now) trivial
  | writeRecord call now => exact final_writeRecord_iff hr h call now
  | writeNumber call => exact final_writeNumber_iff h call
  | disable call model => exact iff_of_true (final_disable h call model) trivial
  | delete model => exact iff_of_true (final_delete h model) trivial

/-- **Revocation.** Over every interleaving of requests, exchanges and revocations, revocation is
final exactly when no record is written back after its key was revoked, or between the two
operations of its disabling so that it is enabled at the end of them. -/
theorem always_final_iff (db : Db) (es : List KeyEvent) :
    Always (step D) Final ⟨db, ∅, [], []⟩ es ↔ Each (step D) Undisturbed ⟨db, ∅, [], []⟩ es := by
  have hre : RemembersEnabled ⟨db, ∅, [], []⟩ := fun call model h => by cases h
  have hs : Final ⟨db, ∅, [], []⟩ := ⟨nofun, nofun⟩
  exact always_iff_each (I := Final) (C := Undisturbed) (J := RemembersEnabled)
    (fun _ e hr _ => hr.step e) (fun _ e hr h => final_step_iff hr h e) hre hs es

def lateWrite (revocation : List KeyEvent) : List KeyEvent :=
  [.lookup 0 .proxied "k.s".toList 0] ++ revocation ++
    [.writeRecord 0 0, .writeNumber 0, .lookup 2 .exchange "k.s".toList 1]

theorem late_write_undoes_revocation :
    (((lateWrite [.disable 1 plainKey, .writeNumber 1]).foldl (step plainAuthDeps)
      ⟨oneKeyDb, ∅, [], []⟩).db.apiKeys.lookup ['k']).map ApiKeyModel.isEnabled = some true ∧
    (((lateWrite [.delete plainKey]).foldl (step plainAuthDeps)
      ⟨oneKeyDb, ∅, [], []⟩).db.apiKeys.lookup ['k']).map ApiKeyModel.isEnabled = some true ∧
    ¬ Always (step plainAuthDeps) Final ⟨oneKeyDb, ∅, [], []⟩
      (lateWrite [.disable 1 plainKey, .writeNumber 1]) ∧
    ¬ Always (step plainAuthDeps) Final ⟨oneKeyDb, ∅, [], []⟩ (lateWrite [.delete plainKey]) := by
  have hd : ((lateWrite [.disable 1 plainKey, .writeNumber 1]).foldl (step plainAuthDeps)
      ⟨oneKeyDb, ∅, [], []⟩).accepted = [⟨['k'], true⟩, ⟨['k'], false⟩] := by decide +kernel
  have hde : ((lateWrite [.delete plainKey]).foldl (step plainAuthDeps)
      ⟨oneKeyDb, ∅, [], []⟩).accepted = [⟨['k'], true⟩, ⟨['k'], false⟩] := by decide +kernel
  refine ⟨by decide +kernel, by decide +kernel, fun h => ?_, fun h => ?_⟩
  · exact absurd (h.last.rejected ⟨['k'], true⟩ (by rw [hd]; decide)) (by decide)
  · exact absurd (h.last.rejected ⟨['k'], true⟩ (by rw [hde]; decide)) (by decide)

end KeyRun

end Gadget.Auth
