import Gadget.Runner.MainLoop

/-!
# When a background service fails

A background service says through a channel how it ended, with `Ok`, with an error, or by dropping
its sender. The loop is to return an error and to signal the shutdown as soon as a service has failed,
and to go on otherwise. "As soon as" is what the loop does when it is back at its select and takes the
branch of the background services for as long as it is ready (`settle`).
-/

namespace Gadget.Runner

open Lib.Run FinalizedBlueprintRunner List Function

variable {ε : Type} {r : FinalizedBlueprintRunner ε} {s : State ε}

namespace State

def Reported (s : State ε) (P : Report ε → Prop) : Prop :=
  ∃ (i : ℕ) (sent : Report ε), s.services[i]? = some (some sent) ∧ P sent

def ServiceErred (s : State ε) : Prop := ∃ e, s.Reported (· = some (.error e))

def ServiceDropped (s : State ε) : Prop := s.Reported (· = none)

def ServiceFailed (s : State ε) : Prop := s.ServiceErred ∨ s.ServiceDropped

def Stopped (s : State ε) : Prop :=
  (∃ error left, s.phase = .returned (.error error) left) ∧ s.shutdown = .sent

def settle (r : FinalizedBlueprintRunner ε) (s : State ε) : State ε :=
  (fun s => r.step s (.select .backgroundServices))^[s.statusFutures.length]
    { s with phase := .selecting }

/-- A loop that runs stops when a service has failed and goes on when none has. -/
structure StopsOnFailure (r : FinalizedBlueprintRunner ε) (s : State ε) : Prop where
  noPanic : s.phase ≠ .panicked
  stops : s.Running → s.ServiceFailed → (s.settle r).Stopped
  goesOn : s.Running → ¬ s.ServiceFailed → (s.settle r).phase = .selecting
  reason : ∀ text left, s.phase = .returned (.error (.backgroundService text)) left →
    s.ServiceFailed ∧ s.shutdown = .sent

def StatusFails (s : State ε) : Prop :=
  ∃ f error, f ∈ s.statusFutures ∧ f.poll s.services = some (.error error)

lemma step_select_of_stopped (h : s.Stopped) (branch : Branch) : r.step s (.select branch) = s := by
  obtain ⟨⟨err, left, hp⟩, -⟩ := h
  simp [step, hp]

variable {f : StatusFuture} {futs : List StatusFuture} {res : Except (Error ε) Unit}

lemma statusFails_iff_of_ended (hf : f.poll s.services = some (.ok ()))
    (hp : s.statusFutures.Perm (f :: futs)) :
    s.StatusFails ↔ ({ s with statusFutures := futs } : State ε).StatusFails := by
  constructor
  · rintro ⟨g, err, hg, he⟩
    rcases mem_cons.mp (hp.mem_iff.mp hg) with rfl | hg
    · rw [hf] at he
      cases he
    · exact ⟨g, err, hg, he⟩
  · rintro ⟨g, err, hg, he⟩
    exact ⟨g, err, hp.mem_iff.mpr (mem_cons_of_mem f hg), he⟩

lemma iterate_select_spec (n : ℕ) (hp : s.phase = .selecting) (hn : s.statusFutures.length ≤ n) :
    (s.StatusFails → ((fun s => r.step s (.select .backgroundServices))^[n] s).Stopped) ∧
      (¬ s.StatusFails →
        ((fun s => r.step s (.select .backgroundServices))^[n] s).phase = .selecting) := by
  have hs : ∀ s : State ε, s.phase = .selecting → r.step s (.select .backgroundServices)
      = selectBackgroundServices s := by
    intro s hp
    simp [step, hp, select]
  -- each turn that goes on takes one future away
  induction n generalizing s with
  | zero =>
    have hnil : s.statusFutures = [] := length_eq_zero_iff.mp (Nat.le_zero.mp hn)
    refine ⟨?_, fun _ => hp⟩
    rintro ⟨f, err, hf, -⟩
    rw [hnil] at hf
    cases hf
  | succ n ih =>
    obtain ⟨heq, hpe⟩ | ⟨f, err, hmem, hf, heq⟩ | ⟨f, futs, hf, hpm, heq⟩ :=
      selectBackgroundServices_cases s
    · -- nothing is ready, now and later
      have hfix : r.step s (.select .backgroundServices) = s := (hs s hp).trans heq
      rw [iterate_fixed hfix]
      refine ⟨?_, fun _ => hp⟩
      rintro ⟨f, err, hf, he⟩
      rw [hpe f hf] at he
      cases he
    · have hst : (r.step s (.select .backgroundServices)).Stopped := by
        rw [hs s hp, heq]
        exact ⟨⟨err, locals, rfl⟩, rfl⟩
      rw [iterate_succ_apply, iterate_fixed (step_select_of_stopped hst _)]
      exact ⟨fun _ => hst, fun h => absurd ⟨f, err, hmem, hf⟩ h⟩
    · have hfa := statusFails_iff_of_ended hf hpm
      have hl : futs.length ≤ n := by
        have hlen : s.statusFutures.length = futs.length + 1 := hpm.length_eq
        omega
      rw [iterate_succ_apply, hs s hp, heq, hfa]
      exact ih hp hl

lemma settle_stopped (h : s.StatusFails) : (s.settle r).Stopped :=
  (iterate_select_spec (s := { s with phase := .selecting }) _ rfl (Nat.le_refl _)).1 h

lemma settle_selecting (h : ¬ s.StatusFails) : (s.settle r).phase = .selecting :=
  (iterate_select_spec (s := { s with phase := .selecting }) _ rfl (Nat.le_refl _)).2 h

structure Watches (s : State ε) : Prop where
  noPanic : s.phase ≠ .panicked
  waits : s.Running → ∀ (i : ℕ) sent, s.services[i]? = some sent →
    .service i ∈ s.statusFutures ∨ ∃ answer, sent = some (some answer)
  reason : ∀ text left, s.phase = .returned (.error (.backgroundService text)) left →
    s.ServiceFailed ∧ s.shutdown = .sent

lemma statusFails_iff (h : s.Watches) (hr : s.Running) : s.StatusFails ↔ s.ServiceDropped := by
  constructor
  · rintro ⟨f, err, -, hf⟩
    obtain ⟨i, hi, -⟩ := StatusFuture.poll_eq_error hf
    exact ⟨i, none, hi, rfl⟩
  · rintro ⟨i, sent, hi, rfl⟩
    rcases h.waits hr i _ hi with hmem | ⟨answer, ha⟩
    · refine ⟨.service i, .backgroundService "channel closed".toList, hmem, ?_⟩
      simp only [StatusFuture.poll, hi]
      rfl
    · cases ha

lemma stopsOnFailure_iff (h : s.Watches) :
    s.StopsOnFailure r ↔ (s.Running → s.ServiceErred → s.ServiceDropped) := by
  constructor
  · intro hs hr he
    by_contra hd
    have hg : (s.settle r).phase = .selecting :=
      settle_selecting fun hfa => hd ((statusFails_iff h hr).mp hfa)
    obtain ⟨⟨err, left, hp⟩, -⟩ := hs.stops hr (.inl he)
    rw [hg] at hp
    cases hp
  · intro hc
    refine ⟨h.noPanic, fun hr hf => ?_, fun hr hf => ?_, h.reason⟩
    · have hd : s.ServiceDropped := hf.elim (hc hr) id
      exact settle_stopped ((statusFails_iff h hr).mpr hd)
    · refine settle_selecting fun hfa => hf (.inr ?_)
      exact (statusFails_iff h hr).mp hfa

lemma reported_set_iff {i : ℕ} {report : Report ε} (hi : s.services[i]? = some none)
    (P : Report ε → Prop) :
    ({ s with services := s.services.set i (some report) } : State ε).Reported P ↔
      P report ∨ s.Reported P := by
  obtain ⟨hlt, -⟩ := List.getElem?_eq_some_iff.mp hi
  constructor
  · rintro ⟨j, sent, hj, hs⟩
    by_cases hij : i = j
    · subst hij
      rw [List.getElem?_set_self hlt] at hj
      cases hj
      exact .inl hs
    · rw [List.getElem?_set_ne hij] at hj
      exact .inr ⟨j, sent, hj, hs⟩
  · rintro (hr | ⟨j, sent, hj, hs⟩)
    · exact ⟨i, report, List.getElem?_set_self hlt, hr⟩
    have hij : i ≠ j := by
      rintro rfl
      rw [hi] at hj
      cases hj
    exact ⟨j, sent, (List.getElem?_set_ne hij).trans hj, hs⟩

lemma Watches.leave (signal : Bool) (hre : ∀ text, res ≠ .error (.backgroundService text)) :
    (s.leave signal res).Watches where
  noPanic := nofun
  waits := fun hr => absurd hr (not_running rfl)
  reason := by
    intro text left hp
    cases hp
    exact absurd rfl (hre text)

lemma Watches.congr (h : s.Watches) (hr : s.Running) {s' : State ε} (hr' : s'.Running)
    (hs : s'.services = s.services) (hf : s'.statusFutures = s.statusFutures) :
    s'.Watches where
  noPanic := by
    rcases hr' with hp | hp <;> simp [hp]
  waits := by
    rw [hs, hf]
    exact fun _ => h.waits hr
  reason := fun _ _ hp => absurd hr' (not_running hp)

lemma Watches.jobFinished (h : s.Watches) (hr : s.Running) (joined : Joined ε) :
    (jobFinished s joined).Watches := by
  match joined with
  | .ok (.ok (some results)) =>
    exact h.congr hr (running_of_phase_broadcastPhase rfl) rfl rfl
  | .ok (.ok none) => exact h
  | .ok (.error e) => exact .leave false nofun
  | .error e => exact .leave true nofun

lemma Watches.report (h : s.Watches) {i : ℕ} (report : Report ε) (hi : s.services[i]? = some none) :
    ({ s with services := s.services.set i (some report) } : State ε).Watches where
  noPanic := h.noPanic
  waits := by
    intro hr j sent hj
    by_cases hij : i = j
    · -- the loop has waited for the service that reports
      subst hij
      rcases h.waits hr i none hi with hmem | ⟨answer, ha⟩
      · exact .inl hmem
      · cases ha
    · simp only [getElem?_set_ne hij] at hj
      exact h.waits hr j sent hj
  reason := by
    intro text left hp
    obtain ⟨hf, hs⟩ := h.reason text left hp
    refine ⟨?_, hs⟩
    rcases hf with ⟨e, he⟩ | hd
    · exact .inl ⟨e, (reported_set_iff hi _).mpr (.inr he)⟩
    · exact .inr ((reported_set_iff hi _).mpr (.inr hd))

lemma Watches.serviceEnded (h : s.Watches) (hf : f.poll s.services = some (.ok ()))
    (hp : s.statusFutures.Perm (f :: futs)) :
    ({ s with statusFutures := futs } : State ε).Watches where
  noPanic := h.noPanic
  waits := by
    intro hr i sent hi
    rcases h.waits hr i sent hi with hmem | ha
    · rcases mem_cons.mp (hp.mem_iff.mp hmem) with rfl | hmem
      · right
        have hi' : s.services[i]? = some sent := hi
        simp only [StatusFuture.poll, hi', Option.join_some] at hf
        obtain ⟨report, hre, hs⟩ := Option.map_eq_some_iff.mp hf
        rcases report with _ | answer
        · cases hs
        exact ⟨answer, hre⟩
      · exact .inl hmem
    · exact .inr ha
  reason := h.reason

lemma Watches.serviceFailed {err : Error ε} (hf : f.poll s.services = some (.error err)) :
    ({ s with statusFutures := [] }.leave true (.error err) : State ε).Watches where
  noPanic := nofun
  waits := fun hr => absurd hr (not_running rfl)
  reason := by
    intro text left hp
    obtain ⟨i, hi, -⟩ := StatusFuture.poll_eq_error hf
    exact ⟨.inr ⟨i, none, hi, rfl⟩, rfl⟩

lemma Watches.drop (h : s.Watches) {l : Local} {left : List Local}
    (hp : s.phase = .returned res (l :: left)) :
    ({ s with
      phase := .returned res left
      shutdown := if l = .shutdownTx ∧ s.shutdown = .unsent then .senderDropped else s.shutdown } :
        State ε).Watches where
  noPanic := nofun
  waits := fun hr => absurd hr (not_running rfl)
  reason := by
    intro text left' hp'
    cases hp'
    obtain ⟨hf, hs⟩ := h.reason text (l :: left) hp
    exact ⟨hf, shutdown_of_sent hs l⟩

lemma Watches.step (h : s.Watches) (e : Event ε) : (r.step s e).Watches := by
  rcases step_change (r := r) s e with heq | hc
  · rw [heq]
    exact h
  generalize r.step s e = s' at hc
  cases hc with
  | streams | join | dropShutdownTask | take | accept => exact ⟨h.noPanic, h.waits, h.reason⟩
  | report i report hi => exact h.report report hi
  | pollShutdownTask =>
    obtain ⟨task, runs, heq⟩ := pollShutdownTask_eq r.shutdownHandler s
    rw [heq]
    exact ⟨h.noPanic, h.waits, h.reason⟩
  | producersEnd i streams error hp he _ =>
    refine .leave true fun text ht => ?_
    rcases he with rfl | ⟨e, rfl⟩ <;> cases ht
  | collect i front back call worker joined hp _ =>
    have hco : ({ s with
        pendingJobs := front ++ back
        collected := s.collected ++ [(call, joined)] } : State ε).Watches :=
      ⟨h.noPanic, h.waits, h.reason⟩
    exact hco.jobFinished (.inl hp) joined
  | serviceEnded f futs hp hf hpe => exact h.serviceEnded hf hpe
  | serviceFailed f error hp hf _ => exact .serviceFailed hf
  | closed => exact .leave false nofun
  | flush i front back received hp _ =>
    exact h.congr (.inr hp) (running_of_phase_broadcastPhase rfl) rfl rfl
  | refuse => exact .leave true nofun
  | drop res l left hp => exact h.drop hp

lemma watches_start (r : FinalizedBlueprintRunner ε) : r.start.Watches where
  noPanic := nofun
  waits := by
    intro _ i sent hi
    left
    have hlt : i < r.backgroundServices := by
      have hi' : (List.replicate r.backgroundServices (none : Option (Report ε)))[i]? = some sent := hi
      obtain ⟨hlt, -⟩ := List.getElem?_eq_some_iff.mp hi'
      rwa [List.length_replicate] at hlt
    have hne : r.backgroundServices ≠ 0 := by omega
    simp only [start, if_neg hne]
    exact List.mem_map.mpr ⟨i, List.mem_range.mpr hlt, rfl⟩
  reason := nofun

def ErrorCovered (s : State ε) : Event ε → Prop
  | .report i (some (.error _)) => s.Running → s.services[i]? = some none → s.ServiceDropped
  | _ => True

section

variable {e : Event ε} (h : ¬ ∃ i report, e = .report i report ∧ s.services[i]? = some none)

include h

lemma services_step : (r.step s e).services = s.services := by
  rcases step_change (r := r) s e with heq | hc
  · rw [heq]
  generalize r.step s e = s' at hc
  cases hc with
  | report i report hi => exact absurd ⟨i, report, rfl, hi⟩ h
  | pollShutdownTask =>
    obtain ⟨task, runs, heq⟩ := pollShutdownTask_eq r.shutdownHandler s
    rw [heq]
  | collect i front back call wk joined =>
    obtain ⟨cs, phase, shutdown, heq⟩ := jobFinished_eq
      { s with pendingJobs := front ++ back, collected := s.collected ++ [(call, joined)] } joined
    rw [heq]
  | _ => rfl

lemma errorCovered_of_not_report : s.ErrorCovered e := by
  cases e with
  | report i report =>
    have hi : s.services[i]? ≠ some none := fun hi => h ⟨i, report, rfl, hi⟩
    rcases report with _ | status
    · trivial
    rcases status with e | _
    · exact fun _ hn => absurd hn hi
    trivial
  | _ => trivial

end

lemma covered_step_iff (h : s.Running → s.ServiceErred → s.ServiceDropped) (e : Event ε) :
    ((r.step s e).Running → (r.step s e).ServiceErred → (r.step s e).ServiceDropped) ↔
      s.ErrorCovered e := by
  by_cases he : ∃ i report, e = .report i report ∧ s.services[i]? = some none
  · obtain ⟨i, report, rfl, hi⟩ := he
    have hs : r.step s (.report i report)
        = { s with services := s.services.set i (some report) } := by
      simp [step, State.report, hi]
    have her : (r.step s (.report i report)).ServiceErred ↔
        (∃ e, report = some (.error e)) ∨ s.ServiceErred := by
      simp [ServiceErred, hs, reported_set_iff hi, exists_or]
    have hd : (r.step s (.report i report)).ServiceDropped ↔ report = none ∨ s.ServiceDropped := by
      rw [ServiceDropped, hs, reported_set_iff hi]
      exact Iff.rfl
    have hr : (r.step s (.report i report)).Running ↔ s.Running := by
      rw [hs]
      exact Iff.rfl
    rw [her, hd, hr]
    rcases report with _ | status
    · exact iff_of_true (fun _ _ => .inl rfl) trivial
    cases status with
    | ok =>
      refine iff_of_true (fun hrun herr => .inr ?_) trivial
      rcases herr with ⟨e, he⟩ | herr
      · cases he
      · exact h hrun herr
    | error e =>
      constructor
      · intro hc hrun _
        rcases hc hrun (.inl ⟨e, rfl⟩) with hn | hdr
        · cases hn
        · exact hdr
      · intro hc hrun _
        exact .inr (hc hrun hi)
  · have hse : (r.step s e).services = s.services := services_step he
    refine iff_of_true ?_ ?_
    · intro hr her
      simp only [ServiceErred, ServiceDropped, Reported, hse] at her ⊢
      exact h (running_of_step hr) her
    · exact errorCovered_of_not_report he

/-- **Supervision.** In every run the loop does not panic, it waits for each service that has not
answered, and it returns a failure of theirs only when there is one and the shutdown has been sent. -/
theorem always_watches (r : FinalizedBlueprintRunner ε) (es : List (Event ε)) :
    Always r.step Watches r.start es :=
  always_of_step (fun _ e h => h.step e) (watches_start r) es

/-- **When the loop stops on failures.** In every run, it stops as soon as a background service has
failed, and never otherwise, exactly when each error that a service reports while the loop runs comes
after another service has dropped its sender. -/
theorem always_stopsOnFailure_iff (r : FinalizedBlueprintRunner ε) (es : List (Event ε)) :
    Always r.step (StopsOnFailure r) r.start es ↔ Each r.step ErrorCovered r.start es := by
  refine always_iff_each (J := Watches) (fun s e h _ => h.step e) ?_ (watches_start r) ?_ es
  · intro s e hw hs
    have hc := (stopsOnFailure_iff hw).mp hs
    rw [stopsOnFailure_iff (hw.step e)]
    exact covered_step_iff hc e
  · rw [stopsOnFailure_iff (watches_start r)]
    rintro - ⟨e, i, sent, hi, -⟩
    have hi' : (List.replicate r.backgroundServices (none : Option (Report ε)))[i]?
        = some (some sent) := hi
    obtain ⟨hlt, heq⟩ := List.getElem?_eq_some_iff.mp hi'
    rw [List.getElem_replicate] at heq
    cases heq

end State

abbrev twoServices : FinalizedBlueprintRunner String where
  producers := 1
  consumers := 0
  backgroundServices := 2
  router := .new
  faasRegistry := ∅
  shutdownHandler := some 0

abbrev errorReport : List (Event String) :=
  [.report 0 (some (.error (.backgroundService "disk full".toList))), .select .backgroundServices]

theorem error_report_ignored : (errorReport.foldl twoServices.step twoServices.start).ServiceErred ∧
      (errorReport.foldl twoServices.step twoServices.start).phase = .selecting ∧
      (errorReport.foldl twoServices.step twoServices.start).shutdown = .unsent ∧
      (errorReport.foldl twoServices.step twoServices.start).statusFutures = [.service 1] ∧
      ¬ Always twoServices.step (State.StopsOnFailure twoServices) twoServices.start errorReport := by
  have he : (errorReport.foldl twoServices.step twoServices.start).ServiceErred :=
    ⟨_, 0, _, rfl, rfl⟩
  refine ⟨he, rfl, rfl, rfl, fun h => ?_⟩
  obtain ⟨⟨error, left, hp⟩, -⟩ := h.last.stops (.inl rfl) (.inl he)
  cases hp

end Gadget.Runner
