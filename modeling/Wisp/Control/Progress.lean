import Wisp.Control.Observed

/-!
# No idle RT slot while someone waits

Every path that frees the RT slot passes it on in the same step if a session is
queued, with one exception. `handle_stopped` calls `finish_pending_grant` but not
`maybe_grant_next_queued`, so a wind-down whose target is gone leaves the slot idle.

The exception is exact: a run that connects once conserves work in every state if
and only if it never takes that path with a session waiting.
-/

namespace Wisp

open Transition System

namespace Arbiter

variable {ι : Type*} {a a' : Arbiter ι} {cause : Cause ι}

/-- Nobody waits while the RT slot is idle. -/
def Conserves (a : Arbiter ι) : Prop :=
  a.Waiting → ¬ a.Free

/-- STOPPED arrives from the session that winds down, nobody is promised the slot,
and somebody waits for it. -/
def Strands (a : Arbiter ι) (cause : Cause ι) : Prop :=
  ∃ i, cause = .stopped i ∧ a.status i = some .evictingCooperative ∧ a.pending = none ∧ a.Waiting

theorem conserves_of_holds {i : ι} (holds : a.Holds i) : a.Conserves :=
  fun _ free => free i holds

/-- No new session waits and the holder stays. -/
theorem Conserves.of_kept (before : a.Conserves)
    (waits : ∀ i, a'.status i = some .queued → a.status i = some .queued)
    (holds : ∀ i, a.Holds i → a'.Holds i) : a'.Conserves := by
  rintro ⟨i, queued⟩ free
  exact before ⟨i, waits i queued⟩ fun j held => free j (holds j held)

variable [DecidableEq ι]

/-- A freed slot goes to the session elected, or nobody waits for it. -/
theorem conserves_of_handOver {base : Arbiter ι} (first : Option ι) {next : Option ι}
    (elects : a.Elects next)
    (waits : ∀ i, base.status i = some .queued → a.status i = some .queued) :
    (base.handOver (first.or next)).Conserves := by
  cases chosen : first.or next with
  | some i => exact conserves_of_holds (i := i) (by simp)
  | none =>
      rintro ⟨i, queued⟩
      exact absurd ⟨i, waits i queued⟩ (elects.2 (Option.or_eq_none_iff.mp chosen).2)

/-- Every other step conserves work. -/
theorem Step.conserves (step : a.Step cause a') (idle : ∀ i, cause = .connect i → ¬ a.Holds i)
    (before : a.Conserves) (passes : ¬ a.Strands cause) : a'.Conserves := by
  cases step with
  | ignored | unnamed | answered | parked => exact before.of_kept (fun _ => id) (fun _ => id)
  | joined absent =>
      have gone := not_holds_of_none absent
      exact before.of_kept (by grind) (by grind)
  | accepted =>
      have gone := idle _ rfl
      refine before.of_kept (by grind) fun i holds => ?_
      exact (holds_move rfl).mpr ⟨by grind, holds⟩
  | refused =>
      have gone := idle _ rfl
      exact before.of_kept (by grind) (by grind)
  | left gone => exact before.of_kept (by grind) (by grind)
  | queued status taken =>
      have gone := not_holds_of_status status rfl
      rintro - free
      exact taken fun i holds => free i ((holds_move rfl).mpr ⟨by grind, holds⟩)
  | @granted i => exact conserves_of_holds (i := i) (by simp)
  | @activated i => exact conserves_of_holds (i := i) (by simp)
  | @evicted h => exact conserves_of_holds (i := h) (by simp)
  | @switched t => exact conserves_of_holds (i := t) (by simp)
  | declined _ elects => exact conserves_of_handOver none elects (by grind)
  | timedOut _ elects => exact conserves_of_handOver none elects (by grind)
  | expired _ elects => exact conserves_of_handOver _ elects (by grind)
  | dropped _ elects => exact conserves_of_handOver _ elects (by grind)
  | @stopped h status =>
      cases promised : a.pending with
      | some target => exact conserves_of_holds (i := target) (by simp)
      | none =>
          rintro ⟨i, queued⟩
          exact absurd ⟨h, rfl, status, promised, i, by grind⟩ passes

/-- The exceptional step leaves somebody waiting for an idle slot. -/
theorem Step.strands (step : a.Step cause a') (coh : a.Coherent) (strands : a.Strands cause) :
    ¬ a'.Conserves := by
  obtain ⟨h, rfl, status, promised, i, queued⟩ := strands
  cases step with
  | ignored ignores => exact absurd status ignores
  | stopped =>
      rw [promised]
      intro conserves
      refine conserves ⟨i, by grind⟩ fun j holds => ?_
      obtain ⟨other, held⟩ := (holds_move rfl).mp holds
      exact other (coh.exclusive j h held (holds_of_status status rfl))

instance (a : Arbiter Slot) (cause : Cause Slot) : Decidable (a.Strands cause) :=
  inferInstanceAs (Decidable (∃ i, cause = .stopped i ∧ a.status i = some .evictingCooperative ∧
    a.pending = none ∧ ∃ j, a.status j = some .queued))

end Arbiter

/-- If some in-use slot is QUEUED, then some in-use slot holds the RT slot. -/
def ControlPlane.WorkConserving (cp : ControlPlane) : Prop :=
  (∃ i, (cp.table.slots i).inUse = true ∧ (cp.table.slots i).state = .queued) →
    ∃ j, (cp.table.slots j).inUse = true ∧ (cp.table.slots j).state.holdsRt = true

instance (cp : ControlPlane) : Decidable cp.WorkConserving :=
  inferInstanceAs (Decidable (_ → _))

theorem ControlPlane.workConserving_iff (cp : ControlPlane) :
    cp.WorkConserving ↔ cp.arbiter.Conserves := by
  simp only [WorkConserving, Arbiter.Conserves, Arbiter.Waiting, arbiter_status_eq_some,
    arbiter_free_iff, Bool.not_eq_false, SessionTable.rtSlotTaken_iff]

/-- The event is not a STOPPED from the slot that is EVICTING_COOPERATIVE while
`pending_grant_target` is -1 and some slot is QUEUED. -/
def StoppedPromotes (x : Observed) (ev : Event) : Prop :=
  ¬ x.1.arbiter.Strands (x.1.cause ev)

instance (x : Observed) (ev : Event) : Decidable (StoppedPromotes x ev) :=
  inferInstanceAs (Decidable (¬ _))

section Runs

variable {ring : Ring} {frameFd : Int} {dp : Bool} {supportedModes : List RenderMode}
variable {start : ControlPlane} {x : Observed} {trace : List (Observed × Event)}

/-- A run that connects once conserves work in all its states exactly if it never
takes the path through `handle_stopped` that forgets the queue. -/
theorem workConserving_run_iff
    (created : ControlPlane.init ring frameFd dp supportedModes = some start)
    (run : observed.Run (start, .empty) trace x) (once : Meets ConnectOnce trace) :
    (Through (fun x => x.1.WorkConserving) trace ∧ x.1.WorkConserving) ↔
      Meets StoppedPromotes trace := by
  refine run.exact_states once (Sound.of_init created) ?_ (fun _ _ _ => Sound.step) ?_
  · rintro ⟨i, inUse, -⟩
    have absent := (ControlPlane.vacant_of_init created).absent i
    simp [start.arbiter_status_of_inUse inUse] at absent
  · intro x ev y sound once before taken
    obtain ⟨step, -⟩ := sound.refines once taken
    rw [ControlPlane.workConserving_iff] at before ⊢
    constructor
    · exact fun after strands => step.strands sound.coherent strands after
    · refine step.conserves (fun i connects holds => ?_) before
      exact sound.not_holds_of_connect once connects holds

open ControlPlane in
/-- A wind-down for a target that stays, with a third client in the queue. -/
theorem workConserving_run_handover :
    ∃ trace x, observed.Run (booted, .empty) trace x ∧
      trace.map Prod.snd =
        [.accept 10, .hello 0 65 qvga, .signal 0 .activateRequest, .signal 0 .readyForRt,
          .accept 11, .hello 1 66 qvga, .accept 12, .hello 2 67 qvga, .signal 2 .activateRequest,
          .switch (.single 66) ⟨0, 0⟩, .signal 0 .stopped, .signal 1 .grantDecline] ∧
      (Through (fun x => x.1.WorkConserving) trace ∧ x.1.WorkConserving) ∧
      (x.1.table.slots 2).state = .grantedWarmup := by
  refine Demonstrates.exists_run
    (P := fun trace x => Meets ConnectOnce trace ∧ Meets StoppedPromotes trace ∧
      (x.1.table.slots 2).state = .grantedWarmup) (by decide +kernel) ?_
  rintro trace x run ⟨once, promotes, granted⟩
  exact ⟨(workConserving_run_iff init_eq_booted run once).mpr promotes, granted⟩

open ControlPlane in
/-- The target of a switch hangs up during the wind-down. STOPPED then frees the RT
slot, and the client in the queue is not promoted. -/
theorem not_workConserving_of_stopped :
    ∃ trace x, observed.Run (booted, .empty) trace x ∧
      trace.map Prod.snd =
        [.accept 10, .hello 0 65 qvga, .signal 0 .activateRequest, .signal 0 .readyForRt,
          .accept 11, .hello 1 66 qvga, .accept 12, .hello 2 67 qvga, .signal 2 .activateRequest,
          .switch (.single 66) ⟨0, 0⟩, .hangup 1 ⟨0, 0⟩, .signal 0 .stopped] ∧
      Meets ConnectOnce trace ∧ ¬ x.1.WorkConserving :=
  Demonstrates.run (by decide +kernel)

end Runs

end Wisp
