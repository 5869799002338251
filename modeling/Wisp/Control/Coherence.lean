import Wisp.Control.Simulation

/-!
# One RT slot

The simulation turned into statements about whole runs. A run in which no CONNECT
is handled on an active or winding-down slot keeps the bookkeeping coherent, so at
most one session holds the RT slot and `active_slot` names the active one.

A client that repeats its CONNECT while active breaks this: `handle_connect` puts
the slot back to NEGOTIATED and leaves `active_slot` pointing at it.
-/

namespace Wisp

open Transition System

namespace ControlPlane

variable {ring : Ring} {frameFd : Int} {dp : Bool} {supportedModes : List RenderMode}
variable {start cp next : ControlPlane} {trace : List (ControlPlane × Event)} {ev : Event}

/-- At most one in-use slot holds the RT slot, and `active_slot` is the slot that is
in use and ACTIVE_RT. -/
def SingleRtSlot (cp : ControlPlane) : Prop :=
  (∀ i j, (cp.table.slots i).inUse = true → (cp.table.slots i).state.holdsRt = true →
      (cp.table.slots j).inUse = true → (cp.table.slots j).state.holdsRt = true → i = j) ∧
    ∀ i, cp.table.activeSlot = some i ↔
      (cp.table.slots i).inUse = true ∧ (cp.table.slots i).state = .activeRt

instance (cp : ControlPlane) : Decidable cp.SingleRtSlot :=
  inferInstanceAs (Decidable (_ ∧ _))

theorem vacant_of_init (created : init ring frameFd dp supportedModes = some start) :
    start.arbiter.Vacant := by
  unfold init at created
  split at created
  · cases created
  · cases created
    exact ⟨fun _ => rfl, rfl, rfl, rfl⟩

theorem coherent_of_step (coh : cp.arbiter.Coherent) (safe : cp.ConnectSafe ev)
    (taken : controlPlane.step cp ev = some next) : next.arbiter.Coherent := by
  obtain ⟨on, rfl⟩ := step_eq_some.mp taken
  exact (step_refines coh on safe).coherent coh

theorem singleRtSlot_of_coherent (coh : cp.arbiter.Coherent) : cp.SingleRtSlot := by
  refine ⟨?_, ?_⟩
  · intro i j usedI holdsI usedJ holdsJ
    exact coh.exclusive i j
      (Arbiter.holds_of_status (cp.arbiter_status_of_inUse usedI) holdsI)
      (Arbiter.holds_of_status (cp.arbiter_status_of_inUse usedJ) holdsJ)
  · intro i
    rw [← arbiter_active, coh.active i, arbiter_status_eq_some]

/-- Every state of a run without a CONNECT on an active or winding-down slot has a
single RT slot. -/
theorem singleRtSlot_of_run (created : init ring frameFd dp supportedModes = some start)
    (run : controlPlane.Run start trace cp) (safe : Meets ConnectSafe trace) :
    Through SingleRtSlot trace ∧ cp.SingleRtSlot := by
  have coherent := (vacant_of_init created).coherent
  have kept : ∀ s e t, s.arbiter.Coherent → ConnectSafe s e → controlPlane.step s e = some t →
      t.arbiter.Coherent := fun _ _ _ => coherent_of_step
  refine ⟨?_, singleRtSlot_of_coherent (run.invariant safe coherent kept)⟩
  exact (run.through safe coherent kept).mono fun s _ coh => singleRtSlot_of_coherent coh

/-- Two clients, one switch between them, and the loser sends STOPPED. -/
theorem singleRtSlot_of_run_handover :
    ∃ trace cp, controlPlane.Run booted trace cp ∧
      trace.map Prod.snd =
        [.accept 10, .hello 0 65 qvga, .signal 0 .activateRequest, .signal 0 .readyForRt,
          .accept 11, .hello 1 66 qvga, .switch (.single 66) ⟨0, 0⟩, .signal 0 .stopped,
          .signal 1 .readyForRt] ∧
      (Through SingleRtSlot trace ∧ cp.SingleRtSlot) ∧ cp.table.activeSlot = some 1 := by
  refine Demonstrates.exists_run
    (P := fun trace cp => Meets ConnectSafe trace ∧ cp.table.activeSlot = some 1)
    (by decide +kernel) ?_
  rintro trace cp run ⟨safe, active⟩
  exact ⟨singleRtSlot_of_run init_eq_booted run safe, active⟩

/-- The active client repeats its CONNECT. -/
theorem not_singleRtSlot_of_reconnect :
    ∃ trace cp, controlPlane.Run booted trace cp ∧
      trace.map Prod.snd =
        [.accept 10, .hello 0 65 qvga, .signal 0 .activateRequest, .signal 0 .readyForRt,
          .hello 0 65 qvga] ∧
      ¬ cp.SingleRtSlot :=
  Demonstrates.run (by decide +kernel)

end ControlPlane

end Wisp
