import Wisp.Control.Coherence
import Wisp.Control.History

/-!
# Observed runs

The control plane together with its history. A run of a client that sends CONNECT
at most once per connection, as `wispc_connect` does, never handles a CONNECT
outside the state CONNECTED. Such runs keep the bookkeeping coherent without any
further condition.
-/

namespace Wisp

open Transition System

/-- A control plane and what happened to it. -/
abbrev Observed := ControlPlane × History Slot

/-- The control thread with its history. -/
def observed : System Observed Event :=
  controlPlane.record fun h cp ev cp' => h.observe cp.arbiter (cp.cause ev) cp'.arbiter

/-- Observing restricts nothing: the runs of the control thread are the observed runs
with their histories left out. -/
theorem controlPlane_run_iff {start finish : ControlPlane} {trace : List (ControlPlane × Event)}
    (h : History Slot) :
    controlPlane.Run start trace finish ↔
      ∃ trace' h', observed.Run (start, h) trace' (finish, h') ∧
        trace'.map (fun p => (p.1.1, p.2)) = trace := by
  constructor
  · intro run
    exact run.record _ h
  · rintro ⟨trace', h', run, rfl⟩
    exact run.forget

/-- The observer sees the state the handler leaves. -/
theorem observed_handled {x y : Observed} {ev : Event} (taken : observed.step x ev = some y) :
    y.1 = x.1.quiesce.handle ev :=
  (ControlPlane.step_eq_some.mp (record_step.mp taken).1).2

/-- The number of bumps never falls. -/
theorem observed_bumps (x : Observed) (ev : Event) (y : Observed)
    (taken : observed.step x ev = some y) : x.2.bumps ≤ y.2.bumps := by
  rw [(record_step.mp taken).2]
  exact x.2.bumps_le_observe ..

/-- Each connection sends CONNECT at most once. -/
def ConnectOnce (x : Observed) (ev : Event) : Prop :=
  ∀ i, x.1.cause ev = .connect i → x.2.connectSent i = false

instance (x : Observed) (ev : Event) : Decidable (ConnectOnce x ev) :=
  inferInstanceAs (Decidable (∀ _, _ → _))

/-- What holds throughout every run that connects once. -/
structure Sound (x : Observed) : Prop where
  coherent : x.1.arbiter.Coherent
  fresh : x.2.Fresh x.1.arbiter

namespace Sound

variable {ring : Ring} {frameFd : Int} {dp : Bool} {supportedModes : List RenderMode}
variable {start cp : ControlPlane} {x y : Observed} {ev : Event}
variable {trace : List (Observed × Event)}

theorem of_init (created : ControlPlane.init ring frameFd dp supportedModes = some start) :
    Sound (start, .empty) := by
  have vacant := ControlPlane.vacant_of_init created
  refine ⟨vacant.coherent, ?_⟩
  intro i st status
  simp [vacant.absent i] at status

/-- A CONNECT comes from a session that is still CONNECTED. -/
theorem connected_of_connect (sound : Sound x) (once : ConnectOnce x ev) {i : Slot}
    (connects : x.1.cause ev = .connect i) {st : SessionState}
    (status : x.1.arbiter.status i = some st) : st = .connected :=
  sound.fresh i st status (once i connects)

theorem not_holds_of_connect (sound : Sound x) (once : ConnectOnce x ev) {i : Slot}
    (connects : x.1.cause ev = .connect i) : ¬ x.1.arbiter.Holds i := by
  cases status : x.1.arbiter.status i with
  | none => exact Arbiter.not_holds_of_none status
  | some st =>
      have first := sound.connected_of_connect once connects status
      exact Arbiter.not_holds_of_status status (by rw [first]; rfl)

theorem not_grantable_of_connect (sound : Sound x) (once : ConnectOnce x ev) {i : Slot}
    (connects : x.1.cause ev = .connect i) : ¬ x.1.arbiter.Grantable i := by
  intro can
  rcases Arbiter.grantable_iff.mp can with status | status <;>
    cases sound.connected_of_connect once connects status

/-- One observed step is one step of the arbiter. -/
theorem refines (sound : Sound x) (once : ConnectOnce x ev) (taken : observed.step x ev = some y) :
    x.1.arbiter.Step (x.1.cause ev) y.1.arbiter ∧
      y.2 = x.2.observe x.1.arbiter (x.1.cause ev) y.1.arbiter := by
  obtain ⟨moved, noted⟩ := record_step.mp taken
  obtain ⟨on, same⟩ := ControlPlane.step_eq_some.mp moved
  refine ⟨?_, noted⟩
  rw [same]
  refine ControlPlane.step_refines sound.coherent on fun i connects => ?_
  have holds := sound.not_holds_of_connect once connects
  constructor
  · exact fun active => holds (Arbiter.holds_of_status active rfl)
  · exact fun evicting => holds (Arbiter.holds_of_status evicting rfl)

theorem step (sound : Sound x) (once : ConnectOnce x ev) (taken : observed.step x ev = some y) :
    Sound y := by
  obtain ⟨step, noted⟩ := sound.refines once taken
  refine ⟨step.coherent sound.coherent, ?_⟩
  rw [noted]
  exact sound.fresh.step sound.coherent step

end Sound

namespace ControlPlane

/-- The fields of the control plane agree with each other and with the ring. -/
structure Bookkept (cp : ControlPlane) : Prop where
  evictingSlot : ∀ i, cp.evictingSlot = some i ↔
    (cp.table.slots i).inUse = true ∧ (cp.table.slots i).state = .evictingCooperative
  settled : ∀ i, (cp.table.slots i).inUse = true →
    (cp.table.slots i).state ≠ .evictingForced ∧ (cp.table.slots i).state ≠ .rejected
  granted : ∀ i, (cp.table.slots i).inUse = true → (cp.table.slots i).state.holdsRt = true →
    (cp.table.slots i).grantedGeneration = cp.ring.generation
  pendingGrantTarget : ∀ i, cp.pendingGrantTarget = some i →
    (cp.table.slots i).inUse = true ∧ (cp.table.slots i).state ≠ .connected

theorem bookkept_of_coherent {cp : ControlPlane} (coh : cp.arbiter.Coherent) : cp.Bookkept := by
  refine ⟨?_, ?_, ?_, ?_⟩
  · intro i
    rw [← arbiter_evicting, coh.evicting i, arbiter_status_eq_some]
  · intro i inUse
    simpa [cp.arbiter_status_of_inUse inUse] using coh.settled i
  · intro i inUse holds
    exact coh.current i (Arbiter.holds_of_status (cp.arbiter_status_of_inUse inUse) holds)
  · intro i promised
    obtain ⟨st, status, past⟩ := coh.known i promised
    obtain ⟨inUse, rfl⟩ := cp.arbiter_status_eq_some.mp status
    exact ⟨inUse, past⟩

end ControlPlane

section Runs

variable {ring : Ring} {frameFd : Int} {dp : Bool} {supportedModes : List RenderMode}
variable {start : ControlPlane} {x : Observed} {trace : List (Observed × Event)}

/-- Clients that connect once keep the bookkeeping in order, whatever else they send. -/
theorem bookkept_of_run (created : ControlPlane.init ring frameFd dp supportedModes = some start)
    (run : observed.Run (start, .empty) trace x) (once : Meets ConnectOnce trace) :
    Through (fun x => x.1.Bookkept) trace ∧ x.1.Bookkept := by
  have sound := Sound.of_init created
  have kept : ∀ x ev y, Sound x → ConnectOnce x ev → observed.step x ev = some y → Sound y :=
    fun _ _ _ => Sound.step
  constructor
  · refine (run.through once sound kept).mono fun x _ sound => ?_
    exact ControlPlane.bookkept_of_coherent sound.coherent
  · exact ControlPlane.bookkept_of_coherent (run.invariant once sound kept).coherent

open ControlPlane in
/-- A switch in the middle of a wind-down, stray messages included. -/
theorem bookkept_of_run_stray :
    ∃ trace x, observed.Run (booted, .empty) trace x ∧
      trace.map Prod.snd =
        [.accept 10, .hello 0 65 qvga, .signal 0 .activateRequest, .signal 0 .readyForRt,
          .accept 11, .hello 1 66 qvga, .signal 1 .stopped, .switch (.single 66) ⟨0, 0⟩,
          .signal 1 .grantDecline] ∧
      (Through (fun x => x.1.Bookkept) trace ∧ x.1.Bookkept) ∧ x.1.evictingSlot = some 0 := by
  refine Demonstrates.exists_run
    (P := fun trace x => Meets ConnectOnce trace ∧ x.1.evictingSlot = some 0) (by decide +kernel) ?_
  rintro trace x run ⟨once, evicting⟩
  exact ⟨bookkept_of_run init_eq_booted run once, evicting⟩

end Runs

end Wisp
