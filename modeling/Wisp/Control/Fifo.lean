import Wisp.Control.Progress
import Wisp.Session.Queue

/-!
# First come, first served

Without an admin nothing is ever promised, so a freed RT slot goes to the first session
of the queue. A session that asks for the slot and finds it free is granted at once;
since work is conserved, nobody waits then, and nobody is overtaken.
-/

namespace Wisp

open Transition System

/-- The choice that `find_next_queued` makes for a release. -/
def Cause.next {ι : Type*} : Cause ι → Option ι
  | .decline _ next | .drop _ next | .timeout _ next | .expiry _ next => next
  | _ => none

namespace Arbiter

variable {ι : Type*} {a a' : Arbiter ι} {cause : Cause ι} {i : ι}

/-- Nothing is promised and nobody winds down. -/
structure Unpromised (a : Arbiter ι) : Prop where
  pending : a.pending = none
  settled : ∀ i, a.status i ≠ some .evictingCooperative

theorem Vacant.unpromises (vacant : a.Vacant) : a.Unpromised where
  pending := vacant.unpromised
  settled i := by simp [vacant.absent i]

/-- With nobody winding down, no release is forgotten. -/
theorem Unpromised.not_strands (free : a.Unpromised) : ¬ a.Strands cause := by
  rintro ⟨i, -, status, -⟩
  exact free.settled i status

variable [DecidableEq ι]

theorem Unpromised.handOver (free : a.Unpromised) (next : Option ι) :
    (a.handOver next).Unpromised where
  pending := by rw [handOver_pending, free.pending]
  settled i := by
    rw [handOver_status]
    split
    · simp
    · exact free.settled i

theorem Unpromised.move (free : a.Unpromised) {state : Option SessionState}
    (settled : state ≠ some .evictingCooperative) : (a.move i state).Unpromised where
  pending := free.pending
  settled j := by
    rw [move_status]
    split
    · exact settled
    · exact free.settled j

theorem Unpromised.leave (free : a.Unpromised) : (a.leave i).Unpromised where
  pending := by rw [leave_pending, free.pending]; simp
  settled j := by
    rw [leave_status]
    split
    · simp
    · exact free.settled j

/-- Only a switch makes a promise. -/
theorem Unpromised.step (free : a.Unpromised) (step : a.Step cause a')
    (unswitched : ∀ i, cause ≠ .switch i) : a'.Unpromised := by
  have start : a.quiet.Unpromised := ⟨free.pending, free.settled⟩
  have kept : ∀ h, (a.quiet.move h (some .negotiated)).Unpromised := fun h => start.move (by simp)
  cases step with
  | ignored => exact start
  | unnamed => exact ⟨free.pending, free.settled⟩
  | answered | evicted | parked | switched => exact absurd rfl (unswitched _)
  | @joined i =>
      have moved : (a.quiet.move i (some .connected)).Unpromised := start.move (by simp)
      exact ⟨moved.pending, moved.settled⟩
  | accepted => exact kept _
  | refused => exact start.leave
  | left => exact start.leave
  | queued => exact start.move (by simp)
  | granted => exact start.handOver (some _)
  | @activated i =>
      refine ⟨free.pending, fun j => ?_⟩
      rw [activate_status]
      split
      · simp
      · exact free.settled j
  | declined => exact (kept _).handOver _
  | stopped status => exact absurd status (free.settled _)
  | @timedOut h =>
      have revoked : (a.quiet.move h (some .negotiated)).bump.Unpromised :=
        ⟨(kept h).pending, (kept h).settled⟩
      exact revoked.handOver _
  | expired status => exact absurd status (free.settled _)
  | @dropped h =>
      have left : (a.quiet.leave h).clearPending.Unpromised := ⟨rfl, start.leave.settled⟩
      exact left.handOver _

/-- Without promises a grant goes to a session that found the slot free, or to the one
elected from the queue. -/
theorem Unpromised.granted (free : a.Unpromised) (step : a.Step cause a')
    (unswitched : ∀ i, cause ≠ .switch i) (granted : a'.Granted i) :
    a.status i = some .negotiated ∧ a.Free ∨ a.status i = some .queued ∧ cause.next = some i := by
  -- Passing the slot on grants to the elected session and to nobody else.
  have elected {base : Arbiter ι} {next : Option ι} (elects : a.Elects next)
      (none : ¬ base.Granted i) (passed : (base.handOver next).Granted i) :
      a.status i = some .queued ∧ next = some i := by
    have chosen := ((granted_handOver next).mp passed).resolve_left none
    exact ⟨elects.1 i chosen, chosen⟩
  cases step with
  | granted status idle =>
      obtain rfl := (granted_grant.mp granted).resolve_left (by simp)
      exact .inl ⟨status, idle⟩
  | declined _ elects => exact .inr (elected elects (by simp) granted)
  | timedOut _ elects => exact .inr (elected elects (by simp) granted)
  | dropped _ elects =>
      have quiet : a.quiet.Unpromised := ⟨free.pending, free.settled⟩
      rw [quiet.leave.pending, Option.none_or] at granted
      exact .inr (elected elects (by simp) granted)
  | answered | evicted | parked | switched => exact absurd rfl (unswitched _)
  | stopped status | expired status => exact absurd status (free.settled _)
  | ignored => exact absurd granted (by simp)
  | joined => exact absurd granted (by simp)
  | accepted | queued => exact absurd granted (by simp)
  | activated => exact absurd granted (by simp)
  | unnamed => exact absurd granted (by simp)
  | refused | left => exact absurd granted (by simp)

end Arbiter

namespace ControlPlane

variable {cp : ControlPlane} {i : Slot}

/-- The arbiter logs every ACTIVATE_GRANT. -/
theorem granted_of_mem_out {fd frameFd : Int} {generation : UInt32}
    (sent : .send i fd (.activateGrant generation frameFd) ∈ cp.out) : cp.arbiter.Granted i :=
  ⟨.grant i generation, List.mem_filterMap.mpr ⟨_, sent, rfl⟩, rfl⟩

/-- A release carries the answer of `find_next_queued`. -/
theorem findNextQueued_of_cause {ev : Event} (next : (cp.cause ev).next = some i) :
    cp.table.findNextQueued = some i := by
  cases ev with
  | accept fd => cases next
  | list => cases next
  | hangup idx clock => exact next
  | switch id clock =>
      simp only [cause] at next
      split at next <;> cases next
  | tick now clock =>
      simp only [cause] at next
      split at next
      · exact next
      · exact next
      · cases next
  | readable idx received clock =>
      cases received with
      | closed => exact next
      | oversized => cases next
      | message type payload fds =>
          simp only [cause] at next
          cases kind : MsgKind.ofByte type with
          | none => simp [kind, Cause.next] at next
          | some kind' => cases kind' <;> simp_all [Cause.next]

end ControlPlane

/-- The event is not an admin SWITCH. -/
def NoSwitch (_ : Observed) (ev : Event) : Prop :=
  match ev with
  | .switch _ _ => False
  | _ => True

instance (x : Observed) (ev : Event) : Decidable (NoSwitch x ev) :=
  match ev with
  | .switch _ _ => isFalse id
  | .accept _ | .readable _ _ _ | .hangup _ _ | .list | .tick _ _ => isTrue trivial

/-- Whenever the event sends ACTIVATE_GRANT to a slot, that slot was first in the queue, or
it was NEGOTIATED and the queue was empty. -/
def FirstServed (x : Observed) (ev : Event) : Prop :=
  ∀ i fd generation frameFd,
    .send i fd (.activateGrant generation frameFd) ∈ (x.1.quiesce.handle ev).out →
      (x.1.table.slots i).inUse = true ∧
        ((x.1.table.slots i).state = .queued ∨ (x.1.table.slots i).state = .negotiated) ∧
        ((x.1.table.slots i).state = .queued → ∀ j, j ≠ i →
          (x.1.table.slots j).inUse = true → (x.1.table.slots j).state = .queued →
            ¬ x.1.table.requestKey j < x.1.table.requestKey i) ∧
        ((x.1.table.slots i).state = .negotiated → ∀ j,
          (x.1.table.slots j).inUse = true → (x.1.table.slots j).state ≠ .queued)

/-- What holds throughout a run without an admin. -/
structure Orderly (x : Observed) : Prop where
  sound : Sound x
  unpromised : x.1.arbiter.Unpromised
  conserves : x.1.arbiter.Conserves

namespace Orderly

variable {x y : Observed} {ev : Event}

theorem of_init {ring : Ring} {frameFd : Int} {dp : Bool} {supportedModes : List RenderMode}
    {start : ControlPlane} (created : ControlPlane.init ring frameFd dp supportedModes = some start) :
    Orderly (start, .empty) := by
  have vacant := ControlPlane.vacant_of_init created
  refine ⟨Sound.of_init created, vacant.unpromises, ?_⟩
  rintro ⟨i, queued⟩
  simp [vacant.absent i] at queued

theorem unswitched (noSwitch : NoSwitch x ev) (i : Slot) : x.1.cause ev ≠ .switch i := by
  cases ev with
  | switch id clock => exact noSwitch.elim
  | accept fd => simp [ControlPlane.cause]
  | list => simp [ControlPlane.cause]
  | hangup idx clock => simp [ControlPlane.cause]
  | tick now clock =>
      simp only [ControlPlane.cause]
      split <;> simp
  | readable idx received clock =>
      cases received with
      | closed => simp [ControlPlane.cause]
      | oversized => simp [ControlPlane.cause]
      | message type payload fds =>
          simp only [ControlPlane.cause]
          split <;> simp

theorem step (orderly : Orderly x) (once : ConnectOnce x ev) (noSwitch : NoSwitch x ev)
    (taken : observed.step x ev = some y) : Orderly y := by
  obtain ⟨step, -⟩ := orderly.sound.refines once taken
  refine ⟨orderly.sound.step once taken, ?_, ?_⟩
  · exact orderly.unpromised.step step (unswitched noSwitch)
  · refine step.conserves ?_ orderly.conserves orderly.unpromised.not_strands
    exact fun i connects => orderly.sound.not_holds_of_connect once connects

/-- Nobody is overtaken. A slot that is granted on its own request found the RT slot free,
and then nobody waits, since work is conserved. -/
theorem firstServed (orderly : Orderly x) (once : ConnectOnce x ev) (noSwitch : NoSwitch x ev)
    (taken : observed.step x ev = some y) : FirstServed x ev := by
  obtain ⟨step, -⟩ := orderly.sound.refines once taken
  intro i fd generation frameFd sent
  rw [← observed_handled taken] at sent
  have granted := ControlPlane.granted_of_mem_out sent
  rcases orderly.unpromised.granted step (unswitched noSwitch) granted with
    ⟨status, free⟩ | ⟨status, next⟩
  · obtain ⟨inUse, state⟩ := x.1.arbiter_status_eq_some.mp status
    refine ⟨inUse, .inr state, by simp [state], fun _ j used queued => ?_⟩
    exact orderly.conserves ⟨j, x.1.arbiter_status_eq_some.mpr ⟨used, queued⟩⟩ free
  · obtain ⟨inUse, state⟩ := x.1.arbiter_status_eq_some.mp status
    refine ⟨inUse, .inl state, fun _ j _ used queued => ?_, by simp [state]⟩
    have first := ControlPlane.findNextQueued_of_cause next
    exact not_lt.mpr (SessionTable.findNextQueued_le first (by simp [used, queued]))

end Orderly

section Runs

variable {ring : Ring} {frameFd : Int} {dp : Bool} {supportedModes : List RenderMode}
variable {start : ControlPlane} {x : Observed} {trace : List (Observed × Event)}

/-- Without an admin the RT slot is granted in the order of the requests. -/
theorem firstServed_of_run
    (created : ControlPlane.init ring frameFd dp supportedModes = some start)
    (run : observed.Run (start, .empty) trace x) (once : Meets ConnectOnce trace)
    (noSwitch : Meets NoSwitch trace) : Meets FirstServed trace := by
  refine run.meets (C := fun x ev => ConnectOnce x ev ∧ NoSwitch x ev)
    (fun p member => ⟨once p member, noSwitch p member⟩) (Orderly.of_init created) ?_ ?_
  · exact fun x ev y orderly met taken => orderly.step met.1 met.2 taken
  · exact fun x ev y orderly met taken => orderly.firstServed met.1 met.2 taken

open ControlPlane in
/-- Two clients wait, the later one in the earlier slot, and the holder hangs up. -/
theorem firstServed_of_run_hangup :
    ∃ trace x, observed.Run (booted, .empty) trace x ∧
      trace.map Prod.snd =
        [.accept 10, .hello 0 65 qvga, .signal 0 .activateRequest, .signal 0 .readyForRt,
          .accept 11, .hello 1 66 qvga, .accept 12, .hello 2 67 qvga,
          .readable 2 (.message MsgKind.activateRequest.toByte [] []) ⟨1, 0⟩,
          .readable 1 (.message MsgKind.activateRequest.toByte [] []) ⟨2, 0⟩,
          .hangup 0 ⟨3, 0⟩] ∧
      Meets FirstServed trace ∧ (x.1.table.slots 2).state = .grantedWarmup := by
  refine Demonstrates.exists_run
    (P := fun trace x => Meets ConnectOnce trace ∧ Meets NoSwitch trace ∧
      (x.1.table.slots 2).state = .grantedWarmup) (by decide +kernel) ?_
  rintro trace x run ⟨once, noSwitch, granted⟩
  exact ⟨firstServed_of_run init_eq_booted run once noSwitch, granted⟩

end Runs

end Wisp
