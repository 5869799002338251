import Wisp.Control.Plane
import Wisp.Lib.Transition

/-!
# Events of the control thread

One event is one piece of work of the poll loop: an accepted connection, one
readable or hung-up client, one admin query, or the clock check that ends an
iteration. Client events can only happen on a slot that is in use, since the loop
polls no other. Everything else about an event is arbitrary: any message kind in
any session state, any payload, any clock reading.
-/

namespace Wisp

open ControlPlane Transition

/-- One piece of work of `wisps_control_plane_run`. The field `clock` is what a
`clock_gettime` inside the handler returns. -/
inductive Event where
  | accept (fd : Int)
  | readable (idx : Slot) (received : Received) (clock : Timespec)
  | hangup (idx : Slot) (clock : Timespec)
  | list
  | switch (id : ClientId) (clock : Timespec)
  | tick (now clock : Timespec)

namespace Event

/-- A client event needs a slot that is in use. -/
def enabled (cp : ControlPlane) : Event → Bool
  | .readable idx _ _ | .hangup idx _ => (cp.table.slots idx).inUse
  | _ => true

/-- A message without a payload arrives. -/
def signal (idx : Slot) (kind : MsgKind) : Event :=
  .readable idx (.message kind.toByte [] []) ⟨0, 0⟩

/-- A CONNECT under a one-character name arrives. -/
def hello (idx : Slot) (name : UInt8) (mode : RenderMode) : Event :=
  .readable idx (.message MsgKind.connect.toByte
    (ConnectMsg.offering (.single name) mode).toBytes []) ⟨0, 0⟩

end Event

namespace ControlPlane

/-- A mode to run examples with. -/
def qvga : RenderMode := ⟨320, 240, 60⟩

/-- A control plane right after start-up that supports only this mode. -/
def booted : ControlPlane where
  table := .init
  ring := .create
  frameFd := 3
  dp := true
  supportedModes := [qvga]
  evictingSlot := none
  pendingGrantTarget := none
  evictionDeadlineMonotonic := ⟨0, 0⟩
  out := []

theorem init_eq_booted : init .create 3 true [qvga] = some booted := rfl

/-- Dispatch one event. -/
def handle (cp : ControlPlane) : Event → ControlPlane
  | .accept fd => cp.handleAccept fd
  | .readable idx received clock => cp.handleReadable idx received clock
  | .hangup idx clock => cp.handleDisconnect idx clock
  | .list => cp.handleListQuery
  | .switch id clock => cp.handleSwitchQuery id clock
  | .tick now clock => cp.tick now clock

/-- Forget the effects of earlier events. -/
def quiesce (cp : ControlPlane) : ControlPlane :=
  { cp with out := [] }

@[simp] theorem quiesce_table (cp : ControlPlane) : cp.quiesce.table = cp.table := rfl

/-- The effects recorded after a step are those of that step. -/
def step (cp : ControlPlane) (ev : Event) : Option ControlPlane :=
  if ev.enabled cp then some (cp.quiesce.handle ev) else none

theorem step_eq_some {cp cp' : ControlPlane} {ev : Event} :
    cp.step ev = some cp' ↔ ev.enabled cp = true ∧ cp' = cp.quiesce.handle ev := by
  by_cases on : ev.enabled cp = true
  · simp only [step, on, if_true, Option.some.injEq, true_and]
    exact eq_comm
  · simp [step, on]

end ControlPlane

/-- The control thread as a transition system. -/
def controlPlane : System ControlPlane Event where
  step := ControlPlane.step

end Wisp
