import Wisp.Control.PollLoop

/-!
# The poll loop, one event after the other

Whatever `poll` reports and however descriptors are used again, `wisps_control_plane_run` does
one event of `controlPlane` after the other: what it does with a result of `poll` depends on the
slots as they are when the handler is called. So what holds of every run of the events holds of
the loop.

Only the receiver does something that is no part of an event: it closes descriptors that it has
no room for.
-/

namespace Wisp

open Transition System

namespace ControlPlane

/-- The same with effects that were recorded before. -/
def preceded (cp : ControlPlane) (earlier : List Effect) : ControlPlane :=
  { cp with out := earlier ++ cp.out }

/-! ### A handler adds to the record of its effects and does not read it -/

section Preceded

variable (cp : ControlPlane) (earlier : List Effect)

@[local simp] theorem preceded_table : (cp.preceded earlier).table = cp.table := rfl

@[local simp] theorem preceded_ring : (cp.preceded earlier).ring = cp.ring := rfl

@[local simp] theorem preceded_frameFd : (cp.preceded earlier).frameFd = cp.frameFd := rfl

@[local simp] theorem preceded_dp : (cp.preceded earlier).dp = cp.dp := rfl

@[local simp] theorem preceded_supportedModes :
    (cp.preceded earlier).supportedModes = cp.supportedModes := rfl

@[local simp] theorem preceded_evictingSlot :
    (cp.preceded earlier).evictingSlot = cp.evictingSlot := rfl

@[local simp] theorem preceded_pendingGrantTarget :
    (cp.preceded earlier).pendingGrantTarget = cp.pendingGrantTarget := rfl

@[local simp] theorem preceded_evictionDeadlineMonotonic :
    (cp.preceded earlier).evictionDeadlineMonotonic = cp.evictionDeadlineMonotonic := rfl

@[local simp] theorem preceded_out : (cp.preceded earlier).out = earlier ++ cp.out := rfl

/-- An update of another field. -/
@[local simp] theorem mk_preceded (table ring frameFd dp modes evicting pending deadline out) :
    (⟨table, ring, frameFd, dp, modes, evicting, pending, deadline, earlier ++ out⟩ :
      ControlPlane) =
      (⟨table, ring, frameFd, dp, modes, evicting, pending, deadline, out⟩ :
        ControlPlane).preceded earlier := rfl

@[local simp] theorem emit_preceded (effects : List Effect) :
    (cp.preceded earlier).emit effects = (cp.emit effects).preceded earlier := by
  show { cp with out := earlier ++ cp.out ++ effects } =
    { cp with out := earlier ++ (cp.out ++ effects) }
  rw [List.append_assoc]

@[local simp] theorem send_preceded (idx : Slot) (msg : ServerMsg) :
    (cp.preceded earlier).send idx msg = (cp.send idx msg).preceded earlier :=
  emit_preceded ..

@[local simp] theorem evictClient_preceded :
    (cp.preceded earlier).evictClient = cp.evictClient.preceded earlier :=
  emit_preceded { cp with ring := cp.ring.evictClient } earlier _

@[local simp] theorem preceded_ite (c : Prop) [Decidable c] (cp₁ cp₂ : ControlPlane) :
    (if c then cp₁ else cp₂).preceded earlier =
      if c then cp₁.preceded earlier else cp₂.preceded earlier :=
  apply_ite (preceded · earlier) ..

@[local simp] theorem doGrant_preceded (idx : Slot) :
    (cp.preceded earlier).doGrant idx = (cp.doGrant idx).preceded earlier := by
  simp [doGrant]

@[local simp] theorem beginEviction_preceded (prevIdx target : Slot) (clock : Timespec) :
    (cp.preceded earlier).beginEviction prevIdx target clock =
      (cp.beginEviction prevIdx target clock).preceded earlier := by
  simp [beginEviction]

@[local simp] theorem finishPendingGrant_preceded :
    (cp.preceded earlier).finishPendingGrant = cp.finishPendingGrant.preceded earlier := by
  unfold finishPendingGrant
  cases held : cp.pendingGrantTarget <;> simp [held]

@[local simp] theorem handleStopped_preceded (idx : Slot) :
    (cp.preceded earlier).handleStopped idx = (cp.handleStopped idx).preceded earlier := by
  by_cases winding : (cp.table.slots idx).state = .evictingCooperative
  · by_cases held : cp.evictingSlot = some idx <;> simp [handleStopped, winding, held]
  · simp [handleStopped, winding]

@[local simp] theorem grantSlot_preceded (idx : Slot) (clock : Timespec) :
    (cp.preceded earlier).grantSlot idx clock = (cp.grantSlot idx clock).preceded earlier := by
  unfold grantSlot
  cases held : cp.table.activeSlot <;> simp [held]

@[local simp] theorem maybeGrantNextQueued_preceded (clock : Timespec) :
    (cp.preceded earlier).maybeGrantNextQueued clock =
      (cp.maybeGrantNextQueued clock).preceded earlier := by
  unfold maybeGrantNextQueued
  cases held : cp.table.findNextQueued <;> simp [held]

@[local simp] theorem settleDisconnect_preceded (idx : Slot) :
    (cp.preceded earlier).settleDisconnect idx = (cp.settleDisconnect idx).preceded earlier := by
  by_cases active : (cp.table.slots idx).state = .activeRt
  · simp [settleDisconnect, active]
  · by_cases held : cp.evictingSlot = some idx <;>
      by_cases winding : (cp.table.slots idx).state = .evictingCooperative ∨
        (cp.table.slots idx).state = .evictingForced <;>
      simp [settleDisconnect, active, winding, held]

@[local simp] theorem withdraw_preceded (idx : Slot) :
    (cp.preceded earlier).withdraw idx = (cp.withdraw idx).preceded earlier := by
  by_cases held : cp.pendingGrantTarget = some idx <;> simp [withdraw, held]

@[local simp] theorem closeSlot_preceded (idx : Slot) :
    (cp.preceded earlier).closeSlot idx = (cp.closeSlot idx).preceded earlier := by
  simp [closeSlot]

@[local simp] theorem handleDisconnect_preceded (idx : Slot) (clock : Timespec) :
    (cp.preceded earlier).handleDisconnect idx clock =
      (cp.handleDisconnect idx clock).preceded earlier := by
  simp [handleDisconnect]

@[local simp] theorem reject_preceded (idx : Slot) (clock : Timespec) :
    (cp.preceded earlier).reject idx clock = (cp.reject idx clock).preceded earlier := by
  simp [reject]

@[local simp] theorem handleConnect_preceded (idx : Slot) (connect : ConnectMsg)
    (clock : Timespec) :
    (cp.preceded earlier).handleConnect idx connect clock =
      (cp.handleConnect idx connect clock).preceded earlier := by
  have same : (cp.preceded earlier).negotiateMode connect.offered =
      cp.negotiateMode connect.offered := rfl
  unfold handleConnect
  cases held : cp.negotiateMode connect.offered <;> simp [same, held]

@[local simp] theorem handleActivateRequest_preceded (idx : Slot) (clock : Timespec) :
    (cp.preceded earlier).handleActivateRequest idx clock =
      (cp.handleActivateRequest idx clock).preceded earlier := by
  by_cases stands : (cp.table.slots idx).state = .negotiated <;>
    simp [handleActivateRequest, stands]

@[local simp] theorem handleReadyForRt_preceded (idx : Slot) (clock : Timespec) :
    (cp.preceded earlier).handleReadyForRt idx clock =
      (cp.handleReadyForRt idx clock).preceded earlier := by
  by_cases stands : (cp.table.slots idx).state = .grantedWarmup <;>
    simp [handleReadyForRt, stands]

@[local simp] theorem handleGrantDecline_preceded (idx : Slot) (clock : Timespec) :
    (cp.preceded earlier).handleGrantDecline idx clock =
      (cp.handleGrantDecline idx clock).preceded earlier := by
  by_cases stands : (cp.table.slots idx).state = .grantedWarmup <;>
    simp [handleGrantDecline, stands]

@[local simp] theorem handleHeartbeat_preceded (idx : Slot) (clock : Timespec) :
    (cp.preceded earlier).handleHeartbeat idx clock =
      (cp.handleHeartbeat idx clock).preceded earlier := by
  by_cases stands : (cp.table.slots idx).state = .activeRt <;>
    simp [handleHeartbeat, stands]

@[local simp] theorem handleDmabufAnnounce_preceded (idx : Slot) (msg : DmabufAnnounceMsg)
    (fds : List Int) :
    (cp.preceded earlier).handleDmabufAnnounce idx msg fds =
      (cp.handleDmabufAnnounce idx msg fds).preceded earlier := by
  simp only [handleDmabufAnnounce]
  split <;> simp

theorem handleReadable_preceded (idx : Slot) (received : Received) (clock : Timespec) :
    (cp.preceded earlier).handleReadable idx received clock =
      (cp.handleReadable idx received clock).preceded earlier := by
  cases received with
  | closed | oversized => simp [handleReadable]
  | message type payload fds =>
      simp only [handleReadable]
      cases MsgKind.ofByte type with
      | none => rfl
      | some kind => cases kind <;> simp

end Preceded

/-- What the last event has done to others. To close a descriptor is the process's own affair. -/
def outward (cp : ControlPlane) : List Effect :=
  cp.out.filter fun effect => effect.closes.isNone

theorem outward_preceded_close (cp : ControlPlane) (fds : List Int) :
    (cp.preceded (fds.map .close)).outward = cp.outward := by
  have silent : (fds.map Effect.close).filter (fun effect => effect.closes.isNone) = [] := by
    simp [Effect.closes]
  show (fds.map Effect.close ++ cp.out).filter _ = _
  rw [List.filter_append, silent]
  rfl

/-- The events of the control thread with a log of what they do to others. -/
def logged : System (ControlPlane × List Effect) Event :=
  controlPlane.record fun log _ _ cp => log ++ cp.outward

/-- What the receive of `handle_readable` returns. -/
def receipt (first : Nat) (stream : List Cell) : Receipt :=
  ctrlRecvFds controlRecvBufSize numBuffers first stream

/-- Reading from a socket is the event that the message is, after the receiver has closed what
it has no room for. -/
theorem readSocket_spec (cp : ControlPlane) (idx : Slot) (first : Nat) (stream : List Cell)
    (clock : Timespec) :
    cp.quiesce.readSocket idx first stream clock =
      (cp.quiesce.handleReadable idx (receipt first stream).received clock).preceded
        ((receipt first stream).closed.map .close) := by
  have before (effects : List Effect) : cp.quiesce.emit effects = cp.quiesce.preceded effects := by
    show { cp with out := [] ++ effects } = { cp with out := effects ++ [] }
    rw [List.append_nil, List.nil_append]
  show (cp.quiesce.emit ((receipt first stream).closed.map .close)).handleReadable idx _ clock = _
  rw [before, handleReadable_preceded]
  rfl

theorem enabled_quiesce (cp : ControlPlane) (ev : Event) :
    ev.enabled cp.quiesce = ev.enabled cp := by
  cases ev <;> rfl

end ControlPlane

/-- The event that an admin query is. -/
def ControlQuery.event (clock : Timespec) : ControlQuery → Event
  | .list => .list
  | .switch switchClientId => .switch switchClientId clock

namespace PollLoop

variable {l l' : PollLoop} {ev : PollEvent}

/-- The event that a step of the loop is, if a handler is called in it. -/
def event (l : PollLoop) : PollEvent → Option Event
  | .drain query clock =>
      match l.pc with
      | .drain ready => if ready.chan then query.map (ControlQuery.event clock) else none
      | _ => none
  | .accept fd =>
      match l.pc with
      | .accept ready => if ready.listen then some (.accept fd) else none
      | _ => none
  | .dispatch first stream clock =>
      match l.pc with
      | .dispatch ready (i :: _) =>
          match l.polled i, ready.slots i with
          | some _, .input =>
              some (.readable i (ControlPlane.receipt first stream).received clock)
          | some _, .hangup => some (.hangup i clock)
          | _, _ => none
      | _ => none
  | .tick now clock =>
      match l.pc with
      | .clock => some (.tick now clock)
      | _ => none
  | _ => none

/-- One step is one event, or the control plane stays as it is, the record of the effects apart. -/
inductive Does (l : PollLoop) (ev : PollEvent) (l' : PollLoop) : Prop where
  | event (e : Event) (is : l.event ev = some e) (enabled : e.enabled l.cp = true)
      (same : l'.cp.quiesce = (l.cp.quiesce.handle e).quiesce)
      (outward : l'.cp.outward = (l.cp.quiesce.handle e).outward)
  | nothing (no : l.event ev = none) (same : l'.cp = l.cp ∨ l'.cp = l.cp.quiesce)

theorem does_drain {query : Option ControlQuery} {clock : Timespec}
    (taken : l.step (.drain query clock) = some l') : Does l (.drain query clock) l' := by
  simp only [PollLoop.step] at taken
  split at taken
  · rename_i ready stands
    split at taken
    · rename_i reported
      cases taken
      cases query with
      | none => exact .nothing (by simp [event, stands, reported]) (.inr rfl)
      | some query =>
          refine .event (query.event clock) (by simp [event, stands, reported]) ?_ ?_ ?_
          all_goals cases query <;> rfl
    · rename_i quiet
      cases taken
      exact .nothing (by simp [event, stands, quiet]) (.inl rfl)
  · cases taken

theorem does_accept {fd : Int} (taken : l.step (.accept fd) = some l') :
    Does l (.accept fd) l' := by
  simp only [PollLoop.step] at taken
  split at taken
  · rename_i ready stands
    split at taken
    · rename_i reported
      have is : l.event (.accept fd) = some (.accept fd) := by simp [event, stands, reported]
      split at taken
      · cases taken
        exact .event _ is rfl rfl rfl
      · obtain ⟨_, same⟩ := Option.ite_none_right_eq_some.mp taken
        cases same
        exact .event _ is rfl rfl rfl
    · rename_i quiet
      cases taken
      exact .nothing (by simp [event, stands, quiet]) (.inl rfl)
  · cases taken

/-- A result of `poll` is not out of date when it is looked at, so the slot is in use. -/
theorem Good.does_dispatch (good : l.Good) {first : Nat} {stream : List Cell} {clock : Timespec}
    (taken : l.step (.dispatch first stream clock) = some l') :
    Does l (.dispatch first stream clock) l' := by
  simp only [PollLoop.step] at taken
  split at taken
  · rename_i ready i rest stands
    have member : i ∈ l.pc.pending := by
      rw [stands]
      exact List.mem_cons_self
    unfold PollLoop.dispatch at taken
    split at taken
    · rename_i unpolled
      cases taken
      exact .nothing (by simp [event, stands, unpolled]) (.inl rfl)
    · rename_i fd polled quiet
      cases taken
      exact .nothing (by simp [event, stands, polled, quiet]) (.inl rfl)
    · rename_i fd polled input
      obtain ⟨_, same⟩ := Option.ite_none_right_eq_some.mp taken
      cases same
      refine .event (.readable i (ControlPlane.receipt first stream).received clock)
        (by simp [event, stands, polled, input]) (good.current i member fd polled).1 ?_ ?_
      · show (l.cp.quiesce.readSocket i first stream clock).quiesce = _
        rw [ControlPlane.readSocket_spec]
        rfl
      · show (l.cp.quiesce.readSocket i first stream clock).outward = _
        rw [ControlPlane.readSocket_spec, ControlPlane.outward_preceded_close]
        rfl
    · rename_i fd polled hangup
      cases taken
      exact .event (.hangup i clock) (by simp [event, stands, polled, hangup])
        (good.current i member fd polled).1 rfl rfl
  · rename_i stands
    cases taken
    exact .nothing (by simp [event, stands]) (.inl rfl)
  · cases taken

theorem Good.does (good : l.Good) (taken : pollLoop.step l ev = some l') : Does l ev l' := by
  change l.step ev = some l' at taken
  cases ev with
  | drain query clock => exact does_drain taken
  | accept fd => exact does_accept taken
  | dispatch first stream clock => exact good.does_dispatch taken
  | tick now clock =>
      simp only [PollLoop.step] at taken
      split at taken
      · rename_i stands
        cases taken
        exact .event (.tick now clock) (by simp [event, stands]) rfl rfl rfl
      · cases taken
  | poll ready | leave | close =>
      simp only [PollLoop.step] at taken
      split at taken
      · cases taken
        exact .nothing rfl (.inl rfl)
      · cases taken
  | elsewhere fd =>
      simp only [PollLoop.step] at taken
      split at taken
      · cases taken
        exact .nothing rfl (.inl rfl)
      · cases taken
        exact .nothing rfl (.inl rfl)
      · cases taken

/-- The log of a loop: what it has done to others. -/
def note (log : List Effect) (l : PollLoop) (ev : PollEvent) (l' : PollLoop) : List Effect :=
  if (l.event ev).isSome then log ++ l'.cp.outward else log

/-- The loop is where the events have led to. -/
structure Follows (x : PollLoop × List Effect) (y : ControlPlane × List Effect) : Prop where
  good : x.1.Good
  plane : x.1.cp.quiesce = y.1.quiesce
  log : x.2 = y.2

theorem simulates :
    (pollLoop.record note).Simulates ControlPlane.logged Follows fun x ev => x.1.event ev := by
  intro x ev x' y follows taken
  obtain ⟨moved, noted⟩ := record_step.mp taken
  have good := (follows.good.step moved).1
  cases follows.good.does moved with
  | nothing no same =>
      have same : x'.1.cp.quiesce = x.1.cp.quiesce := by
        obtain same | same := same
        · rw [same]
        · rw [same]
          rfl
      have kept : x'.2 = x.2 := by simp [noted, note, no]
      exact .inr ⟨no, good, same.trans follows.plane, kept.trans follows.log⟩
  | event e is enabled same outward =>
      rw [follows.plane] at same outward
      have can : e.enabled y.1 = true := by
        rw [← ControlPlane.enabled_quiesce, ← follows.plane, ControlPlane.enabled_quiesce]
        exact enabled
      have logged : x'.2 = x.2 ++ x'.1.cp.outward := by simp [noted, note, is]
      refine .inl ⟨e, (y.1.quiesce.handle e, y.2 ++ (y.1.quiesce.handle e).outward), is, ?_,
        good, same, ?_⟩
      · exact record_step.mpr ⟨ControlPlane.step_eq_some.mpr ⟨can, rfl⟩, rfl⟩
      · rw [logged, outward, follows.log]

end PollLoop

end Wisp
