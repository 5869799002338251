import Wisp.Control.Refinement

/-!
# What one event can do

Every handler of the control thread, started in a coherent state, is one change of the
abstract arbiter. The equations below say which, handler by handler, with the session
state that decides between the branches as a hypothesis.

A CONNECT is the only message whose handler does not look at the session state; its
equation needs that neither cache names the slot.
-/

namespace Wisp

open Arbiter

namespace ControlPlane

variable {cp : ControlPlane} {idx : Slot}

theorem elects (cp : ControlPlane) : cp.arbiter.Elects cp.table.findNextQueued := by
  refine ⟨fun i found => ?_, fun missing => ?_⟩
  · exact cp.arbiter_status_eq_some.mpr (SessionTable.findNextQueued_queued found)
  · rw [arbiter_waiting_iff]
    exact not_not.mpr missing

/-- The choice of the next session does not depend on a slot that does not wait. -/
theorem findNextQueued_setState {table : SessionTable} {state : SessionState}
    (before : (table.slots idx).state ≠ .queued) (after : state ≠ .queued) :
    (table.setState idx state).findNextQueued = table.findNextQueued :=
  SessionTable.findNextQueued_setSlot _ (by simp [SessionTable.isQueued, before]) (by simp [after])
    rfl

section Caches

variable (coh : cp.arbiter.Coherent)
include coh

theorem inactive_of_status {state : SessionState} (status : cp.arbiter.status idx = some state)
    (other : state ≠ .activeRt) : cp.table.activeSlot ≠ some idx := by
  intro active
  have := (coh.active idx).mp active
  simp_all

theorem unevicted_of_status {state : SessionState} (status : cp.arbiter.status idx = some state)
    (other : state ≠ .evictingCooperative) : cp.evictingSlot ≠ some idx := by
  intro evicting
  have := (coh.evicting idx).mp evicting
  simp_all

end Caches

section Handlers

variable (coh : cp.arbiter.Coherent)
include coh

theorem arbiter_handleStopped (status : cp.arbiter.status idx = some .evictingCooperative) :
    (cp.handleStopped idx).arbiter =
      (cp.arbiter.move idx (some .negotiated)).clearPending.handOver cp.arbiter.pending := by
  have state := (cp.arbiter_status_eq_some.mp status).2
  have evicting : cp.evictingSlot = some idx := (coh.evicting idx).mpr status
  have inactive := inactive_of_status coh status (by simp)
  have reclaimed := SessionTable.reclaimEviction_of_cooperative state
  have moved := arbiter_reclaim reclaimed status inactive evicting
  have settled : cp.handleStopped idx =
      { cp with
        table := cp.table.reclaimEviction idx
        evictingSlot := none }.finishPendingGrant := by
    simp [handleStopped, state, evicting]
  rw [settled, arbiter_finishPendingGrant, moved]
  · rfl
  · rw [moved]
    exact coh.yield
  · rw [moved]
    exact coh.free_move rfl (holds_of_status status rfl)

theorem arbiter_handleGrantDecline (status : cp.arbiter.status idx = some .grantedWarmup)
    (clock : Timespec) :
    (cp.handleGrantDecline idx clock).arbiter =
      (cp.arbiter.move idx (some .negotiated)).handOver cp.table.findNextQueued := by
  obtain ⟨inUse, state⟩ := cp.arbiter_status_eq_some.mp status
  have moved := arbiter_setState .negotiated (inactive_of_status coh status (by simp))
    (unevicted_of_status coh status (by simp)) inUse
  have free : (cp.arbiter.move idx (some .negotiated)).Free :=
    coh.free_move rfl (holds_of_status status rfl)
  have declined : cp.handleGrantDecline idx clock =
      { cp with table := cp.table.setState idx .negotiated }.maybeGrantNextQueued clock := by
    simp [handleGrantDecline, state]
  rw [← moved] at free
  rw [declined, arbiter_maybeGrantNextQueued, arbiter_free_iff _ |>.mp free, moved,
    findNextQueued_setState (by simp [state]) (by simp)]
  · rfl
  · rw [moved]
    exact coh.yield

theorem arbiter_handleReadyForRt (status : cp.arbiter.status idx = some .grantedWarmup)
    (clock : Timespec) : (cp.handleReadyForRt idx clock).arbiter = cp.arbiter.activate idx := by
  obtain ⟨inUse, state⟩ := cp.arbiter_status_eq_some.mp status
  have inactive : cp.table.activeSlot = none := by
    cases active : cp.table.activeSlot with
    | none => rfl
    | some j =>
        have other := (coh.active j).mp active
        have same := coh.exclusive j idx (holds_of_status other rfl) (holds_of_status status rfl)
        simp_all
  ext j
  · by_cases same : j = idx <;>
      simp [handleReadyForRt, state, SessionTable.activate, inactive, arbiter, SessionTable.status,
        SessionTable.setSlot, same, inUse]
  · by_cases same : j = idx <;>
      simp [handleReadyForRt, state, SessionTable.activate, inactive, arbiter,
        SessionTable.setSlot, same]
  all_goals simp [handleReadyForRt, state, SessionTable.activate, inactive, arbiter,
    SessionTable.setSlot, Arbiter.activate]

theorem arbiter_handleActivateRequest (status : cp.arbiter.status idx = some .negotiated)
    (clock : Timespec) :
    (cp.handleActivateRequest idx clock).arbiter =
      if cp.table.rtSlotTaken then cp.arbiter.move idx (some .queued)
      else cp.arbiter.grant idx := by
  obtain ⟨inUse, state⟩ := cp.arbiter_status_eq_some.mp status
  cases taken : cp.table.rtSlotTaken with
  | false =>
      have free := cp.arbiter_free_iff.mpr taken
      simp [handleActivateRequest, state, taken, grantSlot_of_free coh free,
        arbiter_doGrant _ inUse]
  | true =>
      have moved := arbiter_setSlot cp
        { cp.table.slots idx with activateRequestedMonotonic := clock, state := .queued }
        (inactive_of_status coh status (by simp)) (unevicted_of_status coh status (by simp)) rfl
      simp only [inUse, if_true] at moved
      simp only [handleActivateRequest, state, taken, ne_eq, not_true_eq_false, if_false,
        Bool.not_true, Bool.false_eq_true, if_true]
      rw [arbiter_send _ (by simp), ← moved]
      simp [inUse]

end Handlers

section Departures

theorem arbiter_withdraw_closeSlot (inUse : (cp.table.slots idx).inUse = true)
    (active : cp.table.activeSlot = some idx ↔ (cp.table.slots idx).state = .activeRt)
    (unevicted : cp.evictingSlot ≠ some idx) :
    ((cp.withdraw idx).closeSlot idx).arbiter = (cp.arbiter.forget idx).move idx none := by
  rw [← arbiter_withdraw]
  unfold withdraw
  split <;> exact arbiter_closeSlot inUse active unevicted

/-- Closing a session that holds nothing. -/
theorem arbiter_handleDisconnect_idle (inUse : (cp.table.slots idx).inUse = true)
    (idle : (cp.table.slots idx).state.holdsRt = false)
    (inactive : cp.table.activeSlot ≠ some idx) (unevicted : cp.evictingSlot ≠ some idx)
    (clock : Timespec) :
    (cp.handleDisconnect idx clock).arbiter = cp.arbiter.leave idx := by
  have settled : cp.settleDisconnect idx = cp := by
    cases state : (cp.table.slots idx).state <;> simp_all [settleDisconnect, SessionState.holdsRt]
  have agrees : cp.table.activeSlot = some idx ↔ (cp.table.slots idx).state = .activeRt := by
    cases state : (cp.table.slots idx).state <;> simp_all [SessionState.holdsRt]
  simp only [handleDisconnect, settled, idle, Bool.false_eq_true, if_false]
  rw [arbiter_withdraw_closeSlot inUse agrees unevicted, Arbiter.leave,
    if_neg (by simpa using inactive)]

variable (coh : cp.arbiter.Coherent)
include coh

/-- The holder of the RT slot is gone, and nothing has been passed on yet. -/
theorem arbiter_closed_holder (holds : cp.arbiter.Holds idx) :
    (((cp.settleDisconnect idx).withdraw idx).closeSlot idx).arbiter = cp.arbiter.leave idx := by
  have settled := coh.settled idx
  obtain status | status | status : cp.arbiter.status idx = some .grantedWarmup ∨
      cp.arbiter.status idx = some .activeRt ∨
      cp.arbiter.status idx = some .evictingCooperative := by
    rcases holds_iff.mp holds with h | h | h | h <;> simp_all
  all_goals
    obtain ⟨inUse, state⟩ := cp.arbiter_status_eq_some.mp status
    have active := coh.active idx
    rw [status] at active
  · have unevicted := unevicted_of_status coh status (by simp)
    have same : cp.settleDisconnect idx = cp := by simp [settleDisconnect, state]
    rw [same, arbiter_withdraw_closeSlot inUse (by simpa [state] using active) unevicted,
      Arbiter.leave, if_neg (by simpa using active)]
  · have unevicted := unevicted_of_status coh status (by simp)
    have same : cp.settleDisconnect idx = cp.evictClient := by simp [settleDisconnect, state]
    have agrees : cp.table.activeSlot = some idx ↔ (cp.table.slots idx).state = .activeRt := by
      simpa [state] using active
    rw [same, arbiter_withdraw_closeSlot, arbiter_evictClient, Arbiter.leave,
      if_pos (by simpa using active)]
    · rfl
    · exact inUse
    · exact agrees
    · exact unevicted
  · have evicting : cp.evictingSlot = some idx := (coh.evicting idx).mpr status
    have inactive := inactive_of_status coh status (by simp)
    have reclaimed := SessionTable.reclaimEviction_of_cooperative state
    have moved := arbiter_reclaim reclaimed status inactive evicting
    have same : cp.settleDisconnect idx =
        { cp with table := cp.table.reclaimEviction idx, evictingSlot := none } := by
      simp [settleDisconnect, state, evicting]
    rw [same, arbiter_withdraw_closeSlot, moved, move_forget, move_move, Arbiter.leave,
      if_neg (by simpa using active)]
    · simp [reclaimed, SessionTable.setState, SessionTable.setSlot, inUse]
    · simp [reclaimed, SessionTable.setState, SessionTable.setSlot, inactive]
    · simp

omit coh in
/-- The slot that is closed did not wait, so the next session is still the same. -/
theorem findNextQueued_closed (held : (cp.table.slots idx).state.holdsRt = true) :
    (((cp.settleDisconnect idx).withdraw idx).closeSlot idx).table.findNextQueued =
      cp.table.findNextQueued := by
  have waits : (cp.table.slots idx).state ≠ .queued := by
    rintro queued
    simp [queued, SessionState.holdsRt] at held
  have table : ((cp.settleDisconnect idx).withdraw idx).table = (cp.settleDisconnect idx).table := by
    unfold withdraw
    split <;> rfl
  have settled : (cp.settleDisconnect idx).table = cp.table ∨
      (cp.settleDisconnect idx).table = cp.table.setState idx .negotiated := by
    cases state : (cp.table.slots idx).state <;>
      simp [settleDisconnect, state, evictClient, emit, SessionTable.reclaimEviction] <;>
      split <;> simp
  simp only [closeSlot, emit]
  rw [table]
  rcases settled with same | reclaimed
  · rw [same, SessionTable.findNextQueued_remove waits]
  · rw [reclaimed, SessionTable.findNextQueued_remove, findNextQueued_setState waits (by simp)]
    simp [SessionTable.setState, SessionTable.setSlot]

/-- Closing the session that holds the RT slot. -/
theorem arbiter_handleDisconnect_holder (holds : cp.arbiter.Holds idx) (clock : Timespec) :
    (cp.handleDisconnect idx clock).arbiter =
      (cp.arbiter.leave idx).clearPending.handOver
        ((cp.arbiter.leave idx).pending.or cp.table.findNextQueued) := by
  have closed := arbiter_closed_holder coh holds
  have held : (cp.table.slots idx).state.holdsRt = true := by
    rcases holds_iff.mp holds with status | status | status | status <;>
      simp [(cp.arbiter_status_eq_some.mp status).2, SessionState.holdsRt]
  simp only [handleDisconnect, held, if_true]
  rw [arbiter_settle, closed, findNextQueued_closed held]
  · rw [closed]
    exact coh.leave
  · rw [closed]
    intro j holder
    obtain ⟨other, holder⟩ := holds_leave.mp holder
    exact other (coh.exclusive j idx holder holds)

end Departures

section Connect

/-- A refused CONNECT closes the slot. -/
theorem arbiter_reject (inUse : (cp.table.slots idx).inUse = true)
    (inactive : cp.table.activeSlot ≠ some idx) (unevicted : cp.evictingSlot ≠ some idx)
    (clock : Timespec) : (cp.reject idx clock).arbiter = cp.arbiter.leave idx := by
  have moved := arbiter_setState .rejected inactive unevicted inUse
  unfold reject
  rw [arbiter_handleDisconnect_idle, moved]
  · unfold Arbiter.leave
    rw [if_neg (by simp [inactive]), if_neg (by simpa using inactive), move_forget, move_move]
  · simp [SessionTable.setState, SessionTable.setSlot, inUse]
  · simp [SessionTable.setState, SessionTable.setSlot, SessionState.holdsRt]
  · exact inactive
  · exact unevicted

/-- A CONNECT replaces the state of the slot or closes it, unless a cache names it. -/
theorem arbiter_handleConnect (inUse : (cp.table.slots idx).inUse = true)
    (inactive : cp.table.activeSlot ≠ some idx) (unevicted : cp.evictingSlot ≠ some idx)
    (connect : ConnectMsg) (clock : Timespec) :
    (cp.handleConnect idx connect clock).arbiter = cp.arbiter.move idx (some .negotiated) ∨
      (cp.handleConnect idx connect clock).arbiter = cp.arbiter.leave idx := by
  unfold handleConnect
  split
  · right
    rw [arbiter_reject, arbiter_send _ (by simp)]
    exacts [inUse, inactive, unevicted]
  · split
    · right
      rw [arbiter_reject, arbiter_send _ (by simp)]
      exacts [inUse, inactive, unevicted]
    · left
      rename_i chosen _
      have moved := arbiter_setSlot (cp.send idx (.mode true chosen))
        (negotiated (cp.table.slots idx) connect chosen) inactive unevicted rfl
      rw [arbiter_send _ (by simp)] at moved
      exact moved.trans (by simp [negotiated, inUse])

end Connect

section Admin

theorem grantable_iff_state (inUse : (cp.table.slots idx).inUse = true) :
    cp.arbiter.Grantable idx ↔
      (cp.table.slots idx).state = .negotiated ∨ (cp.table.slots idx).state = .queued := by
  simp [grantable_iff, arbiter_status_eq_some, inUse]

/-- `begin_eviction` on the active session. -/
theorem arbiter_beginEviction {h : Slot} (active : cp.table.activeSlot = some h)
    (status : cp.arbiter.status h = some .activeRt) (clock : Timespec) :
    (cp.beginEviction h idx clock).arbiter = cp.arbiter.evict h idx := by
  obtain ⟨inUse, state⟩ := cp.arbiter_status_eq_some.mp status
  have begun : cp.table.beginEviction h =
      { cp.table.setState h .evictingCooperative with activeSlot := none } := by
    simp [SessionTable.beginEviction, SessionTable.setState, SessionTable.setSlot, state, active]
  refine Arbiter.ext (funext fun j => ?_) (funext fun j => ?_) ?_ ?_ ?_ ?_ ?_
  · by_cases same : j = h <;>
      simp [beginEviction, begun, arbiter, send, emit, SessionTable.status, SessionTable.setState,
        SessionTable.setSlot, same, inUse]
  · by_cases same : j = h <;>
      simp [beginEviction, begun, arbiter, send, emit, SessionTable.setState,
        SessionTable.setSlot, same]
  all_goals simp [beginEviction, begun, arbiter, send, emit, Effect.entry, List.filterMap_cons]

/-- A switch to a session that can take over: the active session is asked to leave,
the promise is noted for later, or the session is granted at once. -/
theorem arbiter_handleSwitchQuery_of_grantable (coh : cp.arbiter.Coherent) {id : ClientId}
    (named : cp.table.findByClientId id = some idx) (can : cp.arbiter.Grantable idx)
    (clock : Timespec) :
    (∃ h, cp.arbiter.active = some h ∧
        (cp.handleSwitchQuery id clock).arbiter = (cp.arbiter.evict h idx).reply true) ∨
      (cp.arbiter.active = none ∧ ¬ cp.arbiter.Free ∧
        (cp.handleSwitchQuery id clock).arbiter = (cp.arbiter.park idx).reply true) ∨
      (cp.arbiter.Free ∧
        (cp.handleSwitchQuery id clock).arbiter = (cp.arbiter.grant idx).reply true) := by
  have inUse := SessionTable.findByClientId_inUse named
  have state := (grantable_iff_state inUse).mp can
  have granted : (cp.handleSwitchQuery id clock).arbiter =
      (cp.grantSlot idx clock).arbiter.reply true := by
    simp only [handleSwitchQuery, named]
    rw [if_neg (by rcases state with h | h <;> simp [h]),
      if_neg (by rcases state with h | h <;> simp [h]), arbiter_emit_switchReply]
  rw [granted]
  cases active : cp.table.activeSlot with
  | some h =>
      left
      have status := (coh.active h).mp active
      have other : h ≠ idx := by
        rintro rfl
        exact can.not_holds (holds_of_status status rfl)
      refine ⟨h, active, ?_⟩
      simp only [grantSlot, active, ne_eq, other, not_false_eq_true, if_true]
      rw [arbiter_beginEviction active status clock]
  | none =>
      right
      cases taken : cp.table.rtSlotTaken with
      | true =>
          left
          refine ⟨active, by simp [arbiter_free_iff, taken], ?_⟩
          simp only [grantSlot, active, taken, if_true]
          rfl
      | false =>
          right
          have free := cp.arbiter_free_iff.mpr taken
          exact ⟨free, by rw [grantSlot_of_free coh free, arbiter_doGrant _ inUse]⟩

/-- Any other switch is only answered. -/
theorem arbiter_handleSwitchQuery_of_other {id : ClientId}
    (named : cp.table.findByClientId id = some idx) (unable : ¬ cp.arbiter.Grantable idx)
    (clock : Timespec) :
    ∃ ok, (ok = true ↔ cp.arbiter.status idx = some .activeRt) ∧
      (cp.handleSwitchQuery id clock).arbiter = cp.arbiter.reply ok := by
  have inUse := SessionTable.findByClientId_inUse named
  have state := mt (grantable_iff_state inUse).mpr unable
  rw [not_or] at state
  rw [arbiter_status_of_inUse _ inUse]
  simp only [handleSwitchQuery, named]
  by_cases active : (cp.table.slots idx).state = .activeRt
  · exact ⟨true, by simp [active], by rw [if_pos active, arbiter_emit_switchReply]⟩
  · refine ⟨false, by simp [active], ?_⟩
    rw [if_neg active, if_pos state, arbiter_emit_switchReply]

end Admin

section Clock

theorem overdue_eq_some {h : Slot} {now : Timespec} :
    cp.overdue now = some h ↔ cp.table.activeSlot = some h ∧
      elapsedMs now (cp.table.slots h).lastHeartbeatMonotonic > clientHeartbeatTimeoutMs := by
  simp [overdue, Option.filter_eq_some_iff]

theorem overstayed_eq_some {h : Slot} {now : Timespec} :
    cp.overstayed now = some h ↔ cp.evictingSlot = some h ∧
      elapsedMs now cp.evictionDeadlineMonotonic ≥ 0 := by
  simp [overstayed, Option.filter_eq_some_iff]

variable (coh : cp.arbiter.Coherent)
include coh

theorem arbiter_checkHeartbeat_of_overdue {h : Slot} {now clock : Timespec}
    (late : cp.overdue now = some h) :
    (cp.checkHeartbeat now clock).arbiter =
      (cp.arbiter.move h (some .negotiated)).bump.handOver cp.table.findNextQueued := by
  obtain ⟨active, late⟩ := overdue_eq_some.mp late
  have status : cp.arbiter.status h = some .activeRt := (coh.active h).mp active
  have free : (cp.arbiter.move h (some .negotiated)).Free :=
    coh.free_move rfl (holds_of_status status rfl)
  have moved := arbiter_deactivate status active (unevicted_of_status coh status (by simp))
  let revoked : ControlPlane :=
    (({ cp with table := cp.table.deactivate h }.evictClient).send h .livenessTimeout).send h
      .deactivate
  have bumped : revoked.arbiter = (cp.arbiter.move h (some .negotiated)).bump := by
    rw [arbiter_send _ (by simp), arbiter_send _ (by simp), arbiter_evictClient, moved]
  have kept : revoked.table.findNextQueued = cp.table.findNextQueued :=
    cp.table.findNextQueued_deactivate h
  have checked : cp.checkHeartbeat now clock = revoked.maybeGrantNextQueued clock := by
    simp [checkHeartbeat, SessionTable.checkHeartbeatTimeouts, active, late, revoked]
  have untaken := revoked.arbiter_free_iff.mp (by rw [bumped]; exact free)
  rw [checked, arbiter_maybeGrantNextQueued, untaken, bumped, kept]
  · rfl
  · rw [bumped]
    exact coh.yield.bump free

/-- The slot of the silent session has been passed on, so no wind-down is going on. -/
theorem evictingSlot_checkHeartbeat {h : Slot} {now clock : Timespec}
    (late : cp.overdue now = some h) : (cp.checkHeartbeat now clock).evictingSlot = none := by
  have status : cp.arbiter.status h = some .activeRt :=
    (coh.active h).mp (overdue_eq_some.mp late).1
  have free : (cp.arbiter.move h (some .negotiated)).Free :=
    coh.free_move rfl (holds_of_status status rfl)
  have none := coh.yield.not_evicting_of_free free
  rw [← arbiter_evicting, arbiter_checkHeartbeat_of_overdue coh late]
  cases cp.table.findNextQueued <;> exact none

theorem arbiter_tick_of_timeout {h : Slot} {now clock : Timespec}
    (late : cp.overdue now = some h) :
    (cp.tick now clock).arbiter =
      (cp.arbiter.move h (some .negotiated)).bump.handOver cp.table.findNextQueued := by
  simp only [tick, checkGrace, evictingSlot_checkHeartbeat coh late]
  exact arbiter_checkHeartbeat_of_overdue coh late

/-- Nobody is active while a session winds down. -/
theorem inactive_of_evicting {h : Slot} (evicting : cp.evictingSlot = some h) :
    cp.table.activeSlot = none := by
  cases active : cp.table.activeSlot with
  | none => rfl
  | some j =>
      have status := (coh.evicting h).mp evicting
      have other := (coh.active j).mp active
      have same := coh.exclusive j h (holds_of_status other rfl) (holds_of_status status rfl)
      simp_all

theorem arbiter_tick_of_expiry {h : Slot} {now clock : Timespec}
    (late : cp.overstayed now = some h) :
    (cp.tick now clock).arbiter =
      (cp.arbiter.move h (some .negotiated)).clearPending.handOver
        (cp.arbiter.pending.or cp.table.findNextQueued) := by
  obtain ⟨evicting, late⟩ := overstayed_eq_some.mp late
  have status : cp.arbiter.status h = some .evictingCooperative := (coh.evicting h).mp evicting
  have state := (cp.arbiter_status_eq_some.mp status).2
  have holds : cp.arbiter.Holds h := holds_of_status status rfl
  have inactive := inactive_of_evicting coh evicting
  have reclaimed := SessionTable.reclaimEviction_markEvictionForced state
  have moved := arbiter_reclaim reclaimed status (by simp [inactive]) evicting
  have ticked : cp.tick now clock =
      ({ cp with
        table := (cp.table.markEvictionForced h).reclaimEviction h
        evictingSlot := none }.finishPendingGrant).maybeGrantNextQueued clock := by
    simp [tick, checkHeartbeat, SessionTable.checkHeartbeatTimeouts, inactive, checkGrace, evicting,
      late]
  rw [ticked, arbiter_settle, moved, reclaimed, findNextQueued_setState (by simp [state]) (by simp)]
  · rfl
  · rw [moved]
    exact coh.yield
  · rw [moved]
    exact coh.free_move rfl holds

omit coh in
theorem checkHeartbeat_of_alive {now clock : Timespec} (alive : cp.overdue now = none) :
    cp.checkHeartbeat now clock = cp := by
  cases active : cp.table.activeSlot with
  | none => simp [checkHeartbeat, SessionTable.checkHeartbeatTimeouts, active]
  | some h =>
      have early : ¬ elapsedMs now (cp.table.slots h).lastHeartbeatMonotonic >
          clientHeartbeatTimeoutMs := by
        intro late
        simp [overdue_eq_some.mpr ⟨active, late⟩] at alive
      simp [checkHeartbeat, SessionTable.checkHeartbeatTimeouts, active, early]

omit coh in
theorem arbiter_tick_of_other {now clock : Timespec}
    (alive : cp.overdue now = none) (within : cp.overstayed now = none) :
    (cp.tick now clock).arbiter = cp.arbiter := by
  have waiting : cp.checkGrace now clock = cp := by
    cases evicting : cp.evictingSlot with
    | none => simp [checkGrace, evicting]
    | some h =>
        have early : ¬ elapsedMs now cp.evictionDeadlineMonotonic ≥ 0 := by
          intro late
          simp [overstayed_eq_some.mpr ⟨evicting, late⟩] at within
        simp [checkGrace, evicting, early]
  rw [tick, checkHeartbeat_of_alive alive, waiting]

end Clock

end ControlPlane

end Wisp
