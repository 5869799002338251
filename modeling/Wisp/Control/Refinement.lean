import Wisp.Control.Event
import Wisp.Control.Arbitration

/-!
# The control plane as an arbiter

`ControlPlane.arbiter` reads the bookkeeping off the state of the control thread.
Each helper of `control_plane.c` is shown to be one operation, or a short
composition of operations, of the abstract arbiter. The equations that hold only
in some states carry that state as a hypothesis.

The two paths that pass the RT slot on, `finish_pending_grant` and
`maybe_grant_next_queued`, are `Arbiter.handOver` once the slot is free.
-/

namespace Wisp

open Arbiter

/-- The part of an effect that the arbiter records. -/
def Effect.entry : Effect → Option (Entry Slot)
  | .evictClient => some .bump
  | .send idx _ (.activateGrant generation _) => some (.grant idx generation)
  | .switchReply ok _ => some (.answer ok)
  | _ => none

/-- The state of a session, if the slot is in use. -/
def SessionTable.status (table : SessionTable) (i : Slot) : Option SessionState :=
  if (table.slots i).inUse then some (table.slots i).state else none

namespace ControlPlane

/-- The active slot whose heartbeat a clock check finds overdue. -/
def overdue (cp : ControlPlane) (now : Timespec) : Option Slot :=
  cp.table.activeSlot.filter fun idx =>
    elapsedMs now (cp.table.slots idx).lastHeartbeatMonotonic > clientHeartbeatTimeoutMs

/-- The slot whose wind-down a clock check finds overdue. -/
def overstayed (cp : ControlPlane) (now : Timespec) : Option Slot :=
  cp.evictingSlot.filter fun _ => elapsedMs now cp.evictionDeadlineMonotonic ≥ 0

/-- What an event means for the RT slot. -/
def cause (cp : ControlPlane) : Event → Cause Slot
  | .accept _ => .arrive
  | .list | .readable _ .oversized _ => .other
  | .readable idx .closed _ | .hangup idx _ => .drop idx cp.table.findNextQueued
  | .readable idx (.message type _ _) _ =>
      match MsgKind.ofByte type with
      | some .connect => .connect idx
      | some .activateRequest => .request idx
      | some .readyForRt => .ready idx
      | some .grantDecline => .decline idx cp.table.findNextQueued
      | some .stopped => .stopped idx
      | some .disconnect => .drop idx cp.table.findNextQueued
      | _ => .other
  | .switch id _ =>
      match cp.table.findByClientId id with
      | some idx => .switch idx
      | none => .other
  | .tick now _ =>
      match cp.overdue now, cp.overstayed now with
      | some idx, _ => .timeout idx cp.table.findNextQueued
      | none, some idx => .expiry idx cp.table.findNextQueued
      | none, none => .other

/-- The bookkeeping of the control thread. -/
def arbiter (cp : ControlPlane) : Arbiter Slot where
  status := cp.table.status
  stamp i := (cp.table.slots i).grantedGeneration
  active := cp.table.activeSlot
  evicting := cp.evictingSlot
  pending := cp.pendingGrantTarget
  generation := cp.ring.generation
  log := cp.out.filterMap Effect.entry

variable (cp : ControlPlane) {idx : Slot} {state : SessionState}

section Status

@[simp] theorem arbiter_active : cp.arbiter.active = cp.table.activeSlot := rfl

@[simp] theorem arbiter_evicting : cp.arbiter.evicting = cp.evictingSlot := rfl

@[simp] theorem arbiter_pending : cp.arbiter.pending = cp.pendingGrantTarget := rfl

@[simp] theorem arbiter_generation : cp.arbiter.generation = cp.ring.generation := rfl

theorem arbiter_status_eq_some :
    cp.arbiter.status idx = some state ↔
      (cp.table.slots idx).inUse = true ∧ (cp.table.slots idx).state = state := by
  simp only [arbiter, SessionTable.status]
  split <;> simp_all

theorem arbiter_status_of_inUse (inUse : (cp.table.slots idx).inUse = true) :
    cp.arbiter.status idx = some (cp.table.slots idx).state :=
  cp.arbiter_status_eq_some.mpr ⟨inUse, rfl⟩

theorem arbiter_status_eq_none :
    cp.arbiter.status idx = none ↔ (cp.table.slots idx).inUse = false := by
  simp [arbiter, SessionTable.status]

theorem arbiter_holds_iff :
    cp.arbiter.Holds idx ↔
      (cp.table.slots idx).inUse = true ∧ (cp.table.slots idx).state.holdsRt = true := by
  simp only [Arbiter.Holds, arbiter, SessionTable.status]
  cases (cp.table.slots idx).inUse <;> simp

theorem arbiter_free_iff : cp.arbiter.Free ↔ cp.table.rtSlotTaken = false := by
  rw [← Bool.not_eq_true, SessionTable.rtSlotTaken_iff]
  simp only [Arbiter.Free, arbiter_holds_iff, not_exists]

theorem arbiter_waiting_iff : cp.arbiter.Waiting ↔ cp.table.findNextQueued ≠ none := by
  rw [ne_eq, SessionTable.findNextQueued_eq_none_iff]
  simp [Arbiter.Waiting, arbiter_status_eq_some]

end Status

section Effects

/-- Effects without an entry are invisible. -/
theorem arbiter_emit {effects : List Effect} (silent : effects.filterMap Effect.entry = []) :
    (cp.emit effects).arbiter = cp.arbiter := by
  simp [arbiter, emit, silent]

@[simp] theorem arbiter_emit_close (fds : List Int) :
    (cp.emit (fds.map .close)).arbiter = cp.arbiter := by
  apply arbiter_emit
  simp [List.filterMap_map, Function.comp_def, Effect.entry]

@[simp] theorem arbiter_emit_switchReply (ok : Bool) (reason : String) :
    (cp.emit [.switchReply ok reason]).arbiter = cp.arbiter.reply ok := by
  simp [arbiter, emit, Effect.entry, reply]

/-- A message other than ACTIVATE_GRANT is invisible. -/
theorem arbiter_send {msg : ServerMsg}
    (silent : ∀ generation fd, msg ≠ .activateGrant generation fd) :
    (cp.send idx msg).arbiter = cp.arbiter := by
  apply arbiter_emit
  cases msg <;> simp_all [Effect.entry]

theorem arbiter_evictClient : cp.evictClient.arbiter = cp.arbiter.bump := by
  cases dp : cp.dp <;> simp [arbiter, evictClient, emit, bump, dp, Effect.entry]

end Effects

section Slots

/-- A session changes its state, and the caches that name it are cleared. Its other fields
stay as they are or are not looked at. -/
theorem arbiter_replace (session : Session) {active evicting : Option Slot}
    (activeSlot : active = if cp.table.activeSlot = some idx then none else cp.table.activeSlot)
    (evictingSlot : evicting = if cp.evictingSlot = some idx then none else cp.evictingSlot)
    (stamp : session.grantedGeneration = (cp.table.slots idx).grantedGeneration) :
    { cp with
      table := { cp.table.setSlot idx session with activeSlot := active }
      evictingSlot := evicting }.arbiter =
      cp.arbiter.move idx (if session.inUse then some session.state else none) := by
  subst activeSlot evictingSlot
  ext j
  · by_cases same : j = idx <;>
      simp [arbiter, SessionTable.status, SessionTable.setSlot, same]
  · by_cases same : j = idx <;>
      simp [arbiter, SessionTable.setSlot, same, stamp]
  all_goals rfl

/-- No cache names the session. -/
theorem arbiter_setSlot (session : Session) (inactive : cp.table.activeSlot ≠ some idx)
    (unevicted : cp.evictingSlot ≠ some idx)
    (stamp : session.grantedGeneration = (cp.table.slots idx).grantedGeneration) :
    { cp with table := cp.table.setSlot idx session }.arbiter =
      cp.arbiter.move idx (if session.inUse then some session.state else none) :=
  arbiter_replace cp session (if_neg inactive).symm (if_neg unevicted).symm stamp

variable {cp}

theorem arbiter_setState (state : SessionState) (inactive : cp.table.activeSlot ≠ some idx)
    (unevicted : cp.evictingSlot ≠ some idx) (inUse : (cp.table.slots idx).inUse = true) :
    { cp with table := cp.table.setState idx state }.arbiter =
      cp.arbiter.move idx (some state) := by
  have moved := arbiter_setSlot cp { cp.table.slots idx with state } inactive unevicted rfl
  exact moved.trans (by simp [inUse])

/-- `wisps_session_table_deactivate` on the active session. -/
theorem arbiter_deactivate (status : cp.arbiter.status idx = some .activeRt)
    (active : cp.table.activeSlot = some idx) (unevicted : cp.evictingSlot ≠ some idx) :
    { cp with table := cp.table.deactivate idx }.arbiter =
      cp.arbiter.move idx (some .negotiated) := by
  obtain ⟨inUse, state⟩ := cp.arbiter_status_eq_some.mp status
  have deactivated : cp.table.deactivate idx =
      { cp.table.setState idx .negotiated with activeSlot := none } := by
    simp [SessionTable.deactivate, SessionTable.setState, SessionTable.setSlot, state, active]
  have moved := arbiter_replace cp { cp.table.slots idx with state := .negotiated }
    (if_pos active).symm (if_neg unevicted).symm rfl
  rw [deactivated]
  exact moved.trans (by simp [inUse])

/-- Settling a wind-down: the slot is reclaimed and no longer named. -/
theorem arbiter_reclaim {table : SessionTable}
    (reclaimed : table = cp.table.setState idx .negotiated)
    (status : cp.arbiter.status idx = some .evictingCooperative)
    (inactive : cp.table.activeSlot ≠ some idx) (evicting : cp.evictingSlot = some idx) :
    { cp with table, evictingSlot := none }.arbiter =
      cp.arbiter.move idx (some .negotiated) := by
  obtain ⟨inUse, _⟩ := cp.arbiter_status_eq_some.mp status
  have moved := arbiter_replace cp { cp.table.slots idx with state := .negotiated }
    (if_neg inactive).symm (if_pos evicting).symm rfl
  rw [reclaimed]
  exact moved.trans (by simp [inUse])

theorem arbiter_withdraw : (cp.withdraw idx).arbiter = cp.arbiter.forget idx := by
  by_cases named : cp.pendingGrantTarget = some idx <;>
    simp [withdraw, arbiter, Arbiter.forget, named]

/-- Freeing a slot also clears `active_slot` where it names the slot. -/
theorem arbiter_closeSlot (inUse : (cp.table.slots idx).inUse = true)
    (active : cp.table.activeSlot = some idx ↔ (cp.table.slots idx).state = .activeRt)
    (unevicted : cp.evictingSlot ≠ some idx) :
    (cp.closeSlot idx).arbiter = cp.arbiter.move idx none := by
  simp only [closeSlot]
  rw [arbiter_emit_close]
  by_cases isActive : (cp.table.slots idx).state = .activeRt
  all_goals
    refine Arbiter.ext (funext fun j => ?_) (funext fun j => ?_) ?_ ?_ ?_ ?_ ?_
    · by_cases same : j = idx <;>
        simp [arbiter, emit, SessionTable.remove, SessionTable.deactivate, SessionTable.setState,
          SessionTable.setSlot, SessionTable.status, inUse, isActive, active, same]
    · by_cases same : j = idx <;>
        simp [arbiter, emit, SessionTable.remove, SessionTable.deactivate, SessionTable.setState,
          SessionTable.setSlot, inUse, isActive, active, same]
    all_goals
      simp [arbiter, emit, SessionTable.remove, SessionTable.deactivate, SessionTable.setState,
        SessionTable.setSlot, inUse, isActive, active, unevicted, Effect.entry]

end Slots

section Grants

theorem arbiter_doGrant (inUse : (cp.table.slots idx).inUse = true) :
    (cp.doGrant idx).arbiter = cp.arbiter.grant idx := by
  have recorded : (cp.doGrant idx).arbiter.log =
      cp.arbiter.log ++ [.bump, .grant idx (cp.arbiter.generation + 1)] := by
    cases dp : cp.dp <;>
      simp [arbiter, doGrant, evictClient, emit, send, dp, Effect.entry, List.filterMap_cons]
  refine Arbiter.ext (funext fun j => ?_) (funext fun j => ?_) ?_ ?_ ?_ ?_ recorded
  · by_cases same : j = idx <;> cases dp : cp.dp <;>
      simp [arbiter, doGrant, evictClient, emit, send, dp, SessionTable.grant, SessionTable.status,
        SessionTable.setSlot, same, inUse]
  · by_cases same : j = idx <;> cases dp : cp.dp <;>
      simp [arbiter, doGrant, evictClient, emit, send, dp, SessionTable.grant,
        SessionTable.setSlot, same]
  all_goals
    cases dp : cp.dp <;>
      simp [arbiter, doGrant, evictClient, emit, send, dp, SessionTable.grant,
        SessionTable.setSlot]

variable {cp}

/-- A grant to a free slot needs no eviction. -/
theorem grantSlot_of_free (coh : cp.arbiter.Coherent) (free : cp.arbiter.Free)
    (clock : Timespec) : cp.grantSlot idx clock = cp.doGrant idx := by
  have inactive : cp.table.activeSlot = none := coh.not_active_of_free free
  have untaken := cp.arbiter_free_iff.mp free
  simp [grantSlot, inactive, untaken]

theorem arbiter_finishPendingGrant (coh : cp.arbiter.Coherent) (free : cp.arbiter.Free) :
    cp.finishPendingGrant.arbiter = cp.arbiter.clearPending.handOver cp.arbiter.pending := by
  cases pending : cp.pendingGrantTarget with
  | none => simp [finishPendingGrant, pending, arbiter, handOver, clearPending]
  | some target =>
      -- The promise was made to a session that can take over, as nobody holds the slot.
      have can := (coh.grantable_of_pending pending).resolve_left (free target)
      obtain ⟨inUse, grantable⟩ : (cp.table.slots target).inUse = true ∧
          (cp.table.slots target).state.grantable = true := by
        rcases grantable_iff.mp can with status | status <;>
          obtain ⟨inUse, state⟩ := cp.arbiter_status_eq_some.mp status <;>
          exact ⟨inUse, by simp [state, SessionState.grantable]⟩
      have granted : cp.finishPendingGrant =
          { cp with pendingGrantTarget := none }.doGrant target := by
        simp [finishPendingGrant, pending, inUse, grantable]
      rw [granted, arbiter_doGrant { cp with pendingGrantTarget := none } inUse,
        arbiter_pending, pending]
      rfl

theorem arbiter_maybeGrantNextQueued (coh : cp.arbiter.Coherent) (clock : Timespec) :
    (cp.maybeGrantNextQueued clock).arbiter =
      if cp.table.rtSlotTaken then cp.arbiter else cp.arbiter.handOver cp.table.findNextQueued := by
  unfold maybeGrantNextQueued
  cases taken : cp.table.rtSlotTaken with
  | true => rfl
  | false =>
      have free := cp.arbiter_free_iff.mpr taken
      cases found : cp.table.findNextQueued with
      | none => rfl
      | some next =>
          have inUse := (SessionTable.findNextQueued_queued found).1
          simpa [grantSlot_of_free coh free, handOver] using arbiter_doGrant _ inUse

/-- What the source does wherever it settles a freed slot completely: the promised
session first, else the longest waiting one. -/
theorem arbiter_settle (coh : cp.arbiter.Coherent) (free : cp.arbiter.Free) (clock : Timespec) :
    (cp.finishPendingGrant.maybeGrantNextQueued clock).arbiter =
      cp.arbiter.clearPending.handOver (cp.arbiter.pending.or cp.table.findNextQueued) := by
  have finished := arbiter_finishPendingGrant coh free
  have coh' : cp.finishPendingGrant.arbiter.Coherent := by
    rw [finished]
    exact coh.clearPending.handOver free _
  rw [arbiter_maybeGrantNextQueued coh', finished]
  cases pending : cp.pendingGrantTarget with
  | none =>
      have table : cp.finishPendingGrant.table = cp.table := by simp [finishPendingGrant, pending]
      simp [table, cp.arbiter_free_iff.mp free, pending, handOver]
  | some target =>
      have taken : cp.finishPendingGrant.table.rtSlotTaken = true := by
        rw [← Bool.not_eq_false, ← arbiter_free_iff, finished]
        intro untaken
        exact untaken target (by simp [pending, handOver])
      simp [taken, pending]

end Grants

end ControlPlane

end Wisp
