import Wisp.Control.Handlers

/-!
# The control thread takes arbitration steps

Every event handled in a coherent state is one step of the abstract arbiter, under
the cause read off the event. The exception is a CONNECT on a slot that
`active_slot` or `evicting_slot` names: `handle_connect` is the only handler that
does not look at the session state, and it does not clear these two.
-/

namespace Wisp

open Arbiter Transition

namespace ControlPlane

variable {cp : ControlPlane} {idx : Slot}

/-- No CONNECT is handled on a slot that is ACTIVE_RT or EVICTING_COOPERATIVE. -/
def ConnectSafe (cp : ControlPlane) (ev : Event) : Prop :=
  ∀ i, cp.cause ev = .connect i →
    cp.arbiter.status i ≠ some .activeRt ∧ cp.arbiter.status i ≠ some .evictingCooperative

instance (cp : ControlPlane) (ev : Event) : Decidable (cp.ConnectSafe ev) :=
  inferInstanceAs (Decidable (∀ _, _ → _ ∧ _))

/-- A handler that leaves the bookkeeping alone. -/
theorem step_of_ignored {done : ControlPlane} {cause : Cause Slot}
    (ignores : cp.arbiter.Ignores cause) (same : done.arbiter = cp.quiesce.arbiter) :
    cp.arbiter.Step cause done.arbiter :=
  same ▸ .ignored ignores

section Clients

variable (coh : cp.quiesce.arbiter.Coherent)
variable (inUse : (cp.quiesce.table.slots idx).inUse = true)

include inUse in
theorem state_ne_of_status_ne {state : SessionState} (other : cp.arbiter.status idx ≠ some state) :
    (cp.table.slots idx).state ≠ state := by
  rintro rfl
  exact other (cp.arbiter_status_of_inUse inUse)

include coh inUse

theorem step_connect (connect : ConnectMsg) (clock : Timespec)
    (inactive : cp.arbiter.status idx ≠ some .activeRt)
    (unevicted : cp.arbiter.status idx ≠ some .evictingCooperative) :
    cp.arbiter.Step (.connect idx) (cp.quiesce.handleConnect idx connect clock).arbiter := by
  have notActive : cp.quiesce.table.activeSlot ≠ some idx := mt (coh.active idx).mp inactive
  have notEvicting : cp.quiesce.evictingSlot ≠ some idx := mt (coh.evicting idx).mp unevicted
  rcases arbiter_handleConnect inUse notActive notEvicting connect clock with moved | left
  · rw [moved]
    exact .accepted (by simp [cp.arbiter_status_of_inUse inUse])
  · rw [left]
    exact .refused

theorem step_request (clock : Timespec) :
    cp.arbiter.Step (.request idx) (cp.quiesce.handleActivateRequest idx clock).arbiter := by
  by_cases status : cp.arbiter.status idx = some .negotiated
  · rw [arbiter_handleActivateRequest coh status clock]
    cases taken : cp.quiesce.table.rtSlotTaken with
    | true => exact .queued status (by simpa [arbiter_free_iff] using taken)
    | false => exact .granted status (cp.quiesce.arbiter_free_iff.mpr taken)
  · have other : (cp.quiesce.table.slots idx).state ≠ .negotiated :=
      state_ne_of_status_ne inUse status
    exact step_of_ignored status (by rw [handleActivateRequest, if_pos other])

theorem step_ready (clock : Timespec) :
    cp.arbiter.Step (.ready idx) (cp.quiesce.handleReadyForRt idx clock).arbiter := by
  by_cases status : cp.arbiter.status idx = some .grantedWarmup
  · rw [arbiter_handleReadyForRt coh status clock]
    exact .activated status
  · have other : (cp.quiesce.table.slots idx).state ≠ .grantedWarmup :=
      state_ne_of_status_ne inUse status
    exact step_of_ignored status (by rw [handleReadyForRt, if_pos other])

theorem step_decline (clock : Timespec) :
    cp.arbiter.Step (.decline idx cp.table.findNextQueued)
      (cp.quiesce.handleGrantDecline idx clock).arbiter := by
  by_cases status : cp.arbiter.status idx = some .grantedWarmup
  · rw [arbiter_handleGrantDecline coh status clock]
    exact .declined status cp.elects
  · have other : (cp.quiesce.table.slots idx).state ≠ .grantedWarmup :=
      state_ne_of_status_ne inUse status
    exact step_of_ignored status (by rw [handleGrantDecline, if_pos other])

theorem step_stopped :
    cp.arbiter.Step (.stopped idx) (cp.quiesce.handleStopped idx).arbiter := by
  by_cases status : cp.arbiter.status idx = some .evictingCooperative
  · rw [arbiter_handleStopped coh status]
    exact .stopped status
  · have other : (cp.quiesce.table.slots idx).state ≠ .evictingCooperative :=
      state_ne_of_status_ne inUse status
    exact step_of_ignored status (by rw [handleStopped, if_pos other])

theorem step_drop (clock : Timespec) :
    cp.arbiter.Step (.drop idx cp.table.findNextQueued)
      (cp.quiesce.handleDisconnect idx clock).arbiter := by
  by_cases holds : cp.arbiter.Holds idx
  · rw [arbiter_handleDisconnect_holder coh holds]
    exact .dropped holds cp.elects
  · have status := cp.arbiter_status_of_inUse inUse
    have idle : (cp.quiesce.table.slots idx).state.holdsRt = false := by
      simpa [Arbiter.Holds, status] using holds
    rw [arbiter_handleDisconnect_idle inUse idle]
    · exact .left holds
    · exact fun active => holds (holds_of_status ((coh.active idx).mp active) rfl)
    · exact fun evicting => holds (holds_of_status ((coh.evicting idx).mp evicting) rfl)

end Clients

section Others

variable (coh : cp.quiesce.arbiter.Coherent)

theorem arbiter_handleHeartbeat (clock : Timespec) :
    (cp.handleHeartbeat idx clock).arbiter = cp.arbiter := by
  unfold handleHeartbeat
  split
  · rfl
  · refine Arbiter.ext (funext fun j => ?_) (funext fun j => ?_) rfl rfl rfl rfl rfl
    all_goals
      by_cases same : j = idx <;>
        simp [arbiter, SessionTable.status, SessionTable.setSlot, same]

theorem arbiter_handleDmabufAnnounce (msg : DmabufAnnounceMsg) (fds : List Int) :
    (cp.handleDmabufAnnounce idx msg fds).arbiter = cp.arbiter := by
  simp only [handleDmabufAnnounce]
  rw [arbiter_send _ (by simp)]
  split
  · rw [arbiter_emit_close, arbiter_emit_close]
  · rw [arbiter_emit_close]

/-- Filling a vacant slot. -/
theorem arbiter_add {fd : Int} {table : SessionTable} (coh : cp.arbiter.Coherent)
    (added : cp.table.add fd = some (idx, table)) :
    cp.arbiter.status idx = none ∧ { cp with table }.arbiter = cp.arbiter.join idx := by
  obtain ⟨i, vacant, same⟩ := Option.map_eq_some_iff.mp added
  cases same
  have absent := cp.arbiter_status_eq_none.mpr (SessionTable.firstFree_spec vacant)
  have inactive := mt (coh.active idx).mp (by simp [absent])
  have unevicted := mt (coh.evicting idx).mp (by simp [absent])
  refine ⟨absent, Arbiter.ext (funext fun j => ?_) (funext fun j => ?_) ?_ ?_ rfl rfl rfl⟩
  · by_cases same : j = idx <;> simp [arbiter, SessionTable.status, SessionTable.setSlot, same]
  · by_cases same : j = idx <;> simp [arbiter, SessionTable.setSlot, Session.zero, same]
  · exact (if_neg inactive).symm
  · exact (if_neg unevicted).symm

include coh

theorem step_accept (fd : Int) :
    cp.arbiter.Step .arrive (cp.quiesce.handleAccept fd).arbiter := by
  unfold handleAccept
  split
  · exact step_of_ignored trivial rfl
  · split
    · exact step_of_ignored trivial (cp.quiesce.arbiter_emit rfl)
    · rename_i added
      obtain ⟨absent, joined⟩ := arbiter_add coh added
      rw [joined]
      exact .joined absent

theorem step_switch (id : ClientId) (clock : Timespec) :
    cp.arbiter.Step (cp.cause (.switch id clock))
      (cp.quiesce.handleSwitchQuery id clock).arbiter := by
  cases named : cp.table.findByClientId id with
  | none =>
      have answered : (cp.quiesce.handleSwitchQuery id clock).arbiter =
          cp.quiesce.arbiter.reply false := by
        simp [handleSwitchQuery, named]
      rw [answered]
      simpa only [cause, named] using .unnamed
  | some idx =>
      have named' : cp.quiesce.table.findByClientId id = some idx := named
      simp only [cause, named]
      by_cases can : cp.arbiter.Grantable idx
      · rcases arbiter_handleSwitchQuery_of_grantable coh named' can clock with
          ⟨h, active, evicted⟩ | ⟨inactive, taken, parked⟩ | ⟨free, granted⟩
        · rw [evicted]
          exact .evicted active can
        · rw [parked]
          exact .parked inactive taken can
        · rw [granted]
          exact .switched free can
      · obtain ⟨ok, active, answered⟩ := arbiter_handleSwitchQuery_of_other named' can clock
        rw [answered]
        exact .answered can active

theorem step_tick (now clock : Timespec) :
    cp.arbiter.Step (cp.cause (.tick now clock)) (cp.quiesce.tick now clock).arbiter := by
  cases late : cp.overdue now with
  | some h =>
      have status : cp.arbiter.status h = some .activeRt :=
        (coh.active h).mp (overdue_eq_some.mp late).1
      have late' : cp.quiesce.overdue now = some h := late
      rw [arbiter_tick_of_timeout coh late']
      simpa only [cause, late] using .timedOut status cp.elects
  | none =>
      cases expired : cp.overstayed now with
      | some h =>
          have status : cp.arbiter.status h = some .evictingCooperative :=
            (coh.evicting h).mp (overstayed_eq_some.mp expired).1
          have expired' : cp.quiesce.overstayed now = some h := expired
          rw [arbiter_tick_of_expiry coh expired']
          simpa only [cause, late, expired] using .expired status cp.elects
      | none =>
          have late' : cp.quiesce.overdue now = none := late
          have expired' : cp.quiesce.overstayed now = none := expired
          simp only [cause, late, expired]
          exact step_of_ignored trivial (arbiter_tick_of_other late' expired')

end Others

/-- The simulation: the control thread does what the arbiter does. -/
theorem step_refines {ev : Event} (coh : cp.arbiter.Coherent) (on : ev.enabled cp = true)
    (safe : cp.ConnectSafe ev) :
    cp.arbiter.Step (cp.cause ev) (cp.quiesce.handle ev).arbiter := by
  have start : cp.quiesce.arbiter.Coherent := coh.quiet
  cases ev with
  | accept fd => exact step_accept start fd
  | hangup idx clock => exact step_drop start on clock
  | list => exact step_of_ignored trivial (cp.quiesce.arbiter_emit rfl)
  | switch id clock => exact step_switch start id clock
  | tick now clock => exact step_tick start now clock
  | readable idx received clock =>
      cases received with
      | closed => exact step_drop start on clock
      | oversized => exact step_of_ignored trivial rfl
      | message type payload fds =>
          simp only [cause, handle, handleReadable]
          simp only [ConnectSafe, cause] at safe
          cases kind : MsgKind.ofByte type with
          | none => exact step_of_ignored trivial rfl
          | some kind' =>
              rw [kind] at safe
              cases kind' with
              | connect =>
                  obtain ⟨inactive, unevicted⟩ := safe idx rfl
                  exact step_connect start on _ clock inactive unevicted
              | activateRequest => exact step_request start on clock
              | readyForRt => exact step_ready start on clock
              | grantDecline => exact step_decline start on clock
              | stopped => exact step_stopped start on
              | disconnect => exact step_drop start on clock
              | heartbeat => exact step_of_ignored trivial (arbiter_handleHeartbeat clock)
              | dmabufAnnounce =>
                  refine step_of_ignored trivial ?_
                  dsimp only
                  split
                  · rfl
                  · exact arbiter_handleDmabufAnnounce _ _
              | _ => exact step_of_ignored trivial rfl

end ControlPlane

end Wisp
