import Wisp.Control.Steady
import Wisp.Control.Refinement

/-!
# What the control thread hears

Two messages tell the control thread that a session is alive: a heartbeat of the active one,
and the end of a warm-up. Only these two, and an arrival in a free slot, change when a session
was last heard from. `Unheard` is what all the other handlers have in common. An eviction
begins in none of them unless a session is active.
-/

namespace Wisp

namespace ControlPlane

/-- No session is heard from, and where none is active no eviction begins. -/
structure Unheard (cp cp' : ControlPlane) : Prop where
  heard : ∀ i, (cp'.table.slots i).lastHeartbeatMonotonic =
    (cp.table.slots i).lastHeartbeatMonotonic
  idle : cp.table.activeSlot = none →
    cp'.table.activeSlot = none ∧ cp'.evictionDeadlineMonotonic = cp.evictionDeadlineMonotonic

namespace Unheard

variable {cp cp' cp'' : ControlPlane} {idx : Slot}

theorem refl : Unheard cp cp :=
  ⟨fun _ => rfl, fun inactive => ⟨inactive, rfl⟩⟩

theorem trans (first : Unheard cp cp') (second : Unheard cp' cp'') : Unheard cp cp'' := by
  refine ⟨fun i => (second.heard i).trans (first.heard i), fun inactive => ?_⟩
  obtain ⟨inactive', deadline⟩ := first.idle inactive
  obtain ⟨inactive'', deadline'⟩ := second.idle inactive'
  exact ⟨inactive'', deadline'.trans deadline⟩

/-- The table and the deadline stay as they are. -/
theorem of_table (table : cp'.table = cp.table)
    (deadline : cp'.evictionDeadlineMonotonic = cp.evictionDeadlineMonotonic) :
    Unheard cp cp' :=
  ⟨fun i => by rw [table], fun inactive => ⟨by rw [table]; exact inactive, deadline⟩⟩

/-- One session changes, but not when it was heard. -/
theorem setSlot {session : Session} (heard : session.lastHeartbeatMonotonic =
    (cp.table.slots idx).lastHeartbeatMonotonic) :
    Unheard cp { cp with table := cp.table.setSlot idx session } := by
  refine ⟨fun i => ?_, fun inactive => ⟨inactive, rfl⟩⟩
  by_cases same : i = idx
  · subst same
    simp [SessionTable.setSlot, heard]
  · simp [SessionTable.setSlot, same]

theorem setState (state : SessionState) :
    Unheard cp { cp with table := cp.table.setState idx state } :=
  setSlot rfl

/-- The cached index is cleared. -/
theorem inactive : Unheard cp { cp with table := { cp.table with activeSlot := none } } :=
  ⟨fun _ => rfl, fun _ => ⟨rfl, rfl⟩⟩

theorem ite {p : Prop} [Decidable p] (yes : p → Unheard cp cp') (no : ¬ p → Unheard cp cp'') :
    Unheard cp (if p then cp' else cp'') := by
  split
  · exact yes ‹_›
  · exact no ‹_›

theorem emit (effects : List Effect) : Unheard cp (cp.emit effects) :=
  of_table rfl rfl

theorem send (idx : Slot) (msg : ServerMsg) : Unheard cp (cp.send idx msg) :=
  emit _

theorem evictClient : Unheard cp cp.evictClient :=
  of_table rfl rfl

theorem deactivate (cp : ControlPlane) (idx : Slot) :
    Unheard cp { cp with table := cp.table.deactivate idx } := by
  unfold SessionTable.deactivate
  split
  · exact refl
  · dsimp only
    split
    · exact (setState .negotiated).trans inactive
    · exact setState .negotiated

theorem reclaimEviction (cp : ControlPlane) (idx : Slot) :
    Unheard cp { cp with table := cp.table.reclaimEviction idx } := by
  unfold SessionTable.reclaimEviction
  split
  · exact refl
  · exact setState .negotiated

theorem markEvictionForced (cp : ControlPlane) (idx : Slot) :
    Unheard cp { cp with table := cp.table.markEvictionForced idx } := by
  unfold SessionTable.markEvictionForced
  split
  · exact setState .evictingForced
  · exact refl

theorem doGrant : Unheard cp (cp.doGrant idx) := by
  have granted : Unheard cp.evictClient { cp.evictClient with
      table := cp.evictClient.table.grant idx cp.evictClient.ring.generation } := setSlot rfl
  have sent := (evictClient.trans granted).trans
    (send idx (.activateGrant cp.evictClient.ring.generation cp.frameFd))
  exact ite (fun _ => sent.trans (emit _)) fun _ => sent

/-- An eviction needs an active session. -/
theorem beginEviction {prevIdx target : Slot} (active : cp.table.activeSlot = some prevIdx)
    (clock : Timespec) : Unheard cp (cp.beginEviction prevIdx target clock) := by
  refine ⟨fun i => ?_, fun inactive => by simp [active] at inactive⟩
  have wound : ((cp.table.beginEviction prevIdx).slots i).lastHeartbeatMonotonic =
      (cp.table.slots i).lastHeartbeatMonotonic := by
    unfold SessionTable.beginEviction
    split
    · rfl
    · have state : Unheard cp { cp with
          table := cp.table.setState prevIdx .evictingCooperative } := setState _
      dsimp only
      split
      · exact state.heard i
      · exact state.heard i
  exact wound

theorem grantSlot (clock : Timespec) : Unheard cp (cp.grantSlot idx clock) := by
  have free : Unheard cp (if cp.table.rtSlotTaken then { cp with pendingGrantTarget := some idx }
      else cp.doGrant idx) := ite (fun _ => of_table rfl rfl) fun _ => doGrant
  unfold ControlPlane.grantSlot
  split
  · rename_i active
    exact ite (fun _ => beginEviction active clock) fun _ => free
  · exact free

theorem finishPendingGrant : Unheard cp cp.finishPendingGrant := by
  have cleared : Unheard cp { cp with pendingGrantTarget := none } := of_table rfl rfl
  unfold ControlPlane.finishPendingGrant
  dsimp only
  split
  · exact cleared
  · exact ite (fun _ => cleared) fun _ => cleared.trans doGrant

theorem maybeGrantNextQueued (clock : Timespec) :
    Unheard cp (cp.maybeGrantNextQueued clock) := by
  refine ite (fun _ => refl) fun _ => ?_
  split
  · exact refl
  · exact grantSlot clock

theorem handleStopped : Unheard cp (cp.handleStopped idx) := by
  refine ite (fun _ => refl) fun _ => ?_
  refine (reclaimEviction cp idx).trans (trans ?_ finishPendingGrant)
  exact ite (fun _ => of_table rfl rfl) fun _ => refl

theorem settleDisconnect : Unheard cp (cp.settleDisconnect idx) := by
  refine ite (fun _ => evictClient) fun _ => ite (fun _ => ?_) fun _ => refl
  refine (reclaimEviction cp idx).trans ?_
  exact ite (fun _ => of_table rfl rfl) fun _ => refl

theorem withdraw : Unheard cp (cp.withdraw idx) :=
  ite (fun _ => of_table rfl rfl) fun _ => refl

theorem closeSlot : Unheard cp (cp.closeSlot idx) := by
  have removed : Unheard cp { cp with table := (cp.table.remove idx).1 } := by
    unfold SessionTable.remove
    split
    · exact refl
    · exact (deactivate cp idx).trans (setSlot rfl)
  exact removed.trans (of_table rfl rfl)

theorem handleDisconnect (clock : Timespec) : Unheard cp (cp.handleDisconnect idx clock) := by
  have closed : Unheard cp (((cp.settleDisconnect idx).withdraw idx).closeSlot idx) :=
    (settleDisconnect.trans withdraw).trans closeSlot
  exact ite (fun _ => (closed.trans finishPendingGrant).trans (maybeGrantNextQueued clock))
    fun _ => closed

theorem reject (clock : Timespec) : Unheard cp (cp.reject idx clock) :=
  (setState .rejected).trans (handleDisconnect clock)

theorem handleConnect (connect : ConnectMsg) (clock : Timespec) :
    Unheard cp (cp.handleConnect idx connect clock) := by
  refine ite (fun _ => (send _ _).trans (reject clock)) fun _ => ?_
  split
  · exact (send _ _).trans (reject clock)
  · exact (send _ _).trans (setSlot rfl)

theorem handleActivateRequest (clock : Timespec) :
    Unheard cp (cp.handleActivateRequest idx clock) := by
  let session := { cp.table.slots idx with activateRequestedMonotonic := clock, state := .queued }
  have queued : Unheard cp { cp with table := cp.table.setSlot idx session } := setSlot rfl
  exact ite (fun _ => refl) fun _ => ite (fun _ => grantSlot clock) fun _ =>
    queued.trans (send _ _)

theorem handleGrantDecline (clock : Timespec) : Unheard cp (cp.handleGrantDecline idx clock) :=
  ite (fun _ => refl) fun _ => (setState .negotiated).trans (maybeGrantNextQueued clock)

theorem handleDmabufAnnounce (msg : DmabufAnnounceMsg) (fds : List Int) :
    Unheard cp (cp.handleDmabufAnnounce idx msg fds) := by
  rw [handleDmabufAnnounce_eq]
  exact (emit _).trans (send _ _)

theorem handleSwitchQuery (id : ClientId) (clock : Timespec) :
    Unheard cp (cp.handleSwitchQuery id clock) := by
  unfold ControlPlane.handleSwitchQuery
  split
  · exact emit _
  · refine ite (fun _ => emit _) fun _ => ite (fun _ => emit _) fun _ => ?_
    exact (grantSlot clock).trans (emit _)

theorem checkHeartbeat (now clock : Timespec) : Unheard cp (cp.checkHeartbeat now clock) := by
  have checked : Unheard cp { cp with table := (cp.table.checkHeartbeatTimeouts now).2 } := by
    unfold SessionTable.checkHeartbeatTimeouts
    split
    · exact refl
    · split
      · exact deactivate cp _
      · exact refl
  unfold ControlPlane.checkHeartbeat
  dsimp only
  split
  · exact checked
  · exact checked.trans (evictClient.trans ((send _ _).trans ((send _ _).trans
      (maybeGrantNextQueued clock))))

theorem checkGrace (now clock : Timespec) : Unheard cp (cp.checkGrace now clock) := by
  unfold ControlPlane.checkGrace
  split
  · exact refl
  · rename_i idx _
    refine ite (fun _ => ?_) fun _ => refl
    have ended : Unheard cp { cp with evictingSlot := none } := of_table rfl rfl
    refine ended.trans ?_
    exact (((markEvictionForced _ idx).trans (reclaimEviction _ idx)).trans
      finishPendingGrant).trans (maybeGrantNextQueued clock)

theorem tick (now clock : Timespec) : Unheard cp (cp.tick now clock) :=
  (checkHeartbeat now clock).trans (checkGrace now clock)

/-- Two kinds of messages are heard. -/
theorem handleReadable {received : Received} (clock : Timespec)
    (mute : ∀ type payload fds, received = .message type payload fds →
      MsgKind.ofByte type ≠ some .heartbeat ∧ MsgKind.ofByte type ≠ some .readyForRt) :
    Unheard cp (cp.handleReadable idx received clock) := by
  cases received with
  | closed => exact handleDisconnect clock
  | oversized => exact refl
  | message type payload fds =>
      obtain ⟨beat, ready⟩ := mute type payload fds rfl
      simp only [ControlPlane.handleReadable]
      split
      · exact handleConnect _ clock
      · exact handleActivateRequest clock
      · contradiction
      · exact handleGrantDecline clock
      · exact handleStopped
      · contradiction
      · exact handleDisconnect clock
      · exact ite (fun _ => refl) fun _ => handleDmabufAnnounce _ fds
      · exact refl

end Unheard

/-- The message tells that a session is alive: a heartbeat of an active one, or the end of a
warm-up. -/
def Speaks (cp : ControlPlane) (idx : Slot) (type : UInt8) : Prop :=
  MsgKind.ofByte type = some .heartbeat ∧ cp.arbiter.status idx = some .activeRt ∨
    MsgKind.ofByte type = some .readyForRt ∧ cp.arbiter.status idx = some .grantedWarmup

instance (cp : ControlPlane) (idx : Slot) (type : UInt8) : Decidable (cp.Speaks idx type) :=
  inferInstanceAs (Decidable (_ ∨ _))

/-- The reading at which an event lets the control thread hear from a session, if it does. -/
def hears (cp : ControlPlane) (ev : Event) (i : Slot) : Option Timespec :=
  match ev with
  | .readable idx (.message type _ _) clock =>
      if i = idx ∧ cp.Speaks idx type then some clock else none
  | _ => none

section Hearing

variable {cp : ControlPlane} {ev : Event} {i : Slot}

/-- Everything but an arrival and two kinds of messages is handled unheard. -/
theorem unheard_handle (cp : ControlPlane) (ev : Event) :
    Unheard cp (cp.handle ev) ∧ (∀ i, cp.hears ev i = none) ∨ (∃ fd, ev = .accept fd) ∨
      ∃ idx type payload fds clock, ev = .readable idx (.message type payload fds) clock ∧
        (MsgKind.ofByte type = some .heartbeat ∨ MsgKind.ofByte type = some .readyForRt) := by
  cases ev with
  | accept fd => exact .inr (.inl ⟨fd, rfl⟩)
  | hangup idx clock => exact .inl ⟨Unheard.handleDisconnect clock, fun _ => rfl⟩
  | list => exact .inl ⟨Unheard.emit _, fun _ => rfl⟩
  | switch id clock => exact .inl ⟨Unheard.handleSwitchQuery id clock, fun _ => rfl⟩
  | tick now clock => exact .inl ⟨Unheard.tick now clock, fun _ => rfl⟩
  | readable idx received clock =>
      by_cases spoken : ∃ type payload fds, received = .message type payload fds ∧
          (MsgKind.ofByte type = some .heartbeat ∨ MsgKind.ofByte type = some .readyForRt)
      · obtain ⟨type, payload, fds, rfl, kind⟩ := spoken
        exact .inr (.inr ⟨idx, type, payload, fds, clock, rfl, kind⟩)
      · have mute (type : UInt8) (payload : List UInt8) (fds : List Int)
            (same : received = .message type payload fds) :
            MsgKind.ofByte type ≠ some .heartbeat ∧ MsgKind.ofByte type ≠ some .readyForRt :=
          ⟨fun beat => spoken ⟨type, payload, fds, same, .inl beat⟩,
            fun ready => spoken ⟨type, payload, fds, same, .inr ready⟩⟩
        refine .inl ⟨Unheard.handleReadable clock mute, fun i => ?_⟩
        cases received with
        | message type payload fds =>
            obtain ⟨beat, ready⟩ := mute type payload fds rfl
            simp [hears, Speaks, beat, ready]
        | _ => rfl

/-- The session that becomes active is heard, and no other one. -/
theorem activate_lastHeartbeat (idx : Slot) (clock : Timespec) :
    ((cp.table.activate idx clock).slots i).lastHeartbeatMonotonic =
      if i = idx then clock else (cp.table.slots i).lastHeartbeatMonotonic := by
  by_cases same : i = idx
  · simp [SessionTable.activate, SessionTable.setSlot, same]
  · rw [if_neg same]
    unfold SessionTable.activate
    dsimp only [SessionTable.setSlot]
    rw [Function.update_of_ne same]
    split
    · rename_i previous _
      split
      · exact (Unheard.deactivate cp previous).heard i
      · rfl
    · rfl

/-- A session that stays in its slot was last heard as the event tells, if it does, and else
when it was heard before. -/
theorem lastHeartbeat_handle (on : ev.enabled cp = true)
    (present : (cp.table.slots i).inUse = true) :
    ((cp.handle ev).table.slots i).lastHeartbeatMonotonic =
      (cp.hears ev i).getD (cp.table.slots i).lastHeartbeatMonotonic := by
  rcases cp.unheard_handle ev with ⟨unheard, silent⟩ | ⟨fd, rfl⟩ |
    ⟨idx, type, payload, fds, clock, rfl, kind | kind⟩
  · rw [unheard.heard, silent]
    rfl
  · show ((cp.handleAccept fd).table.slots i).lastHeartbeatMonotonic = _
    unfold handleAccept
    split
    · rfl
    · split
      · rfl
      · rename_i j table added
        obtain ⟨_, vacant, same⟩ := Option.map_eq_some_iff.mp added
        cases same
        have other : i ≠ j := by
          rintro rfl
          simp [SessionTable.firstFree_spec vacant] at present
        simp [SessionTable.setSlot, other, hears]
  · have status := cp.arbiter_status_of_inUse (show (cp.table.slots idx).inUse = true from on)
    simp only [handle, handleReadable, kind, handleHeartbeat]
    split
    · rename_i idle
      simp [hears, Speaks, kind, status, idle]
    · rename_i active
      by_cases same : i = idx
      · subst same
        simp [hears, Speaks, kind, status, not_not.mp active, SessionTable.setSlot]
      · simp [hears, same, SessionTable.setSlot]
  · have status := cp.arbiter_status_of_inUse (show (cp.table.slots idx).inUse = true from on)
    simp only [handle, handleReadable, kind, handleReadyForRt]
    split
    · rename_i cold
      simp [hears, Speaks, kind, status, cold]
    · rename_i warm
      rw [activate_lastHeartbeat]
      by_cases same : i = idx
      · simp [hears, Speaks, kind, status, not_not.mp warm, same]
      · simp [hears, same]

/-- While nobody is active, no deadline is set. -/
theorem deadline_handle (inactive : cp.table.activeSlot = none) :
    (cp.handle ev).evictionDeadlineMonotonic = cp.evictionDeadlineMonotonic := by
  rcases cp.unheard_handle ev with ⟨unheard, -⟩ | ⟨fd, rfl⟩ |
    ⟨idx, type, payload, fds, clock, rfl, kind | kind⟩
  · exact (unheard.idle inactive).2
  · simp only [handle, handleAccept]
    split
    · rfl
    · split <;> rfl
  · simp only [handle, handleReadable, kind, handleHeartbeat]
    split <;> rfl
  · simp only [handle, handleReadable, kind, handleReadyForRt]
    split <;> rfl

end Hearing

end ControlPlane

end Wisp
