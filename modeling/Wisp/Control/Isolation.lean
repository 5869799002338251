import Wisp.Control.Observed

/-!
# The holder is left alone

What other clients do cannot reach the session that holds the RT slot. `Spares` is the
frame condition of a handler: the slot, the two caches and the ring stay as they are, and
no effect is directed at the slot. It composes, and every handler meets it that runs for
another client, as long as the bookkeeping is coherent.
-/

namespace Wisp

open Transition System Arbiter

/-- The effect reaches the slot: it changes the ring, or a message is sent to the slot. -/
def Effect.Reaches (h : Slot) : Effect → Prop
  | .evictClient => True
  | .send idx _ _ => idx = h
  | _ => False

namespace ControlPlane

/-- The handlers that lead from `cp` to `cp'` do not concern the slot `h`. -/
structure Spares (h : Slot) (cp cp' : ControlPlane) : Prop where
  slot : cp'.table.slots h = cp.table.slots h
  activeSlot : cp'.table.activeSlot = cp.table.activeSlot
  evictingSlot : cp'.evictingSlot = cp.evictingSlot
  ring : cp'.ring = cp.ring
  out : ∀ e ∈ cp'.out, e.Reaches h → e ∈ cp.out

namespace Spares

variable {h idx : Slot} {cp cp' cp'' : ControlPlane}

theorem refl : Spares h cp cp :=
  ⟨rfl, rfl, rfl, rfl, fun _ member _ => member⟩

theorem trans (first : Spares h cp cp') (second : Spares h cp' cp'') : Spares h cp cp'' where
  slot := second.slot.trans first.slot
  activeSlot := second.activeSlot.trans first.activeSlot
  evictingSlot := second.evictingSlot.trans first.evictingSlot
  ring := second.ring.trans first.ring
  out e member reaches := first.out e (second.out e member reaches) reaches

theorem emit {effects : List Effect} (far : ∀ e ∈ effects, ¬ e.Reaches h) :
    Spares h cp (cp.emit effects) := by
  refine ⟨rfl, rfl, rfl, rfl, fun e member reaches => ?_⟩
  rcases List.mem_append.mp member with before | new
  · exact before
  · exact absurd reaches (far e new)

theorem closes (fds : List Int) : Spares h cp (cp.emit (fds.map .close)) := by
  apply emit
  intro e member
  obtain ⟨fd, -, rfl⟩ := List.mem_map.mp member
  exact id

theorem send (other : idx ≠ h) (msg : ServerMsg) : Spares h cp (cp.send idx msg) := by
  apply emit
  intro e member
  rw [List.mem_singleton.mp member]
  exact other

theorem setSlot (other : idx ≠ h) (session : Session) :
    Spares h cp { cp with table := cp.table.setSlot idx session } := by
  refine ⟨?_, rfl, rfl, rfl, fun _ member _ => member⟩
  simp [SessionTable.setSlot, Function.update_of_ne other.symm]

theorem withdraw : Spares h cp (cp.withdraw idx) := by
  unfold ControlPlane.withdraw
  split
  · exact ⟨rfl, rfl, rfl, rfl, fun _ member _ => member⟩
  · exact refl

/-- Freeing the slot of a session that is not active. -/
theorem closeSlot (other : idx ≠ h) (inactive : (cp.table.slots idx).state ≠ .activeRt) :
    Spares h cp (cp.closeSlot idx) := by
  have closed : Spares h cp (cp.emit [.close (cp.table.slots idx).ctrlFd]) := by
    apply emit
    intro e member
    rw [List.mem_singleton.mp member]
    exact id
  refine closed.trans (trans ?_ (closes _))
  change Spares h (cp.emit _) { cp.emit _ with table := (cp.table.remove idx).1 }
  cases inUse : (cp.table.slots idx).inUse with
  | false =>
      have same : (cp.table.remove idx).1 = cp.table := by simp [SessionTable.remove, inUse]
      rw [same]
      exact refl
  | true =>
      have removed : (cp.table.remove idx).1 = cp.table.setSlot idx
          ((cp.table.remove idx).1.slots idx) := by
        simp [SessionTable.remove, SessionTable.deactivate, inUse, inactive, SessionTable.setSlot]
      rw [removed]
      exact setSlot other _

/-- A session that holds nothing leaves. -/
theorem handleDisconnect (other : idx ≠ h) (idle : (cp.table.slots idx).state.holdsRt = false)
    (clock : Timespec) : Spares h cp (cp.handleDisconnect idx clock) := by
  have settled : cp.settleDisconnect idx = cp := by
    cases state : (cp.table.slots idx).state <;>
      simp_all [settleDisconnect, SessionState.holdsRt]
  simp only [ControlPlane.handleDisconnect, idle, settled, Bool.false_eq_true, if_false]
  have inactive : ((cp.withdraw idx).table.slots idx).state ≠ .activeRt := by
    have same : (cp.withdraw idx).table = cp.table := by
      unfold ControlPlane.withdraw
      split <;> rfl
    rw [same]
    intro active
    simp [active, SessionState.holdsRt] at idle
  exact withdraw.trans (closeSlot other inactive)

/-- A CONNECT is accepted, or its slot is closed. -/
theorem handleConnect (other : idx ≠ h) (connect : ConnectMsg) (clock : Timespec) :
    Spares h cp (cp.handleConnect idx connect clock) := by
  have rejected (cp : ControlPlane) : Spares h cp (cp.reject idx clock) := by
    refine trans (setSlot other { cp.table.slots idx with state := .rejected }) ?_
    refine handleDisconnect other ?_ clock
    simp [SessionTable.setSlot, SessionState.holdsRt]
  unfold ControlPlane.handleConnect
  split
  · exact (send other _).trans (rejected _)
  · split
    · exact (send other _).trans (rejected _)
    · exact (send other _).trans (setSlot other _)

theorem handleDmabufAnnounce (other : idx ≠ h) (msg : DmabufAnnounceMsg) (fds : List Int) :
    Spares h cp (cp.handleDmabufAnnounce idx msg fds) := by
  simp only [ControlPlane.handleDmabufAnnounce]
  refine trans ?_ (send other _)
  split
  · exact (closes _).trans (closes _)
  · exact closes _

theorem handleAccept (inUse : (cp.table.slots h).inUse = true) (fd : Int) :
    Spares h cp (cp.handleAccept fd) := by
  unfold ControlPlane.handleAccept
  split
  · exact refl
  · split
    · exact closes [fd]
    · rename_i idx table added
      obtain ⟨i, vacant, same⟩ := Option.map_eq_some_iff.mp added
      cases same
      refine setSlot ?_ _
      rintro rfl
      simp [SessionTable.firstFree_spec vacant] at inUse

section Coherent

variable (coh : cp.arbiter.Coherent) (holds : cp.arbiter.Holds h)
include coh holds

/-- Nobody else holds the RT slot. -/
theorem idle_of_ne (other : idx ≠ h) (inUse : (cp.table.slots idx).inUse = true) :
    (cp.table.slots idx).state.holdsRt = false := by
  by_contra held
  have held : cp.arbiter.Holds idx := cp.arbiter_holds_iff.mpr ⟨inUse, by simpa using held⟩
  exact other (coh.exclusive idx h held holds)

omit coh in
/-- A request finds the RT slot taken. -/
theorem handleActivateRequest (other : idx ≠ h) (clock : Timespec) :
    Spares h cp (cp.handleActivateRequest idx clock) := by
  have taken : cp.table.rtSlotTaken = true := by
    rw [← Bool.not_eq_false, ← arbiter_free_iff]
    exact fun free => free h holds
  simp only [ControlPlane.handleActivateRequest, taken, Bool.not_true, Bool.false_eq_true, if_false]
  split
  · exact refl
  · exact (setSlot other _).trans (send other _)

/-- The messages that only a holder can send with effect. -/
theorem ignored (other : idx ≠ h) (inUse : (cp.table.slots idx).inUse = true)
    (clock : Timespec) :
    cp.handleReadyForRt idx clock = cp ∧ cp.handleGrantDecline idx clock = cp ∧
      cp.handleStopped idx = cp ∧ cp.handleHeartbeat idx clock = cp := by
  have idle := idle_of_ne coh holds other inUse
  have not {state : SessionState} (held : state.holdsRt = true) :
      (cp.table.slots idx).state ≠ state := by
    rintro rfl
    simp [idle] at held
  refine ⟨if_pos ?_, if_pos ?_, if_pos ?_, if_pos ?_⟩ <;> exact not rfl

theorem handleReadable (other : idx ≠ h) (inUse : (cp.table.slots idx).inUse = true)
    (received : Received) (clock : Timespec) :
    Spares h cp (cp.handleReadable idx received clock) := by
  have idle := idle_of_ne coh holds other inUse
  obtain ⟨ready, decline, stopped, heartbeat⟩ := ignored coh holds other inUse clock
  cases received with
  | closed => exact handleDisconnect other idle clock
  | oversized => exact refl
  | message type payload fds =>
      simp only [ControlPlane.handleReadable]
      split
      · exact handleConnect other _ clock
      · exact handleActivateRequest holds other clock
      · exact ready.symm ▸ refl
      · exact decline.symm ▸ refl
      · exact stopped.symm ▸ refl
      · exact heartbeat.symm ▸ refl
      · exact handleDisconnect other idle clock
      · split
        · exact refl
        · exact handleDmabufAnnounce other _ fds
      · exact refl

omit holds in
/-- No other deadline runs while a session warms up or is active. -/
theorem tick (status : cp.arbiter.status h = some .grantedWarmup ∨
      cp.arbiter.status h = some .activeRt) {now : Timespec} (clock : Timespec)
    (alive : cp.overdue now ≠ some h) : Spares h cp (cp.tick now clock) := by
  have holds : cp.arbiter.Holds h := by
    rcases status with status | status <;> exact holds_of_status status rfl
  have only {i : Slot} {state : SessionState} (found : cp.arbiter.status i = some state)
      (held : state.holdsRt = true) : i = h :=
    coh.exclusive i h (holds_of_status found held) holds
  have beating : cp.overdue now = none := by
    cases late : cp.overdue now with
    | none => rfl
    | some i =>
        have active := (coh.active i).mp (overdue_eq_some.mp late).1
        obtain rfl := only active rfl
        exact absurd late alive
  have unevicted : cp.evictingSlot = none := by
    cases evicting : cp.evictingSlot with
    | none => rfl
    | some i =>
        have winding := (coh.evicting i).mp evicting
        obtain rfl := only winding rfl
        simp [winding] at status
  rw [ControlPlane.tick, checkHeartbeat_of_alive beating, checkGrace, unevicted]
  exact refl

end Coherent

/-- A switch that is refused is only answered. -/
theorem handleSwitchQuery {id : ClientId} {clock : Timespec}
    (refused : ∀ reason, .switchReply true reason ∉ (cp.handleSwitchQuery id clock).out) :
    Spares h cp (cp.handleSwitchQuery id clock) := by
  have answer (cp : ControlPlane) (ok : Bool) (reason : String) :
      Spares h cp (cp.emit [.switchReply ok reason]) := by
    apply emit
    intro e member
    rw [List.mem_singleton.mp member]
    exact False.elim
  have approved (cp : ControlPlane) (reason : String) :
      .switchReply true reason ∈ (cp.emit [.switchReply true reason]).out := by
    simp [ControlPlane.emit]
  cases named : cp.table.findByClientId id with
  | none =>
      simp only [ControlPlane.handleSwitchQuery, named]
      exact answer ..
  | some idx =>
      simp only [ControlPlane.handleSwitchQuery, named] at refused ⊢
      split
      · rename_i active
        rw [if_pos active] at refused
        exact absurd (approved _ _) (refused _)
      · rename_i inactive
        rw [if_neg inactive] at refused
        split
        · exact answer ..
        · rename_i able
          rw [if_neg able] at refused
          exact absurd (approved _ _) (refused _)

end Spares

/-- The event is the holder's own: a message or a hang-up on its connection, a switch that
is answered with `ok = 1`, or a clock check that finds its heartbeat overdue. -/
def Concerns (cp : ControlPlane) (h : Slot) : Event → Prop
  | .readable idx _ _ | .hangup idx _ => idx = h
  | .switch id clock =>
      ∃ reason, .switchReply true reason ∈ (cp.quiesce.handleSwitchQuery id clock).out
  | .tick now _ =>
      (cp.table.slots h).state = .activeRt ∧
        elapsedMs now (cp.table.slots h).lastHeartbeatMonotonic > clientHeartbeatTimeoutMs
  | .accept _ | .list => False

/-- Every other event spares the session that warms up or is active. -/
theorem spares_handle {cp : ControlPlane} {h : Slot} {ev : Event} (coh : cp.arbiter.Coherent)
    (on : ev.enabled cp = true)
    (status : cp.arbiter.status h = some .grantedWarmup ∨ cp.arbiter.status h = some .activeRt)
    (foreign : ¬ cp.Concerns h ev) : Spares h cp.quiesce (cp.quiesce.handle ev) := by
  have start : cp.quiesce.arbiter.Coherent := coh.quiet
  have holds : cp.quiesce.arbiter.Holds h := by
    rcases status with status | status <;> exact holds_of_status (a := cp.arbiter) status rfl
  have inUse : (cp.quiesce.table.slots h).inUse = true := by
    rcases status with status | status <;> exact (cp.arbiter_status_eq_some.mp status).1
  cases ev with
  | accept fd => exact Spares.handleAccept inUse fd
  | readable idx received clock => exact Spares.handleReadable start holds foreign on received clock
  | hangup idx clock =>
      exact Spares.handleDisconnect foreign (Spares.idle_of_ne start holds foreign on) clock
  | list => exact Spares.emit (by simp [Effect.Reaches])
  | switch id clock => exact Spares.handleSwitchQuery (not_exists.mp foreign)
  | tick now clock =>
      refine Spares.tick start status clock fun late => foreign ?_
      obtain ⟨active, late⟩ := overdue_eq_some.mp late
      exact ⟨(cp.arbiter_status_eq_some.mp ((coh.active h).mp active)).2, late⟩

end ControlPlane

/-- Unless the event is its own, a slot that is GRANTED_WARMUP or ACTIVE_RT keeps its whole
record and is sent nothing, and `active_slot`, `evicting_slot` and the ring are left alone. -/
def HolderIsolated (x : Observed) (ev : Event) : Prop :=
  ∀ h, (x.1.table.slots h).inUse = true →
    ((x.1.table.slots h).state = .grantedWarmup ∨ (x.1.table.slots h).state = .activeRt) →
    ¬ x.1.Concerns h ev →
      let after := x.1.quiesce.handle ev
      after.table.slots h = x.1.table.slots h ∧
        after.table.activeSlot = x.1.table.activeSlot ∧
        after.evictingSlot = x.1.evictingSlot ∧
        after.ring.generation = x.1.ring.generation ∧
        after.ring.latestReady = x.1.ring.latestReady ∧
        after.ring.serverLocked = x.1.ring.serverLocked ∧
        after.ring.clientLocked = x.1.ring.clientLocked ∧
        .evictClient ∉ after.out ∧ ∀ fd msg, .send h fd msg ∉ after.out

section Runs

variable {ring : Ring} {frameFd : Int} {dp : Bool} {supportedModes : List RenderMode}
variable {start : ControlPlane} {x : Observed} {trace : List (Observed × Event)}

/-- The holder is isolated from other clients in every run that connects once. -/
theorem holderIsolated_of_run
    (created : ControlPlane.init ring frameFd dp supportedModes = some start)
    (run : observed.Run (start, .empty) trace x) (once : Meets ConnectOnce trace) :
    Meets HolderIsolated trace := by
  refine run.meets once (Sound.of_init created) (fun _ _ _ => Sound.step) ?_
  intro x ev y sound _ taken h inUse state foreign
  obtain ⟨on, -⟩ := ControlPlane.step_eq_some.mp (record_step.mp taken).1
  have status : x.1.arbiter.status h = some .grantedWarmup ∨
      x.1.arbiter.status h = some .activeRt := by
    rw [x.1.arbiter_status_of_inUse inUse]
    simpa using state
  have spares := ControlPlane.spares_handle sound.coherent on status foreign
  refine ⟨spares.slot, spares.activeSlot, spares.evictingSlot, ?_, ?_, ?_, ?_, ?_, ?_⟩
  · exact congrArg Ring.generation spares.ring
  · exact congrArg Ring.latestReady spares.ring
  · exact congrArg Ring.serverLocked spares.ring
  · exact congrArg Ring.clientLocked spares.ring
  · intro sent
    exact List.not_mem_nil (spares.out _ sent trivial)
  · intro fd msg sent
    exact List.not_mem_nil (spares.out _ sent rfl)

open ControlPlane in
/-- A second client connects, queues and hangs up while the first one is active. -/
theorem holderIsolated_of_run_guest :
    ∃ trace x, observed.Run (booted, .empty) trace x ∧
      trace.map Prod.snd =
        [.accept 10, .hello 0 65 qvga, .signal 0 .activateRequest, .signal 0 .readyForRt,
          .accept 11, .hello 1 66 qvga, .signal 1 .activateRequest, .signal 1 .stopped,
          .tick ⟨0, 0⟩ ⟨0, 0⟩, .hangup 1 ⟨0, 0⟩] ∧
      Meets HolderIsolated trace ∧ x.1.table.activeSlot = some 0 := by
  refine Demonstrates.exists_run
    (P := fun trace x => Meets ConnectOnce trace ∧ x.1.table.activeSlot = some 0)
    (by decide +kernel) ?_
  rintro trace x run ⟨once, active⟩
  exact ⟨holderIsolated_of_run init_eq_booted run once, active⟩

end Runs

end Wisp
