import Wisp.Client.Grip
import Wisp.Control.Isolation

/-!
# What a session is told

Of the messages of the control plane three tell a client whether it may use the RT slot:
ACTIVATE_GRANT that it may, EVICT_PENDING and DEACTIVATE that it may not. `Tells` compares
what the handlers tell the session in a slot with what they make of its state: read in
order, the messages lead from what the session was entitled to before to what it is
entitled to afterwards, and no grant goes to a session that has one.

The comparison composes, and every handler meets it that starts from coherent bookkeeping.
The exceptions are GRANT_DECLINE and a CONNECT on a session that has been granted the slot,
which change the state without a word.
-/

namespace Wisp

open Arbiter

/-- The session has been granted the RT slot and has not been asked to give it up. -/
def SessionState.granted : SessionState → Bool
  | .grantedWarmup | .activeRt => true
  | _ => false

/-- What the receiver knows after a message. `none` is a grant to a session that has one. -/
def ServerMsg.verdict (granted : Bool) : ServerMsg → Option Bool
  | .activateGrant _ _ => if granted then none else some true
  | .evictPending _ | .deactivate => some false
  | _ => some granted

/-- The message is the answer to a CONNECT. -/
def ServerMsg.replies : ServerMsg → Bool
  | .mode _ _ | .versionMismatch _ _ => true
  | _ => false

/-- The message that an effect sends to a slot. -/
def Effect.told (i : Slot) : Effect → Option ServerMsg
  | .send idx _ msg => if idx = i then some msg else none
  | _ => none

theorem Effect.told_eq_nil {i : Slot} {effects : List Effect}
    (silent : ∀ fd msg, .send i fd msg ∉ effects) : effects.filterMap (told i) = [] := by
  rw [List.filterMap_eq_nil_iff]
  intro effect member
  cases effect with
  | send idx fd msg =>
      refine if_neg ?_
      rintro rfl
      exact silent fd msg member
  | _ => rfl

namespace ControlPlane

/-- The handlers that lead from `cp` to `cp'` have these effects, and what they tell the
session in the slot is true. -/
structure Telling (i : Slot) (cp cp' : ControlPlane) (effects : List Effect) : Prop where
  out : cp'.out = cp.out ++ effects
  kept : (cp'.table.slots i).inUse = true →
    (cp.table.slots i).inUse = true ∧ (cp'.table.slots i).ctrlFd = (cp.table.slots i).ctrlFd
  addressed : ∀ fd msg, .send i fd msg ∈ effects →
    (cp.table.slots i).inUse = true ∧ fd = (cp.table.slots i).ctrlFd
  verdict : ∃ known, (effects.filterMap (Effect.told i)).foldlM ServerMsg.verdict
      (cp.table.slots i).state.granted = some known ∧
    ((cp'.table.slots i).inUse = true → known = (cp'.table.slots i).state.granted)
  warm : (cp'.table.slots i).inUse = true → (cp'.table.slots i).state = .grantedWarmup →
    (cp.table.slots i).state = .grantedWarmup ∨
      ∃ msg ∈ effects.filterMap (Effect.told i), msg.grant ≠ none
  mute : (cp.table.slots i).state = .connected →
    (∀ msg ∈ effects.filterMap (Effect.told i), msg.grant = none) ∧
      ((cp'.table.slots i).inUse = true → (cp'.table.slots i).state = .connected)

/-- What the session in the slot is told is true. -/
def Tells (i : Slot) (cp cp' : ControlPlane) : Prop :=
  ∃ effects, Telling i cp cp' effects

theorem finishPendingGrant_activeSlot (cp : ControlPlane) :
    cp.finishPendingGrant.table.activeSlot = cp.table.activeSlot := by
  unfold finishPendingGrant
  dsimp only
  split
  · rfl
  · split
    · rfl
    · unfold doGrant
      dsimp only
      split <;> rfl

namespace Tells

variable {i idx : Slot} {cp cp' cp'' : ControlPlane}

/-- The slot stays as it is, and nothing is sent to it. -/
theorem of_slot (effects : List Effect) (out : cp'.out = cp.out ++ effects)
    (slot : cp'.table.slots i = cp.table.slots i)
    (silent : ∀ fd msg, .send i fd msg ∉ effects) : Tells i cp cp' := by
  refine ⟨effects, out, ?_, fun fd msg sent => absurd sent (silent fd msg), ?_, ?_, ?_⟩
  · rw [slot]
    exact fun inUse => ⟨inUse, rfl⟩
  · rw [Effect.told_eq_nil silent, slot]
    exact ⟨_, rfl, fun _ => rfl⟩
  · rw [slot]
    exact fun _ warm => .inl warm
  · rw [Effect.told_eq_nil silent, slot]
    exact fun connected => ⟨fun msg member => absurd member List.not_mem_nil, fun _ => connected⟩

theorem refl : Tells i cp cp :=
  of_slot [] (List.append_nil _).symm rfl fun _ _ => List.not_mem_nil

theorem trans (first : Tells i cp cp') (second : Tells i cp' cp'') : Tells i cp cp'' := by
  obtain ⟨effects, first⟩ := first
  obtain ⟨effects', second⟩ := second
  -- A slot that has been closed is told nothing more.
  have closed (unused : (cp'.table.slots i).inUse ≠ true) :
      effects'.filterMap (Effect.told i) = [] :=
    Effect.told_eq_nil fun fd msg sent => unused (second.addressed fd msg sent).1
  refine ⟨effects ++ effects', ?_, ?_, ?_, ?_, ?_, ?_⟩
  · rw [second.out, first.out, List.append_assoc]
  · intro inUse
    obtain ⟨middle, same⟩ := second.kept inUse
    obtain ⟨before, same'⟩ := first.kept middle
    exact ⟨before, same.trans same'⟩
  · intro fd msg sent
    rcases List.mem_append.mp sent with early | late
    · exact first.addressed fd msg early
    · obtain ⟨middle, rfl⟩ := second.addressed fd msg late
      exact first.kept middle
  · obtain ⟨known, told, agrees⟩ := first.verdict
    rw [List.filterMap_append, List.foldlM_append, told]
    by_cases middle : (cp'.table.slots i).inUse = true
    · rw [agrees middle]
      exact second.verdict
    · rw [closed middle]
      exact ⟨known, rfl, fun inUse => absurd (second.kept inUse).1 middle⟩
  · intro inUse warm
    rw [List.filterMap_append]
    rcases second.warm inUse warm with middle | ⟨msg, member, grants⟩
    · rcases first.warm (second.kept inUse).1 middle with before | ⟨msg, member, grants⟩
      · exact .inl before
      · exact .inr ⟨msg, List.mem_append_left _ member, grants⟩
    · exact .inr ⟨msg, List.mem_append_right _ member, grants⟩
  · intro connected
    obtain ⟨quiet, stays⟩ := first.mute connected
    rw [List.filterMap_append]
    by_cases middle : (cp'.table.slots i).inUse = true
    · obtain ⟨quiet', stays'⟩ := second.mute (stays middle)
      refine ⟨fun msg member => ?_, stays'⟩
      rcases List.mem_append.mp member with early | late
      · exact quiet msg early
      · exact quiet' msg late
    · rw [closed middle, List.append_nil]
      exact ⟨quiet, fun inUse => absurd (second.kept inUse).1 middle⟩

theorem ite {p : Prop} [Decidable p] (yes : p → Tells i cp cp') (no : ¬ p → Tells i cp cp'') :
    Tells i cp (if p then cp' else cp'') := by
  split
  · exact yes ‹_›
  · exact no ‹_›

/-- Only fields that no session looks at have changed. -/
theorem of_eq (out : cp'.out = cp.out) (table : cp'.table.slots = cp.table.slots) :
    Tells i cp cp' :=
  of_slot [] (by rw [out, List.append_nil]) (congrFun table i)
    fun _ _ => List.not_mem_nil

theorem emit {effects : List Effect} (silent : ∀ fd msg, .send i fd msg ∉ effects) :
    Tells i cp (cp.emit effects) :=
  of_slot effects rfl rfl silent

theorem closes (fds : List Int) : Tells i cp (cp.emit (fds.map .close)) := by
  apply emit
  simp

theorem evictClient : Tells i cp cp.evictClient := by
  refine of_slot _ rfl rfl fun fd msg => ?_
  split <;> simp

/-- A session changes its state without a word. -/
theorem setSlot {session : Session} (inUse : session.inUse = (cp.table.slots idx).inUse)
    (ctrlFd : session.ctrlFd = (cp.table.slots idx).ctrlFd)
    (granted : session.state.granted = (cp.table.slots idx).state.granted)
    (warm : session.state = .grantedWarmup → (cp.table.slots idx).state = .grantedWarmup)
    (connected : (cp.table.slots idx).state = .connected → session.state = .connected) :
    Tells i cp { cp with table := cp.table.setSlot idx session } := by
  by_cases same : i = idx
  · subst same
    refine ⟨[], (List.append_nil _).symm, ?_, fun _ _ sent => absurd sent List.not_mem_nil, ?_, ?_,
      ?_⟩ <;> simp only [SessionTable.setSlot, Function.update_self]
    · exact fun used => ⟨inUse ▸ used, ctrlFd⟩
    · exact ⟨_, rfl, fun _ => granted.symm⟩
    · exact fun _ warmed => .inl (warm warmed)
    · exact fun before =>
        ⟨fun _ member => absurd member List.not_mem_nil, fun _ => connected before⟩
  · refine of_slot [] (List.append_nil _).symm ?_ fun _ _ => List.not_mem_nil
    exact Function.update_of_ne same _ _

/-- A message that says nothing about the RT slot, to a session that is in use. -/
theorem send {msg : ServerMsg} (inUse : (cp.table.slots idx).inUse = true)
    (neutral : ∀ granted, msg.verdict granted = some granted) : Tells i cp (cp.send idx msg) := by
  have plain : msg.grant = none := by
    cases msg with
    | activateGrant =>
        have told : none = some true := neutral true
        cases told
    | _ => rfl
  by_cases same : idx = i
  · subst same
    have told : [Effect.send idx (cp.table.slots idx).ctrlFd msg].filterMap (Effect.told idx) =
        [msg] := by
      simp [Effect.told]
    refine ⟨_, rfl, fun used => ⟨used, rfl⟩, ?_, ?_, fun _ warm => .inl warm, ?_⟩
    · intro fd msg' sent
      cases List.mem_singleton.mp sent
      exact ⟨inUse, rfl⟩
    · rw [told]
      refine ⟨_, ?_, fun _ => rfl⟩
      rw [List.foldlM_cons, neutral]
      rfl
    · rw [told]
      refine fun connected => ⟨fun msg' member => ?_, fun _ => connected⟩
      rw [List.mem_singleton.mp member]
      exact plain
  · refine emit fun fd msg' sent => same ?_
    cases List.mem_singleton.mp sent
    rfl

/-- A session is told that the RT slot is its own, or no longer, and its state follows. -/
theorem declare {msg : ServerMsg} {table : SessionTable} {session : Session}
    (slots : table.slots = Function.update cp.table.slots idx session)
    (inUse : (cp.table.slots idx).inUse = true)
    (ctrlFd : session.ctrlFd = (cp.table.slots idx).ctrlFd)
    (verdict : msg.verdict (cp.table.slots idx).state.granted = some session.state.granted)
    (warm : session.state = .grantedWarmup → msg.grant ≠ none)
    (past : (cp.table.slots idx).state ≠ .connected) :
    Tells i cp ({ cp with table }.send idx msg) := by
  by_cases same : i = idx
  · subst same
    have own : table.slots i = session := by rw [slots, Function.update_self]
    have told : [Effect.send i (table.slots i).ctrlFd msg].filterMap (Effect.told i) = [msg] := by
      simp [Effect.told]
    refine ⟨_, rfl, ?_, ?_, ?_, ?_, fun connected => absurd connected past⟩
    · show (table.slots i).inUse = true → _ ∧ (table.slots i).ctrlFd = _
      rw [own]
      exact fun _ => ⟨inUse, ctrlFd⟩
    · intro fd msg' sent
      cases List.mem_singleton.mp sent
      exact ⟨inUse, (congrArg Session.ctrlFd own).trans ctrlFd⟩
    · rw [told, List.foldlM_cons, verdict]
      exact ⟨_, rfl, fun _ => (congrArg (fun s => s.state.granted) own).symm⟩
    · intro _ warmed
      rw [told]
      exact .inr ⟨msg, List.mem_singleton_self msg, warm (own ▸ warmed)⟩
  · refine of_slot _ rfl ?_ ?_
    · show table.slots i = _
      rw [slots, Function.update_of_ne same]
    · intro fd msg' sent
      cases List.mem_singleton.mp sent
      exact same rfl

/-- A grant to a session that may be given the slot. -/
theorem doGrant (inUse : (cp.table.slots idx).inUse = true)
    (can : (cp.table.slots idx).state.grantable = true) : Tells i cp (cp.doGrant idx) := by
  have idle : (cp.table.slots idx).state.granted = false ∧
      (cp.table.slots idx).state ≠ .connected := by
    cases state : (cp.table.slots idx).state <;> rw [state] at can <;> cases can <;>
      exact ⟨rfl, by simp⟩
  have granted : Tells i cp (ControlPlane.send
      { cp.evictClient with table := cp.table.grant idx cp.evictClient.ring.generation } idx
      (.activateGrant cp.evictClient.ring.generation cp.frameFd)) := by
    refine evictClient.trans (declare rfl inUse rfl ?_ (fun _ => by simp [ServerMsg.grant]) idle.2)
    show ServerMsg.verdict (cp.table.slots idx).state.granted _ = _
    rw [idle.1]
    rfl
  unfold ControlPlane.doGrant
  refine ite (fun _ => ?_) fun _ => granted
  exact granted.trans (emit (by simp))

/-- The active session is asked to wind down. -/
theorem beginEviction {target : Slot} (inUse : (cp.table.slots idx).inUse = true)
    (active : (cp.table.slots idx).state = .activeRt) (clock : Timespec) :
    Tells i cp (cp.beginEviction idx target clock) := by
  have slots : (cp.table.beginEviction idx).slots = Function.update cp.table.slots idx
      { cp.table.slots idx with state := .evictingCooperative } := by
    simp only [SessionTable.beginEviction, active, ne_eq, not_true_eq_false, if_false]
    split <;> rfl
  have told : Tells i cp (ControlPlane.send { cp with table := cp.table.beginEviction idx } idx
      (.evictPending (UInt32.ofNat evictGraceMs))) :=
    declare slots inUse rfl rfl (by simp) (by simp [active])
  exact told.trans (of_eq rfl rfl)

/-- The active session has been silent for too long. -/
theorem timeOut (inUse : (cp.table.slots idx).inUse = true)
    (active : (cp.table.slots idx).state = .activeRt) :
    Tells i cp ((({ cp with table := cp.table.deactivate idx }.evictClient).send idx
      .livenessTimeout).send idx .deactivate) := by
  have slots : (cp.table.deactivate idx).slots = Function.update cp.table.slots idx
      { cp.table.slots idx with state := .negotiated } := by
    rw [SessionTable.deactivate_slots, if_pos active]
    rfl
  -- The table is changed first, but the session hears of it only at the end.
  have told : Tells i cp (ControlPlane.send { (cp.evictClient.send idx .livenessTimeout) with
      table := cp.table.deactivate idx } idx .deactivate) := by
    have warned : Tells i cp (cp.evictClient.send idx .livenessTimeout) :=
      evictClient.trans (Tells.send inUse fun _ => rfl)
    refine warned.trans ?_
    refine declare slots inUse rfl ?_ (by simp) ?_
    · rfl
    · show (cp.table.slots idx).state ≠ .connected
      simp [active]
  refine told.trans (of_eq ?_ rfl)
  simp [ControlPlane.send, ControlPlane.emit, ControlPlane.evictClient, slots]

theorem finishPendingGrant : Tells i cp cp.finishPendingGrant := by
  unfold ControlPlane.finishPendingGrant
  dsimp only
  split
  · exact of_eq rfl rfl
  · rename_i target _
    refine ite (fun _ => of_eq rfl rfl) fun able => ?_
    simp only [Bool.or_eq_true, Bool.not_eq_true', not_or, Bool.not_eq_false] at able
    have cleared : Tells i cp { cp with pendingGrantTarget := none } := of_eq rfl rfl
    exact cleared.trans (doGrant able.1 able.2)

/-- The slot goes to the longest waiting session; nobody has to be evicted for it. -/
theorem maybeGrantNextQueued (inactive : cp.table.rtSlotTaken = false → cp.table.activeSlot = none)
    (clock : Timespec) : Tells i cp (cp.maybeGrantNextQueued clock) := by
  unfold ControlPlane.maybeGrantNextQueued
  refine ite (fun _ => refl) fun untaken => ?_
  split
  · exact refl
  · rename_i next found
    have untaken : cp.table.rtSlotTaken = false := Bool.eq_false_iff.mpr untaken
    obtain ⟨inUse, queued⟩ := SessionTable.findNextQueued_queued found
    simp only [grantSlot, inactive untaken, untaken, Bool.false_eq_true, if_false]
    exact doGrant inUse (by rw [queued]; rfl)

theorem withdraw : Tells i cp (cp.withdraw idx) :=
  ite (fun _ => of_eq rfl rfl) fun _ => refl

/-- A wind-down goes its way: the session had been told before. -/
theorem unwind {state : SessionState} (winding : (cp.table.slots idx).state = .evictingCooperative ∨
      (cp.table.slots idx).state = .evictingForced) (idle : state.granted = false) :
    Tells i cp { cp with table := cp.table.setState idx state } := by
  refine setSlot rfl rfl ?_ (fun warm => ?_) (fun connected => ?_)
  · rcases winding with before | before <;> rw [before] <;> exact idle
  · change state = .grantedWarmup at warm
    rw [warm] at idle
    cases idle
  · simp [connected] at winding

theorem reclaim : Tells i cp { cp with table := cp.table.reclaimEviction idx } := by
  unfold SessionTable.reclaimEviction
  split
  · exact refl
  · rename_i winding
    rw [ne_eq, ne_eq, not_and_or, not_not, not_not] at winding
    exact unwind winding rfl

theorem force : Tells i cp { cp with table := cp.table.markEvictionForced idx } := by
  unfold SessionTable.markEvictionForced
  split
  · exact unwind (.inl ‹_›) rfl
  · exact refl

theorem settleDisconnect : Tells i cp (cp.settleDisconnect idx) := by
  unfold ControlPlane.settleDisconnect
  refine ite (fun _ => evictClient) fun _ => ite (fun _ => ?_) fun _ => refl
  have reclaimed : Tells i cp { cp with table := cp.table.reclaimEviction idx } := reclaim
  exact ite (fun _ => reclaimed.trans (of_eq rfl rfl)) fun _ => reclaimed

/-- The session in the slot is gone; the others stay. -/
theorem closeSlot : Tells i cp (cp.closeSlot idx) := by
  have closed : Tells i cp (cp.emit [.close (cp.table.slots idx).ctrlFd]) := emit (by simp)
  refine closed.trans (trans ?_ (closes _))
  show Tells i (cp.emit _) { cp.emit _ with table := (cp.table.remove idx).1 }
  by_cases same : i = idx
  · subst same
    have unused : ((cp.table.remove i).1.slots i).inUse ≠ true := by
      simp [SessionTable.remove_inUse]
    refine ⟨[], (List.append_nil _).symm, fun used => absurd used unused,
      fun _ _ sent => absurd sent List.not_mem_nil, ?_, fun used => absurd used unused, ?_⟩
    · exact ⟨_, rfl, fun used => absurd used unused⟩
    · exact fun _ =>
        ⟨fun _ member => absurd member List.not_mem_nil, fun used => absurd used unused⟩
  · refine of_slot [] (List.append_nil _).symm ?_ fun _ _ => List.not_mem_nil
    exact cp.table.remove_slots_of_ne same

theorem handleStopped : Tells i cp (cp.handleStopped idx) := by
  unfold ControlPlane.handleStopped
  refine ite (fun _ => refl) fun _ => trans ?_ finishPendingGrant
  have reclaimed : Tells i cp { cp with table := cp.table.reclaimEviction idx } := reclaim
  exact ite (fun _ => reclaimed.trans (of_eq rfl rfl)) fun _ => reclaimed

theorem handleHeartbeat (clock : Timespec) : Tells i cp (cp.handleHeartbeat idx clock) := by
  unfold ControlPlane.handleHeartbeat
  exact ite (fun _ => refl) fun _ => setSlot rfl rfl rfl id id

theorem handleDmabufAnnounce (inUse : (cp.table.slots idx).inUse = true) (msg : DmabufAnnounceMsg)
    (fds : List Int) : Tells i cp (cp.handleDmabufAnnounce idx msg fds) := by
  have closed (cp : ControlPlane) (fds : List Int) : Tells i cp (cp.emit (fds.map .close)) :=
    closes fds
  simp only [ControlPlane.handleDmabufAnnounce]
  split
  · exact ((closed _ _).trans (closed _ _)).trans (send inUse fun _ => rfl)
  · exact (closed _ _).trans (send inUse fun _ => rfl)

section Coherent

variable (coh : cp.arbiter.Coherent)
include coh

/-- In coherent bookkeeping nobody is active while the slot is free. -/
theorem inactive_of_untaken (untaken : cp.table.rtSlotTaken = false) : cp.table.activeSlot = none :=
  coh.not_active_of_free (cp.arbiter_free_iff.mpr untaken)

theorem handleActivateRequest (inUse : (cp.table.slots idx).inUse = true) (clock : Timespec) :
    Tells i cp (cp.handleActivateRequest idx clock) := by
  unfold ControlPlane.handleActivateRequest
  refine ite (fun _ => refl) fun state => ?_
  have state : (cp.table.slots idx).state = .negotiated := not_not.mp state
  refine ite (fun untaken => ?_) fun _ => ?_
  · have untaken : cp.table.rtSlotTaken = false := by simpa using untaken
    rw [grantSlot_of_free coh (cp.arbiter_free_iff.mpr untaken)]
    exact doGrant inUse (by rw [state]; rfl)
  · let session := { cp.table.slots idx with activateRequestedMonotonic := clock, state := .queued }
    have queued : Tells i cp { cp with table := cp.table.setSlot idx session } := by
      refine setSlot rfl rfl ?_ (by simp [session]) (by simp [state])
      rw [state]
      rfl
    exact queued.trans (send (by simp [SessionTable.setSlot, session, inUse]) fun _ => rfl)

/-- A session that has finished its warm-up keeps the slot, and nobody loses it. -/
theorem handleReadyForRt (inUse : (cp.table.slots idx).inUse = true) (clock : Timespec) :
    Tells i cp (cp.handleReadyForRt idx clock) := by
  unfold ControlPlane.handleReadyForRt
  refine ite (fun _ => refl) fun state => ?_
  have state : (cp.table.slots idx).state = .grantedWarmup := not_not.mp state
  have inactive : cp.table.activeSlot = none := by
    cases active : cp.table.activeSlot with
    | none => rfl
    | some j =>
        have warm := cp.arbiter_status_eq_some.mpr ⟨inUse, state⟩
        have other := (coh.active j).mp active
        have same := coh.exclusive j idx (holds_of_status other rfl) (holds_of_status warm rfl)
        subst same
        simp [warm] at other
  let session := { cp.table.slots idx with state := .activeRt, lastHeartbeatMonotonic := clock }
  have activated : Tells i cp { cp with table := cp.table.setSlot idx session } := by
    refine setSlot rfl rfl ?_ (by simp [session]) (by simp [state])
    rw [state]
    rfl
  refine activated.trans (of_eq rfl ?_)
  simp [SessionTable.activate, inactive, session]

theorem handleDisconnect (inUse : (cp.table.slots idx).inUse = true) (clock : Timespec) :
    Tells i cp (cp.handleDisconnect idx clock) := by
  have closed : Tells i cp (((cp.settleDisconnect idx).withdraw idx).closeSlot idx) :=
    (settleDisconnect.trans withdraw).trans closeSlot
  unfold ControlPlane.handleDisconnect
  refine ite (fun held => ?_) fun _ => closed
  have holds : cp.arbiter.Holds idx := cp.arbiter_holds_iff.mpr ⟨inUse, held⟩
  have left := arbiter_closed_holder coh holds
  have coherent : (((cp.settleDisconnect idx).withdraw idx).closeSlot idx).arbiter.Coherent :=
    left ▸ coh.leave
  have free : (((cp.settleDisconnect idx).withdraw idx).closeSlot idx).arbiter.Free :=
    left ▸ coh.free_leave holds
  have finished := coherent.clearPending.handOver free
    (((cp.settleDisconnect idx).withdraw idx).closeSlot idx).arbiter.pending
  rw [← arbiter_finishPendingGrant coherent free] at finished
  exact (closed.trans finishPendingGrant).trans
    (maybeGrantNextQueued (inactive_of_untaken finished) clock)

theorem handleSwitchQuery (id : ClientId) (clock : Timespec) :
    Tells i cp (cp.handleSwitchQuery id clock) := by
  have answer (cp : ControlPlane) (ok : Bool) (reason : String) :
      Tells i cp (cp.emit [.switchReply ok reason]) := emit (by simp)
  unfold ControlPlane.handleSwitchQuery
  split
  · exact answer ..
  · rename_i idx named
    refine ite (fun _ => answer ..) fun _ => ite (fun _ => answer ..) fun able => ?_
    refine trans ?_ (answer ..)
    have inUse := SessionTable.findByClientId_inUse named
    have can : (cp.table.slots idx).state.grantable = true := by
      cases state : (cp.table.slots idx).state <;> simp_all [SessionState.grantable]
    have free : Tells i cp (if cp.table.rtSlotTaken then { cp with pendingGrantTarget := some idx }
        else cp.doGrant idx) :=
      ite (fun _ => of_eq rfl rfl) fun _ => doGrant inUse can
    unfold grantSlot
    split
    · rename_i prevActive active
      obtain ⟨used, state⟩ := cp.arbiter_status_eq_some.mp ((coh.active prevActive).mp active)
      exact ite (fun _ => beginEviction used state clock) fun _ => free
    · exact free

theorem checkHeartbeat (now clock : Timespec) : Tells i cp (cp.checkHeartbeat now clock) := by
  cases late : cp.overdue now with
  | none =>
      rw [checkHeartbeat_of_alive late]
      exact refl
  | some h =>
      obtain ⟨active, late⟩ := overdue_eq_some.mp late
      obtain ⟨inUse, state⟩ := cp.arbiter_status_eq_some.mp ((coh.active h).mp active)
      have cleared : (cp.table.deactivate h).activeSlot = none := by
        simp [SessionTable.deactivate, state, active, SessionTable.setState, SessionTable.setSlot]
      simp only [ControlPlane.checkHeartbeat, SessionTable.checkHeartbeatTimeouts, active, late,
        if_true]
      exact (timeOut inUse state).trans (maybeGrantNextQueued (fun _ => cleared) clock)

theorem checkGrace (now clock : Timespec) : Tells i cp (cp.checkGrace now clock) := by
  unfold ControlPlane.checkGrace
  split
  · exact refl
  · rename_i idx evicting
    refine ite (fun _ => ?_) fun _ => refl
    have inactive := inactive_of_evicting coh evicting
    let forced := { cp with table := cp.table.markEvictionForced idx }
    let settled := { forced with
      table := forced.table.reclaimEviction idx, evictingSlot := none }
    have told : Tells i cp settled := by
      have first : Tells i cp forced := force
      have second : Tells i forced { forced with table := forced.table.reclaimEviction idx } :=
        reclaim
      exact (first.trans second).trans (of_eq rfl rfl)
    have still : settled.finishPendingGrant.table.activeSlot = none := by
      rw [finishPendingGrant_activeSlot, ← inactive]
      simp only [settled, forced, SessionTable.reclaimEviction, SessionTable.markEvictionForced]
      split <;> split <;> rfl
    exact (told.trans finishPendingGrant).trans (maybeGrantNextQueued (fun _ => still) clock)

theorem tick (now clock : Timespec) : Tells i cp (cp.tick now clock) := by
  have checked : Tells i cp (cp.checkHeartbeat now clock) := checkHeartbeat coh now clock
  cases late : cp.overdue now with
  | none =>
      rw [ControlPlane.tick, checkHeartbeat_of_alive late]
      exact checkGrace coh now clock
  | some h =>
      simp only [ControlPlane.tick, ControlPlane.checkGrace, evictingSlot_checkHeartbeat coh late]
      exact checked

/-- What a client other than a declining one sends, apart from CONNECT. -/
theorem handleReadable (inUse : (cp.table.slots idx).inUse = true) {received : Received}
    (known : ∀ payload fds, received ≠ .message MsgKind.connect.toByte payload fds ∧
      received ≠ .message MsgKind.grantDecline.toByte payload fds) (clock : Timespec) :
    Tells i cp (cp.handleReadable idx received clock) := by
  cases received with
  | closed => exact handleDisconnect coh inUse clock
  | oversized => exact refl
  | message type payload fds =>
      obtain ⟨notConnect, notDecline⟩ := known payload fds
      simp only [ControlPlane.handleReadable]
      split
      · rename_i kind
        exact absurd (congrArg (Received.message · payload fds) (MsgKind.toByte_of_ofByte kind))
          notConnect
      · exact handleActivateRequest coh inUse clock
      · exact handleReadyForRt coh inUse clock
      · rename_i kind
        exact absurd (congrArg (Received.message · payload fds) (MsgKind.toByte_of_ofByte kind))
          notDecline
      · exact handleStopped
      · exact handleHeartbeat clock
      · exact handleDisconnect coh inUse clock
      · exact ite (fun _ => refl) fun _ => handleDmabufAnnounce inUse _ fds
      · exact refl

end Coherent

/-- A session that is left alone is told nothing. -/
theorem of_spares (spared : Spares i cp cp') (fresh : cp.out = []) : Tells i cp cp' := by
  refine of_slot cp'.out (by rw [fresh, List.nil_append]) spared.slot ?_
  intro fd msg sent
  have before := spared.out _ sent rfl
  rw [fresh] at before
  cases before

end Tells

section Connect

variable {cp : ControlPlane} {idx : Slot}

/-- A refused session is closed and told nothing more. -/
theorem reject_spec (cp : ControlPlane) (idx : Slot) (clock : Timespec) :
    ((cp.reject idx clock).table.slots idx).inUse = false ∧
      ∃ rest, (cp.reject idx clock).out = cp.out ++ rest ∧ ∀ j fd msg, .send j fd msg ∉ rest := by
  have rejected : ((cp.table.setState idx .rejected).slots idx).state = .rejected := by
    simp [SessionTable.setState, SessionTable.setSlot]
  have closed : cp.reject idx clock =
      ({ cp with table := cp.table.setState idx .rejected }.withdraw idx).closeSlot idx := by
    simp only [reject, handleDisconnect, settleDisconnect, rejected]
    rfl
  have table :
      ({ cp with table := cp.table.setState idx .rejected }.withdraw idx).out = cp.out := by
    unfold withdraw
    split <;> rfl
  rw [closed]
  refine ⟨SessionTable.remove_inUse _ _, _, (List.append_assoc _ _ _).trans (by rw [table]), ?_⟩
  simp

/-- A CONNECT has been answered, and the session is negotiated or closed. -/
structure Answered (idx : Slot) (cp cp' : ControlPlane) : Prop where
  negotiated : (cp'.table.slots idx).inUse = true →
    (cp'.table.slots idx).ctrlFd = (cp.table.slots idx).ctrlFd ∧
      (cp'.table.slots idx).state = .negotiated
  reply : ∃ msg rest, cp'.out = cp.out ++ .send idx (cp.table.slots idx).ctrlFd msg :: rest ∧
    msg.replies = true ∧ ∀ j fd msg, .send j fd msg ∉ rest

theorem answered_handleConnect (cp : ControlPlane) (idx : Slot) (connect : ConnectMsg)
    (clock : Timespec) : Answered idx cp (cp.handleConnect idx connect clock) := by
  have refused (msg : ServerMsg) (replies : msg.replies = true) :
      Answered idx cp ((cp.send idx msg).reject idx clock) := by
    obtain ⟨unused, rest, out, silent⟩ := reject_spec (cp.send idx msg) idx clock
    refine ⟨fun used => absurd used (by simp [unused]), msg, rest, ?_, replies, silent⟩
    rw [out]
    exact List.append_assoc _ _ _
  unfold handleConnect
  split
  · exact refused _ rfl
  · split
    · exact refused _ rfl
    · refine ⟨fun _ => ?_, _, [], rfl, rfl, fun _ _ _ => List.not_mem_nil⟩
      simp [SessionTable.setSlot, ControlPlane.negotiated, send, emit]

end Connect

/-- The event is a CONNECT on the slot. -/
def Event.Connects (i : Slot) (ev : Event) : Prop :=
  ∃ payload fds clock, ev = .readable i (.message MsgKind.connect.toByte payload fds) clock

/-- The event is a GRANT_DECLINE. -/
def Event.Declines (ev : Event) : Prop :=
  ∃ i payload fds clock, ev = .readable i (.message MsgKind.grantDecline.toByte payload fds) clock

/-- Every event of a connection that is already there, in coherent bookkeeping. -/
theorem tells_handle {cp : ControlPlane} {ev : Event} {i : Slot} (coh : cp.arbiter.Coherent)
    (on : ev.enabled cp = true) (settled : ∀ fd, ev ≠ .accept fd) (connects : ¬ Event.Connects i ev)
    (declines : ¬ Event.Declines ev) : Tells i cp.quiesce (cp.quiesce.handle ev) := by
  have start : cp.quiesce.arbiter.Coherent := coh.quiet
  cases ev with
  | accept fd => exact absurd rfl (settled fd)
  | hangup idx clock => exact Tells.handleDisconnect start on clock
  | list => exact Tells.emit (by simp)
  | switch id clock => exact Tells.handleSwitchQuery start id clock
  | tick now clock => exact Tells.tick start now clock
  | readable idx received clock =>
      have notDecline (payload : List UInt8) (fds : List Int) :
          received ≠ .message MsgKind.grantDecline.toByte payload fds := by
        rintro rfl
        exact declines ⟨_, _, _, _, rfl⟩
      by_cases hello : ∃ payload fds, received = .message MsgKind.connect.toByte payload fds
      · obtain ⟨payload, fds, rfl⟩ := hello
        have other : idx ≠ i := by
          rintro rfl
          exact connects ⟨_, _, _, rfl⟩
        exact Tells.of_spares (Spares.handleConnect other _ clock) rfl
      · refine Tells.handleReadable start on (fun payload fds => ⟨?_, notDecline payload fds⟩) clock
        exact fun same => hello ⟨payload, fds, same⟩

end ControlPlane

end Wisp
