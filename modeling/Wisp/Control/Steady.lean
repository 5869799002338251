import Wisp.Control.Event

/-!
# What the handlers have in common

Only three parts of the control plane change who is connected: `accept` fills a slot,
`handle_connect` settles its mode, and a disconnect closes it. Everything else moves sessions
between states, passes the RT slot on and sends messages. `Steady` is what all of that leaves
alone. It composes, it needs no assumption on the state it starts from, and it holds as well
where repeated CONNECTs have left the bookkeeping in disorder.
-/

namespace Wisp

open Transition System

namespace ControlPlane

/-- A session that is past its CONNECT. -/
def Introduced (cp : ControlPlane) (i : Slot) : Prop :=
  (cp.table.slots i).inUse = true ∧ (cp.table.slots i).state ≠ .connected

/-- An effect that closes nothing, and installs no mode other than that of a session. -/
def Ordinary (cp : ControlPlane) : Effect → Prop
  | .close _ => False
  | .setMode width height =>
      cp.dp = true ∧ ∃ i, width = (cp.table.slots i).negotiatedMode.width ∧
        height = (cp.table.slots i).negotiatedMode.height
  | _ => True

/-- The same sessions on the same sockets with the same modes. -/
structure Steady (cp cp' : ControlPlane) : Prop where
  inUse : ∀ i, (cp'.table.slots i).inUse = (cp.table.slots i).inUse
  ctrlFd : ∀ i, (cp'.table.slots i).ctrlFd = (cp.table.slots i).ctrlFd
  negotiatedMode : ∀ i, (cp'.table.slots i).negotiatedMode = (cp.table.slots i).negotiatedMode
  dmabufSet : ∀ i, (cp'.table.slots i).dmabufSet = (cp.table.slots i).dmabufSet
  connected : ∀ i, (cp'.table.slots i).state = .connected ↔ (cp.table.slots i).state = .connected
  pending : ∀ i, cp'.pendingGrantTarget = some i →
    cp.pendingGrantTarget = some i ∨ cp.Introduced i
  supportedModes : cp'.supportedModes = cp.supportedModes
  dp : cp'.dp = cp.dp
  out : ∃ effects, cp'.out = cp.out ++ effects ∧ ∀ e ∈ effects, cp.Ordinary e

namespace Steady

variable {cp cp' cp'' : ControlPlane} {idx : Slot}

theorem introduced_iff (steady : Steady cp cp') (i : Slot) :
    cp'.Introduced i ↔ cp.Introduced i := by
  rw [Introduced, Introduced, steady.inUse, ne_eq, ne_eq, steady.connected]

theorem ordinary_iff (steady : Steady cp cp') (e : Effect) : cp'.Ordinary e ↔ cp.Ordinary e := by
  cases e <;> simp only [Ordinary, steady.negotiatedMode, steady.dp]

theorem refl : Steady cp cp where
  inUse _ := rfl
  ctrlFd _ := rfl
  negotiatedMode _ := rfl
  dmabufSet _ := rfl
  connected _ := Iff.rfl
  pending _ := .inl
  supportedModes := rfl
  dp := rfl
  out := ⟨[], (List.append_nil _).symm, fun _ member => absurd member List.not_mem_nil⟩

theorem trans (first : Steady cp cp') (second : Steady cp' cp'') : Steady cp cp'' where
  inUse i := (second.inUse i).trans (first.inUse i)
  ctrlFd i := (second.ctrlFd i).trans (first.ctrlFd i)
  negotiatedMode i := (second.negotiatedMode i).trans (first.negotiatedMode i)
  dmabufSet i := (second.dmabufSet i).trans (first.dmabufSet i)
  connected i := (second.connected i).trans (first.connected i)
  pending i waits := by
    rcases second.pending i waits with before | introduced
    · exact first.pending i before
    · exact .inr ((first.introduced_iff i).mp introduced)
  supportedModes := second.supportedModes.trans first.supportedModes
  dp := second.dp.trans first.dp
  out := by
    obtain ⟨effects, out, ordinary⟩ := first.out
    obtain ⟨effects', out', ordinary'⟩ := second.out
    refine ⟨effects ++ effects', by rw [out', out, List.append_assoc], fun e member => ?_⟩
    rcases List.mem_append.mp member with before | after
    · exact ordinary e before
    · exact (first.ordinary_iff e).mp (ordinary' e after)

/-- Only the ring, the deadline or the evicting slot changes, or a pending target goes. -/
theorem of_table (table : cp'.table = cp.table)
    (pending : ∀ i, cp'.pendingGrantTarget = some i →
      cp.pendingGrantTarget = some i ∨ cp.Introduced i)
    (supportedModes : cp'.supportedModes = cp.supportedModes) (dp : cp'.dp = cp.dp)
    {effects : List Effect} (out : cp'.out = cp.out ++ effects)
    (ordinary : ∀ e ∈ effects, cp.Ordinary e) : Steady cp cp' where
  inUse i := by rw [table]
  ctrlFd i := by rw [table]
  negotiatedMode i := by rw [table]
  dmabufSet i := by rw [table]
  connected i := by rw [table]
  pending := pending
  supportedModes := supportedModes
  dp := dp
  out := ⟨effects, out, ordinary⟩

theorem emit {effects : List Effect} (ordinary : ∀ e ∈ effects, cp.Ordinary e) :
    Steady cp (cp.emit effects) :=
  of_table rfl (fun _ => .inl) rfl rfl rfl ordinary

theorem send (idx : Slot) (msg : ServerMsg) : Steady cp (cp.send idx msg) := by
  apply emit
  intro e member
  rw [List.mem_singleton.mp member]
  exact trivial

theorem evictClient : Steady cp cp.evictClient := by
  refine of_table rfl (fun _ => .inl) rfl rfl rfl ?_
  intro e member
  split at member
  · rcases List.mem_cons.mp member with rfl | member
    · exact trivial
    · rw [List.mem_singleton.mp member]
      exact trivial
  · rw [List.mem_singleton.mp member]
    exact trivial

/-- A change of the table that moves sessions between states past CONNECTED. -/
theorem of_slots {table : SessionTable}
    (slots : ∀ i, (table.slots i).inUse = (cp.table.slots i).inUse ∧
      (table.slots i).ctrlFd = (cp.table.slots i).ctrlFd ∧
      (table.slots i).negotiatedMode = (cp.table.slots i).negotiatedMode ∧
      (table.slots i).dmabufSet = (cp.table.slots i).dmabufSet ∧
      ((table.slots i).state = .connected ↔ (cp.table.slots i).state = .connected)) :
    Steady cp { cp with table } where
  inUse i := (slots i).1
  ctrlFd i := (slots i).2.1
  negotiatedMode i := (slots i).2.2.1
  dmabufSet i := (slots i).2.2.2.1
  connected i := (slots i).2.2.2.2
  pending _ := .inl
  supportedModes := rfl
  dp := rfl
  out := (refl : Steady cp cp).out

/-- One session changes its state or its times. -/
theorem setSlot {session : Session} (inUse : session.inUse = (cp.table.slots idx).inUse)
    (ctrlFd : session.ctrlFd = (cp.table.slots idx).ctrlFd)
    (negotiatedMode : session.negotiatedMode = (cp.table.slots idx).negotiatedMode)
    (dmabufSet : session.dmabufSet = (cp.table.slots idx).dmabufSet)
    (connected : session.state = .connected ↔ (cp.table.slots idx).state = .connected) :
    Steady cp { cp with table := cp.table.setSlot idx session } := by
  apply of_slots
  intro i
  by_cases same : i = idx
  · subst same
    simp only [SessionTable.setSlot, Function.update_self]
    exact ⟨inUse, ctrlFd, negotiatedMode, dmabufSet, connected⟩
  · have other : (cp.table.setSlot idx session).slots i = cp.table.slots i :=
      Function.update_of_ne same _ _
    rw [other]
    exact ⟨rfl, rfl, rfl, rfl, Iff.rfl⟩

theorem setState {state : SessionState} (before : (cp.table.slots idx).state ≠ .connected)
    (after : state ≠ .connected) :
    Steady cp { cp with table := cp.table.setState idx state } :=
  setSlot rfl rfl rfl rfl (iff_of_false after before)

/-- The cached index is not part of it. -/
theorem activeSlot (slot : Option Slot) :
    Steady cp { cp with table := { cp.table with activeSlot := slot } } :=
  of_slots fun _ => ⟨rfl, rfl, rfl, rfl, Iff.rfl⟩

theorem deactivate (cp : ControlPlane) (idx : Slot) :
    Steady cp { cp with table := cp.table.deactivate idx } := by
  apply of_slots
  intro i
  rw [SessionTable.deactivate_slots]
  split
  · rename_i active
    have steady : Steady cp { cp with table := cp.table.setState idx .negotiated } :=
      setState (by simp [active]) (by simp)
    exact ⟨steady.inUse i, steady.ctrlFd i, steady.negotiatedMode i, steady.dmabufSet i,
      steady.connected i⟩
  · exact ⟨rfl, rfl, rfl, rfl, Iff.rfl⟩

theorem beginEvictionTable (cp : ControlPlane) (idx : Slot) :
    Steady cp { cp with table := cp.table.beginEviction idx } := by
  unfold SessionTable.beginEviction
  split
  · exact refl
  · rename_i active
    have wound : Steady cp { cp with table := cp.table.setState idx .evictingCooperative } :=
      setState (by simp [not_not.mp active]) (by simp)
    dsimp only
    split
    · exact wound.trans (activeSlot none)
    · exact wound

theorem reclaimEviction (cp : ControlPlane) (idx : Slot) :
    Steady cp { cp with table := cp.table.reclaimEviction idx } := by
  unfold SessionTable.reclaimEviction
  split
  · exact refl
  · rename_i winding
    refine setState ?_ (by simp)
    intro connected
    exact winding (by simp [connected])

theorem markEvictionForced (cp : ControlPlane) (idx : Slot) :
    Steady cp { cp with table := cp.table.markEvictionForced idx } := by
  unfold SessionTable.markEvictionForced
  split
  · rename_i winding
    exact setState (by simp [winding]) (by simp)
  · exact refl

theorem activate (introduced : (cp.table.slots idx).state ≠ .connected) (clock : Timespec) :
    Steady cp { cp with table := cp.table.activate idx clock } := by
  obtain ⟨table, first, activated⟩ : ∃ table, Steady cp { cp with table } ∧
      cp.table.activate idx clock = { table.setSlot idx { table.slots idx with
        state := .activeRt, lastHeartbeatMonotonic := clock } with activeSlot := some idx } := by
    refine ⟨_, ?_, rfl⟩
    split
    · split
      · exact deactivate cp _
      · exact refl
    · exact refl
  have past : (table.slots idx).state ≠ .connected :=
    fun connected => introduced ((first.connected idx).mp connected)
  let session := { table.slots idx with state := .activeRt, lastHeartbeatMonotonic := clock }
  have second : Steady { cp with table } { cp with table := table.setSlot idx session } :=
    setSlot rfl rfl rfl rfl (iff_of_false SessionState.noConfusion past)
  rw [activated]
  exact first.trans (second.trans (activeSlot (some idx)))

theorem withdraw : Steady cp (cp.withdraw idx) := by
  unfold ControlPlane.withdraw
  split
  · exact of_table rfl (fun _ waits => by cases waits) rfl rfl (List.append_nil _).symm
      fun _ member => absurd member List.not_mem_nil
  · exact refl

/-- A grant goes to a session that is past its CONNECT, and installs its mode. -/
theorem doGrant (introduced : cp.Introduced idx) : Steady cp (cp.doGrant idx) := by
  have bumped : Steady cp cp.evictClient := evictClient
  have granted : Steady cp.evictClient { cp.evictClient with
      table := cp.evictClient.table.grant idx cp.evictClient.ring.generation } :=
    setSlot rfl rfl rfl rfl (iff_of_false (by simp) ((bumped.introduced_iff idx).mpr introduced).2)
  have sent := (bumped.trans granted).trans
    (send idx (.activateGrant cp.evictClient.ring.generation cp.frameFd))
  simp only [ControlPlane.doGrant]
  split
  · rename_i attached
    refine sent.trans (emit ?_)
    intro e member
    rw [List.mem_singleton.mp member]
    exact ⟨attached, idx, rfl, rfl⟩
  · exact sent

theorem beginEviction {prevIdx : Slot} (introduced : cp.Introduced idx) (clock : Timespec) :
    Steady cp (cp.beginEviction prevIdx idx clock) := by
  have told := (beginEvictionTable cp prevIdx).trans
    (send prevIdx (.evictPending (UInt32.ofNat evictGraceMs)))
  refine told.trans (of_table rfl ?_ rfl rfl (List.append_nil _).symm ?_)
  · intro i waits
    cases waits
    exact .inr ((told.introduced_iff idx).mpr introduced)
  · exact fun _ member => absurd member List.not_mem_nil

theorem grantSlot (introduced : cp.Introduced idx) (clock : Timespec) :
    Steady cp (cp.grantSlot idx clock) := by
  have waits : Steady cp { cp with pendingGrantTarget := some idx } := by
    refine of_table rfl ?_ rfl rfl (List.append_nil _).symm ?_
    · intro i waits
      cases waits
      exact .inr introduced
    · exact fun _ member => absurd member List.not_mem_nil
  unfold ControlPlane.grantSlot
  split
  · split
    · exact beginEviction introduced clock
    · split
      · exact waits
      · exact doGrant introduced
  · split
    · exact waits
    · exact doGrant introduced

theorem finishPendingGrant : Steady cp cp.finishPendingGrant := by
  have cleared : Steady cp { cp with pendingGrantTarget := none } :=
    of_table rfl (fun _ waits => by cases waits) rfl rfl (List.append_nil _).symm
      fun _ member => absurd member List.not_mem_nil
  unfold ControlPlane.finishPendingGrant
  dsimp only
  split
  · exact cleared
  · rename_i idx _
    split
    · exact cleared
    · rename_i able
      refine cleared.trans (doGrant ?_)
      simp only [Bool.or_eq_true, not_or, Bool.not_eq_true, Bool.not_eq_false'] at able
      refine ⟨able.1, fun connected => ?_⟩
      rw [connected] at able
      cases able.2

theorem handleStopped : Steady cp (cp.handleStopped idx) := by
  unfold ControlPlane.handleStopped
  split
  · exact refl
  · refine (reclaimEviction cp idx).trans (trans ?_ finishPendingGrant)
    split
    · exact of_table rfl (fun _ => .inl) rfl rfl (List.append_nil _).symm
        fun _ member => absurd member List.not_mem_nil
    · exact refl

theorem maybeGrantNextQueued (clock : Timespec) : Steady cp (cp.maybeGrantNextQueued clock) := by
  unfold ControlPlane.maybeGrantNextQueued
  split
  · exact refl
  · split
    · exact refl
    · rename_i next found
      obtain ⟨inUse, queued⟩ := SessionTable.findNextQueued_queued found
      exact grantSlot ⟨inUse, by simp [queued]⟩ clock

theorem settleDisconnect : Steady cp (cp.settleDisconnect idx) := by
  simp only [ControlPlane.settleDisconnect]
  split
  · exact evictClient
  · split
    · refine (reclaimEviction cp idx).trans ?_
      split
      · exact of_table rfl (fun _ => .inl) rfl rfl (List.append_nil _).symm
          fun _ member => absurd member List.not_mem_nil
      · exact refl
    · exact refl

theorem handleActivateRequest (inUse : (cp.table.slots idx).inUse = true) (clock : Timespec) :
    Steady cp (cp.handleActivateRequest idx clock) := by
  unfold ControlPlane.handleActivateRequest
  split
  · exact refl
  · rename_i negotiated
    have introduced : (cp.table.slots idx).state ≠ .connected := by simp [not_not.mp negotiated]
    split
    · exact grantSlot ⟨inUse, introduced⟩ clock
    · let session :=
        { cp.table.slots idx with activateRequestedMonotonic := clock, state := .queued }
      have queued : Steady cp { cp with table := cp.table.setSlot idx session } :=
        setSlot rfl rfl rfl rfl (iff_of_false SessionState.noConfusion introduced)
      exact queued.trans (send _ _)

theorem handleReadyForRt (clock : Timespec) : Steady cp (cp.handleReadyForRt idx clock) := by
  unfold ControlPlane.handleReadyForRt
  split
  · exact refl
  · rename_i warm
    exact activate (by simp [not_not.mp warm]) clock

theorem handleGrantDecline (clock : Timespec) : Steady cp (cp.handleGrantDecline idx clock) := by
  unfold ControlPlane.handleGrantDecline
  split
  · exact refl
  · rename_i warm
    exact (setState (by simp [not_not.mp warm]) (by simp)).trans (maybeGrantNextQueued clock)

theorem handleHeartbeat (clock : Timespec) : Steady cp (cp.handleHeartbeat idx clock) := by
  unfold ControlPlane.handleHeartbeat
  split
  · exact refl
  · exact setSlot rfl rfl rfl rfl Iff.rfl

theorem handleListQuery : Steady cp cp.handleListQuery := by
  apply emit
  intro e member
  rw [List.mem_singleton.mp member]
  exact trivial

theorem handleSwitchQuery (id : ClientId) (clock : Timespec) :
    Steady cp (cp.handleSwitchQuery id clock) := by
  have answer (cp : ControlPlane) (ok : Bool) (reason : String) :
      Steady cp (cp.emit [.switchReply ok reason]) := by
    apply emit
    intro e member
    rw [List.mem_singleton.mp member]
    exact trivial
  unfold ControlPlane.handleSwitchQuery
  split
  · exact answer _ _ _
  · rename_i idx named
    split
    · exact answer _ _ _
    · split
      · exact answer _ _ _
      · rename_i able
        have introduced : (cp.table.slots idx).state ≠ .connected := by
          intro connected
          exact able (by simp [connected])
        exact (grantSlot ⟨SessionTable.findByClientId_inUse named, introduced⟩ clock).trans
          (answer _ _ _)

theorem tick (now clock : Timespec) : Steady cp (cp.tick now clock) := by
  have beats (cp : ControlPlane) : Steady cp (cp.checkHeartbeat now clock) := by
    have timed : Steady cp { cp with table := (cp.table.checkHeartbeatTimeouts now).2 } := by
      unfold SessionTable.checkHeartbeatTimeouts
      split
      · exact refl
      · split
        · exact deactivate cp _
        · exact refl
    unfold ControlPlane.checkHeartbeat
    dsimp only
    split
    · exact timed
    · rename_i idx _
      have told (cp : ControlPlane) :
          Steady cp ((cp.evictClient.send idx .livenessTimeout).send idx .deactivate) :=
        (evictClient.trans (send _ _)).trans (send _ _)
      exact (timed.trans (told _)).trans (maybeGrantNextQueued clock)
  have expires (cp : ControlPlane) : Steady cp (cp.checkGrace now clock) := by
    unfold ControlPlane.checkGrace
    split
    · exact refl
    · rename_i idx evicting
      split
      · have freed : Steady cp { cp with evictingSlot := none } :=
          of_table rfl (fun _ => .inl) rfl rfl (List.append_nil _).symm
            fun _ member => absurd member List.not_mem_nil
        have reclaimed (cp : ControlPlane) : Steady cp
            { cp with table := (cp.table.markEvictionForced idx).reclaimEviction idx } :=
          (markEvictionForced cp idx).trans (reclaimEviction _ idx)
        exact (freed.trans (reclaimed _)).trans
          (finishPendingGrant.trans (maybeGrantNextQueued clock))
      · exact refl
  exact (beats cp).trans (expires _)

end Steady

/-- No session holds a dmabuf set. -/
def Unadopted (cp : ControlPlane) : Prop :=
  ∀ i, (cp.table.slots i).dmabufSet.valid = false

/-- One session is closed, and the others stay. -/
structure Leaves (idx : Slot) (cp cp' : ControlPlane) : Prop where
  gone : (cp'.table.slots idx).inUse = false
  inUse : ∀ i, i ≠ idx → (cp'.table.slots i).inUse = (cp.table.slots i).inUse
  ctrlFd : ∀ i, i ≠ idx → (cp'.table.slots i).ctrlFd = (cp.table.slots i).ctrlFd
  negotiatedMode : ∀ i, (cp'.table.slots i).negotiatedMode = (cp.table.slots i).negotiatedMode
  dmabufSet : ∀ i, (cp'.table.slots i).dmabufSet = (cp.table.slots i).dmabufSet
  connected : ∀ i, i ≠ idx →
    ((cp'.table.slots i).state = .connected ↔ (cp.table.slots i).state = .connected)
  pending : ∀ i, cp'.pendingGrantTarget = some i →
    i ≠ idx ∧ (cp.pendingGrantTarget = some i ∨ cp.Introduced i)
  supportedModes : cp'.supportedModes = cp.supportedModes
  dp : cp'.dp = cp.dp
  out : ∃ before after, cp'.out = cp.out ++ before ++ .close (cp.table.slots idx).ctrlFd :: after ∧
    ∀ e ∈ before ++ after, cp.Ordinary e

namespace Leaves

variable {cp cp' cp'' : ControlPlane} {idx : Slot}

/-- The socket is closed and the slot is freed. -/
theorem closeSlot (inUse : (cp.table.slots idx).inUse = true) (unadopted : cp.Unadopted)
    (waits : cp.pendingGrantTarget ≠ some idx) : Leaves idx cp (cp.closeSlot idx) := by
  have settled := Steady.deactivate cp idx
  have held : ((cp.table.deactivate idx).slots idx).dmabufSet.valid = false := by
    rw [show (cp.table.deactivate idx).slots idx =
      ({ cp with table := cp.table.deactivate idx } : ControlPlane).table.slots idx from rfl,
      settled.dmabufSet]
    exact unadopted idx
  have removed : cp.table.remove idx =
      ((cp.table.deactivate idx).setSlot idx { (cp.table.deactivate idx).slots idx with
        inUse := false, ctrlFd := -1 }, []) := by
    simp [SessionTable.remove, inUse, held]
  have freed (i : Slot) : (cp.closeSlot idx).table.slots i =
      Function.update (cp.table.deactivate idx).slots idx
        { (cp.table.deactivate idx).slots idx with inUse := false, ctrlFd := -1 } i := by
    show (cp.table.remove idx).1.slots i = _
    rw [removed]
    rfl
  have other (i : Slot) (ne : i ≠ idx) :
      (cp.closeSlot idx).table.slots i = (cp.table.deactivate idx).slots i := by
    rw [freed, Function.update_of_ne ne]
  have here : (cp.closeSlot idx).table.slots idx =
      { (cp.table.deactivate idx).slots idx with inUse := false, ctrlFd := -1 } := by
    rw [freed, Function.update_self]
  refine ⟨by rw [here], ?_, ?_, ?_, ?_, ?_, ?_, rfl, rfl, [], [], ?_, ?_⟩
  · intro i ne
    rw [other i ne]
    exact settled.inUse i
  · intro i ne
    rw [other i ne]
    exact settled.ctrlFd i
  · intro i
    by_cases same : i = idx
    · subst same
      rw [here]
      exact settled.negotiatedMode i
    · rw [other i same]
      exact settled.negotiatedMode i
  · intro i
    by_cases same : i = idx
    · subst same
      rw [here]
      exact settled.dmabufSet i
    · rw [other i same]
      exact settled.dmabufSet i
  · intro i ne
    rw [other i ne]
    exact settled.connected i
  · intro i target
    refine ⟨?_, .inl target⟩
    rintro rfl
    exact waits target
  · show (cp.emit [.close _]).out ++ (cp.table.remove idx).2.map Effect.close = _
    rw [removed]
    simp [emit]
  · exact fun _ member => absurd member List.not_mem_nil

theorem of_steady (first : Steady cp cp') (second : Leaves idx cp' cp'') :
    Leaves idx cp cp'' where
  gone := second.gone
  inUse i ne := (second.inUse i ne).trans (first.inUse i)
  ctrlFd i ne := (second.ctrlFd i ne).trans (first.ctrlFd i)
  negotiatedMode i := (second.negotiatedMode i).trans (first.negotiatedMode i)
  dmabufSet i := (second.dmabufSet i).trans (first.dmabufSet i)
  connected i ne := (second.connected i ne).trans (first.connected i)
  pending i waits := by
    obtain ⟨ne, before | introduced⟩ := second.pending i waits
    · exact ⟨ne, first.pending i before⟩
    · exact ⟨ne, .inr ((first.introduced_iff i).mp introduced)⟩
  supportedModes := second.supportedModes.trans first.supportedModes
  dp := second.dp.trans first.dp
  out := by
    obtain ⟨effects, out, ordinary⟩ := first.out
    obtain ⟨before, after, out', ordinary'⟩ := second.out
    refine ⟨effects ++ before, after, ?_, fun e member => ?_⟩
    · rw [out', out, first.ctrlFd]
      simp
    · rw [List.append_assoc] at member
      rcases List.mem_append.mp member with old | new
      · exact ordinary e old
      · exact (first.ordinary_iff e).mp (ordinary' e new)

theorem trans_steady (first : Leaves idx cp cp') (second : Steady cp' cp'') :
    Leaves idx cp cp'' where
  gone := (second.inUse idx).trans first.gone
  inUse i ne := (second.inUse i).trans (first.inUse i ne)
  ctrlFd i ne := (second.ctrlFd i).trans (first.ctrlFd i ne)
  negotiatedMode i := (second.negotiatedMode i).trans (first.negotiatedMode i)
  dmabufSet i := (second.dmabufSet i).trans (first.dmabufSet i)
  connected i ne := (second.connected i).trans (first.connected i ne)
  pending i waits := by
    rcases second.pending i waits with before | introduced
    · exact first.pending i before
    · have ne : i ≠ idx := by
        rintro rfl
        exact absurd introduced.1 (by simp [first.gone])
      refine ⟨ne, .inr ?_⟩
      rw [Introduced, first.inUse i ne, ne_eq, first.connected i ne] at introduced
      exact introduced
  supportedModes := second.supportedModes.trans first.supportedModes
  dp := second.dp.trans first.dp
  out := by
    obtain ⟨before, after, out, ordinary⟩ := first.out
    obtain ⟨effects, out', ordinary'⟩ := second.out
    refine ⟨before, after ++ effects, ?_, fun e member => ?_⟩
    · rw [out', out]
      simp
    · have mine : cp'.Ordinary e → cp.Ordinary e := by
        cases e <;> simp [Ordinary, first.negotiatedMode, first.dp]
      rw [← List.append_assoc] at member
      rcases List.mem_append.mp member with old | new
      · exact ordinary e old
      · exact mine (ordinary' e new)

/-- `handle_disconnect` on a session. -/
theorem handleDisconnect (inUse : (cp.table.slots idx).inUse = true) (unadopted : cp.Unadopted)
    (clock : Timespec) : Leaves idx cp (cp.handleDisconnect idx clock) := by
  have ready : Steady cp ((cp.settleDisconnect idx).withdraw idx) :=
    Steady.settleDisconnect.trans Steady.withdraw
  have waits : ((cp.settleDisconnect idx).withdraw idx).pendingGrantTarget ≠ some idx := by
    unfold withdraw
    split
    · simp
    · assumption
  have closed : Leaves idx cp (((cp.settleDisconnect idx).withdraw idx).closeSlot idx) :=
    of_steady ready (closeSlot ((ready.inUse idx).trans inUse)
      (fun i => by rw [ready.dmabufSet i]; exact unadopted i) waits)
  unfold ControlPlane.handleDisconnect
  dsimp only
  split
  · exact closed.trans_steady
      (Steady.finishPendingGrant.trans (Steady.maybeGrantNextQueued clock))
  · exact closed

/-- The state of the session that goes does not matter. -/
theorem of_setState {state : SessionState}
    (leaves : Leaves idx { cp with table := cp.table.setState idx state } cp') :
    Leaves idx cp cp' := by
  have other (i : Slot) (ne : i ≠ idx) : (cp.table.setState idx state).slots i = cp.table.slots i :=
    Function.update_of_ne ne _ _
  have here : (cp.table.setState idx state).slots idx = { cp.table.slots idx with state } :=
    Function.update_self ..
  have all (P : Session → Session → Prop) (refl : ∀ session, P session session)
      (changed : P { cp.table.slots idx with state } (cp.table.slots idx)) (i : Slot) :
      P ((cp.table.setState idx state).slots i) (cp.table.slots i) := by
    by_cases same : i = idx
    · rw [same, here]
      exact changed
    · rw [other i same]
      exact refl _
  have mode := all (fun a b => a.negotiatedMode = b.negotiatedMode) (fun _ => rfl) rfl
  have set := all (fun a b => a.dmabufSet = b.dmabufSet) (fun _ => rfl) rfl
  refine ⟨leaves.gone, fun i ne => ?_, fun i ne => ?_, fun i => ?_, fun i => ?_, fun i ne => ?_,
    fun i waits => ?_, leaves.supportedModes, leaves.dp, ?_⟩
  · rw [leaves.inUse i ne]
    exact congrArg Session.inUse (other i ne)
  · rw [leaves.ctrlFd i ne]
    exact congrArg Session.ctrlFd (other i ne)
  · exact (leaves.negotiatedMode i).trans (mode i)
  · exact (leaves.dmabufSet i).trans (set i)
  · exact (leaves.connected i ne).trans (by rw [← other i ne])
  · obtain ⟨ne, before | introduced⟩ := leaves.pending i waits
    · exact ⟨ne, .inl before⟩
    · refine ⟨ne, .inr ?_⟩
      rw [Introduced, ← other i ne]
      exact introduced
  · obtain ⟨before, after, out, ordinary⟩ := leaves.out
    refine ⟨before, after, ?_, fun e member => ?_⟩
    · rw [out]
      show _ = _ ++ Effect.close (cp.table.slots idx).ctrlFd :: after
      rw [show ((cp.table.setState idx state).slots idx).ctrlFd = (cp.table.slots idx).ctrlFd by
        rw [here]]
    · have mine := ordinary e member
      cases e with
      | setMode width height =>
          obtain ⟨attached, i, sized⟩ := mine
          refine ⟨attached, i, ?_⟩
          rw [← mode i]
          exact sized
      | _ => exact mine

theorem reject (inUse : (cp.table.slots idx).inUse = true) (unadopted : cp.Unadopted)
    (clock : Timespec) : Leaves idx cp (cp.reject idx clock) := by
  have rest (i : Slot) : ((cp.table.setState idx .rejected).slots i).dmabufSet =
      (cp.table.slots i).dmabufSet := by
    by_cases same : i = idx
    · subst same
      simp [SessionTable.setState, SessionTable.setSlot]
    · simp [SessionTable.setState, SessionTable.setSlot, same]
  refine of_setState (handleDisconnect ?_ (fun i => ?_) clock)
  · simpa [SessionTable.setState, SessionTable.setSlot] using inUse
  · exact (congrArg DmabufSet.valid (rest i)).trans (unadopted i)

end Leaves

/-- `handle_connect` frees the slot or settles its mode. -/
theorem handleConnect_cases {cp : ControlPlane} {idx : Slot} (connect : ConnectMsg)
    (inUse : (cp.table.slots idx).inUse = true) (unadopted : cp.Unadopted) (clock : Timespec) :
    Leaves idx cp (cp.handleConnect idx connect clock) ∨
      ∃ chosen, cp.negotiateMode connect.offered = some chosen ∧
        cp.handleConnect idx connect clock =
          { cp.send idx (.mode true chosen) with
            table := cp.table.setSlot idx (negotiated (cp.table.slots idx) connect chosen) } := by
  have refused (msg : ServerMsg) : Leaves idx cp ((cp.send idx msg).reject idx clock) := by
    have told : Steady cp (cp.send idx msg) := .send idx msg
    refine .of_steady told (.reject ?_ ?_ clock)
    · exact (told.inUse idx).trans inUse
    · exact fun i => (congrArg DmabufSet.valid (told.dmabufSet i)).trans (unadopted i)
  unfold handleConnect
  split
  · exact .inl (refused _)
  · split
    · exact .inl (refused _)
    · rename_i chosen found
      exact .inr ⟨chosen, found, rfl⟩

theorem emit_emit (cp : ControlPlane) (first second : List Effect) :
    (cp.emit first).emit second = cp.emit (first ++ second) := by
  simp only [emit, List.append_assoc]

/-- `handle_dmabuf_announce` closes the descriptors, whether it takes the set over first or
not, and refuses. -/
theorem handleDmabufAnnounce_eq (cp : ControlPlane) (idx : Slot) (msg : DmabufAnnounceMsg)
    (fds : List Int) :
    cp.handleDmabufAnnounce idx msg fds =
      (cp.emit ((closeFds (fds.take numBuffers)).map .close)).send idx
        (.dmabufAck false "GPU dmabuf import not implemented in this build") := by
  rw [← DmabufSet.fromAnnounce_released msg fds, List.map_append, ← emit_emit]
  unfold handleDmabufAnnounce
  generalize DmabufSet.fromAnnounce msg fds = result
  obtain ⟨accepted, set, closed⟩ := result
  cases accepted with
  | true => rfl
  | false => simp [emit]

/-- A session as `wisps_session_table_add` fills it in. -/
def newcomer (fd : Int) : Session :=
  { Session.zero with inUse := true, ctrlFd := fd, state := .connected, payloadKind := .pixels }

/-- What handling an event does to the sessions and their sockets. -/
inductive Changes (cp : ControlPlane) : Event → ControlPlane → Prop where
  | steady {ev : Event} {cp' : ControlPlane} (listens : ∀ fd, ev = .accept fd → fd < 0)
      (stays : ∀ idx clock, ev ≠ .hangup idx clock) (steady : Steady cp cp') : Changes cp ev cp'
  | joined {fd : Int} {idx : Slot} (valid : 0 ≤ fd) (free : (cp.table.slots idx).inUse = false) :
      Changes cp (.accept fd) { cp with table := cp.table.setSlot idx (newcomer fd) }
  | refused {fd : Int} (valid : 0 ≤ fd) (full : ∀ i, (cp.table.slots i).inUse = true) :
      Changes cp (.accept fd) (cp.emit [.close fd])
  | negotiated {idx : Slot} {type : UInt8} {payload : List UInt8} {fds : List Int}
      {clock : Timespec} {connect : ConnectMsg} {chosen : RenderMode}
      (inUse : (cp.table.slots idx).inUse = true)
      (found : cp.negotiateMode connect.offered = some chosen) :
      Changes cp (.readable idx (.message type payload fds) clock)
        { cp.send idx (.mode true chosen) with
          table := cp.table.setSlot idx (negotiated (cp.table.slots idx) connect chosen) }
  | left {ev : Event} {idx : Slot} {cp' : ControlPlane}
      (own : (∃ received clock, ev = .readable idx received clock) ∨
        ∃ clock, ev = .hangup idx clock)
      (inUse : (cp.table.slots idx).inUse = true) (leaves : Leaves idx cp cp') : Changes cp ev cp'
  | announced {idx : Slot} {type : UInt8} {payload : List UInt8} {fds : List Int}
      {clock : Timespec} {msg : ServerMsg} (named : MsgKind.ofByte type = some .dmabufAnnounce)
      (whole : payload.length = DmabufAnnounceMsg.size) :
      Changes cp (.readable idx (.message type payload fds) clock)
        ((cp.emit ((closeFds (fds.take numBuffers)).map .close)).send idx msg)

theorem changes_of_readable {cp : ControlPlane} {idx : Slot}
    (inUse : (cp.table.slots idx).inUse = true) (unadopted : cp.Unadopted) (received : Received)
    (clock : Timespec) :
    Changes cp (.readable idx received clock) (cp.handleReadable idx received clock) := by
  have steady {cp' : ControlPlane} (steady : Steady cp cp') :
      Changes cp (.readable idx received clock) cp' :=
    .steady (fun _ same => by cases same) (fun _ _ same => by cases same) steady
  have left {cp' : ControlPlane} (leaves : Leaves idx cp cp') :
      Changes cp (.readable idx received clock) cp' :=
    .left (.inl ⟨_, _, rfl⟩) inUse leaves
  cases received with
  | closed => exact left (Leaves.handleDisconnect inUse unadopted clock)
  | oversized => exact steady .refl
  | message type payload fds =>
      simp only [handleReadable]
      split
      · rcases handleConnect_cases (connectOf payload) inUse unadopted clock with
          leaves | ⟨chosen, found, same⟩
        · exact left leaves
        · rw [same]
          exact .negotiated inUse found
      · exact steady (Steady.handleActivateRequest inUse clock)
      · exact steady (Steady.handleReadyForRt clock)
      · exact steady (Steady.handleGrantDecline clock)
      · exact steady Steady.handleStopped
      · exact steady (Steady.handleHeartbeat clock)
      · exact left (Leaves.handleDisconnect inUse unadopted clock)
      · rename_i named
        split
        · exact steady .refl
        · rename_i whole
          rw [handleDmabufAnnounce_eq]
          exact .announced named (not_not.mp whole)
      · exact steady .refl

/-- Every event is handled in one of these ways. -/
theorem changes_of_handle {cp : ControlPlane} {ev : Event} (on : ev.enabled cp = true)
    (unadopted : cp.Unadopted) : Changes cp ev (cp.handle ev) := by
  cases ev with
  | accept fd =>
      show Changes cp _ (cp.handleAccept fd)
      unfold handleAccept
      split
      · rename_i invalid
        exact .steady (fun _ same => by cases same; exact invalid) (fun _ _ same => by cases same)
          .refl
      · rename_i valid
        have valid : 0 ≤ fd := Int.not_lt.mp valid
        split
        · rename_i full
          refine .refused valid fun i => ?_
          simp only [SessionTable.add, Option.map_eq_none_iff, SessionTable.firstFree,
            List.find?_eq_none] at full
          simpa using full i (List.mem_finRange i)
        · rename_i added
          obtain ⟨i, vacant, same⟩ := Option.map_eq_some_iff.mp added
          cases same
          exact .joined valid (SessionTable.firstFree_spec vacant)
  | readable idx received clock => exact changes_of_readable on unadopted received clock
  | hangup idx clock =>
      exact .left (.inr ⟨_, rfl⟩) on (Leaves.handleDisconnect on unadopted clock)
  | list =>
      exact .steady (fun _ same => by cases same) (fun _ _ same => by cases same)
        Steady.handleListQuery
  | switch id clock =>
      exact .steady (fun _ same => by cases same) (fun _ _ same => by cases same)
        (Steady.handleSwitchQuery id clock)
  | tick now clock =>
      exact .steady (fun _ same => by cases same) (fun _ _ same => by cases same)
        (Steady.tick now clock)

end ControlPlane

end Wisp
