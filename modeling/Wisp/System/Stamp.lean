import Wisp.Control.Event

/-!
# The effects of a handler are stamped

Read in order, the effects of one handler increment the generation at every
`wisps_evict_client`, and every ACTIVATE_GRANT among them carries the generation of
that moment. Between two increments at most one grant goes out. This holds in every
state of the control plane, coherent or not, because `do_grant` is the only sender of
grants and starts with an increment of its own.
-/

namespace Wisp

namespace Effect

/-- Follow the generation through one effect, and whether it has been granted.
`none` is a grant that carries another generation, or the same one again. -/
def stamp : UInt32 × Bool → Effect → Option (UInt32 × Bool)
  | (generation, _), .evictClient => some (generation + 1, false)
  | (generation, used), .send _ _ (.activateGrant granted _) =>
      if granted = generation ∧ used = false then some (generation, true) else none
  | (generation, used), _ => some (generation, used)

/-- Neither an increment nor a grant. -/
def plain : Effect → Bool
  | .evictClient | .send _ _ (.activateGrant _ _) => false
  | _ => true

theorem stamp_of_plain {effect : Effect} (h : effect.plain = true) (reading : UInt32 × Bool) :
    stamp reading effect = some reading := by
  cases effect with
  | evictClient => cases h
  | send idx fd msg =>
      cases msg with
      | activateGrant => cases h
      | _ => rfl
  | _ => rfl

theorem foldlM_stamp_of_plain {effects : List Effect} (h : ∀ e ∈ effects, e.plain = true)
    (reading : UInt32 × Bool) : effects.foldlM stamp reading = some reading := by
  induction effects with
  | nil => rfl
  | cons effect rest ih =>
      rw [List.foldlM_cons, stamp_of_plain (h effect (by simp))]
      exact ih fun e member => h e (by simp [member])

end Effect

open Effect

namespace ControlPlane

/-- Whatever was granted before, the effects added from one state to the other are
stamped, starting from the generation of the first and ending with that of the second. -/
def Emits (cp cp' : ControlPlane) : Prop :=
  ∀ used, ∃ effects used', cp'.out = cp.out ++ effects ∧
    effects.foldlM stamp (cp.ring.generation, used) = some (cp'.ring.generation, used')

namespace Emits

variable {cp cp' cp'' : ControlPlane}

theorem of_eq (out : cp'.out = cp.out) (ring : cp'.ring = cp.ring) : Emits cp cp' := by
  intro used
  refine ⟨[], used, by simp [out], ?_⟩
  rw [ring]
  rfl

theorem refl (cp : ControlPlane) : Emits cp cp :=
  of_eq rfl rfl

theorem trans (first : Emits cp cp') (second : Emits cp' cp'') : Emits cp cp'' := by
  intro used
  obtain ⟨effects, middle, out, stamped⟩ := first used
  obtain ⟨effects', last, out', stamped'⟩ := second middle
  refine ⟨effects ++ effects', last, by rw [out', out, List.append_assoc], ?_⟩
  rw [List.foldlM_append, stamped]
  exact stamped'

theorem emit {effects : List Effect} (first : Emits cp cp')
    (plain : ∀ e ∈ effects, e.plain = true) : Emits cp (cp'.emit effects) :=
  first.trans fun used => ⟨effects, used, rfl, foldlM_stamp_of_plain plain _⟩

theorem send {idx : Slot} {msg : ServerMsg} (first : Emits cp cp')
    (plain : ∀ fd, (Effect.send idx fd msg).plain = true) : Emits cp (cp'.send idx msg) :=
  first.emit (by simpa using plain _)

theorem ite {p : Prop} [Decidable p] (yes : p → Emits cp cp') (no : ¬ p → Emits cp cp'') :
    Emits cp (if p then cp' else cp'') := by
  split
  · exact yes ‹_›
  · exact no ‹_›

end Emits

variable (cp : ControlPlane) (idx : Slot) (clock : Timespec)

/-- Closing descriptors is plain. -/
theorem plain_closes (fds : List Int) : ∀ e ∈ fds.map Effect.close, e.plain = true := by
  simp [plain]

theorem emits_evictClient : Emits cp cp.evictClient := by
  intro used
  refine ⟨_, false, rfl, ?_⟩
  split <;> rfl

/-- A grant right after an increment, the only way in which `do_grant` sends one. -/
theorem emits_evict_grant (table : SessionTable) (frameFd : Int) :
    Emits cp (send { cp.evictClient with table } idx
      (.activateGrant cp.evictClient.ring.generation frameFd)) := by
  intro used
  refine ⟨_, true, List.append_assoc _ _ _, ?_⟩
  rw [List.foldlM_append]
  cases cp.dp <;> simp [stamp, send, evictClient, emit]

theorem emits_doGrant : Emits cp (cp.doGrant idx) := by
  have granted := emits_evict_grant cp idx
    (cp.evictClient.table.grant idx cp.evictClient.ring.generation) cp.frameFd
  unfold doGrant
  apply Emits.ite
  · intro _
    exact granted.emit (by simp [plain])
  · intro _
    exact granted

theorem emits_beginEviction (target : Slot) : Emits cp (cp.beginEviction idx target clock) := by
  have announced : Emits cp (send { cp with table := cp.table.beginEviction idx } idx
      (.evictPending (UInt32.ofNat evictGraceMs))) :=
    Emits.send (.of_eq rfl rfl) fun _ => rfl
  exact announced.trans (.of_eq rfl rfl)

theorem emits_finishPendingGrant : Emits cp cp.finishPendingGrant := by
  unfold finishPendingGrant
  dsimp only
  split
  · exact .of_eq rfl rfl
  · apply Emits.ite
    · intro _
      exact .of_eq rfl rfl
    · intro _
      exact Emits.trans (.of_eq rfl rfl) (emits_doGrant _ _)

theorem emits_grantSlot : Emits cp (cp.grantSlot idx clock) := by
  have free : Emits cp
      (if cp.table.rtSlotTaken then { cp with pendingGrantTarget := some idx }
        else cp.doGrant idx) :=
    .ite (fun _ => .of_eq rfl rfl) fun _ => emits_doGrant cp idx
  unfold grantSlot
  split
  · exact .ite (fun _ => emits_beginEviction cp _ clock idx) fun _ => free
  · exact free

theorem emits_maybeGrantNextQueued : Emits cp (cp.maybeGrantNextQueued clock) := by
  unfold maybeGrantNextQueued
  apply Emits.ite
  · intro _
    exact .refl cp
  · intro _
    split
    · exact .refl cp
    · exact emits_grantSlot cp _ clock

theorem emits_handleStopped : Emits cp (cp.handleStopped idx) := by
  unfold handleStopped
  apply Emits.ite
  · intro _
    exact .refl cp
  · intro _
    refine Emits.trans ?_ (emits_finishPendingGrant _)
    exact .ite (fun _ => .of_eq rfl rfl) fun _ => .of_eq rfl rfl

theorem emits_settleDisconnect : Emits cp (cp.settleDisconnect idx) := by
  unfold settleDisconnect
  refine .ite (fun _ => emits_evictClient cp) fun _ => .ite (fun _ => ?_) fun _ => .refl cp
  exact .ite (fun _ => .of_eq rfl rfl) fun _ => .of_eq rfl rfl

theorem emits_withdraw : Emits cp (cp.withdraw idx) :=
  .ite (fun _ => .of_eq rfl rfl) fun _ => .refl cp

theorem emits_closeSlot : Emits cp (cp.closeSlot idx) := by
  have closed : Emits cp (cp.emit [.close (cp.table.slots idx).ctrlFd]) :=
    (Emits.refl cp).emit (by simp [plain])
  exact Emits.emit (closed.trans (.of_eq rfl rfl)) (plain_closes _)

theorem emits_handleDisconnect : Emits cp (cp.handleDisconnect idx clock) := by
  have closed : Emits cp (((cp.settleDisconnect idx).withdraw idx).closeSlot idx) :=
    ((emits_settleDisconnect cp idx).trans (emits_withdraw _ idx)).trans (emits_closeSlot _ idx)
  unfold handleDisconnect
  apply Emits.ite
  · intro _
    exact (closed.trans (emits_finishPendingGrant _)).trans (emits_maybeGrantNextQueued _ clock)
  · intro _
    exact closed

theorem emits_reject : Emits cp (cp.reject idx clock) :=
  Emits.trans (.of_eq rfl rfl) (emits_handleDisconnect _ idx clock)

theorem emits_handleConnect (connect : ConnectMsg) :
    Emits cp (cp.handleConnect idx connect clock) := by
  have answered (msg : ServerMsg) (other : ∀ fd, (Effect.send idx fd msg).plain = true) :
      Emits cp (cp.send idx msg) := (Emits.refl cp).send other
  unfold handleConnect
  apply Emits.ite
  · intro _
    exact (answered _ fun _ => rfl).trans (emits_reject _ idx clock)
  · intro _
    split
    · exact (answered _ fun _ => rfl).trans (emits_reject _ idx clock)
    · exact (answered _ fun _ => rfl).trans (.of_eq rfl rfl)

theorem emits_handleActivateRequest : Emits cp (cp.handleActivateRequest idx clock) := by
  unfold handleActivateRequest
  refine .ite (fun _ => .refl cp) fun _ => .ite (fun _ => emits_grantSlot cp idx clock) fun _ => ?_
  exact Emits.send (.of_eq rfl rfl) fun _ => rfl

theorem emits_handleGrantDecline : Emits cp (cp.handleGrantDecline idx clock) :=
  .ite (fun _ => .refl cp) fun _ =>
    Emits.trans (.of_eq rfl rfl) (emits_maybeGrantNextQueued _ clock)

theorem emits_handleDmabufAnnounce (msg : DmabufAnnounceMsg) (fds : List Int) :
    Emits cp (cp.handleDmabufAnnounce idx msg fds) := by
  have closed := (Emits.refl cp).emit (plain_closes (DmabufSet.fromAnnounce msg fds).2.2)
  refine Emits.send (.ite (fun _ => ?_) fun _ => closed) fun _ => rfl
  exact closed.emit (plain_closes _)

theorem emits_handleReadable (received : Received) :
    Emits cp (cp.handleReadable idx received clock) := by
  cases received with
  | closed => exact emits_handleDisconnect cp idx clock
  | oversized => exact .refl cp
  | message type payload fds =>
      simp only [handleReadable]
      split
      · exact emits_handleConnect cp idx clock _
      · exact emits_handleActivateRequest cp idx clock
      · exact .ite (fun _ => .refl cp) fun _ => .of_eq rfl rfl
      · exact emits_handleGrantDecline cp idx clock
      · exact emits_handleStopped cp idx
      · exact .ite (fun _ => .refl cp) fun _ => .of_eq rfl rfl
      · exact emits_handleDisconnect cp idx clock
      · exact .ite (fun _ => .refl cp) fun _ => emits_handleDmabufAnnounce cp idx _ fds
      · exact .refl cp

theorem emits_handleAccept (fd : Int) : Emits cp (cp.handleAccept fd) := by
  unfold handleAccept
  apply Emits.ite
  · intro _
    exact .refl cp
  · intro _
    split
    · exact (Emits.refl cp).emit (by simp [plain])
    · exact .of_eq rfl rfl

theorem emits_handleSwitchQuery (id : ClientId) : Emits cp (cp.handleSwitchQuery id clock) := by
  have answered {cp' : ControlPlane} (ok : Bool) (reason : String) (before : Emits cp cp') :
      Emits cp (cp'.emit [.switchReply ok reason]) := before.emit (by simp [plain])
  unfold handleSwitchQuery
  split
  · exact answered _ _ (.refl cp)
  · refine .ite (fun _ => answered _ _ (.refl cp)) fun _ =>
      .ite (fun _ => answered _ _ (.refl cp)) fun _ => ?_
    exact answered _ _ (emits_grantSlot cp _ clock)

theorem emits_checkHeartbeat (now : Timespec) : Emits cp (cp.checkHeartbeat now clock) := by
  unfold checkHeartbeat
  dsimp only
  split
  · exact .of_eq rfl rfl
  · refine Emits.trans (Emits.send (Emits.send ?_ fun _ => rfl) fun _ => rfl)
      (emits_maybeGrantNextQueued _ clock)
    exact Emits.trans (.of_eq rfl rfl) (emits_evictClient _)

theorem emits_checkGrace (now : Timespec) : Emits cp (cp.checkGrace now clock) := by
  unfold checkGrace
  split
  · exact .refl cp
  · refine .ite (fun _ => ?_) fun _ => .refl cp
    refine Emits.trans (Emits.trans ?_ (emits_finishPendingGrant _))
      (emits_maybeGrantNextQueued _ clock)
    exact .of_eq rfl rfl

/-- Every event, in every state. -/
theorem emits_handle (ev : Event) : Emits cp (cp.handle ev) := by
  cases ev with
  | accept fd => exact emits_handleAccept cp fd
  | readable idx received clock => exact emits_handleReadable cp idx clock received
  | hangup idx clock => exact emits_handleDisconnect cp idx clock
  | list => exact (Emits.refl cp).emit (by simp [plain])
  | switch id clock => exact emits_handleSwitchQuery cp clock id
  | tick now clock =>
      exact (emits_checkHeartbeat cp clock now).trans (emits_checkGrace _ clock now)

/-- The effects of one step of the control thread are stamped from the generation it
starts with, whether that one has been granted or not. -/
theorem stamped_of_step {cp cp' : ControlPlane} {ev : Event} (taken : cp.step ev = some cp')
    (used : Bool) : (cp'.out.foldlM stamp (cp.ring.generation, used)).isSome = true := by
  obtain ⟨-, rfl⟩ := step_eq_some.mp taken
  obtain ⟨effects, used', out, stamped⟩ := emits_handle cp.quiesce ev used
  rw [out]
  change (([] ++ effects).foldlM stamp (cp.quiesce.ring.generation, used)).isSome = true
  rw [List.nil_append, stamped]
  rfl

end ControlPlane

end Wisp
