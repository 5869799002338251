import Mathlib.Order.WellFounded
import Wisp.Control.Steady

/-!
# What a CONNECT decides

A session is in state CONNECTED from `accept` to its first CONNECT. In that time it is nothing
but a socket in a slot: it is not the pending target and holds no buffers, so a refusal frees
the slot and touches nothing else.

Three layers decide. `handle_readable` leaves a CONNECT of a wrong length or with too many
modes without any, `handle_connect` compares magic and major version, and `negotiate_mode`
looks for the first offered mode that is supported.
-/

namespace Wisp

open Transition System

namespace ControlPlane

variable {cp cp' start next : ControlPlane} {ev : Event} {idx : Slot}
variable {trace : List (ControlPlane × Event)}

/-- No session holds buffers, and the pending target is past its CONNECT. -/
structure Orderly (cp : ControlPlane) : Prop where
  unadopted : cp.Unadopted
  pending : ∀ i, cp.pendingGrantTarget = some i → cp.Introduced i

section Invariant

variable {ring : Ring} {frameFd : Int} {dp : Bool} {supportedModes : List RenderMode}

theorem orderly_of_init (created : init ring frameFd dp supportedModes = some start) :
    start.Orderly := by
  unfold init at created
  split at created
  · cases created
  · cases created
    exact ⟨fun _ => rfl, fun _ waits => by cases waits⟩

end Invariant

theorem Orderly.quiesce (orderly : cp.Orderly) : cp.quiesce.Orderly :=
  ⟨orderly.unadopted, orderly.pending⟩

theorem orderly_of_changes (orderly : cp.Orderly) (changes : Changes cp ev cp') : cp'.Orderly := by
  cases changes with
  | steady _ _ steady =>
      refine ⟨fun i => ?_, fun i waits => ?_⟩
      · rw [steady.dmabufSet]
        exact orderly.unadopted i
      · rw [steady.introduced_iff]
        exact (steady.pending i waits).elim (orderly.pending i) id
  | @joined fd j valid free =>
      refine ⟨fun i => ?_, fun i waits => ?_⟩
      · by_cases same : i = j
        · simp [SessionTable.setSlot, same, newcomer, Session.zero, DmabufSet.zero]
        · simpa [SessionTable.setSlot, same] using orderly.unadopted i
      · have introduced := orderly.pending i waits
        have other : i ≠ j := by
          rintro rfl
          exact absurd introduced.1 (by simp [free])
        simpa [Introduced, SessionTable.setSlot, other] using introduced
  | refused => exact ⟨orderly.unadopted, orderly.pending⟩
  | @negotiated j type payload fds clock connect chosen inUse found =>
      refine ⟨fun i => ?_, fun i waits => ?_⟩
      · by_cases same : i = j
        · subst same
          simpa [SessionTable.setSlot, negotiated] using orderly.unadopted i
        · simpa [SessionTable.setSlot, same] using orderly.unadopted i
      · by_cases same : i = j
        · subst same
          simp [Introduced, SessionTable.setSlot, negotiated, inUse]
        · simpa [Introduced, SessionTable.setSlot, same] using orderly.pending i waits
  | @left _ j _ own inUse leaves =>
      refine ⟨fun i => ?_, fun i waits => ?_⟩
      · rw [leaves.dmabufSet]
        exact orderly.unadopted i
      · obtain ⟨other, before⟩ := leaves.pending i waits
        have introduced := before.elim (orderly.pending i) id
        rw [Introduced, leaves.inUse i other, ne_eq, leaves.connected i other]
        exact introduced
  | announced => exact ⟨orderly.unadopted, orderly.pending⟩

theorem orderly_of_step (orderly : cp.Orderly) (taken : controlPlane.step cp ev = some next) :
    next.Orderly := by
  obtain ⟨on, rfl⟩ := step_eq_some.mp taken
  exact orderly_of_changes orderly.quiesce (changes_of_handle on orderly.quiesce.unadopted)

/-- The two nested loops look for the first offered mode that is supported. -/
theorem negotiateMode_eq (cp : ControlPlane) (offered : List RenderMode) :
    cp.negotiateMode offered = offered.find? (· ∈ cp.supportedModes) := by
  have equal (o s : RenderMode) :
      (o.width == s.width && o.height == s.height && o.fps == s.fps) = true ↔ o = s := by
    obtain ⟨width, height, fps⟩ := o
    obtain ⟨width', height', fps'⟩ := s
    simp [and_assoc]
  have inner (o : RenderMode) : (cp.supportedModes.find? fun s =>
      o.width == s.width && o.height == s.height && o.fps == s.fps) =
        if o ∈ cp.supportedModes then some o else none := by
    split
    · rename_i supported
      cases found : cp.supportedModes.find? _ with
      | none =>
          have none := List.find?_eq_none.mp found o supported
          exact absurd ((equal o o).mpr rfl) none
      | some s =>
          have same := List.find?_some found
          rw [(equal o s).mp same]
    · rename_i unsupported
      refine List.find?_eq_none.mpr fun s supported same => ?_
      rw [(equal o s).mp same] at unsupported
      exact unsupported supported
  simp only [negotiateMode, inner]
  induction offered with
  | nil => rfl
  | cons o rest ih =>
      by_cases supported : o ∈ cp.supportedModes
      · simp [supported]
      · simpa [supported] using ih

/-- The mode at this place is offered and supported. -/
def Matches (cp : ControlPlane) (connect : ConnectMsg) (i : Fin maxModes) : Prop :=
  i.val < connect.numModes.toNat ∧ connect.modes i ∈ cp.supportedModes

instance (cp : ControlPlane) (connect : ConnectMsg) (i : Fin maxModes) :
    Decidable (cp.Matches connect i) :=
  inferInstanceAs (Decidable (_ ∧ _))

/-- A payload that a CONNECTED session is admitted with. -/
structure Acceptable (cp : ControlPlane) (payload : List UInt8) : Prop where
  length : payload.length = ConnectMsg.size
  magic : (ConnectMsg.ofBytes payload).protocolMagic = protocolMagic
  major : (ConnectMsg.ofBytes payload).protocolMajor = protocolVersionMajor
  numModes : (ConnectMsg.ofBytes payload).numModes.toNat ≤ maxModes
  mode : ∃ i, cp.Matches (ConnectMsg.ofBytes payload) i

/-- The smaller one of two numbers. -/
def Smaller (least a b : UInt32) : Prop :=
  least.toNat ≤ a.toNat ∧ least.toNat ≤ b.toNat ∧ (least = a ∨ least = b)

/-- The session as an acceptable payload makes it. -/
structure Admitted (cp : ControlPlane) (connect : ConnectMsg) (session : Session) : Prop where
  negotiatedMode : ∃ i, cp.Matches connect i ∧ (∀ j < i, ¬ cp.Matches connect j) ∧
    session.negotiatedMode = connect.modes i
  clientId : session.clientId ⟨clientIdLen - 1, by decide⟩ = 0
  minor : Smaller session.negotiatedProtocolMinor connect.protocolMinor protocolVersionMinor

/-- A CONNECT admits the session or frees its slot, and changes nothing else. The number of
modes that is handed on to the loops over `modes` is within the array. -/
structure Decides (cp : ControlPlane) (idx : Slot) (payload : List UInt8) (next : ControlPlane) :
    Prop where
  admits : (next.table.slots idx).inUse = true ∧ (next.table.slots idx).state = .negotiated ↔
    cp.Acceptable payload
  admitted : cp.Acceptable payload →
    cp.Admitted (ConnectMsg.ofBytes payload) (next.table.slots idx)
  frees : ¬ cp.Acceptable payload → (next.table.slots idx).inUse = false
  others : ∀ i, i ≠ idx → next.table.slots i = cp.table.slots i
  activeSlot : next.table.activeSlot = cp.table.activeSlot
  evictingSlot : next.evictingSlot = cp.evictingSlot
  pendingGrantTarget : next.pendingGrantTarget = cp.pendingGrantTarget
  ring : next.ring = cp.ring
  modesRead : (connectOf payload).numModes.toNat ≤ maxModes

/-- The first match, as the search finds it. -/
theorem find?_offered {connect : ConnectMsg} (room : connect.numModes.toNat ≤ maxModes)
    (chosen : RenderMode) :
    connect.offered.find? (· ∈ cp.supportedModes) = some chosen ↔
      ∃ i, cp.Matches connect i ∧ (∀ j < i, ¬ cp.Matches connect j) ∧
        chosen = connect.modes i := by
  have length : connect.offered.length = connect.numModes.toNat := by
    simp [ConnectMsg.offered, room]
  have entry (n : Nat) (here : n < connect.offered.length) :
      connect.offered[n] = connect.modes ⟨n, by omega⟩ := by
    simp only [ConnectMsg.offered, List.getElem_take, List.getElem_ofFn]
  have matching (n : Nat) (here : n < connect.offered.length) :
      connect.offered[n] ∈ cp.supportedModes ↔ cp.Matches connect ⟨n, by omega⟩ := by
    rw [entry, Matches]
    exact (and_iff_right (length ▸ here)).symm
  rw [List.find?_eq_some_iff_getElem]
  constructor
  · rintro ⟨supported, n, here, same, earlier⟩
    refine ⟨⟨n, by omega⟩, ?_, fun j less => ?_, by rw [← same, entry]⟩
    · rw [← matching n here, same]
      simpa using supported
    · have before : j.val < n := less
      rw [← matching j.val (by omega)]
      simpa using earlier j.val before
  · rintro ⟨i, first, earlier, rfl⟩
    have here : i.val < connect.offered.length := by
      rw [length]
      exact first.1
    refine ⟨by simpa using first.2, i.val, here, entry i.val here, fun n before => ?_⟩
    have other := earlier ⟨n, by omega⟩ before
    rw [← matching n (by omega)] at other
    simpa using other

theorem connectOf_numModes (payload : List UInt8) :
    (connectOf payload).numModes.toNat ≤ maxModes := by
  unfold connectOf
  dsimp only
  split
  · split
    · exact Nat.zero_le _
    · rename_i room
      exact Nat.not_lt.mp room
  · exact Nat.zero_le _

/-- A well-formed CONNECT is handed on as it is, up to the end of its name. -/
theorem connectOf_eq {payload : List UInt8} (length : payload.length = ConnectMsg.size)
    (room : (ConnectMsg.ofBytes payload).numModes.toNat ≤ maxModes) :
    connectOf payload = { ConnectMsg.ofBytes payload with
      clientId := (ConnectMsg.ofBytes payload).clientId.terminate } := by
  unfold connectOf
  rw [if_pos length]
  exact if_neg (Nat.not_lt.mpr room)

/-- A match in what is handed on means that the payload is well-formed. -/
theorem wellFormed_of_matches {payload : List UInt8} {i : Fin maxModes}
    (matched : cp.Matches (connectOf payload) i) : payload.length = ConnectMsg.size ∧
      (ConnectMsg.ofBytes payload).numModes.toNat ≤ maxModes := by
  have offered := matched.1
  unfold connectOf at offered
  dsimp only at offered
  split at offered
  · rename_i length
    split at offered
    · exact absurd offered (Nat.not_lt_zero _)
    · rename_i room
      exact ⟨length, Nat.not_lt.mp room⟩
  · exact absurd offered (Nat.not_lt_zero _)

/-- The three layers together. -/
theorem acceptable_iff (payload : List UInt8) : cp.Acceptable payload ↔
    (connectOf payload).protocolMagic = protocolMagic ∧
      (connectOf payload).protocolMajor = protocolVersionMajor ∧
        ∃ chosen, cp.negotiateMode (connectOf payload).offered = some chosen := by
  simp only [negotiateMode_eq, find?_offered (connectOf_numModes payload)]
  constructor
  · rintro ⟨length, magic, major, room, matched⟩
    rw [connectOf_eq length room]
    obtain ⟨i, first, least⟩ := (measure Fin.val).wf.has_min _ matched
    exact ⟨magic, major, _, i, first, fun j less matched => least j matched less, rfl⟩
  · rintro ⟨magic, major, chosen, i, matched, -⟩
    obtain ⟨length, room⟩ := wellFormed_of_matches matched
    rw [connectOf_eq length room] at magic major matched
    exact ⟨length, magic, major, room, i, matched⟩

/-- A refusal frees the slot of a session that nothing else refers to. -/
theorem reject_eq (cp : ControlPlane) (inUse : (cp.table.slots idx).inUse = true)
    (unadopted : (cp.table.slots idx).dmabufSet.valid = false)
    (waits : cp.pendingGrantTarget ≠ some idx) (clock : Timespec) :
    cp.reject idx clock = { cp with
      table := cp.table.setSlot idx { cp.table.slots idx with
        state := .rejected, inUse := false, ctrlFd := -1 }
      out := cp.out ++ [.close (cp.table.slots idx).ctrlFd] } := by
  let rejected := { cp with table := cp.table.setState idx .rejected }
  have session : rejected.table.slots idx = { cp.table.slots idx with state := .rejected } :=
    Function.update_self ..
  have settled : rejected.settleDisconnect idx = rejected := by
    simp [settleDisconnect, session]
  have withdrawn : rejected.withdraw idx = rejected := if_neg waits
  have idle : (rejected.table.slots idx).state.holdsRt = false := by
    rw [session]
    rfl
  have removed : rejected.table.remove idx = (cp.table.setSlot idx { cp.table.slots idx with
      state := .rejected, inUse := false, ctrlFd := -1 }, []) := by
    have stays : rejected.table.deactivate idx = rejected.table := if_pos (by simp [session])
    simp only [SessionTable.remove, stays, session, inUse, unadopted]
    simp [rejected, SessionTable.setState, SessionTable.setSlot]
  show rejected.handleDisconnect idx clock = _
  unfold handleDisconnect
  rw [idle, settled, withdrawn, closeSlot, session]
  simp [emit, removed, rejected]

theorem handleReadable_connect (payload : List UInt8) (fds : List Int) (clock : Timespec) :
    cp.handleReadable idx (.message MsgKind.connect.toByte payload fds) clock =
      cp.handleConnect idx (connectOf payload) clock := by
  simp [handleReadable]

/-- A CONNECTED session is not the pending target. -/
theorem Orderly.not_pending (orderly : cp.Orderly)
    (connected : (cp.table.slots idx).state = .connected) : cp.pendingGrantTarget ≠ some idx :=
  fun waits => (orderly.pending idx waits).2 connected

/-- The comparison finds the smaller one. -/
theorem smaller_of_ite (a b : UInt32) : Smaller (if a < b then a else b) a b := by
  split
  · rename_i less
    exact ⟨Nat.le_refl _, Nat.le_of_lt (UInt32.lt_iff_toNat_lt.mp less), .inl rfl⟩
  · rename_i other
    exact ⟨Nat.not_lt.mp (mt UInt32.lt_iff_toNat_lt.mpr other), Nat.le_refl _, .inr rfl⟩

/-- The slot of an acceptable CONNECT. -/
theorem admitted_negotiated {payload : List UInt8} {chosen : RenderMode}
    (acceptable : cp.Acceptable payload)
    (found : cp.negotiateMode (connectOf payload).offered = some chosen) (session : Session) :
    cp.Admitted (ConnectMsg.ofBytes payload) (negotiated session (connectOf payload) chosen) := by
  rw [negotiateMode_eq, find?_offered (connectOf_numModes payload)] at found
  rw [connectOf_eq acceptable.length acceptable.numModes] at found ⊢
  obtain ⟨i, first, earlier, same⟩ := found
  exact ⟨⟨i, first, earlier, same⟩, rfl, smaller_of_ite _ _⟩

theorem decides_of_step (orderly : cp.Orderly)
    (connected : (cp.table.slots idx).state = .connected) {payload : List UInt8} {fds : List Int}
    {clock : Timespec}
    (taken : controlPlane.step cp
      (.readable idx (.message MsgKind.connect.toByte payload fds) clock) = some next) :
    Decides cp idx payload next := by
  obtain ⟨inUse, rfl⟩ := step_eq_some.mp taken
  show Decides cp idx payload
    (cp.quiesce.handleReadable idx (.message MsgKind.connect.toByte payload fds) clock)
  rw [handleReadable_connect]
  have accept := cp.acceptable_iff payload
  have refused (msg : ServerMsg) (unacceptable : ¬ cp.Acceptable payload) :
      Decides cp idx payload ((cp.quiesce.send idx msg).reject idx clock) := by
    rw [reject_eq (cp.quiesce.send idx msg) inUse (orderly.unadopted idx)
      (orderly.not_pending connected)]
    refine ⟨iff_of_false ?_ unacceptable, fun accepted => absurd accepted unacceptable, fun _ => ?_,
      fun i other => Function.update_of_ne other _ _, rfl, rfl, rfl, rfl,
      connectOf_numModes payload⟩
    · simp [SessionTable.setSlot]
    · simp [SessionTable.setSlot]
  unfold handleConnect
  split
  · rename_i mismatch
    refine refused _ fun acceptable => ?_
    obtain ⟨magic, major, -⟩ := accept.mp acceptable
    exact mismatch.elim (fun other => other magic) fun other => other major
  · rename_i version
    simp only [not_or, not_not] at version
    split
    · rename_i missing
      refine refused _ fun acceptable => ?_
      obtain ⟨-, -, chosen, found⟩ := accept.mp acceptable
      exact absurd (missing.symm.trans found) (Option.some_ne_none chosen).symm
    · rename_i chosen found
      have acceptable := accept.mpr ⟨version.1, version.2, chosen, found⟩
      have session := admitted_negotiated acceptable found (cp.table.slots idx)
      refine ⟨iff_of_true ?_ acceptable, fun _ => ?_, fun other => absurd acceptable other,
        fun i other => Function.update_of_ne other _ _, rfl, rfl, rfl, rfl,
        connectOf_numModes payload⟩ <;>
        simp only [SessionTable.setSlot, Function.update_self]
      · exact ⟨inUse, rfl⟩
      · exact session

/-- In every state of a run, a CONNECT on a CONNECTED session decides about that session alone. -/
theorem decides_of_run {ring : Ring} {frameFd : Int} {dp : Bool} {supportedModes : List RenderMode}
    (created : init ring frameFd dp supportedModes = some start)
    (run : controlPlane.Run start trace cp) (connected : (cp.table.slots idx).state = .connected)
    {payload : List UInt8} {fds : List Int} {clock : Timespec}
    (taken : controlPlane.step cp
      (.readable idx (.message MsgKind.connect.toByte payload fds) clock) = some next) :
    Decides cp idx payload next := by
  have orderly : cp.Orderly := run.invariant (C := fun _ _ => True) (fun _ _ => trivial)
    (orderly_of_init created) fun _ _ _ known _ => orderly_of_step known
  exact decides_of_step orderly connected taken

/-- The first message of a client that has just been accepted. -/
theorem decides_of_run_hello :
    ∃ trace cp, controlPlane.Run booted trace cp ∧ trace.map Prod.snd = [.accept 10] ∧
      ∃ next, controlPlane.step cp (.hello 0 65 qvga) = some next ∧
        Decides cp 0 (ConnectMsg.offering (.single 65) qvga).toBytes next := by
  refine Demonstrates.exists_run
    (P := fun _ cp => (cp.table.slots 0).inUse = true ∧ (cp.table.slots 0).state = .connected)
    (by decide +kernel) ?_
  rintro trace cp run ⟨inUse, connected⟩
  have taken : controlPlane.step cp (.hello 0 65 qvga) =
      some (cp.quiesce.handle (.hello 0 65 qvga)) := step_eq_some.mpr ⟨inUse, rfl⟩
  exact ⟨_, taken, decides_of_run init_eq_booted run connected taken⟩

end ControlPlane

end Wisp
