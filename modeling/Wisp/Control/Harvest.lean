import Mathlib.Data.List.Nodup
import Wisp.Control.Connect
import Wisp.Socket.Receive

/-!
# Received descriptors

`handle_readable` with the call of `wisp_ctrl_recv_fds` in it. The receiver closes the
descriptors for which its caller has no room and, when it fails, those it has harvested as well.
With a message they are the caller's, and only the handler of DMABUF_ANNOUNCE takes them: the
other branches of the dispatch leave them open.
-/

namespace Wisp

open Transition System

/-- `WISPS_CONTROL_RECV_BUF_SIZE` -/
def controlRecvBufSize : UInt32 := 4096

/-- The stream begins with an announce of the right length. -/
def Announces (stream : List Cell) : Prop :=
  (headerOf stream).headD 0 = MsgKind.dmabufAnnounce.toByte ∧
    (lengthOf stream).toNat = DmabufAnnounceMsg.size

instance (stream : List Cell) : Decidable (Announces stream) :=
  inferInstanceAs (Decidable (_ ∧ _))

/-- The descriptor that an effect closes. -/
def Effect.closes : Effect → Option Int
  | .close fd => some fd
  | _ => none

namespace ControlPlane

variable {cp cp' start : ControlPlane} {ev : Event} {idx : Slot}
variable {trace : List (ControlPlane × Event)}

/-- The descriptors closed by the last event, in order. -/
def closed (cp : ControlPlane) : List Int :=
  cp.out.filterMap Effect.closes

/-- `handle_readable`, with the receive. -/
def readSocket (cp : ControlPlane) (idx : Slot) (first : Nat) (stream : List Cell)
    (clock : Timespec) : ControlPlane :=
  let receipt := ctrlRecvFds controlRecvBufSize numBuffers first stream
  (cp.emit (receipt.closed.map .close)).handleReadable idx receipt.received clock

/-- What the kernel promises of the descriptors it hands out: they are new ones. -/
structure Fresh (cp : ControlPlane) (fds : List Int) : Prop where
  valid : ∀ fd ∈ fds, 0 ≤ fd
  nodup : fds.Nodup
  unused : ∀ fd ∈ fds, ∀ i, (cp.table.slots i).inUse = true → (cp.table.slots i).ctrlFd ≠ fd

/-- Every descriptor that came with the message is closed once by the time the handler
returns. -/
def ClosesAll (cp : ControlPlane) (idx : Slot) (first : Nat) (stream : List Cell)
    (clock : Timespec) : Prop :=
  ∀ fd ∈ delivered first stream,
    (cp.quiesce.readSocket idx first stream clock).closed.count fd = 1

instance (cp : ControlPlane) (idx : Slot) (first : Nat) (stream : List Cell) (clock : Timespec) :
    Decidable (cp.ClosesAll idx first stream clock) :=
  inferInstanceAs (Decidable (∀ fd ∈ delivered first stream, _ = 1))

/-- No descriptor came, or no message that the handler is called for, or an announce. -/
def Accounted (first : Nat) (stream : List Cell) : Prop :=
  delivered first stream = [] ∨ ¬ Whole controlRecvBufSize stream ∨ Announces stream

instance (first : Nat) (stream : List Cell) : Decidable (Accounted first stream) :=
  inferInstanceAs (Decidable (_ ∨ _))

section Closed

variable {fd : Int}

theorem closes_of_ordinary {effects : List Effect} (ordinary : ∀ e ∈ effects, cp.Ordinary e) :
    effects.filterMap Effect.closes = [] := by
  refine List.filterMap_eq_nil_iff.mpr fun e member => ?_
  have kept := ordinary e member
  cases e with
  | close => exact kept.elim
  | _ => rfl

theorem closes_map_close (fds : List Int) :
    (fds.map Effect.close).filterMap Effect.closes = fds := by
  rw [List.filterMap_map]
  exact List.filterMap_some ..

theorem closed_of_steady (steady : Steady cp cp') : cp'.closed = cp.closed := by
  obtain ⟨effects, out, ordinary⟩ := steady.out
  rw [closed, out, List.filterMap_append, closes_of_ordinary ordinary]
  exact List.append_nil _

theorem closed_of_leaves (leaves : Leaves idx cp cp') :
    cp'.closed = cp.closed ++ [(cp.table.slots idx).ctrlFd] := by
  obtain ⟨before, after, out, ordinary⟩ := leaves.out
  have first := closes_of_ordinary fun e member => ordinary e (List.mem_append_left _ member)
  have last := closes_of_ordinary fun e member => ordinary e (List.mem_append_right _ member)
  rw [closed, out, List.filterMap_append, List.filterMap_append, first, List.append_nil]
  show cp.closed ++ (cp.table.slots idx).ctrlFd :: after.filterMap Effect.closes = _
  rw [last]

/-- The receiver closes descriptors before the handler is called. -/
theorem closed_released (fds : List Int) : (cp.quiesce.emit (fds.map .close)).closed = fds := by
  show ([] ++ fds.map Effect.close).filterMap Effect.closes = fds
  rw [List.nil_append, closes_map_close]

/-- The handlers close no descriptor but the client's socket, an announce apart. -/
theorem count_closed_of_changes {received : Received} {clock : Timespec}
    (changes : Changes cp (.readable idx received clock) cp')
    (other : (cp.table.slots idx).ctrlFd ≠ fd)
    (plain : ∀ type payload fds, received = .message type payload fds →
      ¬ (MsgKind.ofByte type = some .dmabufAnnounce ∧ payload.length = DmabufAnnounceMsg.size)) :
    cp'.closed.count fd = cp.closed.count fd := by
  generalize event : Event.readable idx received clock = ev at changes
  cases changes with
  | steady _ _ steady => rw [closed_of_steady steady]
  | joined => cases event
  | refused => cases event
  | negotiated =>
      show ((cp.out ++ [Effect.send _ _ _]).filterMap Effect.closes).count fd = _
      rw [List.filterMap_append, List.count_append]
      rfl
  | left own _ leaves =>
      obtain ⟨_, _, same⟩ | ⟨_, same⟩ := own
      · cases event.trans same
        rw [closed_of_leaves leaves, List.count_append, List.count_singleton]
        simp [other]
      · cases event.trans same
  | announced named whole =>
      cases event
      exact absurd ⟨named, whole⟩ (plain _ _ _ rfl)

end Closed

/-- An announce of the right length is handed to its handler, which closes everything. -/
theorem closed_of_announce {type : UInt8} {payload : List UInt8} {fds : List Int}
    (named : MsgKind.ofByte type = some .dmabufAnnounce)
    (whole : payload.length = DmabufAnnounceMsg.size) (clock : Timespec) :
    (cp.handleReadable idx (.message type payload fds) clock).closed =
      cp.closed ++ closeFds (fds.take numBuffers) := by
  simp only [handleReadable, named, whole, ne_eq, not_true_eq_false, if_false,
    handleDmabufAnnounce_eq]
  show ((cp.out ++ (closeFds _).map Effect.close) ++ [Effect.send _ _ _]).filterMap _ = _
  rw [List.filterMap_append, List.filterMap_append, closes_map_close]
  exact List.append_nil _

theorem closeFds_of_valid {fds : List Int} (valid : ∀ fd ∈ fds, 0 ≤ fd) : closeFds fds = fds :=
  List.filter_eq_self.mpr fun fd member => decide_eq_true (valid fd member)

theorem count_delivered {first : Nat} {stream : List Cell}
    (fresh : cp.Fresh (delivered first stream)) {fd : Int} (member : fd ∈ delivered first stream)
    (n : Nat) :
    ((delivered first stream).drop n ++
      closeFds ((delivered first stream).take n)).count fd = 1 := by
  rw [closeFds_of_valid fun fd member => fresh.valid fd (List.mem_of_mem_take member),
    List.count_append, Nat.add_comm, ← List.count_append, List.take_append_drop]
  exact List.count_eq_one_of_mem fresh.nodup member

section Socket

variable {first : Nat} {stream : List Cell} {clock : Timespec}

/-- Apart from an announce, only the receiver closes what has been received. -/
theorem count_closed_of_plain (unadopted : cp.Unadopted)
    (inUse : (cp.table.slots idx).inUse = true) {fd : Int}
    (other : (cp.table.slots idx).ctrlFd ≠ fd)
    (plain : ∀ type payload fds,
      (ctrlRecvFds controlRecvBufSize numBuffers first stream).received =
          .message type payload fds →
        ¬ (MsgKind.ofByte type = some .dmabufAnnounce ∧
          payload.length = DmabufAnnounceMsg.size)) :
    (cp.quiesce.readSocket idx first stream clock).closed.count fd =
      (ctrlRecvFds controlRecvBufSize numBuffers first stream).closed.count fd := by
  let receipt := ctrlRecvFds controlRecvBufSize numBuffers first stream
  let told := cp.quiesce.emit (receipt.closed.map .close)
  have inUse : (told.table.slots idx).inUse = true := inUse
  have unadopted : told.Unadopted := unadopted
  have other : (told.table.slots idx).ctrlFd ≠ fd := other
  have changes := changes_of_readable inUse unadopted receipt.received clock
  show (told.handleReadable idx receipt.received clock).closed.count fd = _
  rw [count_closed_of_changes changes other plain, closed_released]

/-- A receiver that returns no message closes everything. -/
theorem closesAll_of_failed (unadopted : cp.Unadopted)
    (inUse : (cp.table.slots idx).inUse = true) (fresh : cp.Fresh (delivered first stream))
    (failed : (ctrlRecvFds controlRecvBufSize numBuffers first stream).received = .closed ∨
      (ctrlRecvFds controlRecvBufSize numBuffers first stream).received = .oversized)
    (closed : (ctrlRecvFds controlRecvBufSize numBuffers first stream).closed =
      (delivered first stream).drop numBuffers ++
        closeFds ((delivered first stream).take numBuffers)) :
    cp.ClosesAll idx first stream clock := by
  intro fd member
  rw [count_closed_of_plain unadopted inUse (fresh.unused fd member idx inUse), closed]
  · exact count_delivered fresh member numBuffers
  · intro type payload fds message
    rcases failed with failed | failed <;> rw [failed] at message <;> cases message

/-- The handler of an announce closes what the receiver has left open. -/
theorem closesAll_of_announces (fresh : cp.Fresh (delivered first stream)) {payload : List UInt8}
    (length : payload.length = (lengthOf stream).toNat) (announces : Announces stream)
    (received : (ctrlRecvFds controlRecvBufSize numBuffers first stream).received =
      .message ((headerOf stream).headD 0) payload ((delivered first stream).take numBuffers))
    (closed : (ctrlRecvFds controlRecvBufSize numBuffers first stream).closed =
      (delivered first stream).drop numBuffers) : cp.ClosesAll idx first stream clock := by
  intro fd member
  unfold readSocket
  dsimp only
  rw [received, closed_of_announce (by rw [announces.1, MsgKind.ofByte_toByte])
    (length.trans announces.2), closed_released, closed, List.take_take, Nat.min_self]
  exact count_delivered fresh member numBuffers

/-- Any other message keeps open what fits the array. -/
theorem not_closesAll_of_plain (unadopted : cp.Unadopted)
    (inUse : (cp.table.slots idx).inUse = true) (fresh : cp.Fresh (delivered first stream))
    (came : delivered first stream ≠ []) {payload : List UInt8}
    (length : payload.length = (lengthOf stream).toNat) (plain : ¬ Announces stream)
    (received : (ctrlRecvFds controlRecvBufSize numBuffers first stream).received =
      .message ((headerOf stream).headD 0) payload ((delivered first stream).take numBuffers))
    (closed : (ctrlRecvFds controlRecvBufSize numBuffers first stream).closed =
      (delivered first stream).drop numBuffers) : ¬ cp.ClosesAll idx first stream clock := by
  intro all
  obtain ⟨fd, rest, some⟩ := List.exists_cons_of_ne_nil came
  have member : fd ∈ delivered first stream := by
    rw [some]
    exact List.mem_cons_self
  have kept : ((delivered first stream).drop numBuffers).count fd = 0 := by
    rw [some, List.count_eq_zero]
    intro excess
    have distinct := fresh.nodup
    rw [some] at distinct
    exact (List.nodup_cons.mp distinct).1 (List.mem_of_mem_drop excess)
  have once := all fd member
  have other := fresh.unused fd member idx inUse
  rw [count_closed_of_plain unadopted inUse other, closed, kept] at once
  · exact absurd once Nat.zero_ne_one
  · intro type payload fds message both
    rw [received] at message
    cases message
    exact plain ⟨MsgKind.toByte_of_ofByte both.1, length.symm.trans both.2⟩

/-- All descriptors are closed exactly when there are none, when the receiver does not return
a message, or when it returns an announce. -/
theorem closesAll_iff_of_unadopted (unadopted : cp.Unadopted)
    (inUse : (cp.table.slots idx).inUse = true) (fresh : cp.Fresh (delivered first stream)) :
    cp.ClosesAll idx first stream clock ↔ Accounted first stream := by
  by_cases none : delivered first stream = []
  · refine iff_of_true ?_ (.inl none)
    intro fd member
    rw [none] at member
    cases member
  have came : firstChunk first stream ≠ [] := by
    rintro missing
    rw [delivered, missing] at none
    exact none rfl
  rcases ctrlRecvFds_spec controlRecvBufSize numBuffers came with
    ⟨whole, payload, length, received, closed⟩ | ⟨partly, failed, closed⟩
  · by_cases announces : Announces stream
    · exact iff_of_true (closesAll_of_announces fresh length announces received closed)
        (.inr (.inr announces))
    · refine iff_of_false
        (not_closesAll_of_plain unadopted inUse fresh none length announces received closed) ?_
      rintro (nothing | partly | announced)
      · exact none nothing
      · exact partly whole
      · exact announces announced
  · exact iff_of_true (closesAll_of_failed unadopted inUse fresh failed closed) (.inr (.inl partly))

end Socket

/-- In every state of a run, the descriptors that come with a message are closed exactly if
there are none, if no message is returned, or if it is an announce of the right length. -/
theorem closesAll_iff {ring : Ring} {frameFd : Int} {dp : Bool} {supportedModes : List RenderMode}
    (created : init ring frameFd dp supportedModes = some start)
    (run : controlPlane.Run start trace cp) (inUse : (cp.table.slots idx).inUse = true)
    (first : Nat) (stream : List Cell) (clock : Timespec)
    (fresh : cp.Fresh (delivered first stream)) :
    cp.ClosesAll idx first stream clock ↔ Accounted first stream := by
  have orderly : cp.Orderly := run.invariant (C := fun _ _ => True) (fun _ _ => trivial)
    (orderly_of_init created) fun _ _ _ known _ => orderly_of_step known
  exact closesAll_iff_of_unadopted orderly.unadopted inUse fresh

/-- An announce of three buffers as it is sent. -/
def announced : WireMsg where
  kind := MsgKind.dmabufAnnounce.toByte
  payload := (DmabufSet.uniform 640 480 2560).toBytes
  fds := [20, 21, 22]

/-- Its descriptors are closed, although the announce is well-formed. -/
theorem closesAll_of_announced :
    ∃ trace cp, controlPlane.Run booted trace cp ∧ trace.map Prod.snd = [.accept 10] ∧
      cp.ClosesAll 0 headerSize announced.cells ⟨0, 0⟩ := by
  refine Demonstrates.exists_run (P := fun _ cp => (cp.table.slots 0).inUse = true ∧
    ∀ fd ∈ announced.fds, ∀ i, (cp.table.slots i).inUse = true → (cp.table.slots i).ctrlFd ≠ fd)
    (by decide +kernel) ?_
  rintro trace cp run ⟨inUse, unused⟩
  have came : delivered headerSize announced.cells = announced.fds := by decide +kernel
  have fresh : cp.Fresh (delivered headerSize announced.cells) := by
    rw [came]
    exact ⟨by decide, by decide, unused⟩
  exact (closesAll_iff init_eq_booted run inUse headerSize announced.cells ⟨0, 0⟩ fresh).mpr
    (by decide +kernel)

/-- A HEARTBEAT to which a descriptor is attached. -/
def laden : WireMsg where
  kind := MsgKind.heartbeat.toByte
  payload := []
  fds := [20]

/-- The descriptor stays open. -/
theorem not_closesAll_of_laden :
    ∃ trace cp, controlPlane.Run booted trace cp ∧ trace.map Prod.snd = [.accept 10] ∧
      ¬ cp.ClosesAll 0 headerSize laden.cells ⟨0, 0⟩ :=
  Demonstrates.run (by decide +kernel)

end ControlPlane

end Wisp
