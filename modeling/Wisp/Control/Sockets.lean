import Mathlib.Data.List.Perm.Subperm
import Wisp.Control.Harvest

/-!
# What the handlers do to the sockets

One call of `handle_readable` leaves every session on its socket, or closes the socket of the
slot it was called for and frees the slot. Apart from that it closes descriptors that came with
the message, none of them twice.
-/

namespace Wisp

namespace ControlPlane

variable {cp cp' cp'' : ControlPlane} {ev : Event} {idx : Slot}

/-- The slots in use are the same, with the same descriptors. -/
def SameSockets (cp cp' : ControlPlane) : Prop :=
  ∀ i, (cp'.table.slots i).inUse = (cp.table.slots i).inUse ∧
    (cp'.table.slots i).ctrlFd = (cp.table.slots i).ctrlFd

/-- One slot has been freed, the others are as before. -/
structure Frees (idx : Slot) (cp cp' : ControlPlane) : Prop where
  gone : (cp'.table.slots idx).inUse = false
  others : ∀ i, i ≠ idx → (cp'.table.slots i).inUse = (cp.table.slots i).inUse ∧
    (cp'.table.slots i).ctrlFd = (cp.table.slots i).ctrlFd

theorem sameSockets_of_steady (steady : Steady cp cp') : SameSockets cp cp' :=
  fun i => ⟨steady.inUse i, steady.ctrlFd i⟩

theorem frees_of_leaves (leaves : Leaves idx cp cp') : Frees idx cp cp' :=
  ⟨leaves.gone, fun i other => ⟨leaves.inUse i other, leaves.ctrlFd i other⟩⟩

/-- The descriptors that are handed on with a message. -/
def Received.fds : Received → List Int
  | .message _ _ fds => fds
  | _ => []

/-- The sockets after `handle_readable`, and what has been closed. -/
theorem sockets_of_handleReadable (inUse : (cp.table.slots idx).inUse = true)
    (unadopted : cp.Unadopted) (received : Received) (clock : Timespec) :
    ∃ ks, ks.Sublist received.fds ∧
      (SameSockets cp (cp.handleReadable idx received clock) ∧
          (cp.handleReadable idx received clock).closed = cp.closed ++ ks ∨
        Frees idx cp (cp.handleReadable idx received clock) ∧
          (cp.handleReadable idx received clock).closed =
            cp.closed ++ ks ++ [(cp.table.slots idx).ctrlFd]) := by
  have changes := changes_of_readable inUse unadopted received clock
  generalize cp.handleReadable idx received clock = cp' at changes ⊢
  generalize event : Event.readable idx received clock = ev at changes
  cases changes with
  | steady _ _ steady =>
      refine ⟨[], List.nil_sublist _, .inl ⟨sameSockets_of_steady steady, ?_⟩⟩
      rw [closed_of_steady steady, List.append_nil]
  | joined => cases event
  | refused => cases event
  | @negotiated i type payload fds _ connect chosen =>
      cases event
      refine ⟨[], List.nil_sublist _, .inl ⟨fun i => ?_, ?_⟩⟩
      · by_cases same : i = idx
        · subst same
          simp [SessionTable.setSlot, negotiated]
        · simp [SessionTable.setSlot, same]
      · show (cp.out ++ [Effect.send _ _ _]).filterMap Effect.closes = _
        rw [List.filterMap_append]
        rfl
  | left own _ leaves =>
      obtain ⟨_, _, same⟩ | ⟨_, same⟩ := own
      · cases event.trans same
        refine ⟨[], List.nil_sublist _, .inr ⟨frees_of_leaves leaves, ?_⟩⟩
        rw [closed_of_leaves leaves, List.append_nil]
      · cases event.trans same
  | @announced i type payload fds _ msg =>
      cases event
      refine ⟨closeFds (fds.take numBuffers), ?_, .inl ⟨fun i => ⟨rfl, rfl⟩, ?_⟩⟩
      · exact List.filter_sublist.trans (List.take_sublist _ _)
      · show ((cp.out ++ (closeFds _).map Effect.close) ++ [Effect.send _ _ _]).filterMap _ = _
        rw [List.filterMap_append, List.filterMap_append, closes_map_close]
        exact List.append_nil _

/-- The receiver closes or hands on what came, each descriptor at most once. -/
theorem subperm_delivered (bufsize : UInt32) (maxFds first : Nat) (stream : List Cell) :
    List.Subperm ((ctrlRecvFds bufsize maxFds first stream).closed ++
      (ctrlRecvFds bufsize maxFds first stream).received.fds) (delivered first stream) := by
  have swapped : List.Perm ((delivered first stream).drop maxFds ++
      (delivered first stream).take maxFds) (delivered first stream) :=
    List.perm_append_comm.trans (.of_eq (List.take_append_drop _ _))
  by_cases came : firstChunk first stream = []
  · rw [ctrlRecvFds, came]
    exact List.nil_subperm
  · rcases ctrlRecvFds_spec bufsize maxFds came with
      ⟨_, payload, _, received, closed⟩ | ⟨_, failed, closed⟩
    · rw [closed, received]
      exact swapped.subperm
    · have nothing : (ctrlRecvFds bufsize maxFds first stream).received.fds = [] := by
        rcases failed with failed | failed <;> rw [failed] <;> rfl
      rw [closed, nothing, List.append_nil]
      exact ((List.Sublist.refl _).append List.filter_sublist).subperm.trans swapped.subperm

/-- The same with the receive in it. -/
theorem sockets_of_readSocket (inUse : (cp.table.slots idx).inUse = true)
    (unadopted : cp.Unadopted) (first : Nat) (stream : List Cell) (clock : Timespec) :
    ∃ ks, List.Subperm ks (delivered first stream) ∧
      (SameSockets cp (cp.quiesce.readSocket idx first stream clock) ∧
          (cp.quiesce.readSocket idx first stream clock).closed = ks ∨
        Frees idx cp (cp.quiesce.readSocket idx first stream clock) ∧
          (cp.quiesce.readSocket idx first stream clock).closed =
            ks ++ [(cp.table.slots idx).ctrlFd]) := by
  let receipt := ctrlRecvFds controlRecvBufSize numBuffers first stream
  let told := cp.quiesce.emit (receipt.closed.map .close)
  have released : told.closed = receipt.closed := closed_released receipt.closed
  have inUse : (told.table.slots idx).inUse = true := inUse
  have unadopted : told.Unadopted := unadopted
  obtain ⟨ks, taken, result⟩ :=
    sockets_of_handleReadable inUse unadopted receipt.received clock
  rw [released] at result
  refine ⟨receipt.closed ++ ks, ((List.Sublist.refl _).append taken).subperm.trans
    (subperm_delivered _ _ _ _), ?_⟩
  rcases result with ⟨same, closed⟩ | ⟨frees, closed⟩
  · exact .inl ⟨same, closed⟩
  · exact .inr ⟨⟨frees.gone, frees.others⟩, closed⟩

theorem orderly_of_readSocket (orderly : cp.Orderly) (inUse : (cp.table.slots idx).inUse = true)
    (first : Nat) (stream : List Cell) (clock : Timespec) :
    (cp.quiesce.readSocket idx first stream clock).Orderly := by
  let receipt := ctrlRecvFds controlRecvBufSize numBuffers first stream
  let told := cp.quiesce.emit (receipt.closed.map .close)
  have inUse : (told.table.slots idx).inUse = true := inUse
  have orderly : told.Orderly := ⟨orderly.unadopted, orderly.pending⟩
  exact orderly_of_changes orderly
    (changes_of_readable inUse orderly.unadopted receipt.received clock)

end ControlPlane

end Wisp
