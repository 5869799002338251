import Mathlib.Algebra.Group.Nat.Defs
import Wisp.Control.Plane

/-!
# Framed messages on a stream socket

`socket_message.c`. A message is one byte of kind, the payload length in network order and
the payload. Each of the two senders and each of the two receivers takes several system
calls, and the kernel decides how many bytes one of them transfers; `SendPc` and `RecvPc`
say where a call of these functions stands between two system calls.

A stream socket carries bytes. Descriptors sent with `sendmsg` travel with its first byte
and are handed out by the `recvmsg` that returns this byte; a plain `read` drops them.
-/

namespace Wisp

open ControlPlane (Received)

/-- A message as the two senders take it. -/
structure WireMsg where
  kind : UInt8
  payload : List UInt8
  fds : List Int
  deriving DecidableEq, Repr

/-- The part of its frame a byte was written for. -/
inductive Part where
  | header
  | payload
  deriving DecidableEq, Repr

/-- A byte on the stream with the descriptors attached to it. `part` only keeps track of
where the byte comes from; no receiver looks at it. -/
structure Cell where
  byte : UInt8
  fds : List Int
  part : Part
  deriving DecidableEq, Repr

/-- `htonl`, as the four bytes in memory. -/
def htonl (value : UInt32) : List UInt8 :=
  [UInt8.ofNat (value.toNat / 2 ^ 24), UInt8.ofNat (value.toNat / 2 ^ 16),
    UInt8.ofNat (value.toNat / 2 ^ 8), UInt8.ofNat value.toNat]

/-- `ntohl` of four bytes in memory. -/
def ntohl (bytes : List UInt8) : UInt32 :=
  let byte (i : Nat) : Nat := (bytes.getD i 0).toNat
  UInt32.ofNat (2 ^ 24 * byte 0 + 2 ^ 16 * byte 1 + 2 ^ 8 * byte 2 + byte 3)

/-- `sizeof(hdr)` -/
abbrev headerSize : Nat := 5

/-- The header of a message. -/
def header (kind : UInt8) (len : UInt32) : List UInt8 :=
  kind :: htonl len

/-- The header of a message whose payload is given. -/
def WireMsg.header (msg : WireMsg) : List UInt8 :=
  Wisp.header msg.kind (UInt32.ofNat msg.payload.length)

/-- Bytes without descriptors. -/
def bare (part : Part) (bytes : List UInt8) : List Cell :=
  bytes.map fun byte => ⟨byte, [], part⟩

/-- Descriptors ride on the first byte. -/
def attach (fds : List Int) : List Cell → List Cell
  | [] => []
  | cell :: rest => { cell with fds } :: rest

/-- What a message looks like on the stream. -/
def WireMsg.cells (msg : WireMsg) : List Cell :=
  attach msg.fds (bare .header msg.header) ++ bare .payload msg.payload

/-- The frame of a message of the control plane: kind, payload structure with its padding, and
descriptors. -/
def ServerMsg.wire : ServerMsg → WireMsg
  | .mode accepted chosen =>
      ⟨MsgKind.mode.toByte, [if accepted then 1 else 0, 0, 0, 0] ++ u32Bytes chosen.width ++
        u32Bytes chosen.height ++ u32Bytes chosen.fps, []⟩
  | .versionMismatch requiredMagic requiredMajor =>
      ⟨MsgKind.versionMismatch.toByte, u32Bytes requiredMagic ++ u32Bytes requiredMajor, []⟩
  | .activateGrant generation frameFd =>
      ⟨MsgKind.activateGrant.toByte, u32Bytes generation ++ List.replicate 28 0, [frameFd]⟩
  | .activateQueued queuePosition =>
      ⟨MsgKind.activateQueued.toByte, u32Bytes queuePosition, []⟩
  | .evictPending graceMs => ⟨MsgKind.evictPending.toByte, u32Bytes graceMs, []⟩
  | .livenessTimeout => ⟨MsgKind.livenessTimeout.toByte, [], []⟩
  | .deactivate => ⟨MsgKind.deactivate.toByte, [], []⟩
  | .dmabufAck accepted reason =>
      let text := reason.toUTF8.toList.take 63
      ⟨MsgKind.dmabufAck.toByte,
        (if accepted then 1 else 0) :: text ++ List.replicate (64 - text.length) 0, []⟩

/-- Where a sender stands: before `sendmsg`, inside `wisp__send_all` with these bytes of the
header or of the payload left, or at its return. -/
inductive SendPc where
  | sendmsg (fds : List Int) (hdr payload : List UInt8)
  | header (rest payload : List UInt8)
  | payload (rest : List UInt8)
  | done (rc : Int)
  deriving DecidableEq, Repr

namespace SendPc

/-- The payload is sent if there is one. -/
def atPayload (rest : List UInt8) : SendPc :=
  if rest.isEmpty then .done 0 else .payload rest

/-- `wisp__send_all` of what is left of the header, then the payload. -/
def atHeader (rest body : List UInt8) : SendPc :=
  if rest.isEmpty then atPayload body else .header rest body

/-- A system call transfers `n` bytes: what reaches the stream, and where the sender stands
then. -/
def write (n : Nat) : SendPc → Option (List Cell × SendPc)
  | .sendmsg fds hdr body =>
      if 0 < n ∧ n ≤ hdr.length then
        some (attach fds (bare .header (hdr.take n)), atHeader (hdr.drop n) body)
      else none
  | .header rest body =>
      if 0 < n ∧ n ≤ rest.length then
        some (bare .header (rest.take n), atHeader (rest.drop n) body)
      else none
  | .payload rest =>
      if 0 < n ∧ n ≤ rest.length then
        some (bare .payload (rest.take n), atPayload (rest.drop n))
      else none
  | .done _ => none

/-- A system call fails with an error other than `EINTR`. -/
def fail : SendPc → Option SendPc
  | .done _ => none
  | _ => some (.done (-1))

/-- What the sender still has to write. -/
def cells : SendPc → List Cell
  | .sendmsg fds hdr body => attach fds (bare .header hdr) ++ bare .payload body
  | .header rest body => bare .header rest ++ bare .payload body
  | .payload rest => bare .payload rest
  | .done _ => []

/-- The sender is on its way without an error: a call it stands before has bytes to write. -/
def Proper : SendPc → Prop
  | .sendmsg _ hdr _ => hdr ≠ []
  | .header rest _ => rest ≠ []
  | .payload rest => rest ≠ []
  | .done rc => rc = 0

end SendPc

/-- `wisp_ctrl_send` -/
def ctrlSend (kind : UInt8) (payload : List UInt8) : SendPc :=
  .header (header kind (UInt32.ofNat payload.length)) payload

/-- `wisp_ctrl_send_fds` -/
def ctrlSendFds (kind : UInt8) (payload : List UInt8) (fds : List Int) : SendPc :=
  if fds.isEmpty then ctrlSend kind payload
  else if fds.length > numBuffers then .done (-1)
  else .sendmsg fds (header kind (UInt32.ofNat payload.length)) payload

/-- The arguments of a receive call. `plain` is `wisp_ctrl_recv`, else
`wisp_ctrl_recv_fds`. `rcvtimeo` tells whether a timeout is set on the socket. -/
structure RecvCall where
  bufsize : UInt32
  maxFds : Nat
  plain : Bool
  rcvtimeo : Bool

/-- Where a receiver stands: before its first system call, which is `recvmsg` in
`wisp_ctrl_recv_fds` and `read` in `wisp_ctrl_recv`, inside `wisp__recv_all` with these
bytes of the header or of the payload read, or at its return. -/
inductive RecvPc where
  | first
  | header (got : List UInt8) (fds : List Int)
  | payload (kind : UInt8) (len : Nat) (got : List UInt8) (fds : List Int)
  | done (received : Received)
  deriving DecidableEq, Repr

namespace RecvPc

/-- How many bytes the next system call asks for. -/
def request : RecvPc → Nat
  | .first => headerSize
  | .header got _ => headerSize - got.length
  | .payload _ len got _ => len - got.length
  | .done _ => 0

/-- `wisp__recv_all` of what is left of the payload. -/
def atPayload (kind : UInt8) (len : Nat) (got : List UInt8) (fds : List Int) : RecvPc :=
  if got.length < len then .payload kind len got fds else .done (.message kind got fds)

/-- `wisp__recv_all` of what is left of the header, then the check of the length. -/
def atHeader (call : RecvCall) (got : List UInt8) (fds : List Int) : RecvPc :=
  if got.length < headerSize then .header got fds
  else
    let len := ntohl (got.drop 1)
    if len > call.bufsize then .done .oversized
    else atPayload (got.headD 0) len.toNat [] fds

/-- The descriptors taken from the first chunk. -/
def harvest (call : RecvCall) (chunk : List Cell) : List Int :=
  if call.plain then [] else (chunk.flatMap Cell.fds).take call.maxFds

/-- A system call returns these bytes. -/
def took (call : RecvCall) (chunk : List Cell) : RecvPc → RecvPc
  | .first => atHeader call (chunk.map Cell.byte) (harvest call chunk)
  | .header got fds => atHeader call (got ++ chunk.map Cell.byte) fds
  | .payload kind len got fds => atPayload kind len (got ++ chunk.map Cell.byte) fds
  | .done received => .done received

/-- A system call fails, times out or finds the stream at its end. -/
def fail : RecvPc → Option RecvPc
  | .done _ => none
  | _ => some (.done .closed)

end RecvPc

section Bytes

@[simp] theorem htonl_length (value : UInt32) : (htonl value).length = 4 := rfl

@[simp] theorem header_length (kind : UInt8) (len : UInt32) :
    (header kind len).length = headerSize := rfl

@[simp] theorem WireMsg.header_length (msg : WireMsg) : msg.header.length = headerSize := rfl

theorem ntohl_htonl (value : UInt32) : ntohl (htonl value) = value := by
  apply UInt32.toNat_inj.mp
  have bound := value.toNat_lt
  simp only [ntohl, htonl, List.getD_cons_zero, List.getD_cons_succ, UInt8.toNat_ofNat',
    UInt32.toNat_ofNat']
  omega

variable {part : Part} {bytes : List UInt8}

@[simp] theorem bare_length : (bare part bytes).length = bytes.length := List.length_map ..

@[simp] theorem bare_bytes : (bare part bytes).map Cell.byte = bytes := by
  simp [bare, Function.comp_def]

@[simp] theorem bare_append (more : List UInt8) :
    bare part (bytes ++ more) = bare part bytes ++ bare part more := List.map_append ..

theorem bare_take_drop (n : Nat) :
    bare part (bytes.take n) ++ bare part (bytes.drop n) = bare part bytes := by
  rw [← bare_append, List.take_append_drop]

@[simp] theorem attach_length (fds : List Int) (cells : List Cell) :
    (attach fds cells).length = cells.length := by
  cases cells <;> rfl

@[simp] theorem attach_bytes (fds : List Int) (cells : List Cell) :
    (attach fds cells).map Cell.byte = cells.map Cell.byte := by
  cases cells <;> rfl

theorem attach_append {fds : List Int} {cells more : List Cell} (some : cells ≠ []) :
    attach fds (cells ++ more) = attach fds cells ++ more := by
  cases cells with
  | nil => exact absurd rfl some
  | cons => rfl

/-- Nothing is attached. -/
theorem attach_bare_nil : attach [] (bare part bytes) = bare part bytes := by
  cases bytes <;> rfl

/-- A chunk that ends within the bytes. -/
theorem take_bare_append {n : Nat} (within : n ≤ bytes.length) (more : List Cell) :
    (bare part bytes ++ more).take n = bare part (bytes.take n) := by
  rw [List.take_append_of_le_length (by simpa using within), bare, bare, List.map_take]

theorem drop_bare_append {n : Nat} (within : n ≤ bytes.length) (more : List Cell) :
    (bare part bytes ++ more).drop n = bare part (bytes.drop n) ++ more := by
  rw [List.drop_append_of_le_length (by simpa using within), bare, bare, List.map_drop]

theorem take_attach_append {n : Nat} (fds : List Int) (within : n ≤ bytes.length)
    (more : List Cell) :
    (attach fds (bare part bytes) ++ more).take n = attach fds (bare part (bytes.take n)) := by
  rw [List.take_append_of_le_length (by simpa using within)]
  cases bytes <;> cases n <;> simp [bare, attach]

/-- The descriptors are gone with the first byte. -/
theorem drop_attach_append {n : Nat} (fds : List Int) (positive : 0 < n)
    (within : n ≤ bytes.length) (more : List Cell) :
    (attach fds (bare part bytes) ++ more).drop n = bare part (bytes.drop n) ++ more := by
  rw [List.drop_append_of_le_length (by simpa using within)]
  obtain ⟨k, rfl⟩ : ∃ k, n = k + 1 := ⟨n - 1, by omega⟩
  cases bytes <;> simp [bare, attach]

end Bytes

namespace SendPc

theorem cells_atPayload (rest : List UInt8) : (atPayload rest).cells = bare .payload rest := by
  cases rest <;> simp [atPayload, cells, bare]

theorem cells_atHeader (rest body : List UInt8) :
    (atHeader rest body).cells = bare .header rest ++ bare .payload body := by
  cases rest with
  | nil => exact cells_atPayload body
  | cons => simp [atHeader, cells]

theorem proper_atPayload (rest : List UInt8) : (atPayload rest).Proper := by
  cases rest <;> simp [atPayload, Proper]

theorem proper_atHeader (rest body : List UInt8) : (atHeader rest body).Proper := by
  cases rest with
  | nil => exact proper_atPayload body
  | cons => simp [atHeader, Proper]

/-- A system call writes the next bytes and leaves the others. -/
theorem write_spec {pc pc' : SendPc} {n : Nat} {sent : List Cell}
    (written : pc.write n = some (sent, pc')) :
    0 < n ∧ sent.length = n ∧ pc.cells = sent ++ pc'.cells ∧ pc'.Proper := by
  cases pc with
  | done rc => cases written
  | sendmsg fds hdr body =>
      obtain ⟨⟨positive, within⟩, same⟩ := Option.ite_none_right_eq_some.mp written
      cases same
      have some : bare .header (hdr.take n) ≠ [] := by
        intro none
        have short := congrArg List.length none
        simp only [bare_length, List.length_take, List.length_nil] at short
        omega
      refine ⟨positive, by simp [within], ?_, proper_atHeader _ _⟩
      rw [cells_atHeader, ← List.append_assoc, ← attach_append some, bare_take_drop]
      rfl
  | header rest body =>
      obtain ⟨⟨positive, within⟩, same⟩ := Option.ite_none_right_eq_some.mp written
      cases same
      refine ⟨positive, by simp [within], ?_, proper_atHeader _ _⟩
      rw [cells_atHeader, ← List.append_assoc, bare_take_drop]
      rfl
  | payload rest =>
      obtain ⟨⟨positive, within⟩, same⟩ := Option.ite_none_right_eq_some.mp written
      cases same
      refine ⟨positive, by simp [within], ?_, proper_atPayload _⟩
      rw [cells_atPayload, bare_take_drop]
      rfl

/-- A sender that has not returned can write a byte. -/
theorem write_enabled {pc : SendPc} (proper : pc.Proper) (busy : pc ≠ .done 0) :
    ∃ written, pc.write 1 = some written := by
  have long {bytes : List UInt8} (some : bytes ≠ []) : 0 < 1 ∧ 1 ≤ bytes.length :=
    ⟨Nat.one_pos, List.length_pos_iff.mpr some⟩
  cases pc with
  | sendmsg fds hdr body => exact ⟨_, if_pos (long proper)⟩
  | header rest body => exact ⟨_, if_pos (long proper)⟩
  | payload rest => exact ⟨_, if_pos (long proper)⟩
  | done rc => exact absurd (congrArg SendPc.done proper) busy

end SendPc

/-- With room for its descriptors a message is sent as its frame. -/
theorem ctrlSendFds_spec {msg : WireMsg} (room : msg.fds.length ≤ numBuffers) :
    (ctrlSendFds msg.kind msg.payload msg.fds).cells = msg.cells ∧
      (ctrlSendFds msg.kind msg.payload msg.fds).Proper := by
  unfold ctrlSendFds
  split
  · rename_i none
    rw [List.isEmpty_iff] at none
    rw [WireMsg.cells, none, attach_bare_nil]
    exact ⟨rfl, List.cons_ne_nil _ _⟩
  · rw [if_neg (by omega)]
    exact ⟨rfl, List.cons_ne_nil _ _⟩

end Wisp
