import Mathlib.Algebra.Group.Nat.Defs
import Mathlib.Logic.Function.Basic

/-!
# The control protocol

Constants, message kinds and message payloads of `wisp/types.h`, `wisp/version.h`
and `wisp/wire.h`, as far as a control-plane or client function reads them.

A C character array of fixed size is a total function on its indices. The
standard string functions are given by their documented behaviour on the content
before the first NUL. Payload structures are decoded from their bytes with the
field offsets of the x86-64 and AArch64 ABIs, both little-endian.
-/

namespace Wisp

/-- `WISP_CLIENT_ID_LEN` -/
abbrev clientIdLen : Nat := 32

/-- `WISP_NUM_BUFFERS` -/
abbrev numBuffers : Nat := 3

/-- `WISP_BYTES_PER_PIXEL` -/
def bytesPerPixel : Nat := 4

/-- `WISP_FRAME_MAX_WIDTH` -/
def frameMaxWidth : Nat := 1280

/-- `WISP_FRAME_MAX_HEIGHT` -/
def frameMaxHeight : Nat := 720

/-- `WISP_FRAME_MAX_SIZE` -/
def frameMaxSize : Nat := frameMaxWidth * frameMaxHeight * bytesPerPixel

/-- `WISP_MAX_MODES` -/
abbrev maxModes : Nat := 4

/-- `WISP_CLIENT_HEARTBEAT_MS` -/
def clientHeartbeatMs : Int := 500

/-- `WISP_CLIENT_HEARTBEAT_TIMEOUT_MS` -/
def clientHeartbeatTimeoutMs : Int := 2 * clientHeartbeatMs

/-- `WISP_EVICT_GRACE_MS` -/
def evictGraceMs : Nat := 1000

/-- `WISP_PROTOCOL_MAGIC` -/
def protocolMagic : UInt32 := 0x57495350

/-- `WISP_PROTOCOL_VERSION_MAJOR` -/
def protocolVersionMajor : UInt32 := 0

/-- `WISP_PROTOCOL_VERSION_MINOR` -/
def protocolVersionMinor : UInt32 := 0

/-- `struct timespec`. Both fields are wide enough that the differences taken of
them never overflow for a `CLOCK_MONOTONIC` reading. -/
structure Timespec where
  tvSec : Int
  tvNsec : Int
  deriving DecidableEq, Repr, Inhabited

/-- `wisp_render_mode_t` -/
structure RenderMode where
  width : UInt32
  height : UInt32
  fps : UInt32
  deriving DecidableEq, Repr, Inhabited

/-- `wisp_payload_kind_t`: what a ring slot index refers to. -/
inductive PayloadKind where
  | pixels
  | dmabuf
  deriving DecidableEq, Repr, Inhabited

/-- `char client_id[WISP_CLIENT_ID_LEN]` -/
abbrev ClientId := Fin clientIdLen → UInt8

namespace ClientId

/-- The bytes before the first NUL, or all of them when there is none. -/
def content (id : ClientId) : List UInt8 :=
  (List.ofFn id).takeWhile (· != 0)

/-- `strncmp(a, b, WISP_CLIENT_ID_LEN) == 0` -/
def strncmpEq (a b : ClientId) : Bool :=
  a.content == b.content

/-- `strncpy(dst, src, WISP_CLIENT_ID_LEN - 1)` followed by a NUL in the last byte. -/
def strncpy (src : ClientId) : ClientId := fun i =>
  if i.val < clientIdLen - 1 then src.content.getD i.val 0 else 0

/-- Overwrite the last byte with a NUL. -/
def terminate (id : ClientId) : ClientId := fun i =>
  if i.val = clientIdLen - 1 then 0 else id i

/-- The name of one character. -/
def single (char : UInt8) : ClientId := fun i => if i.val = 0 then char else 0

end ClientId

/-- `wisp_msg_kind_t` -/
inductive MsgKind where
  | connect
  | mode
  | activateRequest
  | activateGrant
  | activateDeny
  | heartbeat
  | deactivate
  | disconnect
  | dmabufAnnounce
  | dmabufAck
  | activateQueued
  | readyForRt
  | grantDecline
  | evictPending
  | stopped
  | livenessTimeout
  | versionMismatch
  deriving DecidableEq, Repr

/-- The kind a header byte stands for; the remaining values name no message. -/
def MsgKind.ofByte : UInt8 → Option MsgKind
  | 1 => some .connect
  | 2 => some .mode
  | 3 => some .activateRequest
  | 4 => some .activateGrant
  | 5 => some .activateDeny
  | 6 => some .heartbeat
  | 7 => some .deactivate
  | 8 => some .disconnect
  | 9 => some .dmabufAnnounce
  | 10 => some .dmabufAck
  | 11 => some .activateQueued
  | 12 => some .readyForRt
  | 13 => some .grantDecline
  | 14 => some .evictPending
  | 15 => some .stopped
  | 16 => some .livenessTimeout
  | 17 => some .versionMismatch
  | _ => none

/-- The header byte of a message kind. -/
def MsgKind.toByte : MsgKind → UInt8
  | .connect => 1
  | .mode => 2
  | .activateRequest => 3
  | .activateGrant => 4
  | .activateDeny => 5
  | .heartbeat => 6
  | .deactivate => 7
  | .disconnect => 8
  | .dmabufAnnounce => 9
  | .dmabufAck => 10
  | .activateQueued => 11
  | .readyForRt => 12
  | .grantDecline => 13
  | .evictPending => 14
  | .stopped => 15
  | .livenessTimeout => 16
  | .versionMismatch => 17

@[simp] theorem MsgKind.ofByte_toByte (kind : MsgKind) : ofByte kind.toByte = some kind := by
  cases kind <;> rfl

theorem MsgKind.toByte_of_ofByte {type : UInt8} {kind : MsgKind} (named : ofByte type = some kind) :
    type = kind.toByte := by
  unfold ofByte at named
  split at named <;> cases named <;> rfl

/-- The bytes of a little-endian 32-bit field. -/
def u32Bytes (value : UInt32) : List UInt8 :=
  [UInt8.ofNat value.toNat, UInt8.ofNat (value.toNat / 2 ^ 8),
    UInt8.ofNat (value.toNat / 2 ^ 16), UInt8.ofNat (value.toNat / 2 ^ 24)]

/-- The bytes of a little-endian 64-bit field. -/
def u64Bytes (value : UInt64) : List UInt8 :=
  u32Bytes (UInt32.ofNat value.toNat) ++ u32Bytes (UInt32.ofNat (value.toNat / 2 ^ 32))

/-- A little-endian 32-bit field at a byte offset. -/
def leU32 (bytes : List UInt8) (offset : Nat) : UInt32 :=
  let byte (i : Nat) : Nat := (bytes.getD (offset + i) 0).toNat
  UInt32.ofNat (byte 0 + 2 ^ 8 * byte 1 + 2 ^ 16 * byte 2 + 2 ^ 24 * byte 3)

/-- A little-endian 64-bit field at a byte offset. -/
def leU64 (bytes : List UInt8) (offset : Nat) : UInt64 :=
  UInt64.ofNat ((leU32 bytes offset).toNat + 2 ^ 32 * (leU32 bytes (offset + 4)).toNat)

/-- `wisp_connect_msg_t` -/
structure ConnectMsg where
  protocolMagic : UInt32
  protocolMajor : UInt32
  protocolMinor : UInt32
  clientId : ClientId
  numModes : UInt32
  modes : Fin maxModes → RenderMode

namespace ConnectMsg

/-- `sizeof(wisp_connect_msg_t)` -/
def size : Nat := 96

/-- `memset(&connect, 0, sizeof(connect))` -/
def zero : ConnectMsg where
  protocolMagic := 0
  protocolMajor := 0
  protocolMinor := 0
  clientId := fun _ => 0
  numModes := 0
  modes := fun _ => ⟨0, 0, 0⟩

/-- `memcpy(&connect, buf, sizeof(connect))` -/
def ofBytes (bytes : List UInt8) : ConnectMsg where
  protocolMagic := leU32 bytes 0
  protocolMajor := leU32 bytes 4
  protocolMinor := leU32 bytes 8
  clientId := fun i => bytes.getD (12 + i.val) 0
  numModes := leU32 bytes 44
  modes := fun i =>
    { width := leU32 bytes (48 + 12 * i.val)
      height := leU32 bytes (52 + 12 * i.val)
      fps := leU32 bytes (56 + 12 * i.val) }

/-- The CONNECT of a client that offers a single mode. -/
def offering (clientId : ClientId) (mode : RenderMode) : ConnectMsg where
  protocolMagic := Wisp.protocolMagic
  protocolMajor := protocolVersionMajor
  protocolMinor := protocolVersionMinor
  clientId
  numModes := 1
  modes := fun i => if i.val = 0 then mode else ⟨0, 0, 0⟩

/-- The payload bytes of a CONNECT. -/
def toBytes (msg : ConnectMsg) : List UInt8 :=
  u32Bytes msg.protocolMagic ++ u32Bytes msg.protocolMajor ++ u32Bytes msg.protocolMinor ++
    List.ofFn msg.clientId ++ u32Bytes msg.numModes ++
    (List.ofFn msg.modes).flatMap fun mode =>
      u32Bytes mode.width ++ u32Bytes mode.height ++ u32Bytes mode.fps

/-- The first `num_modes` entries of `modes`. -/
def offered (msg : ConnectMsg) : List RenderMode :=
  (List.ofFn msg.modes).take msg.numModes.toNat

end ConnectMsg

/-- `wisp_dmabuf_desc_t` -/
structure DmabufDesc where
  width : UInt32
  height : UInt32
  fourcc : UInt32
  stride : UInt32
  offset : UInt32
  modifier : UInt64
  deriving DecidableEq, Repr, Inhabited

/-- `wisp_dmabuf_announce_msg_t` -/
structure DmabufAnnounceMsg where
  nbufs : UInt32
  desc : Fin numBuffers → DmabufDesc

namespace DmabufAnnounceMsg

/-- `sizeof(wisp_dmabuf_announce_msg_t)`: the 64-bit modifier aligns the
descriptors to 8 bytes. -/
def size : Nat := 104

def ofBytes (bytes : List UInt8) : DmabufAnnounceMsg where
  nbufs := leU32 bytes 0
  desc := fun i =>
    let base := 8 + 32 * i.val
    { width := leU32 bytes base
      height := leU32 bytes (base + 4)
      fourcc := leU32 bytes (base + 8)
      stride := leU32 bytes (base + 12)
      offset := leU32 bytes (base + 16)
      modifier := leU64 bytes (base + 24) }

/-- The message as it is sent, with zeros for the padding. -/
def toBytes (msg : DmabufAnnounceMsg) : List UInt8 :=
  u32Bytes msg.nbufs ++ List.replicate 4 0 ++ (List.ofFn msg.desc).flatMap fun desc =>
    u32Bytes desc.width ++ u32Bytes desc.height ++ u32Bytes desc.fourcc ++ u32Bytes desc.stride ++
      u32Bytes desc.offset ++ List.replicate 4 0 ++ u64Bytes desc.modifier

end DmabufAnnounceMsg

/-- The messages the control plane sends, with the payload fields it fills in.
`wisp_grant_msg_t` has further hint fields, which the server leaves zero. -/
inductive ServerMsg where
  | mode (accepted : Bool) (chosen : RenderMode)
  | versionMismatch (requiredMagic requiredMajor : UInt32)
  | activateGrant (generation : UInt32) (frameFd : Int)
  | activateQueued (queuePosition : UInt32)
  | evictPending (graceMs : UInt32)
  | livenessTimeout
  | deactivate
  | dmabufAck (accepted : Bool) (reason : String)
  deriving DecidableEq, Repr

end Wisp
