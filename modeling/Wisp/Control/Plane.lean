import Wisp.Session.Table

/-!
# The control plane

The handlers of `control_plane.c`, in the order in which they call each other.
The thread's state is passed explicitly. What a handler does to the outside is
appended to `out` in program order: calls of `wisps_evict_client` on the shared
ring, data-plane notifications, messages, closed descriptors and admin replies.

The control thread is the only one that changes the ring's generation, so the
handlers keep the ring they act on in the state. A handler that calls
`clock_gettime` takes the reading as the argument `clock`.
-/

namespace Wisp

/-- `wisps_admin_client_state_t` -/
inductive AdminClientState where
  | connected
  | negotiated
  | queued
  | grantedWarmup
  | activeRt
  | evictingCooperative
  | evictingForced
  | rejected
  deriving DecidableEq, Repr

/-- `wisps_admin_client_info_t` -/
structure AdminClientInfo where
  clientId : ClientId
  state : AdminClientState
  negotiatedMode : RenderMode
  payloadKind : PayloadKind

/-- `WISPS_ADMIN_MAX_CLIENTS` -/
def adminMaxClients : Nat := 8

/-- What the control thread does outside its own state. -/
inductive Effect where
  | evictClient
  | kick
  | setMode (width height : UInt32)
  | send (idx : Slot) (fd : Int) (msg : ServerMsg)
  | close (fd : Int)
  | listReply (clients : List AdminClientInfo)
  | switchReply (ok : Bool) (reason : String)

/-- `wisps_control_plane_t`, less the descriptors of the poll loop itself. `dp`
tells whether a data plane is attached. -/
structure ControlPlane where
  table : SessionTable
  ring : Ring
  frameFd : Int
  dp : Bool
  supportedModes : List RenderMode
  evictingSlot : Option Slot
  pendingGrantTarget : Option Slot
  evictionDeadlineMonotonic : Timespec
  out : List Effect

namespace ControlPlane

/-- `wisps_control_plane_init`: `none` when no mode is supported. Creating and
binding the sockets is left out. -/
def init (ring : Ring) (frameFd : Int) (dp : Bool) (supportedModes : List RenderMode) :
    Option ControlPlane :=
  if supportedModes.length = 0 then none
  else some
    { table := .init
      ring
      frameFd
      dp
      supportedModes := supportedModes.take maxModes
      evictingSlot := none
      pendingGrantTarget := none
      evictionDeadlineMonotonic := ⟨0, 0⟩
      out := [] }

/-- Append to the record of outside effects. -/
def emit (cp : ControlPlane) (effects : List Effect) : ControlPlane :=
  { cp with out := cp.out ++ effects }

/-- `wisp_ctrl_send` to the control socket of a slot. -/
def send (cp : ControlPlane) (idx : Slot) (msg : ServerMsg) : ControlPlane :=
  cp.emit [.send idx (cp.table.slots idx).ctrlFd msg]

/-- `wisps_evict_client(cp->ring)`, then a kick of the data plane if there is one. -/
def evictClient (cp : ControlPlane) : ControlPlane :=
  { cp with ring := cp.ring.evictClient }.emit
    (if cp.dp then [.evictClient, .kick] else [.evictClient])

/-- `negotiate_mode`: the offered modes in order, each against the supported ones. -/
def negotiateMode (cp : ControlPlane) (offered : List RenderMode) : Option RenderMode :=
  offered.findSome? fun o => cp.supportedModes.find? fun s =>
    o.width == s.width && o.height == s.height && o.fps == s.fps

/-- `do_grant` -/
def doGrant (cp : ControlPlane) (idx : Slot) : ControlPlane :=
  let cp := cp.evictClient
  let generation := cp.ring.generation
  let cp := { cp with table := cp.table.grant idx generation }
  let cp := cp.send idx (.activateGrant generation cp.frameFd)
  let newMode := (cp.table.slots idx).negotiatedMode
  if cp.dp then cp.emit [.setMode newMode.width newMode.height] else cp

/-- The deadline `begin_eviction` computes from a clock reading. -/
def graceDeadline (clock : Timespec) : Timespec :=
  let sec := clock.tvSec + ((evictGraceMs / 1000 : Nat) : Int)
  let nsec := clock.tvNsec + ((evictGraceMs % 1000 * 1000000 : Nat) : Int)
  if nsec ≥ 1000000000 then ⟨sec + 1, nsec - 1000000000⟩ else ⟨sec, nsec⟩

/-- `begin_eviction` -/
def beginEviction (cp : ControlPlane) (prevIdx target : Slot) (clock : Timespec) :
    ControlPlane :=
  let cp := { cp with table := cp.table.beginEviction prevIdx }
  let cp := cp.send prevIdx (.evictPending (UInt32.ofNat evictGraceMs))
  { cp with
    evictingSlot := some prevIdx
    pendingGrantTarget := some target
    evictionDeadlineMonotonic := graceDeadline clock }

/-- `finish_pending_grant` -/
def finishPendingGrant (cp : ControlPlane) : ControlPlane :=
  let target := cp.pendingGrantTarget
  let cp := { cp with pendingGrantTarget := none }
  match target with
  | none => cp
  | some idx =>
      if !(cp.table.slots idx).inUse || !(cp.table.slots idx).state.grantable then cp
      else cp.doGrant idx

/-- `handle_stopped` -/
def handleStopped (cp : ControlPlane) (idx : Slot) : ControlPlane :=
  if (cp.table.slots idx).state ≠ .evictingCooperative then cp
  else
    let cp := { cp with table := cp.table.reclaimEviction idx }
    let cp := if cp.evictingSlot = some idx then { cp with evictingSlot := none } else cp
    cp.finishPendingGrant

/-- `grant_slot` -/
def grantSlot (cp : ControlPlane) (idx : Slot) (clock : Timespec) : ControlPlane :=
  match cp.table.activeSlot with
  | some prevActive =>
      if prevActive ≠ idx then cp.beginEviction prevActive idx clock
      else if cp.table.rtSlotTaken then { cp with pendingGrantTarget := some idx }
      else cp.doGrant idx
  | none =>
      if cp.table.rtSlotTaken then { cp with pendingGrantTarget := some idx }
      else cp.doGrant idx

/-- `translate_state` -/
def translateState : SessionState → AdminClientState
  | .connected => .connected
  | .negotiated => .negotiated
  | .queued => .queued
  | .grantedWarmup => .grantedWarmup
  | .activeRt => .activeRt
  | .evictingCooperative => .evictingCooperative
  | .evictingForced => .evictingForced
  | .rejected => .rejected

/-- `handle_list_query` -/
def handleListQuery (cp : ControlPlane) : ControlPlane :=
  let inUse := (List.finRange sessionMaxClients).filter fun i => (cp.table.slots i).inUse
  let clients := (inUse.take adminMaxClients).map fun i =>
    { clientId := (cp.table.slots i).clientId.strncpy
      state := translateState (cp.table.slots i).state
      negotiatedMode := (cp.table.slots i).negotiatedMode
      payloadKind := (cp.table.slots i).payloadKind : AdminClientInfo }
  cp.emit [.listReply clients]

/-- `handle_switch_query` -/
def handleSwitchQuery (cp : ControlPlane) (id : ClientId) (clock : Timespec) : ControlPlane :=
  match cp.table.findByClientId id with
  | none => cp.emit [.switchReply false "app not connected"]
  | some idx =>
      if (cp.table.slots idx).state = .activeRt then cp.emit [.switchReply true ""]
      else if (cp.table.slots idx).state ≠ .negotiated ∧ (cp.table.slots idx).state ≠ .queued then
        cp.emit [.switchReply false "app not in a switchable state"]
      else (cp.grantSlot idx clock).emit [.switchReply true ""]

/-- `maybe_grant_next_queued` -/
def maybeGrantNextQueued (cp : ControlPlane) (clock : Timespec) : ControlPlane :=
  if cp.table.rtSlotTaken then cp
  else match cp.table.findNextQueued with
    | none => cp
    | some next => cp.grantSlot next clock

/-- The part of `handle_disconnect` that depends on what the slot was doing: an
active session has its generation revoked, a wind-down is settled at once. -/
def settleDisconnect (cp : ControlPlane) (idx : Slot) : ControlPlane :=
  let state := (cp.table.slots idx).state
  if state = .activeRt then cp.evictClient
  else if state = .evictingCooperative ∨ state = .evictingForced then
    let cp := { cp with table := cp.table.reclaimEviction idx }
    if cp.evictingSlot = some idx then { cp with evictingSlot := none } else cp
  else cp

/-- A slot that goes away is no longer the pending target. -/
def withdraw (cp : ControlPlane) (idx : Slot) : ControlPlane :=
  if cp.pendingGrantTarget = some idx then { cp with pendingGrantTarget := none } else cp

/-- Close the control socket of a slot and free the slot. -/
def closeSlot (cp : ControlPlane) (idx : Slot) : ControlPlane :=
  let cp := cp.emit [.close (cp.table.slots idx).ctrlFd]
  let (table, closed) := cp.table.remove idx
  { cp with table }.emit (closed.map .close)

/-- `handle_disconnect` -/
def handleDisconnect (cp : ControlPlane) (idx : Slot) (clock : Timespec) : ControlPlane :=
  let heldRtSlot := (cp.table.slots idx).state.holdsRt
  let cp := ((cp.settleDisconnect idx).withdraw idx).closeSlot idx
  if heldRtSlot then cp.finishPendingGrant.maybeGrantNextQueued clock else cp

/-- `REJECTED -> CLOSED`, shared by the two refusals of `handle_connect`. -/
def reject (cp : ControlPlane) (idx : Slot) (clock : Timespec) : ControlPlane :=
  { cp with table := cp.table.setState idx .rejected }.handleDisconnect idx clock

/-- The slot of an accepted CONNECT. -/
def negotiated (session : Session) (connect : ConnectMsg) (chosen : RenderMode) : Session :=
  { session with
    clientId := connect.clientId.strncpy
    numOfferedModes := connect.numModes
    offeredModes := fun i =>
      if i.val < connect.numModes.toNat then connect.modes i else session.offeredModes i
    negotiatedMode := chosen
    negotiatedProtocolMinor :=
      if connect.protocolMinor < protocolVersionMinor then connect.protocolMinor
      else protocolVersionMinor
    state := .negotiated }

/-- `handle_connect` -/
def handleConnect (cp : ControlPlane) (idx : Slot) (connect : ConnectMsg) (clock : Timespec) :
    ControlPlane :=
  if connect.protocolMagic ≠ protocolMagic ∨ connect.protocolMajor ≠ protocolVersionMajor then
    (cp.send idx (.versionMismatch protocolMagic protocolVersionMajor)).reject idx clock
  else match cp.negotiateMode connect.offered with
    | none => (cp.send idx (.mode false ⟨0, 0, 0⟩)).reject idx clock
    | some chosen =>
        let cp := cp.send idx (.mode true chosen)
        { cp with table := cp.table.setSlot idx (negotiated (cp.table.slots idx) connect chosen) }

/-- `handle_activate_request` -/
def handleActivateRequest (cp : ControlPlane) (idx : Slot) (clock : Timespec) : ControlPlane :=
  if (cp.table.slots idx).state ≠ .negotiated then cp
  else if !cp.table.rtSlotTaken then cp.grantSlot idx clock
  else
    let session := { cp.table.slots idx with activateRequestedMonotonic := clock, state := .queued }
    let cp := { cp with table := cp.table.setSlot idx session }
    cp.send idx (.activateQueued (cp.table.queuePosition idx))

/-- `handle_ready_for_rt` -/
def handleReadyForRt (cp : ControlPlane) (idx : Slot) (clock : Timespec) : ControlPlane :=
  if (cp.table.slots idx).state ≠ .grantedWarmup then cp
  else { cp with table := cp.table.activate idx clock }

/-- `handle_grant_decline` -/
def handleGrantDecline (cp : ControlPlane) (idx : Slot) (clock : Timespec) : ControlPlane :=
  if (cp.table.slots idx).state ≠ .grantedWarmup then cp
  else { cp with table := cp.table.setState idx .negotiated }.maybeGrantNextQueued clock

/-- `handle_heartbeat` -/
def handleHeartbeat (cp : ControlPlane) (idx : Slot) (clock : Timespec) : ControlPlane :=
  if (cp.table.slots idx).state ≠ .activeRt then cp
  else
    let session := { cp.table.slots idx with lastHeartbeatMonotonic := clock }
    { cp with table := cp.table.setSlot idx session }

/-- `handle_dmabuf_announce` -/
def handleDmabufAnnounce (cp : ControlPlane) (idx : Slot) (msg : DmabufAnnounceMsg)
    (fds : List Int) : ControlPlane :=
  let (accepted, set, closed) := DmabufSet.fromAnnounce msg fds
  let cp := cp.emit (closed.map .close)
  let cp := if accepted then cp.emit (set.close.2.map .close) else cp
  cp.send idx (.dmabufAck false "GPU dmabuf import not implemented in this build")

/-- What `wisp_ctrl_recv_fds` returns: an error or end of file, an oversized frame,
or one message with its payload and harvested descriptors. -/
inductive Received where
  | closed
  | oversized
  | message (type : UInt8) (payload : List UInt8) (fds : List Int)
  deriving DecidableEq, Repr

/-- The CONNECT payload as `handle_readable` hands it on: a wrong length or a mode
count out of range leaves no mode to negotiate. -/
def connectOf (payload : List UInt8) : ConnectMsg :=
  if payload.length = ConnectMsg.size then
    let connect := ConnectMsg.ofBytes payload
    let connect := { connect with clientId := connect.clientId.terminate }
    if connect.numModes.toNat > maxModes then { connect with numModes := 0 } else connect
  else .zero

/-- `handle_readable` -/
def handleReadable (cp : ControlPlane) (idx : Slot) (received : Received) (clock : Timespec) :
    ControlPlane :=
  match received with
  | .closed => cp.handleDisconnect idx clock
  | .oversized => cp
  | .message type payload fds =>
      match MsgKind.ofByte type with
      | some .connect => cp.handleConnect idx (connectOf payload) clock
      | some .activateRequest => cp.handleActivateRequest idx clock
      | some .readyForRt => cp.handleReadyForRt idx clock
      | some .grantDecline => cp.handleGrantDecline idx clock
      | some .stopped => cp.handleStopped idx
      | some .heartbeat => cp.handleHeartbeat idx clock
      | some .disconnect => cp.handleDisconnect idx clock
      | some .dmabufAnnounce =>
          if payload.length ≠ DmabufAnnounceMsg.size then cp
          else cp.handleDmabufAnnounce idx (.ofBytes payload) fds
      | _ => cp

/-- The accept branch of `wisps_control_plane_run`; a negative descriptor is a
failed `accept`. -/
def handleAccept (cp : ControlPlane) (fd : Int) : ControlPlane :=
  if fd < 0 then cp
  else match cp.table.add fd with
    | none => cp.emit [.close fd]
    | some (_, table) => { cp with table }

/-- The heartbeat check of `wisps_control_plane_run`. -/
def checkHeartbeat (cp : ControlPlane) (now clock : Timespec) : ControlPlane :=
  let (timedOut, table) := cp.table.checkHeartbeatTimeouts now
  let cp := { cp with table }
  match timedOut with
  | none => cp
  | some idx =>
      ((cp.evictClient.send idx .livenessTimeout).send idx .deactivate).maybeGrantNextQueued clock

/-- The grace check of `wisps_control_plane_run`. -/
def checkGrace (cp : ControlPlane) (now clock : Timespec) : ControlPlane :=
  match cp.evictingSlot with
  | none => cp
  | some idx =>
      if elapsedMs now cp.evictionDeadlineMonotonic ≥ 0 then
        let cp := { cp with evictingSlot := none }
        let cp := { cp with table := (cp.table.markEvictionForced idx).reclaimEviction idx }
        cp.finishPendingGrant.maybeGrantNextQueued clock
      else cp

/-- The clock-driven end of an iteration of `wisps_control_plane_run`. -/
def tick (cp : ControlPlane) (now clock : Timespec) : ControlPlane :=
  (cp.checkHeartbeat now clock).checkGrace now clock

end ControlPlane

end Wisp
