import Wisp.Socket.Framing

/-!
# The admin plane

`admin_plane.c` and the payloads of `admin_proto.h`. The admin thread serves one connection
at a time: it reads a request, hands it to the control thread, waits for the answer, sends
the answer and closes the connection. `AdminPc` says where it stands.
-/

namespace Wisp

open ControlPlane (Received)

/-- `wisps_admin_msg_type_t` -/
inductive AdminMsgType where
  | listRequest
  | listResponse
  | switchRequest
  | switchResponse
  deriving DecidableEq, Repr

/-- The type a header byte stands for. -/
def AdminMsgType.ofByte : UInt8 → Option AdminMsgType
  | 1 => some .listRequest
  | 2 => some .listResponse
  | 3 => some .switchRequest
  | 4 => some .switchResponse
  | _ => none

/-- The header byte of an admin message. -/
def AdminMsgType.toByte : AdminMsgType → UInt8
  | .listRequest => 1
  | .listResponse => 2
  | .switchRequest => 3
  | .switchResponse => 4

/-- The value of an admin state on the wire. -/
def AdminClientState.toU32 : AdminClientState → UInt32
  | .connected => 0
  | .negotiated => 1
  | .queued => 2
  | .grantedWarmup => 3
  | .activeRt => 4
  | .evictingCooperative => 5
  | .evictingForced => 6
  | .rejected => 7

/-- The value of a payload kind on the wire. -/
def PayloadKind.toU32 : PayloadKind → UInt32
  | .pixels => 0
  | .dmabuf => 1

/-- The bytes of one entry of a LIST_RESPONSE. -/
def AdminClientInfo.toBytes (info : AdminClientInfo) : List UInt8 :=
  List.ofFn info.clientId ++ u32Bytes info.state.toU32 ++ u32Bytes info.negotiatedMode.width ++
    u32Bytes info.negotiatedMode.height ++ u32Bytes info.negotiatedMode.fps ++
    u32Bytes info.payloadKind.toU32

/-- `sizeof(wisps_admin_client_info_t)` -/
def AdminClientInfo.size : Nat := 52

/-- `WISPS_ADMIN_REASON_LEN` -/
def adminReasonLen : Nat := 64

/-- What the admin thread asks the control thread for. -/
inductive ControlQuery where
  | list
  | switch (switchClientId : ClientId)

/-- The answer of the control thread. -/
inductive ControlReply where
  | list (clients : List AdminClientInfo)
  | switch (ok : Bool) (reason : String)

/-- The call of `wisp_ctrl_send` with which an answer is sent. Both structures were cleared
before the control thread filled them in. -/
def ControlReply.send : ControlReply → SendPc
  | .list clients =>
      ctrlSend AdminMsgType.listResponse.toByte
        (u32Bytes (UInt32.ofNat clients.length) ++ clients.flatMap AdminClientInfo.toBytes ++
          List.replicate ((adminMaxClients - clients.length) * AdminClientInfo.size) 0)
  | .switch ok reason =>
      let text := reason.toUTF8.toList.take (adminReasonLen - 1)
      ctrlSend AdminMsgType.switchResponse.toByte
        ((if ok then 1 else 0) :: text ++ List.replicate (adminReasonLen - text.length) 0)

/-- Where the admin thread stands: in `poll`, or with the connection behind a descriptor in
`wisp_ctrl_recv`, in `wisps_control_query_submit`, in `wisp_ctrl_send` or before `close`. -/
inductive AdminPc where
  | poll
  | recv (fd : Int)
  | submit (fd : Int) (query : ControlQuery)
  | send (fd : Int) (pc : SendPc)
  | close (fd : Int)

/-- `handle_connection` on what `wisp_ctrl_recv` returned. -/
def handleConnection (fd : Int) : Received → AdminPc
  | .closed | .oversized => .close fd
  | .message type payload _ =>
      match AdminMsgType.ofByte type with
      | some .listRequest => .submit fd .list
      | some .switchRequest =>
          if payload.length ≠ clientIdLen then .close fd
          else
            let clientId : ClientId := fun i => payload.getD i.val 0
            .submit fd (.switch clientId.terminate.strncpy)
      | _ => .close fd

/-- The control thread completes the query. -/
def AdminPc.complete (reply : ControlReply) : AdminPc → AdminPc
  | .submit fd _ => .send fd reply.send
  | pc => pc

end Wisp
