import Wisp.Session.Table

/-!
# A client of the SDK

`client_control.c` as two threads over one context. The first runs `wispc_connect`
up to the end of the activation handshake and then the loop of `wispc_control`; the
second runs the loop an application is told to write: while active, claim a slot,
render, publish. In between it may announce dmabufs. Loads and stores of the shared fields
are separate steps, and so are the sends and receives; a program counter says where each
thread stands.

The two ends of the control socket are queues of whole messages. A step takes what the
environment decides about it as an argument: the clock, whether the ring could be
mapped, whether a descriptor came with the message.
-/

namespace Wisp

/-- `WISP_CLIENT_RETRY_ACTIVATE_MS` -/
def clientRetryActivateMs : Int := 2000

/-- A message of the SDK, as the server reads it, with the descriptors passed along. -/
structure ClientMsg where
  kind : MsgKind
  payload : List UInt8
  fds : List Int := []
  deriving DecidableEq

/-- Where the control thread stands. Up to `spawn` it is still the thread that called
`wispc_connect`. -/
inductive ControlPc where
  | dial
  | sendConnect
  | awaitMode
  | sendRequest
  | awaitGrant
  | attach (generation : UInt32) (frameFd : Int)
  | adopt (generation : UInt32) (frameFd : Int)
  | storeGeneration (generation : UInt32)
  | storeActive
  | sendReady
  | spawn
  | loop
  | heartbeat (now : Timespec)
  | sendHeartbeat (now : Timespec)
  | retry (now : Timespec)
  | sendRetry (now : Timespec)
  | receive
  | deactivate
  | stop
  | sendStopped
  | done
  deriving DecidableEq

/-- Where the application thread stands. From `ringLoaded` on, `generation` is the
value the publish in progress has read or compared; past the comparison the code holds
it in no variable any more. -/
inductive AppPc where
  | offline
  | top
  | claim
  | render (idx : Buf)
  | publish (idx : Buf)
  | compare (idx : Buf)
  | ringLoaded (idx : Buf) (generation : UInt32)
  | grantedLoaded (idx : Buf) (generation : UInt32)
  | drop
  | storeFrameId (idx : Buf) (generation : UInt32)
  | storeWriteTs (idx : Buf) (generation : UInt32)
  | publishLocked (idx : Buf) (generation : UInt32)
  | signal
  | announce (payload : List UInt8) (fds : List Int)
  | awaitAck
  | join
  | sendDisconnect
  | gone
  | aborted
  deriving DecidableEq

/-- `wispc_ctx_t`, the program counters of its two threads, and the control socket.
`attached` tells whether `ring` is mapped, `hungUp` whether the server has closed its
end of the socket and `closed` whether the client has. -/
structure Client where
  clientId : ClientId
  modes : List RenderMode
  mode : RenderMode
  attached : Bool
  active : Bool
  running : Bool
  grantedGeneration : UInt32
  frameFd : Int
  payloadKind : PayloadKind
  dmabufAckState : Int
  lastHeartbeat : Timespec
  lastActivateAttempt : Timespec
  control : ControlPc
  app : AppPc
  inbox : List ServerMsg
  outbox : List ClientMsg
  accepted : Bool
  hungUp : Bool
  closed : Bool

/-- What the environment decides about a step of the application: which way an open
choice goes, the frame id, time stamp and pixels of the frame, and whether dmabufs are
announced, with which geometry and descriptors. -/
structure Choice where
  left : Bool := true
  word : UInt64 := 0
  pixels : List UInt8 := []
  dmabufs : Option ((Buf → DmabufDesc) × (Buf → Int)) := none

namespace Client

/-- A context after `calloc`, before its socket is connected. -/
def fresh (clientId : ClientId) (modes : List RenderMode) : Client where
  clientId
  modes
  mode := ⟨0, 0, 0⟩
  attached := false
  active := false
  running := true
  grantedGeneration := 0
  frameFd := -1
  payloadKind := .pixels
  dmabufAckState := 0
  lastHeartbeat := ⟨0, 0⟩
  lastActivateAttempt := ⟨0, 0⟩
  control := .dial
  app := .offline
  inbox := []
  outbox := []
  accepted := false
  hungUp := false
  closed := false

/-- The CONNECT that `wispc_connect` sends. -/
def connectMsg (client : Client) : ConnectMsg where
  protocolMagic := protocolMagic
  protocolMajor := protocolVersionMajor
  protocolMinor := protocolVersionMinor
  clientId := client.clientId.strncpy
  numModes := UInt32.ofNat (min maxModes client.modes.length)
  modes := fun i => client.modes.getD i.val ⟨0, 0, 0⟩

/-- `wisp_ctrl_send` to the control socket, or `wisp_ctrl_send_fds`. -/
def send (client : Client) (kind : MsgKind) (payload : List UInt8) (fds : List Int := []) :
    Client :=
  { client with outbox := client.outbox ++ [⟨kind, payload, fds⟩] }

/-- Move the control thread. -/
def goto (client : Client) (control : ControlPc) : Client :=
  { client with control }

/-- Move the application thread. -/
def turn (client : Client) (app : AppPc) : Client :=
  { client with app }

/-- The end of the process, or of the context: nothing runs and the socket is closed. -/
def exit (client : Client) (app : AppPc) : Client :=
  { client with control := .done, app, closed := true }

/-- The server's message goes into the receive queue, unless nobody will read it. -/
def deliver (client : Client) (msg : ServerMsg) : Client :=
  if client.closed then client else { client with inbox := client.inbox ++ [msg] }

/-- Where `wispc_handle_grant` returns to: `wispc_connect` or the control loop. -/
def resume (client : Client) : Client :=
  client.goto (if client.app = .offline then .spawn else .loop)

/-- `wispc_handle_grant` returns `-1`: `wispc_connect` gives up, the loop goes on. -/
def refuseGrant (client : Client) : Client :=
  if client.app = .offline then client.exit .gone else client.goto .loop

/-- `wispc_connect` on the reply to its CONNECT. -/
def negotiate (client : Client) : ServerMsg → Client
  | .mode accepted chosen =>
      if accepted then { client with mode := chosen }.goto .sendRequest else client.exit .gone
  | .versionMismatch _ _ => client.exit .gone
  | _ => client.goto .sendRequest

/-- `wispc_connect` on the reply to its ACTIVATE_REQUEST. Without its descriptor the
grant carries `-1`. -/
def activation (client : Client) (passed : Bool) : ServerMsg → Client
  | .activateGrant generation frameFd =>
      client.goto (.attach generation (if passed then frameFd else -1))
  | _ => client.goto .spawn

/-- The `switch` of `wispc_control`. -/
def dispatch (client : Client) (passed : Bool) : ServerMsg → Client
  | .activateGrant generation frameFd =>
      client.goto (.attach generation (if passed then frameFd else -1))
  | .deactivate => client.goto .deactivate
  | .evictPending _ => client.goto .stop
  | .dmabufAck accepted _ =>
      if accepted then
        { client with payloadKind := .dmabuf, dmabufAckState := 1 }.goto .loop
      else { client with dmabufAckState := -1 }.goto .loop
  | _ => client.goto .loop

/-- The message at the head of the receive queue is taken out. -/
def taken (client : Client) : Client :=
  { client with inbox := client.inbox.tail }

/-- One step of the control thread. `ok` tells whether a ring could be mapped at
`attach`, and whether the message's descriptor was passed along at a receive; for a
reply that never came it stands for the unset `kind` of `wispc_connect`. `now` is what
`clock_gettime` returns. A receive in `wispc_connect` blocks, one in the loop
times out. -/
def controlStep (client : Client) (ring : Ring) (ok : Bool) (now : Timespec) : Option Client :=
  match client.control with
  | .dial => some (client.goto .sendConnect)
  | .sendConnect =>
      some ((client.send .connect client.connectMsg.toBytes).goto .awaitMode)
  | .awaitMode =>
      match client.inbox with
      | msg :: _ => some (client.taken.negotiate msg)
      | [] =>
          if client.hungUp then
            some (if ok then client.goto .sendRequest else client.exit .gone)
          else none
  | .sendRequest => some ((client.send .activateRequest []).goto .awaitGrant)
  | .awaitGrant =>
      match client.inbox with
      | msg :: _ => some (client.taken.activation ok msg)
      | [] => if client.hungUp then some (client.goto .spawn) else none
  | .attach generation frameFd =>
      if client.attached || ok then
        some ({ client with attached := true }.goto (.adopt generation frameFd))
      else some client.refuseGrant
  | .adopt generation frameFd =>
      if frameFd < 0 then some client.refuseGrant
      else some ({ client with frameFd }.goto (.storeGeneration generation))
  | .storeGeneration generation =>
      some ({ client with grantedGeneration := generation }.goto .storeActive)
  | .storeActive => some ({ client with active := true }.goto .sendReady)
  | .sendReady => some ((client.send .readyForRt []).resume)
  | .spawn => some ((client.goto .loop).turn .top)
  | .loop => some (client.goto (if client.running then .heartbeat now else .done))
  | .heartbeat now =>
      some (client.goto
        (if client.active ∧ elapsedMs now client.lastHeartbeat ≥ clientHeartbeatMs then
          .sendHeartbeat now else .retry now))
  | .sendHeartbeat now =>
      let frameCounter := if client.attached then ring.frameCounter else 0
      -- four bytes of padding, and the counter widened to 64 bits
      let payload := u32Bytes client.grantedGeneration ++ List.replicate 4 0 ++
        u64Bytes frameCounter.toUInt64
      some ({ client with lastHeartbeat := now }.send .heartbeat payload |>.goto (.retry now))
  | .retry now =>
      some (client.goto
        (if ¬ client.active ∧
            elapsedMs now client.lastActivateAttempt ≥ clientRetryActivateMs then
          .sendRetry now else .receive))
  | .sendRetry now =>
      some ({ client with lastActivateAttempt := now }.send .activateRequest [] |>.goto .receive)
  | .receive =>
      match client.inbox with
      | msg :: _ => some (client.taken.dispatch ok msg)
      | [] => some (client.goto .loop)
  | .deactivate => some ({ client with active := false }.goto .loop)
  | .stop => some ({ client with active := false }.goto .sendStopped)
  | .sendStopped => some ((client.send .stopped []).goto .loop)
  | .done => none

/-- One step of the application thread, with the ring it leaves behind. At `top` the
application asks `wispc_is_active`, or calls `wispc_announce_dmabufs` or
`wispc_disconnect`; the operands of the comparison in `wispc_publish` are loaded in either
order. At `awaitAck` the choice is whether the time for the answer is up. -/
def appStep (client : Client) (ring : Ring) (choice : Choice) : Option (Client × Ring) :=
  match client.app with
  | .offline | .gone | .aborted => none
  | .top =>
      match choice.dmabufs with
      | some (desc, fds) =>
          let msg : DmabufAnnounceMsg := ⟨UInt32.ofNat numBuffers, desc⟩
          some ({ client with dmabufAckState := 0 }.turn
            (.announce msg.toBytes (List.ofFn fds)), ring)
      | none =>
          if choice.left then some (client.turn (if client.active then .claim else .top), ring)
          else some ({ client with running := false }.turn .join, ring)
  | .claim =>
      match ring.writeSlot with
      | some (idx, ring) => some (client.turn (.render idx), ring)
      | none => some (client.exit .aborted, ring)
  | .render idx => some (client.turn (.publish idx), ring.render idx choice.pixels)
  | .publish idx => some (client.turn (if client.active then .compare idx else .top), ring)
  | .compare idx =>
      some (client.turn
        (if choice.left then .ringLoaded idx ring.generation
          else .grantedLoaded idx client.grantedGeneration), ring)
  | .ringLoaded idx generation =>
      some (client.turn
        (if generation = client.grantedGeneration then .storeFrameId idx generation else .drop),
        ring)
  | .grantedLoaded idx generation =>
      some (client.turn
        (if ring.generation = generation then .storeFrameId idx generation else .drop), ring)
  | .drop => some ({ client with active := false }.turn .top, ring)
  | .storeFrameId idx generation =>
      some (client.turn (.storeWriteTs idx generation), ring.storeFrameId idx choice.word)
  | .storeWriteTs idx generation =>
      some (client.turn (.publishLocked idx generation), ring.storeWriteTs idx choice.word)
  | .publishLocked idx _ => some (client.turn .signal, ring.publishLocked idx)
  | .signal => some (client.turn .top, ring)
  | .announce payload fds =>
      some ((client.send .dmabufAnnounce payload fds).turn .awaitAck, ring)
  | .awaitAck =>
      some (client.turn (if client.dmabufAckState ≠ 0 ∨ choice.left then .top else .awaitAck),
        ring)
  | .join => if client.control = .done then some (client.turn .sendDisconnect, ring) else none
  | .sendDisconnect => some ((client.send .disconnect []).exit .gone, ring)

end Client

/-- The ways of the control thread on which it takes up no message and no grant, with the kind
of the message that is sent on the way. -/
inductive ControlPc.Leads : ControlPc → Option MsgKind → ControlPc → Prop where
  | dial : Leads .dial none .sendConnect
  | connect : Leads .sendConnect (some .connect) .awaitMode
  | unanswered : Leads .awaitMode none .sendRequest
  | request : Leads .sendRequest (some .activateRequest) .awaitGrant
  | ungranted : Leads .awaitGrant none .spawn
  | runs (now : Timespec) : Leads .loop none (.heartbeat now)
  | ends : Leads .loop none .done
  | beats (now : Timespec) : Leads (.heartbeat now) none (.sendHeartbeat now)
  | skips (now : Timespec) : Leads (.heartbeat now) none (.retry now)
  | heartbeat (now : Timespec) : Leads (.sendHeartbeat now) (some .heartbeat) (.retry now)
  | retries (now : Timespec) : Leads (.retry now) none (.sendRetry now)
  | waits (now : Timespec) : Leads (.retry now) none .receive
  | retry (now : Timespec) : Leads (.sendRetry now) (some .activateRequest) .receive
  | idles : Leads .receive none .loop
  | stopped : Leads .sendStopped (some .stopped) .loop

namespace Client

/-- What one step of the control thread can be. -/
inductive Proceeds (a : Client) (ok : Bool) : Client → Prop where
  | moves {pc : ControlPc} (leads : a.control.Leads none pc) : Proceeds a ok (a.goto pc)
  | sends {kind : MsgKind} {pc : ControlPc} (leads : a.control.Leads (some kind) pc)
      (payload : List UInt8) (lastHeartbeat lastActivateAttempt : Timespec) :
      Proceeds a ok (({ a with lastHeartbeat, lastActivateAttempt }.send kind payload).goto pc)
  | gone (stands : a.control = .awaitMode) : Proceeds a ok (a.exit .gone)
  | negotiates {msg : ServerMsg} {rest : List ServerMsg} (stands : a.control = .awaitMode)
      (inbox : a.inbox = msg :: rest) : Proceeds a ok (a.taken.negotiate msg)
  | activates {msg : ServerMsg} {rest : List ServerMsg} (stands : a.control = .awaitGrant)
      (inbox : a.inbox = msg :: rest) : Proceeds a ok (a.taken.activation ok msg)
  | dispatches {msg : ServerMsg} {rest : List ServerMsg} (stands : a.control = .receive)
      (inbox : a.inbox = msg :: rest) : Proceeds a ok (a.taken.dispatch ok msg)
  | attaches {generation : UInt32} {frameFd : Int}
      (stands : a.control = .attach generation frameFd) :
      Proceeds a ok ({ a with attached := true }.goto (.adopt generation frameFd))
  | unattached {generation : UInt32} {frameFd : Int}
      (stands : a.control = .attach generation frameFd)
      (fails : ¬ (a.attached = true ∨ ok = true)) :
      Proceeds a ok a.refuseGrant
  | adopts {generation : UInt32} {frameFd : Int} (stands : a.control = .adopt generation frameFd)
      (passed : 0 ≤ frameFd) : Proceeds a ok ({ a with frameFd }.goto (.storeGeneration generation))
  | unpassed {generation : UInt32} {frameFd : Int} (stands : a.control = .adopt generation frameFd)
      (negative : frameFd < 0) : Proceeds a ok a.refuseGrant
  | stores {generation : UInt32} (stands : a.control = .storeGeneration generation) :
      Proceeds a ok ({ a with grantedGeneration := generation }.goto .storeActive)
  | arms (stands : a.control = .storeActive) :
      Proceeds a ok ({ a with active := true }.goto .sendReady)
  | readies (stands : a.control = .sendReady) : Proceeds a ok (a.send .readyForRt []).resume
  | spawns (stands : a.control = .spawn) : Proceeds a ok ((a.goto .loop).turn .top)
  | disarms {pc : ControlPc}
      (stands : a.control = .deactivate ∧ pc = .loop ∨ a.control = .stop ∧ pc = .sendStopped) :
      Proceeds a ok ({ a with active := false }.goto pc)

variable {a b : Client} {ring : Ring} {ok : Bool} {now : Timespec}

/-- The reply to the CONNECT is taken, or the context is given up. -/
theorem negotiate_cases (client : Client) (msg : ServerMsg) :
    client.negotiate msg = client.exit .gone ∨
      ∃ mode, client.negotiate msg = { client with mode }.goto .sendRequest := by
  cases msg with
  | mode accepted chosen =>
      cases accepted with
      | false => exact .inl rfl
      | true => exact .inr ⟨chosen, rfl⟩
  | versionMismatch => exact .inl rfl
  | _ => exact .inr ⟨client.mode, rfl⟩

/-- The list is complete. -/
theorem proceeds_of_controlStep (taken : a.controlStep ring ok now = some b) : Proceeds a ok b := by
  cases stands : a.control <;> simp only [controlStep, stands] at taken
  case awaitMode =>
      split at taken
      · cases taken
        exact .negotiates stands ‹_›
      · split at taken
        · cases taken
          cases ok with
          | true => exact .moves (by rw [stands]; exact .unanswered)
          | false => exact .gone stands
        · cases taken
  case awaitGrant =>
      split at taken
      · cases taken
        exact .activates stands ‹_›
      · split at taken
        · cases taken
          exact .moves (by rw [stands]; exact .ungranted)
        · cases taken
  case receive =>
      split at taken
      · cases taken
        exact .dispatches stands ‹_›
      · cases taken
        exact .moves (by rw [stands]; exact .idles)
  case attach generation frameFd =>
      split at taken
      · cases taken
        exact .attaches stands
      · rename_i fails
        cases taken
        exact .unattached stands (by simpa using fails)
  case adopt generation frameFd =>
      split at taken
      · cases taken
        exact .unpassed stands ‹_›
      · cases taken
        exact .adopts stands (Int.not_lt.mp ‹_›)
  case loop =>
      cases taken
      cases a.running with
      | true => exact .moves (by rw [stands]; exact .runs _)
      | false => exact .moves (by rw [stands]; exact .ends)
  case heartbeat =>
      cases taken
      split
      · exact .moves (by rw [stands]; exact .beats _)
      · exact .moves (by rw [stands]; exact .skips _)
  case retry =>
      cases taken
      split
      · exact .moves (by rw [stands]; exact .retries _)
      · exact .moves (by rw [stands]; exact .waits _)
  case dial =>
      cases taken
      exact .moves (by rw [stands]; exact .dial)
  case sendConnect =>
      cases taken
      exact .sends (by rw [stands]; exact .connect) _ a.lastHeartbeat a.lastActivateAttempt
  case sendRequest =>
      cases taken
      exact .sends (by rw [stands]; exact .request) _ a.lastHeartbeat a.lastActivateAttempt
  case sendHeartbeat =>
      cases taken
      exact .sends (by rw [stands]; exact .heartbeat _) _ _ a.lastActivateAttempt
  case sendRetry =>
      cases taken
      exact .sends (by rw [stands]; exact .retry _) _ a.lastHeartbeat _
  case sendStopped =>
      cases taken
      exact .sends (by rw [stands]; exact .stopped) _ a.lastHeartbeat a.lastActivateAttempt
  case storeGeneration =>
      cases taken
      exact .stores stands
  case storeActive =>
      cases taken
      exact .arms stands
  case sendReady =>
      cases taken
      exact .readies stands
  case spawn =>
      cases taken
      exact .spawns stands
  case deactivate =>
      cases taken
      exact .disarms (.inl ⟨stands, rfl⟩)
  case stop =>
      cases taken
      exact .disarms (.inr ⟨stands, rfl⟩)
  case done => cases taken

end Client

end Wisp
