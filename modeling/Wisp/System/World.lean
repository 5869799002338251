import Wisp.Client.Context
import Wisp.Control.Event
import Wisp.Shm.Display

/-!
# The whole system

The control thread, the data plane and any number of SDK clients, over one shared
ring. Steps of different threads interleave freely.

The control thread handles one event at a time, but what a handler does to the ring
and to the sockets becomes visible one effect after the other: `todo` holds the effects
of the handler in progress, and the next event waits until all of them have happened.

Connections are numbered, and the number is the descriptor the server knows a
connection by. A descriptor that the kernel hands out twice would be no difference: the
server forgets it in the handler that closes it.
-/

namespace Wisp

open Transition System

/-- The processes and the memory they share. -/
structure World where
  server : ControlPlane
  todo : List Effect
  display : Display
  clients : Nat → Client

/-- A step of one of the threads, or the end of a client process. -/
inductive WorldEvent where
  | serve (ev : Event)
  | effect
  | control (c : Nat) (ok : Bool) (now : Timespec)
  | app (c : Nat) (choice : Choice)
  | crash (c : Nat)
  | checkout
  | release

namespace World

/-- The shared ring. -/
def ring (w : World) : Ring :=
  w.display.ring

/-- Change the shared ring. -/
def setRing (w : World) (ring : Ring) : World :=
  { w with display := { w.display with ring } }

/-- Change one client. -/
def setClient (w : World) (c : Nat) (client : Client) : World :=
  { w with clients := Function.update w.clients c client }

/-- The next message of a connection, as the server receives it. -/
def nextMessage (client : Client) : Option ControlPlane.Received :=
  client.outbox.head?.map fun msg => .message msg.kind.toByte msg.payload msg.fds

/-- A connected client is accepted once. -/
def admitted (client : Client) : Option Client :=
  if client.control ≠ .dial ∧ ¬ client.accepted then some { client with accepted := true }
  else none

/-- What the server reads from a connection is its next message, or the end of the
stream once the client has closed it and all messages are read. -/
def consumed (client : Client) (received : ControlPlane.Received) : Option Client :=
  if nextMessage client = some received then
    some { client with outbox := client.outbox.tail }
  else if received = .closed ∧ client.closed ∧ client.outbox = [] then some client
  else none

/-- The world after an event has taken its input from the sockets: `none` if the
sockets do not offer it. -/
def feed (w : World) : Event → Option World
  | .accept fd =>
      if fd < 0 then some w
      else (admitted (w.clients fd.toNat)).map (w.setClient fd.toNat)
  | .readable idx received _ =>
      let fd := (w.server.table.slots idx).ctrlFd
      if fd < 0 then none
      else (consumed (w.clients fd.toNat) received).map (w.setClient fd.toNat)
  | .hangup idx _ =>
      let fd := (w.server.table.slots idx).ctrlFd
      if fd < 0 then none
      else (consumed (w.clients fd.toNat) .closed).map (w.setClient fd.toNat)
  | .list | .switch _ _ | .tick _ _ => some w

/-- The control thread as it looks at the ring now. -/
def attentive (w : World) : ControlPlane :=
  { w.server with ring := w.ring }

/-- The control thread handles an event. -/
def serve (w : World) (ev : Event) : Option World :=
  if w.todo.isEmpty then
    (w.feed ev).bind fun fed => (w.attentive.step ev).map fun server =>
      { fed with server, todo := server.out }
  else none

/-- Change the client behind a descriptor, if there is one. -/
def atPeer (w : World) (fd : Int) (change : Client → Client) : World :=
  if fd < 0 then w else w.setClient fd.toNat (change (w.clients fd.toNat))

/-- One effect of the control thread happens. The data plane and the admin thread keep
nothing that a later step here would read. -/
def perform (w : World) : Effect → World
  | .evictClient => w.setRing w.ring.evictClient
  | .send _ fd msg => w.atPeer fd fun client => client.deliver msg
  | .close fd => w.atPeer fd fun client => { client with hungUp := true }
  | .kick | .setMode _ _ | .listReply _ | .switchReply _ _ => w

/-- One step of the system. -/
def step (w : World) : WorldEvent → Option World
  | .serve ev => w.serve ev
  | .effect =>
      match w.todo with
      | [] => none
      | effect :: rest => some { w.perform effect with todo := rest }
  | .control c ok now => ((w.clients c).controlStep w.ring ok now).map (w.setClient c)
  | .app c choice =>
      ((w.clients c).appStep w.ring choice).map fun next =>
        (w.setClient c next.1).setRing next.2
  | .crash c => some (w.setClient c ((w.clients c).exit .gone))
  | .checkout => (w.display.step .checkout).map fun display => { w with display }
  | .release => (w.display.step .release).map fun display => { w with display }

/-- The system right after the server has started. -/
def boot (server : ControlPlane) (clients : Nat → Client) : World where
  server
  todo := []
  display := ⟨server.ring, none⟩
  clients

end World

/-- The system as a transition system. -/
def world : System World WorldEvent where
  step := World.step

namespace World

/-- A server that supports one mode, and clients with one-letter names that offer it. -/
def studio : World :=
  boot .booted fun c => .fresh (.single (97 + UInt8.ofNat c)) [ControlPlane.qvga]

/-- The control thread of a client takes some steps. -/
def controls (c n : Nat) : List WorldEvent :=
  List.replicate n (.control c true ⟨0, 0⟩)

/-- The application of a client takes some steps. -/
def apps (c n : Nat) : List WorldEvent :=
  List.replicate n (.app c {})

/-- The server handles an event and performs its effects. -/
def serves (ev : Event) (n : Nat) : List WorldEvent :=
  .serve ev :: List.replicate n .effect

/-- A client of the studio connects and sends its ACTIVATE_REQUEST. -/
def joins (c : Nat) (idx : Slot) : List WorldEvent :=
  controls c 2 ++ serves (.accept c) 0 ++
    serves (.hello idx (97 + UInt8.ofNat c) ControlPlane.qvga) 1 ++ controls c 2

/-- The first client connects, is granted the RT slot at once, and becomes active. -/
def opening : List WorldEvent :=
  joins 0 0 ++ serves (.signal 0 .activateRequest) 4 ++ controls 0 7 ++
    serves (.signal 0 .readyForRt) 0

/-- After the opening a second client queues up, and an admin switches to it: the first
one winds down, the second one is granted the slot and becomes active. -/
def succession : List WorldEvent :=
  joins 1 1 ++ serves (.signal 1 .activateRequest) 1 ++ controls 1 2 ++
    serves (.switch (.single 98) ⟨0, 0⟩) 2 ++ controls 0 6 ++ serves (.signal 0 .stopped) 4 ++
    controls 1 9

/-- An active client is timed out, asks again and is granted the slot a second time. -/
def comeback : List WorldEvent :=
  opening ++ controls 0 3 ++ serves (.tick ⟨10, 0⟩ ⟨0, 0⟩) 4 ++ controls 0 6 ++
    List.replicate 4 (.control 0 true ⟨10, 0⟩) ++ serves (.signal 0 .activateRequest) 4 ++
    controls 0 6 ++ serves (.signal 0 .readyForRt) 0 ++ controls 0 3

/-- After the succession the server reads the second client's READY_FOR_RT, and the client
waits for a message again. -/
def relay : List WorldEvent :=
  opening ++ succession ++ serves (.signal 1 .readyForRt) 0 ++ controls 1 3

/-- As in the succession the slot is handed to the second client, but that one cannot map the
ring. -/
def impasse : List WorldEvent :=
  opening ++ joins 1 1 ++ serves (.signal 1 .activateRequest) 1 ++ controls 1 2 ++
    serves (.switch (.single 98) ⟨0, 0⟩) 2 ++ controls 0 6 ++ serves (.signal 0 .stopped) 4 ++
    controls 1 4 ++ [.control 1 false ⟨0, 0⟩] ++ controls 1 3

end World

end Wisp
