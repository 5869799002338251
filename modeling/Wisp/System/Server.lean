import Wisp.Admin.Rendezvous
import Wisp.Control.PollLoop
import Wisp.DataPlane.Loop

/-!
# The threads of the server

`main` of `server.c` from the moment its threads run, with the admin thread, the control thread
and the data plane. Each thread is modelled elsewhere; here they run together, and are stopped
one after the other when a signal arrives: `main` clears the thread's `running`, wakes it up,
joins it and closes what it has used.

A thread stands between two system calls. A call on a socket returns when the peer lets it, and
so do the sends of a handler, which are not waited for one by one.
-/

namespace Wisp

open Transition System
open ControlPlane (Received)

/-- Where `main` stands once its threads run. -/
inductive MainPc where
  | sigwait
  | haltAdmin
  | ringAdmin
  | joinAdmin
  | closeAdmin
  | haltControl
  | ringControl
  | joinControl
  | closeControl
  | haltData
  | kickData
  | joinData
  | release
  | returned
  deriving DecidableEq, Repr

/-- Where `wisps_admin_plane_run` stands. -/
inductive AdminLoopPc where
  | top
  | accept
  | serve (pc : AdminPc)
  | returned

/-- The thread has returned. -/
def AdminLoopPc.isReturned : AdminLoopPc → Bool
  | .returned => true
  | _ => false

/-- `wisps_admin_plane_t` and its thread: `stop` is the number of bytes in the stop pipe,
`backlog` the number of connections that wait to be accepted. -/
structure AdminThread where
  running : Bool
  stop : Nat
  backlog : Nat
  pc : AdminLoopPc

/-- The control thread: `tested` once the condition of the loop has been evaluated, `sending`
while the sends of a handler have not returned. -/
structure ControlThread where
  running : Bool
  stop : Nat
  tested : Bool
  sending : Bool
  loop : PollLoop

/-- The process. -/
structure Server where
  main : MainPc
  admin : AdminThread
  chan : Rendezvous
  control : ControlThread
  plane : Exposed

/-- A step of a thread, a call that returns on a socket, or something outside the process. -/
inductive ServerEvent where
  | signal
  | main
  | connect
  | adminTest
  | adminPoll
  | adminInterrupted
  | adminFails
  | adminAccept (fd : Int)
  | adminRecv (received : Received)
  | adminSubmit
  | adminSent
  | adminClose
  | exchange (ev : RendezvousEvent)
  | controlTest
  | controlPoll (listen : Bool) (slots : Slot → Revents)
  | controlInterrupted
  | controlFails
  | controlDrain (clock : Timespec)
  | controlAccept (fd : Int)
  | controlDispatch (clock : Timespec)
  | controlRecv (first : Nat) (stream : List Cell) (clock : Timespec)
  | controlTick (now clock : Timespec)
  | controlSent
  | elsewhere (fd : Int)
  | loop (ev : LoopEvent)
  | store (ring : Ring)
  | post

/-- An effect that goes to a socket. -/
def Effect.isSend : Effect → Bool
  | .send _ _ _ => true
  | _ => false

/-- What a handler has filled in for the admin thread. -/
def answerOf (effects : List Effect) : Option ControlReply :=
  effects.findSome? fun
    | .listReply clients => some (.list clients)
    | .switchReply ok reason => some (.switch ok reason)
    | _ => none

/-- What an effect of the control thread does to the ring and to the data plane. -/
def Exposed.perform (x : Exposed) : Effect → Exposed
  | .evictClient => { x with ring := x.ring.evictClient }
  | .kick => { x with dataPlane := x.dataPlane.kick }
  | .setMode width height => { x with dataPlane := x.dataPlane.setMode width height }
  | .send _ _ _ | .close _ | .listReply _ | .switchReply _ _ => x

namespace Server

/-- The threads have been started. -/
def boot (plane : ControlPlane) (taken : Int → Bool) (stale : Nat → Bool) (ring : Ring)
    (width height : UInt32) : Server where
  main := .sigwait
  admin := { running := true, stop := 0, backlog := 0, pc := .top }
  chan := .init stale
  control := { running := true, stop := 0, tested := false, sending := false
               loop := .start plane taken }
  plane := ⟨ring, .init width height⟩

/-- Move the admin thread. -/
def adminAt (s : Server) (pc : AdminLoopPc) : Server :=
  { s with admin := { s.admin with pc } }

/-- Move the control thread where no handler has run. -/
def controlAt (s : Server) (loop : PollLoop) : Server :=
  { s with control := { s.control with loop } }

/-- A handler of the control thread has run. -/
def handled (s : Server) (loop : PollLoop) : Server :=
  { s with
    control := { s.control with loop, sending := loop.cp.out.any Effect.isSend }
    plane := loop.cp.out.foldl Exposed.perform s.plane }

/-- The next step of `main`. -/
def mainStep (s : Server) : Option Server :=
  match s.main with
  | .haltAdmin => some { s with main := .ringAdmin, admin := { s.admin with running := false } }
  | .ringAdmin =>
      some { s with main := .joinAdmin, admin := { s.admin with stop := s.admin.stop + 1 } }
  | .joinAdmin => if s.admin.pc.isReturned then some { s with main := .closeAdmin } else none
  | .closeAdmin => some { s with main := .haltControl }
  | .haltControl =>
      some { s with main := .ringControl, control := { s.control with running := false } }
  | .ringControl =>
      some { s with
        main := .joinControl, control := { s.control with stop := s.control.stop + 1 } }
  | .joinControl =>
      match s.control.loop.pc with
      | .returned => some { s with main := .closeControl }
      | _ => none
  | .closeControl =>
      (s.control.loop.step .close).map fun loop => { s.controlAt loop with main := .haltData }
  | .haltData =>
      some { s with
        main := .kickData, plane := { s.plane with dataPlane := s.plane.dataPlane.halt } }
  | .kickData =>
      some { s with
        main := .joinData, plane := { s.plane with dataPlane := s.plane.dataPlane.kick } }
  | .joinData =>
      if s.plane.dataPlane.loop = .stopped then some { s with main := .release } else none
  | .release => some { s with main := .returned }
  | .sigwait | .returned => none

/-- `poll` returns in the admin thread: the stop pipe is looked at first. -/
def adminPoll (s : Server) : Option Server :=
  match s.admin.pc with
  | .serve .poll =>
      if 0 < s.admin.stop then some (s.adminAt .returned)
      else if 0 < s.admin.backlog then some (s.adminAt .accept)
      else none
  | _ => none

/-- A step of the rendezvous that is no part of another step. -/
def exchange (s : Server) (ev : RendezvousEvent) : Option Server :=
  match ev, s.admin.pc with
  | .clear, _ | .store, _ | .write, _ => (s.chan.step ev).map fun chan => { s with chan }
  | .observe, .serve (.submit fd _) =>
      (s.chan.response s.chan.serial).bind fun reply => (s.chan.step .observe).map fun chan =>
        { s with chan }.adminAt (.serve (.send fd reply.send))
  | .read, _ | .take, _ | .complete, _ =>
      if s.control.sending then none else (s.chan.step ev).map fun chan => { s with chan }
  | _, _ => none

/-- `poll` returns in the control thread, for the stop pipe, for the query channel, for others,
or because its time is up. -/
def controlPoll (s : Server) (listen : Bool) (slots : Slot → Revents) : Option Server :=
  if s.control.tested && !s.control.sending then
    let ready : Ready :=
      { stop := decide (0 < s.control.stop), chan := decide (0 < s.chan.pipe), listen, slots }
    (s.control.loop.step (.poll ready)).bind fun loop =>
      let polled := { s.controlAt loop with control := { s.control with loop, tested := false } }
      if ready.chan && !ready.stop then
        (s.chan.step .poll).map fun chan => { polled with chan }
      else some polled
  else none

/-- The rest of `drain_admin_query` up to the completion, if there is a query. -/
def controlDrain (s : Server) (clock : Timespec) : Option Server :=
  match s.control.loop.pc, s.chan.drain with
  | .drain _, .poll => (s.control.loop.step (.drain none clock)).map s.controlAt
  | .drain _, .fill n =>
      (s.control.loop.step (.drain (some (s.chan.query n)) clock)).bind fun loop =>
        (answerOf loop.cp.out).bind fun reply => (s.chan.step (.fill reply)).map fun chan =>
          { s.handled loop with chan }
  | _, _ => none

/-- The accept branch of the control thread. -/
def controlAccept (s : Server) (fd : Int) : Option Server :=
  match s.control.loop.pc, s.chan.drain with
  | .accept ready, .poll =>
      (s.control.loop.step (.accept fd)).map (if ready.listen then s.handled else s.controlAt)
  | _, _ => none

/-- The dispatch of a slot from which nothing is read. -/
def controlDispatch (s : Server) (clock : Timespec) : Option Server :=
  match s.control.loop.pc with
  | .dispatch ready (i :: _) =>
      match s.control.loop.polled i, ready.slots i with
      | some _, .input => none
      | some _, .hangup => (s.control.loop.step (.dispatch 0 [] clock)).map s.handled
      | _, _ => (s.control.loop.step (.dispatch 0 [] clock)).map s.controlAt
  | .dispatch _ [] => (s.control.loop.step (.dispatch 0 [] clock)).map s.controlAt
  | _ => none

/-- The dispatch of a slot that is read from. -/
def controlRecv (s : Server) (first : Nat) (stream : List Cell) (clock : Timespec) :
    Option Server :=
  match s.control.loop.pc with
  | .dispatch ready (i :: _) =>
      match s.control.loop.polled i, ready.slots i with
      | some _, .input => (s.control.loop.step (.dispatch first stream clock)).map s.handled
      | _, _ => none
  | _ => none

/-- The control thread takes a step that does not have to wait for its sends. -/
def unlessSending (s : Server) (next : Option Server) : Option Server :=
  if s.control.sending then none else next

/-- One step. -/
def step (s : Server) : ServerEvent → Option Server
  | .signal => if s.main = .sigwait then some { s with main := .haltAdmin } else none
  | .main => s.mainStep
  | .connect => some { s with admin := { s.admin with backlog := s.admin.backlog + 1 } }
  | .adminTest =>
      match s.admin.pc with
      | .top => some (s.adminAt (if s.admin.running then .serve .poll else .returned))
      | _ => none
  | .adminPoll => s.adminPoll
  | .adminInterrupted =>
      match s.admin.pc with
      | .serve .poll => some (s.adminAt .top)
      | _ => none
  | .adminFails =>
      match s.admin.pc with
      | .serve .poll => some (s.adminAt .returned)
      | _ => none
  | .adminAccept fd =>
      match s.admin.pc with
      | .accept =>
          if fd < 0 then some (s.adminAt .top)
          else some { s with
            admin := { s.admin with backlog := s.admin.backlog - 1, pc := .serve (.recv fd) } }
      | _ => none
  | .adminRecv received =>
      match s.admin.pc with
      | .serve (.recv fd) => some (s.adminAt (.serve (handleConnection fd received)))
      | _ => none
  | .adminSubmit =>
      match s.admin.pc with
      | .serve (.submit _ query) => (s.chan.step (.submit query)).map fun chan => { s with chan }
      | _ => none
  | .adminSent =>
      match s.admin.pc with
      | .serve (.send fd _) => some (s.adminAt (.serve (.close fd)))
      | _ => none
  | .adminClose =>
      match s.admin.pc with
      | .serve (.close _) => some (s.adminAt .top)
      | _ => none
  | .exchange ev => s.exchange ev
  | .controlTest =>
      match s.control.loop.pc with
      | .poll =>
          if s.control.tested || s.control.sending then none
          else if s.control.running then
            some { s with control := { s.control with tested := true } }
          else (s.control.loop.step .leave).map s.controlAt
      | _ => none
  | .controlPoll listen slots => s.controlPoll listen slots
  | .controlInterrupted =>
      match s.control.loop.pc with
      | .poll =>
          if s.control.tested then some { s with control := { s.control with tested := false } }
          else none
      | _ => none
  | .controlFails =>
      if s.control.tested then (s.control.loop.step .leave).map s.controlAt else none
  | .controlDrain clock => s.unlessSending (s.controlDrain clock)
  | .controlAccept fd => s.unlessSending (s.controlAccept fd)
  | .controlDispatch clock => s.unlessSending (s.controlDispatch clock)
  | .controlRecv first stream clock => s.unlessSending (s.controlRecv first stream clock)
  | .controlTick now clock =>
      s.unlessSending ((s.control.loop.step (.tick now clock)).map s.handled)
  | .controlSent =>
      if s.control.sending then some { s with control := { s.control with sending := false } }
      else none
  | .elsewhere fd => (s.control.loop.step (.elsewhere fd)).map s.controlAt
  | .loop ev => (s.plane.step (.loop ev)).map fun plane => { s with plane }
  | .store ring => some { s with plane := { s.plane with ring } }
  | .post => (s.plane.step .signal).map fun plane => { s with plane }

end Server

/-- The server process as a transition system. -/
def server : System Server ServerEvent where
  step := Server.step

end Wisp
