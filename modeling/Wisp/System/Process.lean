import Wisp.Admin.Plane
import Wisp.Control.Event

/-!
# The server process and its sockets

The control thread and the admin thread of one process, and the peers at the other ends of
their sockets, which send and close when they like. Both threads send with `write` and
`sendmsg`, and neither looks at the result.

A write to a socket whose peer has closed raises SIGPIPE. `main` blocks SIGINT and SIGTERM
only, and no disposition is changed, so the signal ends the process, with all sessions.
-/

namespace Wisp

open Transition System
open ControlPlane (Received)

/-- The signals the process has to do with. -/
inductive Signal where
  | sigint
  | sigterm
  | sigpipe
  deriving DecidableEq, Repr

/-- The mask that `main` sets before it starts the threads. -/
def blockedSignals : List Signal := [.sigint, .sigterm]

/-- The signals whose disposition is `SIG_IGN`. -/
def ignoredSignals : List Signal := []

/-- `MSG_NOSIGNAL`: `write` takes no flags, and `sendmsg` is called without any. -/
def msgNosignal : Bool := false

/-- A system call on a broken pipe ends the process. -/
def sigpipeKills : Bool :=
  !msgNosignal && !blockedSignals.contains .sigpipe && !ignoredSignals.contains .sigpipe

/-- The other end of a socket: what it has sent and the server has not read, and whether it
has closed. The server accepts it once. -/
structure Peer where
  stream : List Received
  closed : Bool
  accepted : Bool

/-- A thread of the server that sends. -/
inductive Thread where
  | control
  | admin
  deriving DecidableEq, Repr

/-- How a system call ends on a socket whose peer is there. -/
inductive Outcome where
  | wrote (n : Nat)
  | error
  deriving DecidableEq, Repr

/-- The process and the peers of its sockets. `todo` holds what the handler in progress has
still to do, `sending` its call of `wisp_ctrl_send` or `wisp_ctrl_send_fds` with the
descriptor it sends to. -/
structure Process where
  server : ControlPlane
  todo : List Effect
  sending : Option (Int × SendPc)
  admin : AdminPc
  peers : Int → Peer
  alive : Bool

/-- A step of a peer, of one of the two threads, or of the kernel for it. -/
inductive ProcessEvent where
  | peerSend (fd : Int) (received : Received)
  | peerClose (fd : Int)
  | serve (ev : Event)
  | effect
  | syscall (thread : Thread) (outcome : Outcome)
  | ret (thread : Thread)
  | adminAccept (fd : Int)
  | adminRecv (received : Received)
  | adminClose

namespace Process

/-- The process right after start-up. -/
def boot (server : ControlPlane) : Process where
  server
  todo := []
  sending := none
  admin := .poll
  peers := fun _ => ⟨[], false, false⟩
  alive := true

/-- Change one peer. -/
def setPeer (p : Process) (fd : Int) (peer : Peer) : Process :=
  { p with peers := Function.update p.peers fd peer }

/-- `accept` returns a descriptor for a peer. -/
def takeIn (p : Process) (fd : Int) : Option Process :=
  if fd < 0 ∨ (p.peers fd).accepted then none
  else some (p.setPeer fd { p.peers fd with accepted := true })

/-- A receive call returns the next message of a peer, or finds the stream at its end. -/
def receive (p : Process) (fd : Int) (received : Received) : Option Process :=
  if (p.peers fd).stream.head? = some received then
    some (p.setPeer fd { p.peers fd with stream := (p.peers fd).stream.tail })
  else if received = .closed ∧ (p.peers fd).closed ∧ (p.peers fd).stream = [] then some p
  else none

/-- The process after an event of the control thread has taken its input: from the sockets,
or from the admin thread. -/
def feed (p : Process) : Event → Option Process
  | .accept fd => if fd < 0 then some p else p.takeIn fd
  | .readable idx received _ => p.receive (p.server.table.slots idx).ctrlFd received
  | .hangup idx _ => p.receive (p.server.table.slots idx).ctrlFd .closed
  | .list =>
      match p.admin with
      | .submit _ .list => some p
      | _ => none
  | .switch id _ =>
      match p.admin with
      | .submit _ (.switch switchClientId) =>
          if ∀ i, switchClientId i = id i then some p else none
      | _ => none
  | .tick _ _ => some p

/-- The control thread handles an event. -/
def serve (p : Process) (ev : Event) : Option Process :=
  if p.todo.isEmpty ∧ p.sending.isNone then
    (p.feed ev).bind fun fed => (p.server.step ev).map fun server =>
      { fed with server, todo := server.out }
  else none

/-- The control thread gets to an effect. A send begins, an answer wakes the admin thread;
the others touch no socket that a peer sends on. -/
def perform (p : Process) : Effect → Process
  | .send _ fd msg =>
      { p with sending := some (fd, ctrlSendFds msg.wire.kind msg.wire.payload msg.wire.fds) }
  | .listReply clients => { p with admin := p.admin.complete (.list clients) }
  | .switchReply ok reason => { p with admin := p.admin.complete (.switch ok reason) }
  | .evictClient | .kick | .setMode _ _ | .close _ => p

/-- The call in which a thread sends. -/
def call (p : Process) : Thread → Option (Int × SendPc)
  | .control => p.sending
  | .admin =>
      match p.admin with
      | .send fd pc => some (fd, pc)
      | _ => none

/-- A thread that sends is at another point of its call. -/
def advance (p : Process) (fd : Int) (pc : SendPc) : Thread → Process
  | .control => { p with sending := some (fd, pc) }
  | .admin => { p with admin := .send fd pc }

/-- The next system call of a thread that sends. On a broken pipe the kernel leaves no
choice. -/
def syscall (p : Process) (thread : Thread) (outcome : Outcome) : Option Process :=
  (p.call thread).bind fun (fd, pc) =>
    if (p.peers fd).closed then
      pc.fail.map fun failed =>
        if sigpipeKills then { p with alive := false } else p.advance fd failed thread
    else
      match outcome with
      | .wrote n => (pc.write n).map fun written => p.advance fd written.2 thread
      | .error => pc.fail.map fun failed => p.advance fd failed thread

/-- A sender returns, with success or with an error that nobody looks at. -/
def ret (p : Process) : Thread → Option Process
  | .control =>
      match p.sending with
      | some (_, .done _) => some { p with sending := none }
      | _ => none
  | .admin =>
      match p.admin with
      | .send fd (.done _) => some { p with admin := .close fd }
      | _ => none

/-- One step, while the process runs. -/
def step (p : Process) (ev : ProcessEvent) : Option Process :=
  if p.alive then
    match ev with
    | .peerSend fd received =>
        if (p.peers fd).closed ∨ received = .closed then none
        else some (p.setPeer fd { p.peers fd with stream := (p.peers fd).stream ++ [received] })
    | .peerClose fd => some (p.setPeer fd { p.peers fd with closed := true })
    | .serve ev => p.serve ev
    | .effect =>
        match p.todo, p.sending with
        | effect :: rest, none => some { p.perform effect with todo := rest }
        | _, _ => none
    | .syscall thread outcome => p.syscall thread outcome
    | .ret thread => p.ret thread
    | .adminAccept fd =>
        match p.admin with
        | .poll => (p.takeIn fd).map fun p => { p with admin := .recv fd }
        | _ => none
    | .adminRecv received =>
        match p.admin with
        | .recv fd => (p.receive fd received).map fun p =>
            { p with admin := handleConnection fd received }
        | _ => none
    | .adminClose =>
        match p.admin with
        | .close _ => some { p with admin := .poll }
        | _ => none
  else none

end Process

/-- The process as a transition system. -/
def process : System Process ProcessEvent where
  step := Process.step

namespace Process

variable {p next : Process} {ev : ProcessEvent} {thread : Thread} {outcome : Outcome}

/-- A system call has brought a send forward: it has fewer bytes left, or is at its return,
with success or with an error. -/
def Progresses (before after : SendPc) : Prop :=
  after = .done 0 ∨ after = .done (-1) ∨ after.cells.length < before.cells.length

/-- A step leaves the process running. If it is a system call of a send, it brings the send
forward and leaves every session as it is. -/
def Harmless (p : Process) (ev : ProcessEvent) : Prop :=
  ∀ next ∈ process.step p ev, next.alive = true ∧ ∀ thread outcome,
    ev = .syscall thread outcome → next.server.table = p.server.table ∧
      ∃ fd before after, p.call thread = some (fd, before) ∧
        next.call thread = some (fd, after) ∧ Progresses before after

/-- The socket that a system call of a send is made on has its peer. -/
def PeerOpen (p : Process) : ProcessEvent → Prop
  | .syscall thread _ => ∀ call ∈ p.call thread, (p.peers call.1).closed = false
  | _ => True

section Frame

variable {fd : Int}

@[simp] theorem advance_alive (pc : SendPc) : (p.advance fd pc thread).alive = p.alive := by
  cases thread <;> rfl

@[simp] theorem advance_server (pc : SendPc) : (p.advance fd pc thread).server = p.server := by
  cases thread <;> rfl

@[simp] theorem advance_call (pc : SendPc) :
    (p.advance fd pc thread).call thread = some (fd, pc) := by
  cases thread <;> rfl

theorem takeIn_alive (taken : p.takeIn fd = some next) : next.alive = p.alive := by
  obtain ⟨-, same⟩ := Option.ite_none_left_eq_some.mp taken
  cases same
  rfl

theorem receive_alive {received : Received} (taken : p.receive fd received = some next) :
    next.alive = p.alive := by
  unfold receive at taken
  split at taken
  · cases taken
    rfl
  · obtain ⟨-, same⟩ := Option.ite_none_right_eq_some.mp taken
    cases same
    rfl

theorem feed_alive {ev : Event} (taken : p.feed ev = some next) : next.alive = p.alive := by
  cases ev with
  | accept fd =>
      simp only [feed] at taken
      split at taken
      · cases taken
        rfl
      · exact takeIn_alive taken
  | readable | hangup => exact receive_alive taken
  | list =>
      simp only [feed] at taken
      split at taken <;> cases taken
      rfl
  | switch =>
      simp only [feed] at taken
      split at taken
      · obtain ⟨-, same⟩ := Option.ite_none_right_eq_some.mp taken
        cases same
        rfl
      · cases taken
  | tick =>
      cases taken
      rfl

theorem serve_alive {ev : Event} (taken : p.serve ev = some next) : next.alive = p.alive := by
  obtain ⟨-, handled⟩ := Option.ite_none_right_eq_some.mp taken
  obtain ⟨fed, took, stepped⟩ := Option.bind_eq_some_iff.mp handled
  obtain ⟨server, -, rfl⟩ := Option.map_eq_some_iff.mp stepped
  show fed.alive = p.alive
  exact feed_alive took

theorem perform_alive (effect : Effect) : (p.perform effect).alive = p.alive := by
  cases effect <;> rfl

theorem ret_alive (taken : p.ret thread = some next) : next.alive = p.alive := by
  cases thread <;> simp only [ret] at taken <;> split at taken <;> cases taken <;> rfl

end Frame

/-- Nothing but a system call of a send can end the process. -/
theorem step_alive (taken : p.step ev = some next)
    (other : ∀ thread outcome, ev ≠ .syscall thread outcome) : next.alive = true := by
  obtain ⟨alive, stepped⟩ := Option.ite_none_right_eq_some.mp taken
  rw [← alive]
  cases ev with
  | peerSend fd received =>
      obtain ⟨-, same⟩ := Option.ite_none_left_eq_some.mp stepped
      cases same
      rfl
  | peerClose fd =>
      cases stepped
      rfl
  | serve ev => exact serve_alive stepped
  | effect =>
      dsimp only at stepped
      split at stepped
      · cases stepped
        exact perform_alive _
      · cases stepped
  | syscall thread outcome => exact absurd rfl (other thread outcome)
  | ret thread => exact ret_alive stepped
  | adminAccept fd =>
      dsimp only at stepped
      split at stepped
      · obtain ⟨admitted, took, rfl⟩ := Option.map_eq_some_iff.mp stepped
        show admitted.alive = p.alive
        exact takeIn_alive took
      · cases stepped
  | adminRecv received =>
      dsimp only at stepped
      split at stepped
      · obtain ⟨read, took, rfl⟩ := Option.map_eq_some_iff.mp stepped
        show read.alive = p.alive
        exact receive_alive took
      · cases stepped
  | adminClose =>
      dsimp only at stepped
      split at stepped
      · cases stepped
        rfl
      · cases stepped

section Progress

variable {before after : SendPc}

theorem progresses_of_write {n : Nat} {sent : List Cell}
    (written : before.write n = some (sent, after)) :
    Progresses before after := by
  obtain ⟨positive, length, cells, -⟩ := SendPc.write_spec written
  refine .inr (.inr ?_)
  rw [cells, List.length_append]
  omega

theorem progresses_of_fail (failed : before.fail = some after) : Progresses before after := by
  cases before with
  | done => cases failed
  | _ =>
      cases failed
      exact .inr (.inl rfl)

end Progress

/-- On a socket that has its peer a system call transfers bytes or fails, and on one that
has lost it the signal ends the process. -/
theorem syscall_spec (taken : p.syscall thread outcome = some next) :
    ∃ fd before, p.call thread = some (fd, before) ∧
      ((p.peers fd).closed = false ∧
          (∃ after, Progresses before after ∧ next = p.advance fd after thread) ∨
        (p.peers fd).closed = true ∧ next.alive = false) := by
  obtain ⟨⟨fd, before⟩, call, stepped⟩ := Option.bind_eq_some_iff.mp taken
  refine ⟨fd, before, call, ?_⟩
  dsimp only at stepped
  split at stepped
  · rename_i closed
    obtain ⟨failed, -, rfl⟩ := Option.map_eq_some_iff.mp stepped
    exact .inr ⟨closed, rfl⟩
  · rename_i opened
    refine .inl ⟨Bool.eq_false_iff.mpr opened, ?_⟩
    cases outcome with
    | wrote n =>
        obtain ⟨written, wrote, rfl⟩ := Option.map_eq_some_iff.mp stepped
        exact ⟨written.2, progresses_of_write wrote, rfl⟩
    | error =>
        obtain ⟨failed, fails, rfl⟩ := Option.map_eq_some_iff.mp stepped
        exact ⟨failed, progresses_of_fail fails, rfl⟩

/-- The step lemma: a step is harmless exactly when it writes to no broken pipe. -/
theorem harmless_iff (taken : process.step p ev = some next) : Harmless p ev ↔ PeerOpen p ev := by
  by_cases other : ∀ thread outcome, ev ≠ .syscall thread outcome
  · have harmless : Harmless p ev := by
      intro next reached
      exact ⟨step_alive reached other,
        fun thread outcome same => absurd same (other thread outcome)⟩
    have opened : PeerOpen p ev := by
      cases ev with
      | syscall thread outcome => exact absurd rfl (other thread outcome)
      | _ => trivial
    exact iff_of_true harmless opened
  · obtain ⟨thread, outcome, rfl⟩ : ∃ thread outcome, ev = .syscall thread outcome := by
      simpa only [not_forall, not_not] using other
    obtain ⟨alive, stepped⟩ : p.alive = true ∧ p.syscall thread outcome = some next :=
      Option.ite_none_right_eq_some.mp taken
    obtain ⟨fd, before, call, ⟨opened, after, progress, rfl⟩ | ⟨closed, dead⟩⟩ :=
      syscall_spec stepped
    · refine iff_of_true ?_ ?_
      · intro next reached
        cases taken.symm.trans reached
        refine ⟨(advance_alive after).trans alive, fun thread' outcome' same => ?_⟩
        cases same
        exact ⟨congrArg ControlPlane.table (advance_server after), fd, before, after, call,
          advance_call after, progress⟩
      · intro found member
        cases call.symm.trans member
        exact opened
    · refine iff_of_false ?_ ?_
      · intro harmless
        rw [(harmless next taken).1] at dead
        cases dead
      · intro opened
        rw [opened _ call] at closed
        cases closed

/-- In every state of a run the process is running, and its sends do no harm. -/
def Survives (trace : List (Process × ProcessEvent)) (finish : Process) : Prop :=
  Through (fun p => p.alive = true) trace ∧ finish.alive = true ∧ Meets Harmless trace

/-- Whatever the peers send and whenever they close: the process survives exactly when no
send writes to a socket that has lost its peer. -/
theorem survives_iff {server : ControlPlane} {finish : Process}
    {trace : List (Process × ProcessEvent)} (run : process.Run (boot server) trace finish) :
    Survives trace finish ↔ Meets PeerOpen trace := by
  have always : Meets (fun _ _ => True) trace := fun _ _ => trivial
  have same : Meets Harmless trace ↔ Meets PeerOpen trace :=
    run.exact (I := fun _ => True) always trivial (fun _ _ _ _ _ _ _ => trivial)
      fun _ _ _ _ _ taken => harmless_iff taken
  have preserved (p : Process) (ev : ProcessEvent) (next : Process) (_ : p.alive = true)
      (harmless : Harmless p ev) (taken : process.step p ev = some next) : next.alive = true :=
    (harmless next taken).1
  constructor
  · rintro ⟨-, -, harmless⟩
    exact same.mp harmless
  · intro opened
    have harmless := same.mpr opened
    have through : Through (fun p => p.alive = true) trace := run.through harmless rfl preserved
    have last : finish.alive = true :=
      run.invariant (I := fun p => p.alive = true) harmless rfl preserved
    exact ⟨through, last, harmless⟩

instance (p : Process) (ev : ProcessEvent) : Decidable (PeerOpen p ev) :=
  match ev with
  | .syscall thread _ =>
      inferInstanceAs (Decidable (∀ call ∈ p.call thread, (p.peers call.1).closed = false))
  | .peerSend _ _ | .peerClose _ | .serve _ | .effect | .ret _ | .adminAccept _ | .adminRecv _
  | .adminClose => isTrue trivial

/-- A peer has sent a message and the control thread handles it. -/
def arrives (fd : Int) (idx : Slot) (received : Received) : List ProcessEvent :=
  [.peerSend fd received, .serve (.readable idx received ⟨0, 0⟩)]

/-- A thread sends a message in these pieces. -/
def pieces (thread : Thread) (sizes : List Nat) : List ProcessEvent :=
  sizes.map (fun n => .syscall thread (.wrote n)) ++ [.ret thread]

/-- The CONNECT of a peer. -/
def hello : Received :=
  .message MsgKind.connect.toByte
    (ConnectMsg.offering (.single 97) ControlPlane.qvga).toBytes []

/-- A client connects and is granted the slot, an admin asks for the list of clients, and the
client leaves; every send has its peer. -/
theorem survives_iff_visit : ∃ trace finish, process.Run (boot .booted) trace finish ∧
    trace.map Prod.snd =
      .serve (.accept 5) :: arrives 5 0 hello ++ .effect :: pieces .control [2, 3, 16] ++
        arrives 5 0 (.message MsgKind.activateRequest.toByte [] []) ++
        .effect :: .effect :: .effect :: pieces .control [1, 4, 32] ++ .effect ::
        .adminAccept 6 :: .peerSend 6 (.message AdminMsgType.listRequest.toByte [] []) ::
        .adminRecv (.message AdminMsgType.listRequest.toByte [] []) :: .serve .list :: .effect ::
        pieces .admin [5, 420] ++ [.adminClose, .peerClose 5, .serve (.hangup 0 ⟨0, 0⟩)] ∧
    Survives trace finish :=
  Demonstrates.exists_run (P := fun trace _ => Meets PeerOpen trace) (by decide +kernel)
    fun _ _ run opened => (survives_iff run).mpr opened

/-- A client sends its CONNECT and closes: the reply ends the process. -/
theorem not_survives_of_hangup : ¬ ∀ (server : ControlPlane) (trace : List (Process × ProcessEvent))
    (finish : Process), process.Run (boot server) trace finish → Survives trace finish := by
  intro claim
  have shown : process.Demonstrates (boot .booted)
      [.serve (.accept 5), .peerSend 5 hello, .peerClose 5,
        .serve (.readable 0 hello ⟨0, 0⟩), .effect, .syscall .control (.wrote 5)]
      fun _ finish => finish.alive = false := by
    decide +kernel
  obtain ⟨trace, finish, run, -, dead⟩ := shown.run
  obtain ⟨-, alive, -⟩ := claim _ trace finish run
  rw [alive] at dead
  cases dead

end Process

end Wisp
