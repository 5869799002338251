import Wisp.Lib.Fair
import Wisp.System.Conduct

/-!
# What `main` leaves behind

`main` closes what a thread has used only when the thread is gone, and stops the threads in such
an order that none is left alone: the admin thread has had the answer to its last query when the
control thread is told to stop, and the data plane is still there while the control plane
disconnects its clients.
-/

namespace Wisp

open Transition System

/-- Who takes a step. A call on a socket returns when the peer lets it. -/
inductive Actor where
  | main
  | admin
  | adminPeer
  | control
  | controlPeer
  | data
  | outside
  deriving DecidableEq, Repr

/-- Whose step an event is. -/
def ServerEvent.owner : ServerEvent → Actor
  | .main => .main
  | .adminTest | .adminPoll | .adminAccept _ | .adminSubmit | .adminClose => .admin
  | .exchange .read | .exchange .take | .exchange .complete => .control
  | .exchange _ => .admin
  | .adminRecv _ | .adminSent => .adminPeer
  | .controlTest | .controlPoll _ _ | .controlDrain _ | .controlAccept _ | .controlDispatch _
  | .controlTick _ _ => .control
  | .controlRecv _ _ _ | .controlSent => .controlPeer
  | .loop .next | .loop (.wake _) | .loop (.blitted _ _) => .data
  | .signal | .connect | .adminInterrupted | .adminFails | .controlInterrupted | .controlFails
  | .elsewhere _ | .loop .interrupted | .loop .broken | .store _ | .post => .outside

namespace Server

variable {s t : Server} {e : ServerEvent}

theorem owner_loop (ev : LoopEvent) :
    (ServerEvent.loop ev).owner = .data ∨ (ServerEvent.loop ev).owner = .outside := by
  cases ev <;> simp [ServerEvent.owner]

theorem owner_of_controlGoes {c : ControlThread} (goes : ControlGoes s.control s.chan e c) :
    e.owner = .control ∨ e.owner = .controlPeer ∨ e.owner = .outside := by
  cases goes <;> simp [ServerEvent.owner]

/-- Between two exchanges the only step of the rendezvous is to submit a query. -/
theorem Fits.submits {chan : Rendezvous} {ev : RendezvousEvent} (fits : s.Fits .quiet)
    (taken : s.chan.step ev = some chan) : ∃ query, ev = .submit query := by
  obtain ⟨_, goes, -⟩ := fits.goes taken
  cases goes with
  | @submit query => exact ⟨query, rfl⟩

/-- The step of the poll loop that a step of the process is. -/
def loopEvent (s : Server) : ServerEvent → Option PollEvent
  | .main => if s.main = .closeControl then some .close else none
  | .controlTest => if s.control.running then none else some .leave
  | .controlPoll listen slots =>
      some (.poll
        { stop := decide (0 < s.control.stop), chan := decide (0 < s.chan.pipe), listen, slots })
  | .controlFails => some .leave
  | .controlDrain clock =>
      match s.chan.drain with
      | .fill n => some (.drain (some (s.chan.query n)) clock)
      | _ => some (.drain none clock)
  | .controlAccept fd => some (.accept fd)
  | .controlDispatch clock => some (.dispatch 0 [] clock)
  | .controlRecv first stream clock => some (.dispatch first stream clock)
  | .controlTick now clock => some (.tick now clock)
  | .elsewhere fd => some (.elsewhere fd)
  | _ => none

/-- The data plane is as before, or the effects of a handler have been performed on it. -/
def Performs (s t : Server) : Prop :=
  t.plane = s.plane ∨ t.plane = t.control.loop.cp.out.foldl Exposed.perform s.plane

/-- A step of the process is the step of the poll loop that it names, with the effects of the
handler if there is one, or it leaves the loop alone. -/
def LoopMoves (s : Server) (e : ServerEvent) (t : Server) : Prop :=
  (∃ ev, s.loopEvent e = some ev ∧ pollLoop.step s.control.loop ev = some t.control.loop ∧
      Performs s t) ∨
    s.loopEvent e = none ∧ t.control.loop = s.control.loop

theorem loopMoves_of_controlAt {ev : PollEvent} (named : s.loopEvent e = some ev)
    (taken : (s.control.loop.step ev).map s.controlAt = some t) : LoopMoves s e t := by
  obtain ⟨loop, stepped, rfl⟩ := Option.map_eq_some_iff.mp taken
  exact .inl ⟨ev, named, stepped, .inl rfl⟩

theorem loopMoves_of_handled {ev : PollEvent} (named : s.loopEvent e = some ev)
    (taken : (s.control.loop.step ev).map s.handled = some t) : LoopMoves s e t := by
  obtain ⟨loop, stepped, rfl⟩ := Option.map_eq_some_iff.mp taken
  exact .inl ⟨ev, named, stepped, .inr rfl⟩

theorem loopMoves_of_unlessSending {next : Option Server} (moves : next = some t → LoopMoves s e t)
    (taken : s.unlessSending next = some t) : LoopMoves s e t :=
  moves (Option.ite_none_left_eq_some.mp taken).2

theorem loopMoves_of_mainStep (taken : s.mainStep = some t) : LoopMoves s .main t := by
  obtain ⟨open', same⟩ | ⟨closing, closes⟩ := (frame_of_mainStep taken).2.2.2.2.2.2
  · exact .inr ⟨if_neg open', same⟩
  · refine .inl ⟨.close, if_pos closing, closes, .inl ?_⟩
    simp only [mainStep, closing] at taken
    obtain ⟨loop, -, rfl⟩ := Option.map_eq_some_iff.mp taken
    rfl

theorem loopMoves_of_controlPoll {listen : Bool} {slots : Slot → Revents}
    (taken : s.controlPoll listen slots = some t) : LoopMoves s (.controlPoll listen slots) t := by
  obtain ⟨_, taken⟩ := Option.ite_none_right_eq_some.mp taken
  obtain ⟨loop, polled, taken⟩ := Option.bind_eq_some_iff.mp taken
  dsimp only at taken
  split at taken
  · obtain ⟨chan, -, rfl⟩ := Option.map_eq_some_iff.mp taken
    exact .inl ⟨_, rfl, polled, .inl rfl⟩
  · cases taken
    exact .inl ⟨_, rfl, polled, .inl rfl⟩

theorem loopMoves_of_controlDrain {clock : Timespec} (taken : s.controlDrain clock = some t) :
    LoopMoves s (.controlDrain clock) t := by
  unfold controlDrain at taken
  split at taken
  · rename_i drain
    exact loopMoves_of_controlAt (by simp [loopEvent, drain]) taken
  · rename_i n _ drain
    obtain ⟨loop, drained, taken⟩ := Option.bind_eq_some_iff.mp taken
    obtain ⟨reply, -, taken⟩ := Option.bind_eq_some_iff.mp taken
    obtain ⟨chan, -, rfl⟩ := Option.map_eq_some_iff.mp taken
    refine .inl ⟨.drain (some (s.chan.query n)) clock, by simp [loopEvent, drain], ?_, .inr rfl⟩
    exact drained
  · cases taken

theorem loopMoves_of_controlAccept {fd : Int} (taken : s.controlAccept fd = some t) :
    LoopMoves s (.controlAccept fd) t := by
  unfold controlAccept at taken
  split at taken
  · split at taken
    · exact loopMoves_of_handled rfl taken
    · exact loopMoves_of_controlAt rfl taken
  · cases taken

theorem loopMoves_of_controlDispatch {clock : Timespec}
    (taken : s.controlDispatch clock = some t) : LoopMoves s (.controlDispatch clock) t := by
  unfold controlDispatch at taken
  split at taken
  · split at taken
    · cases taken
    · exact loopMoves_of_handled rfl taken
    · exact loopMoves_of_controlAt rfl taken
  · exact loopMoves_of_controlAt rfl taken
  · cases taken

theorem loopMoves_of_controlRecv {first : Nat} {stream : List Cell} {clock : Timespec}
    (taken : s.controlRecv first stream clock = some t) :
    LoopMoves s (.controlRecv first stream clock) t := by
  unfold controlRecv at taken
  split at taken
  · split at taken
    · exact loopMoves_of_handled rfl taken
    · cases taken
  · cases taken

theorem loopMoves_of_controlTest (taken : s.step .controlTest = some t) :
    LoopMoves s .controlTest t := by
  simp only [step] at taken
  split at taken
  · obtain ⟨_, taken⟩ := Option.ite_none_left_eq_some.mp taken
    split at taken
    · rename_i running
      cases taken
      exact .inr ⟨if_pos running, rfl⟩
    · rename_i stopped
      exact loopMoves_of_controlAt (if_neg stopped) taken
  · cases taken

theorem loopMoves_of_step (taken : server.step s e = some t) : LoopMoves s e t := by
  have acts := acts_of_step taken
  change s.step e = some t at taken
  cases e with
  | main => exact loopMoves_of_mainStep taken
  | controlTest => exact loopMoves_of_controlTest taken
  | controlPoll => exact loopMoves_of_controlPoll taken
  | controlDrain => exact loopMoves_of_unlessSending loopMoves_of_controlDrain taken
  | controlAccept => exact loopMoves_of_unlessSending loopMoves_of_controlAccept taken
  | controlDispatch => exact loopMoves_of_unlessSending loopMoves_of_controlDispatch taken
  | controlRecv => exact loopMoves_of_unlessSending loopMoves_of_controlRecv taken
  | controlTick =>
      exact loopMoves_of_unlessSending (loopMoves_of_handled rfl) taken
  | elsewhere => exact loopMoves_of_controlAt rfl taken
  | controlFails =>
      exact loopMoves_of_controlAt rfl (Option.ite_none_right_eq_some.mp taken).2
  | _ =>
      refine .inr ⟨rfl, ?_⟩
      cases acts with
      | control goes => cases goes <;> rfl
      | _ => rfl

/-- The process runs the poll loop. -/
theorem projects_loop : server.Projects pollLoop (fun s => s.control.loop) loopEvent := by
  intro s e t taken
  obtain ⟨ev, named, stepped, -⟩ | unmoved := loopMoves_of_step taken
  · exact .inl ⟨ev, named, stepped⟩
  · exact .inr unmoved

/-- The sends of a handler have returned when the condition of the loop is evaluated, and when
the loop is left. -/
def Sent (c : ControlThread) : Prop :=
  (c.tested = true → c.sending = false ∧ (c.loop.pc = .poll ∨ c.loop.pc.isReturned = true)) ∧
    (c.loop.pc.isReturned = true → c.sending = false)

theorem Sent.act (sent : Sent s.control) (acts : Acts s e t) : Sent t.control := by
  cases acts with
  | main taken =>
      obtain ⟨-, -, tested, sending, -, -, ⟨-, same⟩ | ⟨-, closes⟩⟩ := frame_of_mainStep taken
      · rw [Sent, tested, sending, same]
        exact sent
      · obtain ⟨returned, closed⟩ := PollLoop.pc_of_close closes
        have unsent := sent.2 (by rw [returned]; rfl)
        rw [Sent, sending, closed]
        exact ⟨fun _ => ⟨unsent, .inr rfl⟩, fun _ => unsent⟩
  | notices _ unsent => exact ⟨nofun, fun _ => unsent⟩
  | fills here _ _ _ _ _ moved =>
      refine ⟨fun tested => ?_, fun returned => ?_⟩
      · obtain ⟨-, polls | returned⟩ := sent.1 tested
        · cases here.symm.trans polls
        · rw [here] at returned
          cases returned
      · rw [moved] at returned
        cases returned
  | control goes => cases goes <;> simp_all [Sent, PollPc.isReturned]
  | _ => exact sent

/-- The admin thread has been joined. -/
theorem not_ready_admin (good : s.Good) (joined : s.main.left ≤ MainPc.closeAdmin.left)
    {a : Actor} (own : a = .admin ∨ a = .adminPeer) : ¬ server.Ready ServerEvent.owner a s := by
  rintro ⟨e, t, rfl, stepped⟩
  have gone := good.admin.joined joined
  obtain ⟨phase, fits⟩ := good.fits
  obtain rfl := fits.quiet (by simp [gone])
  cases acts_of_step stepped with
  | admin goes => exact goes.elsewhere.2 gone
  | submits here | observes here => cases gone.symm.trans here
  | exchanges which taken =>
      obtain ⟨query, rfl⟩ := fits.submits taken
      simp at which
  | works which => obtain rfl | rfl | rfl := which <;> simp [ServerEvent.owner] at own
  | control goes => rcases owner_of_controlGoes goes with own' | own' | own' <;> simp [own'] at own
  | @loops ev => rcases owner_loop ev with own' | own' <;> simp [own'] at own
  | _ => simp [ServerEvent.owner] at own

/-- The control thread has been joined, with its sends. -/
theorem not_ready_control (good : s.Good) (sent : Sent s.control)
    (joined : s.main.left ≤ MainPc.closeControl.left) {a : Actor}
    (own : a = .control ∨ a = .controlPeer) : ¬ server.Ready ServerEvent.owner a s := by
  rintro ⟨e, t, rfl, stepped⟩
  have gone := good.control.joined joined
  have left := good.admin.joined (Nat.le_trans joined (by decide))
  have unsent := sent.2 gone
  obtain ⟨phase, fits⟩ := good.fits
  obtain rfl := fits.quiet (by simp [left])
  cases acts_of_step stepped with
  | admin goes => exact goes.elsewhere.2 left
  | works which _ taken =>
      obtain ⟨query, rfl⟩ := fits.submits taken
      simp at which
  | exchanges which => obtain rfl | rfl | rfl := which <;> simp [ServerEvent.owner] at own
  | notices here | fills here =>
      rw [here] at gone
      cases gone
  | control goes =>
      cases goes with
      | elsewhere => simp [ServerEvent.owner] at own
      | _ => simp_all [PollPc.isReturned]
  | @loops ev => rcases owner_loop ev with own' | own' <;> simp [own'] at own
  | _ => simp [ServerEvent.owner] at own

/-- The data plane has been joined. -/
theorem not_ready_data (good : s.Good) (joined : s.main.left ≤ MainPc.release.left) :
    ¬ server.Ready ServerEvent.owner .data s := by
  rintro ⟨e, t, own, stepped⟩
  have gone := good.data.joined joined
  cases acts_of_step stepped with
  | admin goes => cases goes <;> simp [ServerEvent.owner] at own
  | exchanges which | works which =>
      obtain rfl | rfl | rfl := which <;> simp [ServerEvent.owner] at own
  | control goes => rcases owner_of_controlGoes goes with own' | own' | own' <;> simp [own'] at own
  | loops taken =>
      obtain ⟨next, moved, -⟩ := Option.map_eq_some_iff.mp taken
      have halted := good.data.halted (Nat.le_trans joined (by decide))
      have closer := (DataPlane.ahead_of_step halted moved).2.2
      simp [DataPlane.ahead, gone] at closer
  | _ => simp [ServerEvent.owner] at own

/-- Once `main` has returned, no thread takes a step. -/
theorem not_ready_of_returned {a : Actor} (good : s.Good) (sent : Sent s.control)
    (returned : s.main = .returned) (inside : a ≠ .outside) :
    ¬ server.Ready ServerEvent.owner a s := by
  have last : s.main.left = 0 := by rw [returned]; rfl
  cases a with
  | main =>
      rintro ⟨e, t, own, stepped⟩
      cases e with
      | main => simp [server, step, mainStep, returned] at stepped
      | exchange ev => cases ev <;> simp [ServerEvent.owner] at own
      | loop ev => rcases owner_loop ev with other | other <;> simp [other] at own
      | _ => simp [ServerEvent.owner] at own
  | admin => exact not_ready_admin good (by simp [last]) (.inl rfl)
  | adminPeer => exact not_ready_admin good (by simp [last]) (.inr rfl)
  | control => exact not_ready_control good sent (by simp [last]) (.inl rfl)
  | controlPeer => exact not_ready_control good sent (by simp [last]) (.inr rfl)
  | data => exact not_ready_data good (by simp [last])
  | outside => exact absurd rfl inside

/-- What `main` finds when it has joined a thread. -/
structure Orderly (s : Server) : Prop where
  admin : s.main.left ≤ MainPc.closeAdmin.left →
    (∀ a, a = .admin ∨ a = .adminPeer → ¬ server.Ready ServerEvent.owner a s) ∧
      s.chan.submit = .idle ∧ s.chan.drain = .poll ∧ s.chan.pending = none ∧ s.chan.pipe = 0
  control : s.main.left ≤ MainPc.closeControl.left →
    ∀ a, a = .control ∨ a = .controlPeer → ¬ server.Ready ServerEvent.owner a s
  clients : s.main.left ≤ MainPc.haltData.left →
    (∀ n < s.control.loop.files.opened, s.control.loop.files.closes n = 1) ∧
      s.control.loop.files.stray = 0
  data : s.main.left ≤ MainPc.release.left → ¬ server.Ready ServerEvent.owner .data s

theorem orderly_of_good (good : s.Good) (sent : Sent s.control) (owns : s.control.loop.Owns) :
    s.Orderly where
  admin joined := by
    refine ⟨fun a => not_ready_admin good joined, ?_⟩
    obtain ⟨phase, fits⟩ := good.fits
    obtain rfl := fits.quiet (by simp [good.admin.joined joined])
    exact ⟨fits.stands.submit, fits.stands.drain, fits.stands.pending, fits.stands.pipe⟩
  control joined a := not_ready_control good sent joined
  clients joined := ⟨owns.finished (good.control.closed.mp joined), owns.stray⟩
  data joined := not_ready_data good joined

/-- What every state of a run keeps. -/
theorem keeps_of_step (good : s.Good) (sent : Sent s.control) (loop : s.control.loop.Good)
    (candid : s.Candid e) (taken : server.step s e = some t) :
    t.Good ∧ Sent t.control ∧ t.control.loop.Good := by
  have acts := acts_of_step taken
  refine ⟨good.act candid acts, sent.act acts, ?_⟩
  obtain ⟨ev, -, stepped, -⟩ | ⟨-, same⟩ := loopMoves_of_step taken
  · exact (loop.step stepped).1
  · rw [same]
    exact loop

/-- In every run `main` finds what it expects when it has joined a thread: the thread is gone for
good, the admin thread leaves no query behind, and every client has been disconnected. -/
theorem orderly_of_run {cp : ControlPlane} {taken : Int → Bool} {stale : Nat → Bool} {ring : Ring}
    {frameFd : Int} {dp : Bool} {supportedModes : List RenderMode} {width height : UInt32}
    {trace : List (Server × ServerEvent)} {finish : Server}
    (created : ControlPlane.init ring frameFd dp supportedModes = some cp)
    (run : server.Run (boot cp taken stale ring width height) trace finish)
    (candid : Meets Candid trace) : Through Orderly trace ∧ finish.Orderly := by
  have initial : (boot cp taken stale ring width height).Good ∧
      Sent (boot cp taken stale ring width height).control ∧
      (boot cp taken stale ring width height).control.loop.Good :=
    ⟨good_of_boot .., ⟨nofun, nofun⟩, PollLoop.good_of_init taken created⟩
  have kept (s : Server) (e : ServerEvent) (t : Server)
      (known : s.Good ∧ Sent s.control ∧ s.control.loop.Good) (candid : s.Candid e)
      (taken : server.step s e = some t) : t.Good ∧ Sent t.control ∧ t.control.loop.Good :=
    keeps_of_step known.1 known.2.1 known.2.2 candid taken
  constructor
  · exact (run.through candid initial kept).mono fun s _ known =>
      orderly_of_good known.1 known.2.1 known.2.2.owns
  · have known := run.invariant candid initial kept
    exact orderly_of_good known.1 known.2.1 known.2.2.owns

/-- A signal arrives while a query is being submitted. -/
def interruptedQuery : List ServerEvent :=
  [.connect, .adminTest, .adminPoll, .adminAccept 20, .adminRecv (.message 1 [] []), .adminSubmit,
    .exchange .clear, .exchange .store, .loop .next, .signal, .main, .main, .exchange .write] ++
  errandPass ++
  [.exchange .observe, .adminSent, .adminClose, .adminTest, .main, .main, .main, .main,
    .controlTest, .main, .main, .main, .main, .loop (.wake [.abortFd]), .loop .next, .main, .main]

theorem orderly_of_run_interruptedQuery :
    ∃ trace finish, server.Run (boot .booted (fun fd => decide (fd < 10)) (fun _ => true) .create
        320 240) trace finish ∧
      trace.map Prod.snd = interruptedQuery ∧
      (finish.main = .returned ∧ finish.control.loop.files.opened = 1) ∧
      Through Orderly trace ∧ finish.Orderly := by
  refine Demonstrates.exists_run (P := fun trace finish => Meets Candid trace ∧
    finish.main = .returned ∧ finish.control.loop.files.opened = 1) (by decide +kernel) ?_
  rintro trace finish run ⟨candid, ends⟩
  exact ⟨ends, orderly_of_run ControlPlane.init_eq_booted run candid⟩

end Server

end Wisp
