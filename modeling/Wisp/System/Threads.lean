import Wisp.System.Server

/-!
# What the threads of the server do

`Acts` lists the steps of the process by what they do to `main`, to the threads and to the query
between them. Every state has in common what `main` has done to the threads so far and what it
has waited for: a thread whose `running` is cleared stays halted, and one that has been joined is
gone.
-/

namespace Wisp

open Transition System

/-- The steps that `main` has still to take. -/
def MainPc.left : MainPc → Nat
  | .sigwait => 13
  | .haltAdmin => 12
  | .ringAdmin => 11
  | .joinAdmin => 10
  | .closeAdmin => 9
  | .haltControl => 8
  | .ringControl => 7
  | .joinControl => 6
  | .closeControl => 5
  | .haltData => 4
  | .kickData => 3
  | .joinData => 2
  | .release => 1
  | .returned => 0

/-- The thread has left its loop. -/
def PollPc.isReturned : PollPc → Bool
  | .returned | .closed => true
  | _ => false

namespace Server

/-- The data plane finds in the ring what a well-behaved producer may have stored there. -/
def Candid (s : Server) : ServerEvent → Prop
  | .loop ev => s.plane.Candid (.loop ev)
  | _ => True

instance (s : Server) (e : ServerEvent) : Decidable (s.Candid e) :=
  match e with
  | .loop ev => inferInstanceAs (Decidable (s.plane.Candid (.loop ev)))
  | .signal | .main | .connect | .adminTest | .adminPoll | .adminInterrupted | .adminFails
  | .adminAccept _ | .adminRecv _ | .adminSubmit | .adminSent | .adminClose | .exchange _
  | .controlTest | .controlPoll _ _ | .controlInterrupted | .controlFails | .controlDrain _
  | .controlAccept _ | .controlDispatch _ | .controlRecv _ _ _ | .controlTick _ _ | .controlSent
  | .elsewhere _ | .store _ | .post => isTrue trivial

/-- What the phase of an exchange requires of the two threads. -/
structure Fits (s : Server) (phase : Rendezvous.Phase) : Prop where
  stands : s.chan.Stands phase
  asking : phase ≠ .quiet → ∃ fd query, s.admin.pc = .serve (.submit fd query)
  draining : phase = .noticed ∨ phase = .read ∨ phase = .taken →
    ∃ ready, s.control.loop.pc = .drain ready ∧ ready.chan = true
  answered : phase = .answered → ∃ ready, s.control.loop.pc = .accept ready

/-- What `main` has done to the admin thread when it has so many steps left. -/
structure AdminGood (left : Nat) (a : AdminThread) : Prop where
  halted : left ≤ MainPc.ringAdmin.left → a.running = false
  rung : left ≤ MainPc.joinAdmin.left → 0 < a.stop
  joined : left ≤ MainPc.closeAdmin.left → a.pc = .returned

/-- And to the control thread. -/
structure ControlGood (left : Nat) (c : ControlThread) : Prop where
  on : MainPc.haltControl.left ≤ left → c.running = true ∧ c.stop = 0
  halted : left ≤ MainPc.ringControl.left → c.running = false
  rung : left ≤ MainPc.joinControl.left → 0 < c.stop
  joined : left ≤ MainPc.closeControl.left → c.loop.pc.isReturned = true
  closed : left ≤ MainPc.haltData.left ↔ c.loop.pc = .closed

/-- And to the data plane. -/
structure DataGood (left : Nat) (x : Exposed) : Prop where
  halted : left ≤ MainPc.kickData.left → x.dataPlane.running = false
  kicked : left ≤ MainPc.joinData.left → x.dataPlane.loop = .wait → 0 < x.dataPlane.abortFd
  joined : left ≤ MainPc.release.left → x.dataPlane.loop = .stopped
  tame : x.Tame
  defined : x.dataPlane.loop ≠ .undefined

/-- What holds in every state. -/
structure Good (s : Server) : Prop where
  fits : ∃ phase, s.Fits phase
  admin : AdminGood s.main.left s.admin
  control : ControlGood s.main.left s.control
  data : DataGood s.main.left s.plane

/-! ### What one step does -/

/-- Where a step takes the admin thread, the rendezvous aside. -/
inductive AdminGoes (a : AdminThread) : ServerEvent → AdminLoopPc → Prop where
  | enters (stands : a.pc = .top) (runs : a.running = true) :
      AdminGoes a .adminTest (.serve .poll)
  | leaves (stands : a.pc = .top) : AdminGoes a .adminTest .returned
  | stopped (stands : a.pc = .serve .poll) : AdminGoes a .adminPoll .returned
  | offered (stands : a.pc = .serve .poll) (going : a.stop = 0) : AdminGoes a .adminPoll .accept
  | interrupted (stands : a.pc = .serve .poll) : AdminGoes a .adminInterrupted .top
  | fails (stands : a.pc = .serve .poll) : AdminGoes a .adminFails .returned
  | refused {fd} (stands : a.pc = .accept) (failed : fd < 0) : AdminGoes a (.adminAccept fd) .top
  | accepted {fd} (stands : a.pc = .accept) (valid : ¬ fd < 0) :
      AdminGoes a (.adminAccept fd) (.serve (.recv fd))
  | received {fd received} (stands : a.pc = .serve (.recv fd)) :
      AdminGoes a (.adminRecv received) (.serve (handleConnection fd received))
  | sent {fd pc} (stands : a.pc = .serve (.send fd pc)) :
      AdminGoes a .adminSent (.serve (.close fd))
  | closed {fd} (stands : a.pc = .serve (.close fd)) : AdminGoes a .adminClose .top

/-- Where a step takes the control thread while it works on no query. -/
inductive ControlGoes (c : ControlThread) (chan : Rendezvous) :
    ServerEvent → ControlThread → Prop where
  | tests (stands : c.loop.pc = .poll) (unsent : c.sending = false) (untested : c.tested = false)
      (runs : c.running = true) : ControlGoes c chan .controlTest { c with tested := true }
  | leaves {loop} (stands : c.loop.pc = .poll) (unsent : c.sending = false)
      (untested : c.tested = false) (halted : c.running = false) (moved : loop.pc = .returned) :
      ControlGoes c chan .controlTest { c with loop }
  | stopped {loop listen slots} (stands : c.loop.pc = .poll) (tested : c.tested = true)
      (rung : 0 < c.stop) (moved : loop.pc = .returned) :
      ControlGoes c chan (.controlPoll listen slots) { c with loop, tested := false }
  | polls {loop listen slots ready} (stands : c.loop.pc = .poll) (unsent : c.sending = false)
      (tested : c.tested = true) (going : c.stop = 0) (unheard : chan.pipe = 0)
      (moved : loop.pc = .drain ready) :
      ControlGoes c chan (.controlPoll listen slots) { c with loop, tested := false }
  | interrupted (stands : c.loop.pc = .poll) (tested : c.tested = true) :
      ControlGoes c chan .controlInterrupted { c with tested := false }
  | fails {loop} (stands : c.loop.pc = .poll) (tested : c.tested = true)
      (moved : loop.pc = .returned) :
      ControlGoes c chan .controlFails { c with loop }
  | drains {loop ready clock} (stands : c.loop.pc = .drain ready) (idle : chan.drain = .poll)
      (unsent : c.sending = false) (moved : loop.pc = .accept ready) :
      ControlGoes c chan (.controlDrain clock) { c with loop }
  | accepts {loop ready fd sending} (stands : c.loop.pc = .accept ready) (idle : chan.drain = .poll)
      (unsent : c.sending = false)
      (moved : loop.pc = .dispatch ready (List.finRange sessionMaxClients)) :
      ControlGoes c chan (.controlAccept fd) { c with loop, sending }
  | dispatches {loop ready i rest clock sending} (stands : c.loop.pc = .dispatch ready (i :: rest))
      (unsent : c.sending = false) (moved : loop.pc = .dispatch ready rest) :
      ControlGoes c chan (.controlDispatch clock) { c with loop, sending }
  | ends {loop ready clock} (stands : c.loop.pc = .dispatch ready []) (unsent : c.sending = false)
      (moved : loop.pc = .clock) : ControlGoes c chan (.controlDispatch clock) { c with loop }
  | receives {loop ready i rest first stream clock sending}
      (stands : c.loop.pc = .dispatch ready (i :: rest)) (unsent : c.sending = false)
      (moved : loop.pc = .dispatch ready rest) :
      ControlGoes c chan (.controlRecv first stream clock) { c with loop, sending }
  | ticks {loop now clock sending} (stands : c.loop.pc = .clock) (unsent : c.sending = false)
      (moved : loop.pc = .poll) :
      ControlGoes c chan (.controlTick now clock) { c with loop, sending }
  | sent (sending : c.sending = true) :
      ControlGoes c chan .controlSent { c with sending := false }
  | elsewhere {loop fd} (same : loop.pc = c.loop.pc) (polled : loop.polled = c.loop.polled) :
      ControlGoes c chan (.elsewhere fd) { c with loop }

/-- The effects of a handler do not move the data plane. -/
structure Spares (x y : Exposed) : Prop where
  loop : y.dataPlane.loop = x.dataPlane.loop
  running : y.dataPlane.running = x.dataPlane.running
  kicked : 0 < x.dataPlane.abortFd → 0 < y.dataPlane.abortFd

/-- What a step does. -/
inductive Acts (s : Server) : ServerEvent → Server → Prop where
  | signals (stands : s.main = .sigwait) : Acts s .signal { s with main := .haltAdmin }
  | main {t} (taken : s.mainStep = some t) : Acts s .main t
  | connects {backlog} : Acts s .connect { s with admin := { s.admin with backlog } }
  | admin {e backlog pc} (goes : AdminGoes s.admin e pc) :
      Acts s e { s with admin := { s.admin with backlog, pc } }
  | submits {chan fd query} (stands : s.admin.pc = .serve (.submit fd query))
      (taken : s.chan.step (.submit query) = some chan) : Acts s .adminSubmit { s with chan }
  | exchanges {chan ev} (own : ev = .clear ∨ ev = .store ∨ ev = .write)
      (taken : s.chan.step ev = some chan) : Acts s (.exchange ev) { s with chan }
  | observes {chan fd query reply} (stands : s.admin.pc = .serve (.submit fd query))
      (taken : s.chan.step .observe = some chan)
      (known : s.chan.response s.chan.serial = some reply) :
      Acts s (.exchange .observe)
        { s with chan, admin := { s.admin with pc := .serve (.send fd reply.send) } }
  | works {chan ev} (own : ev = .read ∨ ev = .take ∨ ev = .complete)
      (unsent : s.control.sending = false) (taken : s.chan.step ev = some chan) :
      Acts s (.exchange ev) { s with chan }
  | notices {chan loop ready listen slots} (stands : s.control.loop.pc = .poll)
      (unsent : s.control.sending = false) (going : s.control.stop = 0)
      (taken : s.chan.step .poll = some chan) (moved : loop.pc = .drain ready)
      (reported : ready.chan = true) :
      Acts s (.controlPoll listen slots)
        { s with chan, control := { s.control with loop, tested := false } }
  | fills {chan loop ready n reply clock sending plane} (stands : s.control.loop.pc = .drain ready)
      (unsent : s.control.sending = false) (works : s.chan.drain = .fill n)
      (drained : s.control.loop.step (.drain (some (s.chan.query n)) clock) = some loop)
      (known : answerOf loop.cp.out = some reply)
      (taken : s.chan.step (.fill reply) = some chan) (moved : loop.pc = .accept ready)
      (spares : Spares s.plane plane) :
      Acts s (.controlDrain clock)
        { s with chan, plane, control := { s.control with loop, sending } }
  | control {e c plane} (goes : ControlGoes s.control s.chan e c)
      (spares : Spares s.plane plane)
      (handles : plane = s.plane ∨ s.control.loop.pc.isReturned = false) :
      Acts s e { s with control := c, plane }
  | loops {ev plane} (taken : s.plane.step (.loop ev) = some plane) :
      Acts s (.loop ev) { s with plane }
  | stores {ring} : Acts s (.store ring) { s with plane := { s.plane with ring } }
  | posts {plane} (spares : Spares s.plane plane) : Acts s .post { s with plane }

theorem Spares.refl (x : Exposed) : Spares x x :=
  ⟨rfl, rfl, id⟩

theorem Spares.trans {x y z : Exposed} (first : Spares x y) (second : Spares y z) : Spares x z :=
  ⟨second.loop.trans first.loop, second.running.trans first.running,
    second.kicked ∘ first.kicked⟩

theorem spares_perform (x : Exposed) (effect : Effect) : Spares x (x.perform effect) := by
  cases effect with
  | kick => exact ⟨rfl, rfl, fun _ => eventfdWrite_pos _⟩
  | _ => exact ⟨rfl, rfl, id⟩

theorem spares_foldl (effects : List Effect) (x : Exposed) :
    Spares x (effects.foldl Exposed.perform x) := by
  induction effects generalizing x with
  | nil => exact .refl x
  | cons effect rest ih => exact (spares_perform x effect).trans (ih _)

end Server

namespace PollLoop

variable {l l' : PollLoop} {ready : Ready}

theorem pc_of_leave (taken : l.step .leave = some l') : l.pc = .poll ∧ l'.pc = .returned := by
  simp only [step] at taken
  split at taken
  · cases taken
    exact ⟨‹_›, rfl⟩
  · cases taken

theorem pc_of_poll (taken : l.step (.poll ready) = some l') :
    l.pc = .poll ∧ l'.pc = if ready.stop then .returned else .drain ready := by
  simp only [step] at taken
  split at taken
  · cases taken
    exact ⟨‹_›, rfl⟩
  · cases taken

theorem pc_of_drain {query : Option ControlQuery} {clock : Timespec}
    (stands : l.pc = .drain ready) (taken : l.step (.drain query clock) = some l') :
    l'.pc = .accept ready := by
  simp only [step, stands] at taken
  split at taken
  · cases taken
    rfl
  · cases taken
    rfl

theorem pc_of_accept {fd : Int} (stands : l.pc = .accept ready)
    (taken : l.step (.accept fd) = some l') :
    l'.pc = .dispatch ready (List.finRange sessionMaxClients) := by
  simp only [step, stands] at taken
  split at taken
  · split at taken
    · cases taken
      rfl
    · split at taken
      · cases taken
        rfl
      · cases taken
  · cases taken
    rfl

theorem pc_of_dispatch {i : Slot} {rest : List Slot} {first : Nat} {stream : List Cell}
    {clock : Timespec} (stands : l.pc = .dispatch ready (i :: rest))
    (taken : l.step (.dispatch first stream clock) = some l') : l'.pc = .dispatch ready rest := by
  simp only [step, stands, dispatch] at taken
  split at taken
  · cases taken
    rfl
  · cases taken
    rfl
  · split at taken
    · cases taken
      rfl
    · cases taken
  · cases taken
    rfl

theorem pc_of_dispatched {first : Nat} {stream : List Cell} {clock : Timespec}
    (stands : l.pc = .dispatch ready [])
    (taken : l.step (.dispatch first stream clock) = some l') : l'.pc = .clock := by
  simp only [step, stands] at taken
  cases taken
  rfl

theorem pc_of_tick {now clock : Timespec} (taken : l.step (.tick now clock) = some l') :
    l.pc = .clock ∧ l'.pc = .poll := by
  simp only [step] at taken
  split at taken
  · cases taken
    exact ⟨‹_›, rfl⟩
  · cases taken

theorem pc_of_elsewhere {fd : Int} (taken : l.step (.elsewhere fd) = some l') :
    l'.pc = l.pc ∧ l'.polled = l.polled := by
  simp only [step] at taken
  split at taken
  · cases taken
    exact ⟨rfl, rfl⟩
  · cases taken
    exact ⟨rfl, rfl⟩
  · cases taken

theorem pc_of_close (taken : l.step .close = some l') : l.pc = .returned ∧ l'.pc = .closed := by
  simp only [step] at taken
  split at taken
  · cases taken
    exact ⟨‹_›, rfl⟩
  · cases taken

/-- A query that is reported is answered. -/
theorem cp_of_drain {query : Option ControlQuery} {clock : Timespec} (stands : l.pc = .drain ready)
    (reported : ready.chan = true) (taken : l.step (.drain query clock) = some l') :
    l'.cp = l.cp.quiesce.drainAdminQuery query clock := by
  simp only [step, stands, reported, if_true, Option.some.injEq] at taken
  rw [← taken]
  rfl

end PollLoop

namespace Server

variable {s t : Server} {e : ServerEvent}

theorem acts_of_unlessSending {next : Option Server}
    (act : s.control.sending = false → next = some t → Acts s e t)
    (taken : s.unlessSending next = some t) : Acts s e t := by
  unfold unlessSending at taken
  split at taken
  · cases taken
  · rename_i unsent
    exact act (Bool.not_eq_true _ ▸ unsent) taken

theorem acts_of_adminPoll (taken : s.adminPoll = some t) : Acts s .adminPoll t := by
  unfold adminPoll at taken
  split at taken
  · rename_i stands
    split at taken
    · cases taken
      exact .admin (.stopped stands)
    · rename_i going
      split at taken
      · cases taken
        exact .admin (.offered stands (Nat.eq_zero_of_not_pos going))
      · cases taken
  · cases taken

theorem acts_of_exchange {ev : RendezvousEvent} (taken : s.exchange ev = some t) :
    Acts s (.exchange ev) t := by
  unfold exchange at taken
  split at taken
  · obtain ⟨chan, moved, rfl⟩ := Option.map_eq_some_iff.mp taken
    exact .exchanges (.inl rfl) moved
  · obtain ⟨chan, moved, rfl⟩ := Option.map_eq_some_iff.mp taken
    exact .exchanges (.inr (.inl rfl)) moved
  · obtain ⟨chan, moved, rfl⟩ := Option.map_eq_some_iff.mp taken
    exact .exchanges (.inr (.inr rfl)) moved
  · rename_i stands
    obtain ⟨reply, known, taken⟩ := Option.bind_eq_some_iff.mp taken
    obtain ⟨chan, moved, rfl⟩ := Option.map_eq_some_iff.mp taken
    exact .observes stands moved known
  · split at taken
    · cases taken
    · rename_i unsent
      obtain ⟨chan, moved, rfl⟩ := Option.map_eq_some_iff.mp taken
      exact .works (.inl rfl) (Bool.not_eq_true _ ▸ unsent) moved
  · split at taken
    · cases taken
    · rename_i unsent
      obtain ⟨chan, moved, rfl⟩ := Option.map_eq_some_iff.mp taken
      exact .works (.inr (.inl rfl)) (Bool.not_eq_true _ ▸ unsent) moved
  · split at taken
    · cases taken
    · rename_i unsent
      obtain ⟨chan, moved, rfl⟩ := Option.map_eq_some_iff.mp taken
      exact .works (.inr (.inr rfl)) (Bool.not_eq_true _ ▸ unsent) moved
  · cases taken

/-- A handler of the control thread has run, or none has. -/
theorem acts_of_handled {loop : PollLoop} (busy : s.control.loop.pc.isReturned = false)
    (goes : ∀ sending, ControlGoes s.control s.chan e { s.control with loop, sending }) :
    Acts s e (s.handled loop) ∧ Acts s e (s.controlAt loop) :=
  ⟨.control (goes _) (spares_foldl _ _) (.inr busy),
    .control (goes s.control.sending) (.refl _) (.inl rfl)⟩

theorem acts_of_controlPoll {listen : Bool} {slots : Slot → Revents}
    (taken : s.controlPoll listen slots = some t) : Acts s (.controlPoll listen slots) t := by
  unfold controlPoll at taken
  split at taken
  · rename_i both
    simp only [Bool.and_eq_true, Bool.not_eq_true'] at both
    obtain ⟨tested, unsent⟩ := both
    obtain ⟨loop, polled, taken⟩ := Option.bind_eq_some_iff.mp taken
    obtain ⟨stands, moved⟩ := PollLoop.pc_of_poll polled
    by_cases rung : 0 < s.control.stop
    · simp only [rung, decide_true, Bool.not_true, Bool.and_false, Bool.false_eq_true, if_false,
        if_true, Option.some.injEq] at taken moved
      subst taken
      exact .control (.stopped stands tested rung moved) (.refl _) (.inl rfl)
    · have going : s.control.stop = 0 := Nat.eq_zero_of_not_pos rung
      simp only [rung, decide_false, Bool.not_false, Bool.and_true, decide_eq_true_eq,
        Bool.false_eq_true, if_false] at taken moved
      split at taken
      · rename_i reported
        obtain ⟨chan, noticed, rfl⟩ := Option.map_eq_some_iff.mp taken
        exact .notices stands unsent going noticed moved (decide_eq_true reported)
      · rename_i unheard
        cases taken
        exact .control (.polls stands unsent tested going (Nat.eq_zero_of_not_pos unheard) moved)
          (.refl _) (.inl rfl)
  · cases taken

theorem acts_of_controlDrain {clock : Timespec} (unsent : s.control.sending = false)
    (taken : s.controlDrain clock = some t) : Acts s (.controlDrain clock) t := by
  unfold controlDrain at taken
  split at taken
  · rename_i ready stands idle
    obtain ⟨loop, drained, rfl⟩ := Option.map_eq_some_iff.mp taken
    exact .control (.drains stands idle unsent (PollLoop.pc_of_drain stands drained)) (.refl _)
      (.inl rfl)
  · rename_i ready n stands works
    obtain ⟨loop, drained, taken⟩ := Option.bind_eq_some_iff.mp taken
    obtain ⟨reply, known, taken⟩ := Option.bind_eq_some_iff.mp taken
    obtain ⟨chan, filled, rfl⟩ := Option.map_eq_some_iff.mp taken
    exact .fills stands unsent works drained known filled (PollLoop.pc_of_drain stands drained)
      (spares_foldl _ _)
  · cases taken

theorem acts_of_controlAccept {fd : Int} (unsent : s.control.sending = false)
    (taken : s.controlAccept fd = some t) : Acts s (.controlAccept fd) t := by
  unfold controlAccept at taken
  split at taken
  · rename_i ready stands idle
    obtain ⟨loop, accepted, rfl⟩ := Option.map_eq_some_iff.mp taken
    have both : Acts s (.controlAccept fd) (s.handled loop) ∧
        Acts s (.controlAccept fd) (s.controlAt loop) :=
      acts_of_handled (by rw [stands]; rfl) fun sending =>
        .accepts stands idle unsent (PollLoop.pc_of_accept stands accepted)
    split
    · exact both.1
    · exact both.2
  · cases taken

theorem acts_of_controlDispatch {clock : Timespec} (unsent : s.control.sending = false)
    (taken : s.controlDispatch clock = some t) : Acts s (.controlDispatch clock) t := by
  unfold controlDispatch at taken
  split at taken
  · rename_i ready i rest stands
    have both {loop : PollLoop}
        (taken : s.control.loop.step (.dispatch 0 [] clock) = some loop) :
        Acts s (.controlDispatch clock) (s.handled loop) ∧
          Acts s (.controlDispatch clock) (s.controlAt loop) :=
      acts_of_handled (by rw [stands]; rfl) fun sending =>
        .dispatches stands unsent (PollLoop.pc_of_dispatch stands taken)
    split at taken
    · cases taken
    · obtain ⟨loop, dispatched, rfl⟩ := Option.map_eq_some_iff.mp taken
      exact (both dispatched).1
    · obtain ⟨loop, dispatched, rfl⟩ := Option.map_eq_some_iff.mp taken
      exact (both dispatched).2
  · rename_i ready stands
    obtain ⟨loop, dispatched, rfl⟩ := Option.map_eq_some_iff.mp taken
    exact .control (.ends stands unsent (PollLoop.pc_of_dispatched stands dispatched)) (.refl _)
      (.inl rfl)
  · cases taken

theorem acts_of_controlRecv {first : Nat} {stream : List Cell} {clock : Timespec}
    (unsent : s.control.sending = false) (taken : s.controlRecv first stream clock = some t) :
    Acts s (.controlRecv first stream clock) t := by
  unfold controlRecv at taken
  split at taken
  · rename_i ready i rest stands
    split at taken
    · obtain ⟨loop, dispatched, rfl⟩ := Option.map_eq_some_iff.mp taken
      exact (acts_of_handled (by rw [stands]; rfl) fun sending =>
        .receives stands unsent (PollLoop.pc_of_dispatch stands dispatched)).1
    · cases taken
  · cases taken

/-- Every step of the process is one of these. -/
theorem acts_of_step (taken : server.step s e = some t) : Acts s e t := by
  change s.step e = some t at taken
  cases e with
  | main => exact .main taken
  | adminPoll => exact acts_of_adminPoll taken
  | exchange => exact acts_of_exchange taken
  | controlPoll => exact acts_of_controlPoll taken
  | controlDrain => exact acts_of_unlessSending acts_of_controlDrain taken
  | controlAccept => exact acts_of_unlessSending acts_of_controlAccept taken
  | controlDispatch => exact acts_of_unlessSending acts_of_controlDispatch taken
  | controlRecv => exact acts_of_unlessSending acts_of_controlRecv taken
  | signal =>
      obtain ⟨stands, same⟩ := Option.ite_none_right_eq_some.mp taken
      cases same
      exact .signals stands
  | connect =>
      cases taken
      exact .connects
  | adminTest =>
      simp only [step] at taken
      split at taken
      · rename_i stands
        cases taken
        cases runs : s.admin.running with
        | true => exact .admin (.enters stands runs)
        | false => exact .admin (.leaves stands)
      · cases taken
  | adminInterrupted =>
      simp only [step] at taken
      split at taken
      · cases taken
        exact .admin (.interrupted ‹_›)
      · cases taken
  | adminFails =>
      simp only [step] at taken
      split at taken
      · cases taken
        exact .admin (.fails ‹_›)
      · cases taken
  | adminAccept fd =>
      simp only [step] at taken
      split at taken
      · rename_i stands
        split at taken
        · rename_i failed
          cases taken
          exact .admin (.refused stands failed)
        · rename_i valid
          cases taken
          exact .admin (.accepted stands valid)
      · cases taken
  | adminRecv received =>
      simp only [step] at taken
      split at taken
      · cases taken
        exact .admin (.received ‹_›)
      · cases taken
  | adminSubmit =>
      simp only [step] at taken
      split at taken
      · rename_i stands
        obtain ⟨chan, moved, rfl⟩ := Option.map_eq_some_iff.mp taken
        exact .submits stands moved
      · cases taken
  | adminSent =>
      simp only [step] at taken
      split at taken
      · cases taken
        exact .admin (.sent ‹_›)
      · cases taken
  | adminClose =>
      simp only [step] at taken
      split at taken
      · cases taken
        exact .admin (.closed ‹_›)
      · cases taken
  | controlTest =>
      simp only [step] at taken
      split at taken
      · rename_i stands
        split at taken
        · cases taken
        · rename_i neither
          simp only [Bool.or_eq_true, not_or, Bool.not_eq_true] at neither
          obtain ⟨untested, unsent⟩ := neither
          split at taken
          · rename_i runs
            cases taken
            exact .control (.tests stands unsent untested runs) (.refl _) (.inl rfl)
          · rename_i halted
            obtain ⟨loop, left, rfl⟩ := Option.map_eq_some_iff.mp taken
            exact .control (.leaves stands unsent untested (Bool.not_eq_true _ ▸ halted)
              (PollLoop.pc_of_leave left).2) (.refl _) (.inl rfl)
      · cases taken
  | controlInterrupted =>
      simp only [step] at taken
      split at taken
      · rename_i stands
        split at taken
        · rename_i tested
          cases taken
          exact .control (.interrupted stands tested) (.refl _) (.inl rfl)
        · cases taken
      · cases taken
  | controlFails =>
      obtain ⟨tested, taken⟩ := Option.ite_none_right_eq_some.mp taken
      obtain ⟨loop, left, rfl⟩ := Option.map_eq_some_iff.mp taken
      obtain ⟨stands, moved⟩ := PollLoop.pc_of_leave left
      exact .control (.fails stands tested moved) (.refl _) (.inl rfl)
  | controlTick now clock =>
      refine acts_of_unlessSending (fun unsent taken => ?_) taken
      obtain ⟨loop, ticked, rfl⟩ := Option.map_eq_some_iff.mp taken
      obtain ⟨stands, moved⟩ := PollLoop.pc_of_tick ticked
      exact (acts_of_handled (by rw [stands]; rfl) fun sending => .ticks stands unsent moved).1
  | controlSent =>
      obtain ⟨sending, same⟩ := Option.ite_none_right_eq_some.mp taken
      cases same
      exact .control (.sent sending) (.refl _) (.inl rfl)
  | elsewhere fd =>
      obtain ⟨loop, moved, rfl⟩ := Option.map_eq_some_iff.mp taken
      obtain ⟨same, polled⟩ := PollLoop.pc_of_elsewhere moved
      exact .control (.elsewhere same polled) (.refl _) (.inl rfl)
  | loop ev =>
      obtain ⟨plane, moved, rfl⟩ := Option.map_eq_some_iff.mp taken
      exact .loops moved
  | store ring =>
      cases taken
      exact .stores
  | post =>
      cases taken
      exact .posts ⟨rfl, rfl, id⟩

/-- A step of `main` leaves the threads where they are, except that it closes the control plane. -/
theorem frame_of_mainStep (taken : s.mainStep = some t) :
    t.chan = s.chan ∧ t.admin.pc = s.admin.pc ∧ t.control.tested = s.control.tested ∧
      t.control.sending = s.control.sending ∧
      t.plane.dataPlane.width = s.plane.dataPlane.width ∧
      t.plane.dataPlane.height = s.plane.dataPlane.height ∧
      (s.main ≠ .closeControl ∧ t.control.loop = s.control.loop ∨
        s.main = .closeControl ∧ s.control.loop.step .close = some t.control.loop) := by
  unfold mainStep at taken
  split at taken
  all_goals rename_i here
  case h_8 =>
    obtain ⟨loop, closes, rfl⟩ := Option.map_eq_some_iff.mp taken
    exact ⟨rfl, rfl, rfl, rfl, rfl, rfl, .inr ⟨here, closes⟩⟩
  case h_3 | h_11 =>
    cases (Option.ite_none_right_eq_some.mp taken).2
    exact ⟨rfl, rfl, rfl, rfl, rfl, rfl, .inl ⟨by simp [here], rfl⟩⟩
  case h_7 =>
    split at taken
    · cases taken
      exact ⟨rfl, rfl, rfl, rfl, rfl, rfl, .inl ⟨by simp [here], rfl⟩⟩
    · cases taken
  case h_13 => cases taken
  case h_14 => cases taken
  all_goals
    cases taken
    exact ⟨rfl, rfl, rfl, rfl, rfl, rfl, .inl ⟨by simp [here], rfl⟩⟩

/-! ### What every state has in common -/

theorem AdminGood.next {n : Nat} {a : AdminThread} (good : AdminGood (n + 1) a)
    (elsewhere : n < MainPc.closeAdmin.left ∨ MainPc.ringAdmin.left < n) : AdminGood n a := by
  simp only [MainPc.left] at elsewhere
  refine ⟨fun low => good.halted ?_, fun low => good.rung ?_, fun low => good.joined ?_⟩
  all_goals
    simp only [MainPc.left] at low ⊢
    omega

theorem ControlGood.next {n : Nat} {c : ControlThread} (good : ControlGood (n + 1) c)
    (elsewhere : n < MainPc.haltData.left ∨ MainPc.ringControl.left < n) : ControlGood n c := by
  have closed := good.closed
  simp only [MainPc.left] at elsewhere closed
  refine ⟨fun high => good.on ?_, fun low => good.halted ?_, fun low => good.rung ?_,
    fun low => good.joined ?_, ?_⟩
  · simp only [MainPc.left] at high ⊢
    omega
  · simp only [MainPc.left] at low ⊢
    omega
  · simp only [MainPc.left] at low ⊢
    omega
  · simp only [MainPc.left] at low ⊢
    omega
  · rw [← closed]
    simp only [MainPc.left]
    omega

theorem DataGood.next {n : Nat} {x : Exposed} (good : DataGood (n + 1) x)
    (elsewhere : n < MainPc.release.left ∨ MainPc.kickData.left < n) : DataGood n x := by
  simp only [MainPc.left] at elsewhere
  refine ⟨fun low => good.halted ?_, fun low => good.kicked ?_, fun low => good.joined ?_,
    good.tame, good.defined⟩
  all_goals
    simp only [MainPc.left] at low ⊢
    omega

/-- A step of `main` keeps the threads in order. -/
theorem Good.main (good : s.Good) (taken : s.mainStep = some t) : t.Good := by
  obtain ⟨⟨phase, stands, asking, draining, answered⟩, admin, control, data⟩ := good
  unfold mainStep at taken
  split at taken
  all_goals rename_i here
  all_goals rw [here] at admin control data
  · cases taken
    refine ⟨⟨phase, stands, asking, draining, answered⟩, ⟨fun _ => rfl, ?_, ?_⟩,
      control.next (.inr (by decide)), data.next (.inr (by decide))⟩ <;> simp [MainPc.left]
  · cases taken
    refine ⟨⟨phase, stands, asking, draining, answered⟩,
      ⟨fun _ => admin.halted (by decide), fun _ => Nat.succ_pos _, ?_⟩,
      control.next (.inr (by decide)), data.next (.inr (by decide))⟩
    simp [MainPc.left]
  · obtain ⟨returned, same⟩ := Option.ite_none_right_eq_some.mp taken
    cases same
    have joined : s.admin.pc = .returned := by
      cases pc : s.admin.pc with
      | returned => rfl
      | _ => simp [pc, AdminLoopPc.isReturned] at returned
    exact ⟨⟨phase, stands, asking, draining, answered⟩,
      ⟨fun _ => admin.halted (by decide), fun _ => admin.rung (by decide), fun _ => joined⟩,
      control.next (.inr (by decide)), data.next (.inr (by decide))⟩
  · cases taken
    exact ⟨⟨phase, stands, asking, draining, answered⟩, admin.next (.inl (by decide)),
      control.next (.inr (by decide)), data.next (.inr (by decide))⟩
  · cases taken
    have open' := control.closed
    refine ⟨⟨phase, stands, asking, draining, answered⟩, admin.next (.inl (by decide)),
      ⟨?_, fun _ => rfl, ?_, ?_,
        iff_of_false ?_ fun closed => absurd (open'.mpr closed) (by decide)⟩,
      data.next (.inr (by decide))⟩ <;> simp [MainPc.left]
  · cases taken
    have open' := control.closed
    refine ⟨⟨phase, stands, asking, draining, answered⟩, admin.next (.inl (by decide)),
      ⟨?_, fun _ => control.halted (by decide), fun _ => Nat.succ_pos _, ?_,
        iff_of_false ?_ fun closed => absurd (open'.mpr closed) (by decide)⟩,
      data.next (.inr (by decide))⟩ <;> simp [MainPc.left]
  · split at taken
    · rename_i returned
      cases taken
      refine ⟨⟨phase, stands, asking, draining, answered⟩, admin.next (.inl (by decide)),
        ⟨?_, fun _ => control.halted (by decide), fun _ => control.rung (by decide),
          fun _ => by rw [returned]; rfl, iff_of_false ?_ (by simp [returned])⟩,
        data.next (.inr (by decide))⟩ <;> simp [MainPc.left]
    · cases taken
  · obtain ⟨loop, closes, rfl⟩ := Option.map_eq_some_iff.mp taken
    simp only [PollLoop.step] at closes
    split at closes
    · rename_i returned
      cases closes
      -- Its loop is left, so the control thread works on no query.
      rw [returned] at draining answered
      refine ⟨⟨phase, stands, asking, fun works => ?_, fun works => ?_⟩,
        admin.next (.inl (by decide)),
        ⟨?_, fun _ => control.halted (by decide), fun _ => control.rung (by decide),
          fun _ => rfl, iff_of_true (Nat.le_refl _) rfl⟩, data.next (.inr (by decide))⟩
      · obtain ⟨_, drains, _⟩ := draining works
        cases drains
      · obtain ⟨_, accepts⟩ := answered works
        cases accepts
      · simp [MainPc.left]
    · cases closes
  · cases taken
    refine ⟨⟨phase, stands, asking, draining, answered⟩, admin.next (.inl (by decide)),
      control.next (.inl (by decide)), ⟨fun _ => rfl, ?_, ?_, data.tame, data.defined⟩⟩ <;>
      simp [MainPc.left]
  · cases taken
    refine ⟨⟨phase, stands, asking, draining, answered⟩, admin.next (.inl (by decide)),
      control.next (.inl (by decide)), ⟨fun _ => data.halted (by decide),
        fun _ _ => eventfdWrite_pos _, ?_, data.tame, data.defined⟩⟩
    simp [MainPc.left]
  · obtain ⟨stopped, same⟩ := Option.ite_none_right_eq_some.mp taken
    cases same
    exact ⟨⟨phase, stands, asking, draining, answered⟩, admin.next (.inl (by decide)),
      control.next (.inl (by decide)), ⟨fun _ => data.halted (by decide),
        fun _ => data.kicked (by decide), fun _ => stopped, data.tame, data.defined⟩⟩
  · cases taken
    exact ⟨⟨phase, stands, asking, draining, answered⟩, admin.next (.inl (by decide)),
      control.next (.inl (by decide)), data.next (.inl (by decide))⟩
  all_goals cases taken

/-- The admin thread moves outside the rendezvous, so there is no exchange. -/
theorem Fits.quiet {phase : Rendezvous.Phase} (fits : s.Fits phase)
    (elsewhere : ∀ fd query, s.admin.pc ≠ .serve (.submit fd query)) : phase = .quiet := by
  by_contra busy
  obtain ⟨fd, query, asks⟩ := fits.asking busy
  exact elsewhere fd query asks

theorem AdminGoes.elsewhere {a : AdminThread} {pc : AdminLoopPc} (goes : AdminGoes a e pc) :
    (∀ fd query, a.pc ≠ .serve (.submit fd query)) ∧ a.pc ≠ .returned := by
  cases goes <;> simp_all

/-- With a query on its hands the control thread goes nowhere outside the rendezvous. -/
theorem ControlGoes.busy {c c' : ControlThread} {chan : Rendezvous} {ready : Ready}
    (goes : ControlGoes c chan e c') (busy : chan.drain ≠ .poll)
    (stands : c.loop.pc = .drain ready ∨ c.loop.pc = .accept ready) :
    c'.loop.pc = c.loop.pc := by
  cases goes with
  | tests | interrupted | sent => rfl
  | elsewhere same => exact same
  | drains _ idle | accepts _ idle => exact absurd idle busy
  | _ => simp_all

/-- A thread that has left its loop does not come back. -/
theorem ControlGoes.returned {c c' : ControlThread} {chan : Rendezvous}
    (goes : ControlGoes c chan e c') (returned : c.loop.pc.isReturned = true) :
    c'.loop.pc = c.loop.pc := by
  cases goes with
  | tests | interrupted | sent => rfl
  | elsewhere same => exact same
  | _ => simp_all [PollPc.isReturned]

theorem ControlGoes.frame {c c' : ControlThread} {chan : Rendezvous}
    (goes : ControlGoes c chan e c') : c'.running = c.running ∧ c'.stop = c.stop ∧
      (c'.loop.pc = .closed ↔ c.loop.pc = .closed) := by
  cases goes with
  | tests | interrupted | sent => exact ⟨rfl, rfl, Iff.rfl⟩
  | elsewhere same => exact ⟨rfl, rfl, by rw [same]⟩
  | _ => simp_all

theorem ControlGood.goes {left : Nat} {c c' : ControlThread} {chan : Rendezvous}
    (good : ControlGood left c) (goes : ControlGoes c chan e c') : ControlGood left c' := by
  obtain ⟨running, stop, closed⟩ := goes.frame
  refine ⟨fun high => ?_, fun low => ?_, fun low => ?_, fun low => ?_,
    good.closed.trans closed.symm⟩
  · rw [running, stop]
    exact good.on high
  · rw [running]
    exact good.halted low
  · rw [stop]
    exact good.rung low
  · have returned := good.joined low
    rw [goes.returned returned]
    exact returned

/-- The control thread moves on within its loop. -/
theorem ControlGood.moves {left : Nat} {c c' : ControlThread} (good : ControlGood left c)
    (running : c'.running = c.running) (stop : c'.stop = c.stop)
    (before : c.loop.pc.isReturned = false) (after : c'.loop.pc.isReturned = false) :
    ControlGood left c' := by
  have unclosed {pc : PollPc} (inside : pc.isReturned = false) : pc ≠ .closed := by
    rintro rfl
    cases inside
  refine ⟨fun high => ?_, fun low => ?_, fun low => ?_, fun low => ?_, ?_⟩
  · rw [running, stop]
    exact good.on high
  · rw [running]
    exact good.halted low
  · rw [stop]
    exact good.rung low
  · cases before.symm.trans (good.joined low)
  · exact iff_of_false (fun low => unclosed before (good.closed.mp low)) (unclosed after)

theorem Fits.control {phase : Rendezvous.Phase} {c : ControlThread} {plane : Exposed}
    (fits : s.Fits phase) (goes : ControlGoes s.control s.chan e c) :
    Fits { s with control := c, plane } phase := by
  obtain ⟨stands, asking, draining, answered⟩ := fits
  refine ⟨stands, asking, fun works => ?_, fun works => ?_⟩
  · obtain ⟨ready, here, reported⟩ := draining works
    refine ⟨ready, (goes.busy ?_ (.inl here)).trans here, reported⟩
    rw [stands.drain]
    obtain rfl | rfl | rfl := works <;> nofun
  · obtain ⟨ready, here⟩ := answered works
    refine ⟨ready, (goes.busy ?_ (.inr here)).trans here⟩
    rw [stands.drain, works]
    nofun

/-- A step of the rendezvous leads to the next phase. -/
theorem Fits.goes {phase : Rendezvous.Phase} {chan : Rendezvous} {ev : RendezvousEvent}
    (fits : s.Fits phase) (taken : s.chan.step ev = some chan) :
    ∃ phase', Rendezvous.Goes s.chan phase ev chan phase' ∧ chan.Stands phase' := by
  obtain ⟨phase', goes⟩ := Rendezvous.goes_of_step fits.stands taken
  exact ⟨phase', goes, Rendezvous.stands_of_goes fits.stands goes⟩

/-- A step of the rendezvous that leaves both threads where they are in their loops. -/
theorem Fits.exchange {phase : Rendezvous.Phase} {chan : Rendezvous} {ev : RendezvousEvent}
    (fits : s.Fits phase) (taken : s.chan.step ev = some chan)
    (asks : ∀ query, ev = .submit query → ∃ fd query, s.admin.pc = .serve (.submit fd query))
    (own : ∀ reply, ev ≠ .observe ∧ ev ≠ .poll ∧ ev ≠ .fill reply) :
    ∃ phase', Fits { s with chan } phase' := by
  obtain ⟨phase', goes, stands⟩ := fits.goes taken
  obtain ⟨-, asking, draining, answered⟩ := fits
  have asks : ∃ fd query, s.admin.pc = .serve (.submit fd query) := by
    cases goes with
    | submit => exact asks _ rfl
    | _ => exact asking nofun
  refine ⟨phase', stands, fun _ => asks, fun works => ?_, fun works => ?_⟩
  · cases goes with
    | poll => exact absurd rfl (own (.list [])).2.1
    | read => exact draining (.inl rfl)
    | take => exact draining (.inr (.inl rfl))
    | _ => simp at works
  · cases goes with
    | fill => exact absurd rfl (own _).2.2
    | _ => simp at works

/-- The control thread notices a query. -/
theorem Fits.notice {phase : Rendezvous.Phase} {chan : Rendezvous} {c : ControlThread}
    {ready : Ready} (fits : s.Fits phase) (taken : s.chan.step .poll = some chan)
    (moved : c.loop.pc = .drain ready) (reported : ready.chan = true) :
    ∃ phase', Fits { s with chan, control := c } phase' := by
  obtain ⟨phase', goes, stands⟩ := fits.goes taken
  have asks := fits.asking
  cases goes with
  | poll => exact ⟨.noticed, stands, fun _ => asks nofun, fun _ => ⟨ready, moved, reported⟩, nofun⟩

/-- The control thread has filled in the answer. -/
theorem Fits.fill {phase : Rendezvous.Phase} {chan : Rendezvous} {c : ControlThread}
    {plane : Exposed} {ready : Ready} {reply : ControlReply} (fits : s.Fits phase)
    (taken : s.chan.step (.fill reply) = some chan) (moved : c.loop.pc = .accept ready) :
    ∃ phase', Fits { s with chan, plane, control := c } phase' := by
  obtain ⟨phase', goes, stands⟩ := fits.goes taken
  have asks := fits.asking
  cases goes with
  | fill => exact ⟨.answered, stands, fun _ => asks nofun, by simp, fun _ => ⟨ready, moved⟩⟩

/-- The admin thread has its answer. -/
theorem Fits.observe {phase : Rendezvous.Phase} {chan : Rendezvous} {a : AdminThread}
    (fits : s.Fits phase) (taken : s.chan.step .observe = some chan) :
    ∃ phase', Fits { s with chan, admin := a } phase' := by
  obtain ⟨phase', goes, stands⟩ := fits.goes taken
  cases goes with
  | observe => exact ⟨.quiet, stands, fun busy => absurd rfl busy, by simp, nofun⟩

theorem DataGood.spares {left : Nat} {x y : Exposed} (good : DataGood left x)
    (spares : Spares x y) : DataGood left y := by
  refine ⟨fun low => ?_, fun low => ?_, fun low => ?_, ?_, ?_⟩
  · rw [spares.running]
    exact good.halted low
  · rw [spares.loop]
    exact fun waits => spares.kicked (good.kicked low waits)
  · rw [spares.loop]
    exact good.joined low
  · unfold Exposed.Tame
    rw [spares.loop]
    exact good.tame
  · rw [spares.loop]
    exact good.defined

end Server

namespace DataPlane

variable {dp dp' : DataPlane} {ring ring' : Ring} {ev : LoopEvent}

/-- How far the loop is from its end, once `running` is cleared. -/
def ahead (dp : DataPlane) : Nat :=
  match dp.loop with
  | .drain events _ =>
      12 + events.length + (if 0 < dp.frameFd then 1 else 0) + (if 0 < dp.abortFd then 1 else 0)
  | .checkout => 11
  | .loadFrameId _ => 10
  | .loadWriteTs _ _ => 9
  | .loadPixels _ _ _ => 8
  | .blit _ _ _ => 7
  | .release _ _ _ => 6
  | .count _ _ _ => 5
  | .wait => 3
  | .woken _ => 2
  | .top => 1
  | .stopped | .undefined => 0

/-- A step of the loop after `running` has been cleared: it does not go to sleep again, and it
comes closer to its end. -/
theorem ahead_of_next (halted : dp.running = false) (taken : dp.next ring = some (dp', ring')) :
    dp'.running = false ∧ dp'.loop ≠ .wait ∧ dp'.ahead < dp.ahead := by
  cases stands : dp.loop <;> simp only [next, stands] at taken
  case top | woken =>
      cases taken
      simp [halted, goto, ahead, stands]
  case drain events haveFrameSignal =>
      cases events with
      | nil =>
          cases taken
          cases haveFrameSignal <;> simp [halted, goto, ahead, stands] <;> omega
      | cons source events =>
          dsimp only at taken
          split at taken
          · rename_i readable
            cases taken
            cases source <;> simp_all [clear, counter, ahead]
          · cases taken
            simp [halted, goto, ahead, stands]
  case checkout =>
      cases taken
      unfold checkedOut
      split <;> simp [halted, goto, ahead, stands]
  case loadFrameId | loadWriteTs | loadPixels =>
      split at taken <;> cases taken <;> simp [halted, goto, ahead, stands]
  case release =>
      cases taken
      simp [halted, goto, ahead, stands]
  case count =>
      cases taken
      unfold account
      split <;> simp [halted, goto, ahead, stands]
  all_goals cases taken

theorem ahead_of_step (halted : dp.running = false) (taken : dp.step ring ev = some (dp', ring')) :
    dp'.running = false ∧ dp'.loop ≠ .wait ∧ dp'.ahead < dp.ahead := by
  cases ev with
  | next => exact ahead_of_next halted taken
  | wake events =>
      cases stands : dp.loop <;> simp only [step, stands] at taken
      case wait =>
          split at taken
          · cases taken
            simp [halted, goto, ahead, stands]
          · cases taken
      all_goals cases taken
  | interrupted | broken =>
      cases stands : dp.loop <;> simp only [step, stands] at taken
      case wait =>
          cases taken
          simp [halted, goto, ahead, stands]
      all_goals cases taken
  | blitted rc nowNs =>
      cases stands : dp.loop <;> simp only [step, stands] at taken
      case blit =>
          cases taken
          simp [halted, goto, ahead, stands]
      all_goals cases taken

/-- An index of a buffer names one. -/
theorem bufOf_of_inRange {idx : Int} (inRange : InRange idx) :
    ∃ i, Pipeline.bufOf idx = some i := by
  obtain ⟨n, rfl⟩ := Int.eq_ofNat_of_zero_le inRange.1
  have less : n < numBuffers := Int.ofNat_lt.mp inRange.2
  exact ⟨⟨n, less⟩, Pipeline.bufOf_val ⟨n, less⟩⟩

/-- With the index of a buffer the loop never leaves the ring. -/
theorem defined_of_step (tame : ∀ idx ∈ dp.loop.access, InRange idx)
    (taken : dp.step ring ev = some (dp', ring')) : dp'.loop ≠ .undefined := by
  have known {idx : Int} (works : dp.loop.access = some idx) :
      ∃ i, Pipeline.bufOf idx = some i := bufOf_of_inRange (tame idx works)
  cases ev with
  | next =>
      change dp.next ring = some (dp', ring') at taken
      cases stands : dp.loop <;> simp only [next, stands] at taken
      case loadFrameId | loadWriteTs | loadPixels =>
          obtain ⟨i, found⟩ := known (by rw [stands]; rfl)
          rw [found] at taken
          cases taken
          exact LoopPc.noConfusion
      case top | woken =>
          cases taken
          cases dp.running <;> exact LoopPc.noConfusion
      case drain events haveFrameSignal =>
          cases events with
          | nil =>
              cases taken
              cases haveFrameSignal <;> exact LoopPc.noConfusion
          | cons source events =>
              dsimp only at taken
              split at taken
              · cases taken
                simp [stands]
              · cases taken
                exact LoopPc.noConfusion
      case checkout =>
          cases taken
          unfold checkedOut
          split <;> exact LoopPc.noConfusion
      all_goals
        cases taken
        try exact LoopPc.noConfusion
  | wake events =>
      cases stands : dp.loop <;> simp only [step, stands] at taken
      case wait =>
          split at taken
          · cases taken
            exact LoopPc.noConfusion
          · cases taken
      all_goals cases taken
  | interrupted | broken | blitted =>
      cases stands : dp.loop <;> simp only [step, stands] at taken
      all_goals
        cases taken
        try exact LoopPc.noConfusion

end DataPlane

namespace Server

variable {s t : Server} {e : ServerEvent}

/-- A step of the data plane. -/
theorem DataGood.loops {left : Nat} {x y : Exposed} {ev : LoopEvent} (good : DataGood left x)
    (candid : x.Candid (.loop ev)) (taken : x.step (.loop ev) = some y) : DataGood left y := by
  have tame := Exposed.tame_step good.tame candid taken
  obtain ⟨next, moved, rfl⟩ := Option.map_eq_some_iff.mp taken
  have halted (low : left ≤ MainPc.kickData.left) :=
    DataPlane.ahead_of_step (good.halted low) moved
  refine ⟨fun low => (halted low).1, fun low waits => ?_, fun low => ?_, tame,
    DataPlane.defined_of_step good.tame moved⟩
  · exact absurd waits (halted (Nat.le_succ_of_le low)).2.1
  · have closer := (halted (Nat.le_trans low (by decide))).2.2
    have stopped := good.joined low
    simp [DataPlane.ahead, stopped] at closer

/-- Every step keeps the threads in order. -/
theorem Good.act (good : s.Good) (candid : s.Candid e) (acts : Acts s e t) : t.Good := by
  cases acts with
  | main taken => exact good.main taken
  | signals stands =>
      obtain ⟨⟨phase, fits⟩, admin, control, data⟩ := good
      rw [stands] at admin control data
      exact ⟨⟨phase, fits.stands, fits.asking, fits.draining, fits.answered⟩,
        admin.next (.inr (by decide)), control.next (.inr (by decide)),
        data.next (.inr (by decide))⟩
  | connects =>
      obtain ⟨⟨phase, fits⟩, admin, control, data⟩ := good
      exact ⟨⟨phase, fits.stands, fits.asking, fits.draining, fits.answered⟩,
        ⟨admin.halted, admin.rung, admin.joined⟩, control, data⟩
  | admin goes =>
      obtain ⟨⟨phase, fits⟩, admin, control, data⟩ := good
      obtain rfl := fits.quiet goes.elsewhere.1
      exact ⟨⟨.quiet, fits.stands, fun busy => absurd rfl busy, fits.draining, fits.answered⟩,
        ⟨admin.halted, admin.rung, fun low => absurd (admin.joined low) goes.elsewhere.2⟩,
        control, data⟩
  | submits stands taken =>
      obtain ⟨⟨phase, fits⟩, admin, control, data⟩ := good
      exact ⟨fits.exchange taken (fun _ _ => ⟨_, _, stands⟩) (fun _ => by simp), admin, control,
        data⟩
  | exchanges own taken =>
      obtain ⟨⟨phase, fits⟩, admin, control, data⟩ := good
      refine ⟨fits.exchange taken (fun query submits => ?_) (fun _ => ?_), admin, control, data⟩
      · obtain rfl | rfl | rfl := own <;> cases submits
      · obtain rfl | rfl | rfl := own <;> simp
  | works own _ taken =>
      obtain ⟨⟨phase, fits⟩, admin, control, data⟩ := good
      refine ⟨fits.exchange taken (fun query submits => ?_) (fun _ => ?_), admin, control, data⟩
      · obtain rfl | rfl | rfl := own <;> cases submits
      · obtain rfl | rfl | rfl := own <;> simp
  | observes stands taken =>
      obtain ⟨⟨phase, fits⟩, admin, control, data⟩ := good
      refine ⟨fits.observe taken, ⟨admin.halted, admin.rung, fun low => ?_⟩, control, data⟩
      cases stands.symm.trans (admin.joined low)
  | notices stands _ _ taken moved reported =>
      obtain ⟨⟨phase, fits⟩, admin, control, data⟩ := good
      exact ⟨fits.notice taken moved reported, admin,
        control.moves rfl rfl (by rw [stands]; rfl) (by rw [moved]; rfl), data⟩
  | fills stands _ _ _ _ taken moved spares =>
      obtain ⟨⟨phase, fits⟩, admin, control, data⟩ := good
      exact ⟨fits.fill taken moved, admin,
        control.moves rfl rfl (by rw [stands]; rfl) (by rw [moved]; rfl), data.spares spares⟩
  | control goes spares =>
      obtain ⟨⟨phase, fits⟩, admin, control, data⟩ := good
      exact ⟨⟨phase, fits.control goes⟩, admin, control.goes goes, data.spares spares⟩
  | loops taken =>
      obtain ⟨⟨phase, fits⟩, admin, control, data⟩ := good
      exact ⟨⟨phase, fits.stands, fits.asking, fits.draining, fits.answered⟩, admin, control,
        data.loops candid taken⟩
  | stores =>
      obtain ⟨⟨phase, fits⟩, admin, control, data⟩ := good
      exact ⟨⟨phase, fits.stands, fits.asking, fits.draining, fits.answered⟩, admin, control,
        ⟨data.halted, data.kicked, data.joined, data.tame, data.defined⟩⟩
  | posts spares =>
      obtain ⟨⟨phase, fits⟩, admin, control, data⟩ := good
      exact ⟨⟨phase, fits.stands, fits.asking, fits.draining, fits.answered⟩, admin, control,
        data.spares spares⟩

theorem good_of_boot (plane : ControlPlane) (taken : Int → Bool) (stale : Nat → Bool) (ring : Ring)
    (width height : UInt32) : (boot plane taken stale ring width height).Good := by
  refine ⟨⟨.quiet, ⟨rfl, rfl, rfl, rfl, nofun, nofun⟩, fun busy => absurd rfl busy, by simp, nofun⟩,
    ⟨nofun, nofun, nofun⟩, ⟨fun _ => ⟨rfl, rfl⟩, nofun, nofun, nofun, iff_of_false nofun nofun⟩,
    ⟨nofun, nofun, nofun, ?_, nofun⟩⟩
  intro idx works
  cases works

end Server

end Wisp
