import Wisp.Control.Coherence
import Wisp.Control.Serial
import Wisp.System.Joined

/-!
# The process handles one event after the other

What the control thread of the process does is a run of the events of `controlPlane`, whatever
the other threads, the clients, the admins and the operating system do meanwhile: each handler
that is called is one event, in the order of the calls, with the same state and the same effects
on others. So what is proved of every run of the events is true of the process.
-/

namespace Wisp

open Transition System

namespace Server

variable {s t : Server} {e : ServerEvent}

/-- The event that a step of the process is, if the control thread calls a handler in it. -/
def event (s : Server) (e : ServerEvent) : Option Event :=
  (s.loopEvent e).bind s.control.loop.event

/-- The log of the process: what the control thread has done to others. -/
def log (log : List Effect) (s : Server) (e : ServerEvent) (t : Server) : List Effect :=
  if (s.event e).isSome then log ++ t.control.loop.cp.outward else log

/-- The process with its log. -/
def logged : System (Server × List Effect) ServerEvent :=
  server.record log

theorem projects_logged :
    logged.Projects (pollLoop.record PollLoop.note) (fun x => (x.1.control.loop, x.2))
      fun x e => x.1.loopEvent e := by
  intro x e y taken
  obtain ⟨moved, noted⟩ := record_step.mp taken
  have written : y.2 = if ((x.1.loopEvent e).bind x.1.control.loop.event).isSome then
      x.2 ++ y.1.control.loop.cp.outward else x.2 := noted
  obtain ⟨ev, named, stepped⟩ | ⟨unnamed, same⟩ := projects_loop x.1 e y.1 moved
  · refine .inl ⟨ev, named, record_step.mpr ⟨stepped, ?_⟩⟩
    rw [named] at written
    exact written
  · refine .inr ⟨unnamed, Prod.ext same ?_⟩
    rw [unnamed] at written
    exact written

variable {cp : ControlPlane} {taken : Int → Bool} {stale : Nat → Bool} {ring : Ring}
variable {frameFd : Int} {dp : Bool} {supportedModes : List RenderMode} {width height : UInt32}

/-- A run of the process is followed by a run of the events. What holds of each event of the
process holds of each event of that run. -/
theorem events_of_run {C : ControlPlane → Event → Prop}
    {trace : List ((Server × List Effect) × ServerEvent)} {finish : Server × List Effect}
    (forgets : ∀ {a b : ControlPlane} {ev}, a.quiesce = b.quiesce → C a ev → C b ev)
    (created : ControlPlane.init ring frameFd dp supportedModes = some cp)
    (run : logged.Run (boot cp taken stale ring width height, []) trace finish)
    (meets : Meets (fun x e => ∀ ev ∈ x.1.event e, C x.1.control.loop.cp ev) trace) :
    ∃ trace' y, ControlPlane.logged.Run (cp, []) trace' y ∧
      PollLoop.Follows (finish.1.control.loop, finish.2) y ∧ Meets (fun y ev => C y.1 ev) trace' ∧
      trace'.map Prod.snd = answers (fun x e => x.1.event e) trace := by
  have initial : PollLoop.Follows (PollLoop.start cp taken, []) (cp, []) :=
    ⟨PollLoop.good_of_init taken created, rfl, rfl⟩
  have projected := run.project projects_logged
  have meets' : Meets (fun x ev => ∀ event ∈ x.1.event ev, C x.1.cp event)
      (project (fun x => (x.1.control.loop, x.2)) (fun x e => x.1.loopEvent e) trace) := by
    refine meets_project.mpr fun p member ev named event is => meets p member event ?_
    show (p.1.1.loopEvent p.2).bind _ = some event
    rw [named]
    exact is
  obtain ⟨trace', y, events, follows, met, named⟩ :=
    projected.simulate (D := fun y ev => C y.1 ev) PollLoop.simulates
      (fun x ev y event follows holds is => forgets follows.plane (holds event is)) meets' initial
  refine ⟨trace', y, events, follows, met, ?_⟩
  rw [named, answers_project]
  rfl

/-- In every run of the process the control plane is where the events have led to that its
handlers were called for, one after the other, and it has done the same to others. -/
theorem serial_of_run {trace : List ((Server × List Effect) × ServerEvent)}
    {finish : Server × List Effect}
    (created : ControlPlane.init ring frameFd dp supportedModes = some cp)
    (run : logged.Run (boot cp taken stale ring width height, []) trace finish) :
    ∃ trace' cp', ControlPlane.logged.Run (cp, []) trace' (cp', finish.2) ∧
      cp'.quiesce = finish.1.control.loop.cp.quiesce ∧
      trace'.map Prod.snd = answers (fun x e => x.1.event e) trace := by
  obtain ⟨trace', y, events, follows, -, named⟩ :=
    events_of_run (C := fun _ _ => True) (fun _ _ => trivial) created run fun _ _ _ _ => trivial
  refine ⟨trace', y.1, ?_, follows.plane.symm, named⟩
  rw [show finish.2 = y.2 from follows.log]
  exact events

/-- What holds of every run of the events, and does not speak of the record of the effects, holds
of the process. -/
theorem holds_of_run {P : ControlPlane → Prop} {C : ControlPlane → Event → Prop}
    {trace : List (Server × ServerEvent)} {finish : Server}
    (holds : ∀ {trace' cp'}, controlPlane.Run cp trace' cp' → Meets C trace' → P cp')
    (forgets : ∀ {a b : ControlPlane}, a.quiesce = b.quiesce → P a → P b)
    (forgetsC : ∀ {a b : ControlPlane} {ev}, a.quiesce = b.quiesce → C a ev → C b ev)
    (created : ControlPlane.init ring frameFd dp supportedModes = some cp)
    (run : server.Run (boot cp taken stale ring width height) trace finish)
    (meets : Meets (fun s e => ∀ ev ∈ s.event e, C s.control.loop.cp ev) trace) :
    P finish.control.loop.cp := by
  obtain ⟨trace₁, effects, run₁, same⟩ := run.record log []
  have meets₁ : Meets (fun x e => ∀ ev ∈ x.1.event e, C x.1.control.loop.cp ev) trace₁ :=
    fun p member => meets (p.1.1, p.2) (same ▸ List.mem_map_of_mem member)
  obtain ⟨trace₂, y, events, follows, met, -⟩ := events_of_run (C := C) forgetsC created run₁ meets₁
  refine forgets follows.plane.symm (holds events.forget fun p member => ?_)
  obtain ⟨q, listed, rfl⟩ := List.mem_map.mp member
  exact met q listed

/-- No CONNECT is handled on an active or winding-down slot. -/
def ConnectSafe (s : Server) (e : ServerEvent) : Prop :=
  ∀ ev ∈ s.event e, s.control.loop.cp.ConnectSafe ev

instance (s : Server) (e : ServerEvent) : Decidable (s.ConnectSafe e) :=
  inferInstanceAs (Decidable (∀ ev ∈ s.event e, _))

/-- One iteration of the poll loop without an admin query. -/
def pass (slots : Slot → Revents) (fd : Int) (dispatched : List ServerEvent) : List ServerEvent :=
  [.controlTest, .controlPoll (decide (0 ≤ fd)) slots, .controlDrain ⟨0, 0⟩, .controlAccept fd] ++
    dispatched ++ [.controlTick ⟨0, 0⟩ ⟨0, 0⟩]

/-- An iteration that reads a message from the first slot. -/
def reads (kind : MsgKind) (payload : List UInt8) (replies : Bool) : List ServerEvent :=
  pass (fun i => if i.val = 0 then .input else .quiet) (-1)
    (.controlRecv 5 (WireMsg.mk kind.toByte payload []).cells ⟨0, 0⟩ ::
      (if replies then [.controlSent] else []) ++
      List.replicate sessionMaxClients (.controlDispatch ⟨0, 0⟩))

/-- A client connects and becomes active. -/
def activation : List ServerEvent :=
  pass (fun _ => .quiet) 10 (List.replicate (sessionMaxClients + 1) (.controlDispatch ⟨0, 0⟩)) ++
    reads .connect (ConnectMsg.offering (.single 65) ControlPlane.qvga).toBytes true ++
    reads .activateRequest [] true ++ reads .readyForRt [] false

theorem serial_of_run_activation :
    ∃ trace finish, logged.Run (boot .booted (fun fd => decide (fd < 10)) (fun _ => true) .create
        320 240, []) trace finish ∧
      trace.map Prod.snd = activation ∧
      (finish.2.length = 5 ∧ finish.1.control.loop.cp.table.activeSlot = some 0) ∧
      ∃ trace' cp', ControlPlane.logged.Run (.booted, []) trace' (cp', finish.2) ∧
        cp'.quiesce = finish.1.control.loop.cp.quiesce ∧
        trace'.map Prod.snd = answers (fun x e => x.1.event e) trace := by
  refine Demonstrates.exists_run (P := fun _ finish =>
    finish.2.length = 5 ∧ finish.1.control.loop.cp.table.activeSlot = some 0) (by decide +kernel) ?_
  intro trace finish run ends
  exact ⟨ends, serial_of_run ControlPlane.init_eq_booted run⟩

/-- Whatever the threads do, at most one session holds the RT slot and `active_slot` names the
active one, as long as no client repeats its CONNECT when it is active or winds down. -/
theorem oneHolder_of_run {trace : List (Server × ServerEvent)} {finish : Server}
    (created : ControlPlane.init ring frameFd dp supportedModes = some cp)
    (run : server.Run (boot cp taken stale ring width height) trace finish)
    (safe : Meets ConnectSafe trace) : finish.control.loop.cp.SingleRtSlot := by
  refine holds_of_run (C := ControlPlane.ConnectSafe) (fun events safe => ?_)
    (fun same single => ?_) (fun same safe => ?_) created run safe
  · have coherent := events.invariant safe (ControlPlane.vacant_of_init created).coherent
      fun _ _ _ => ControlPlane.coherent_of_step
    exact ControlPlane.singleRtSlot_of_coherent coherent
  · have table := congrArg ControlPlane.table same
    simp only [ControlPlane.quiesce_table] at table
    unfold ControlPlane.SingleRtSlot at single ⊢
    rw [← table]
    exact single
  · have quiet (cp : ControlPlane) (ev : Event) : cp.quiesce.ConnectSafe ev ↔ cp.ConnectSafe ev :=
      Iff.rfl
    exact (quiet _ _).mp (same ▸ (quiet _ _).mpr safe)

theorem oneHolder_of_run_activation :
    ∃ trace finish, server.Run (boot .booted (fun fd => decide (fd < 10)) (fun _ => true) .create
        320 240) trace finish ∧
      trace.map Prod.snd = activation ∧ finish.control.loop.cp.table.activeSlot = some 0 ∧
      finish.control.loop.cp.SingleRtSlot := by
  refine Demonstrates.exists_run (P := fun trace finish => Meets ConnectSafe trace ∧
    finish.control.loop.cp.table.activeSlot = some 0) (by decide +kernel) ?_
  rintro trace finish run ⟨safe, active⟩
  exact ⟨active, oneHolder_of_run ControlPlane.init_eq_booted run safe⟩

end Server

end Wisp
