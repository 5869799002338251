import Wisp.Admin.Plane
import Wisp.Lib.Transition

/-!
# The query channel

`control_query.c` and `drain_admin_query`: the admin thread leaves a query that lies on its
stack in `pending`, writes a byte into a pipe and waits until `done` is set. The control thread
polls the pipe, takes the query, answers it and sets `done`. The steps of the two threads
interleave freely; what a mutex protects is one step.

Queries are numbered in the order in which they are submitted, so the numbers below `serial` are
those of queries whose stack frame is gone.

However the steps interleave, there is never more than one that can be taken: the two threads
go through the same phases in each exchange. All results follow from the phase.
-/

namespace Wisp

open Transition System

/-- Where the admin thread stands in `wisps_control_query_submit`. -/
inductive SubmitPc where
  | idle
  | clear
  | store
  | write
  | wait
  deriving DecidableEq, Repr

/-- Where the control thread stands: in `poll`, in `wisps_control_query_channel_drain`, or in
`drain_admin_query` with a query. -/
inductive DrainPc where
  | poll
  | read
  | take
  | fill (n : Nat)
  | complete (n : Nat)
  deriving DecidableEq, Repr

/-- The reply fills in the output field of such a query. -/
def ControlReply.answers : ControlReply → ControlQuery → Bool
  | .list _, .list => true
  | .switch _ _, .switch _ => true
  | _, _ => false

/-- `wisps_control_query_channel_t` with the queries, and the two threads. `pipe` is the number
of bytes in the pipe. -/
structure Rendezvous where
  serial : Nat
  submit : SubmitPc
  drain : DrainPc
  pending : Option Nat
  pipe : Nat
  query : Nat → ControlQuery
  response : Nat → Option ControlReply
  done : Nat → Bool

/-- One step of one of the threads. -/
inductive RendezvousEvent where
  | submit (query : ControlQuery)
  | clear
  | store
  | write
  | observe
  | poll
  | read
  | take
  | fill (reply : ControlReply)
  | complete

namespace Rendezvous

/-- `wisps_control_query_channel_init`. The memory where the queries will be is not cleared. -/
def init (stale : Nat → Bool) : Rendezvous where
  serial := 0
  submit := .idle
  drain := .poll
  pending := none
  pipe := 0
  query := fun _ => .list
  response := fun _ => none
  done := stale

/-- Take the step if the threads stand there. -/
def step (r : Rendezvous) : RendezvousEvent → Option Rendezvous
  | .submit query =>
      if r.submit = .idle then
        some { r with
          submit := .clear
          query := Function.update r.query r.serial query
          response := Function.update r.response r.serial none }
      else none
  | .clear =>
      if r.submit = .clear then
        some { r with submit := .store, done := Function.update r.done r.serial false }
      else none
  | .store =>
      if r.submit = .store then some { r with submit := .write, pending := some r.serial }
      else none
  | .write =>
      if r.submit = .write then some { r with submit := .wait, pipe := r.pipe + 1 } else none
  | .observe =>
      if r.submit = .wait ∧ r.done r.serial = true then
        some { r with submit := .idle, serial := r.serial + 1 }
      else none
  | .poll => if r.drain = .poll ∧ 0 < r.pipe then some { r with drain := .read } else none
  -- the read end does not block, so an empty pipe is no obstacle
  | .read => if r.drain = .read then some { r with drain := .take, pipe := r.pipe - 1 } else none
  | .take =>
      if r.drain = .take then
        some { r with
          pending := none
          drain := match r.pending with
            | some n => .fill n
            | none => .poll }
      else none
  | .fill reply =>
      match r.drain with
      | .fill n =>
          if reply.answers (r.query n) then
            some { r with
              drain := .complete n
              response := Function.update r.response n (some reply) }
          else none
      | _ => none
  | .complete =>
      match r.drain with
      | .complete n => some { r with drain := .poll, done := Function.update r.done n true }
      | _ => none

/-- The channel as a transition system. -/
def system : System Rendezvous RendezvousEvent where
  step := step

/-- How often the query is returned by a drain in this step. -/
def drains (n : Nat) (r : Rendezvous) : RendezvousEvent → Nat
  | .take => if r.pending = some n then 1 else 0
  | _ => 0

/-- How often the query is completed in this step. -/
def completes (n : Nat) (r : Rendezvous) : RendezvousEvent → Nat
  | .complete => if r.drain = .complete n then 1 else 0
  | _ => 0

/-- The submit of this query has begun and not returned. -/
def InProgress (r : Rendezvous) (n : Nat) : Prop :=
  n = r.serial ∧ r.submit ≠ .idle

/-- A drain finds a query, and the control thread only touches queries that are still there. -/
def Alive (r : Rendezvous) : RendezvousEvent → Prop
  | .take => ∃ n, r.pending = some n ∧ r.InProgress n
  | .fill _ => ∀ n, r.drain = .fill n → r.InProgress n
  | .complete => ∀ n, r.drain = .complete n → r.InProgress n
  | _ => True

/-- How many steps the submit in progress still takes. -/
def remaining (r : Rendezvous) : Nat :=
  match r.submit with
  | .idle => 0
  | .clear => 9
  | .store => 8
  | .write => 7
  | .wait =>
      match r.drain with
      | .poll => if r.done r.serial then 1 else 6
      | .read => 5
      | .take => 4
      | .fill _ => 3
      | .complete _ => 2

/-- Every query whose submit has returned was drained once, completed once and answered. No
query is drained or completed twice, and none before its submit. Between submits the channel is
empty, and within one the threads can go on until it returns. -/
structure ExactlyOnce (trace : List (Rendezvous × RendezvousEvent)) (r : Rendezvous) : Prop where
  returned : ∀ n < r.serial, tally (drains n) trace = 1 ∧ tally (completes n) trace = 1 ∧
    ∃ reply, r.response n = some reply ∧ reply.answers (r.query n) = true
  once : ∀ n, tally (drains n) trace ≤ 1 ∧ tally (completes n) trace ≤ 1
  unborn : ∀ n, r.serial ≤ n → ¬ r.InProgress n →
    tally (drains n) trace = 0 ∧ tally (completes n) trace = 0
  alive : Meets Alive trace
  empty : r.submit = .idle → r.pending = none ∧ r.pipe = 0
  advances : r.submit ≠ .idle → (∃ ev next, system.step r ev = some next) ∧
    ∀ ev next, system.step r ev = some next → next.remaining < r.remaining

/-- The phases of an exchange, named after what happened last. -/
inductive Phase where
  | quiet
  | opened
  | cleared
  | stored
  | rung
  | noticed
  | read
  | taken
  | answered
  | completed
  deriving DecidableEq

namespace Phase

/-- Where the admin thread stands. -/
def submit : Phase → SubmitPc
  | .quiet => .idle
  | .opened => .clear
  | .cleared => .store
  | .stored => .write
  | _ => .wait

/-- Where the control thread stands when this query is the current one. -/
def drain (n : Nat) : Phase → DrainPc
  | .noticed => .read
  | .read => .take
  | .taken => .fill n
  | .answered => .complete n
  | _ => .poll

/-- What `pending` holds. -/
def pending (n : Nat) : Phase → Option Nat
  | .stored | .rung | .noticed | .read => some n
  | _ => none

/-- The bytes in the pipe. -/
def pipe : Phase → Nat
  | .rung | .noticed => 1
  | _ => 0

/-- The query has been drained. -/
def drained : Phase → Bool
  | .taken | .answered | .completed => true
  | _ => false

/-- The query has been answered. -/
def replied : Phase → Bool
  | .answered | .completed => true
  | _ => false

/-- The query has been completed. -/
def finished : Phase → Bool
  | .completed => true
  | _ => false

/-- `done` of the current query has not been set yet. -/
def unset : Phase → Bool
  | .quiet | .opened => true
  | _ => false

/-- The steps an exchange still takes. -/
def remaining : Phase → Nat
  | .quiet => 0
  | .opened => 9
  | .cleared => 8
  | .stored => 7
  | .rung => 6
  | .noticed => 5
  | .read => 4
  | .taken => 3
  | .answered => 2
  | .completed => 1

end Phase

/-- Query `n` has an answer of its kind. -/
def Answered (r : Rendezvous) (n : Nat) : Prop :=
  ∃ reply, r.response n = some reply ∧ reply.answers (r.query n) = true

/-- The channel in a phase of the exchange. -/
structure Stands (r : Rendezvous) (phase : Phase) : Prop where
  submit : r.submit = phase.submit
  drain : r.drain = phase.drain r.serial
  pending : r.pending = phase.pending r.serial
  pipe : r.pipe = phase.pipe
  done : phase.unset = false → r.done r.serial = phase.finished
  answered : phase.replied = true → r.Answered r.serial

variable {r next : Rendezvous} {phase : Phase} {ev : RendezvousEvent}

/-- The one step that can be taken in each phase. -/
inductive Goes (r : Rendezvous) : Phase → RendezvousEvent → Rendezvous → Phase → Prop where
  | submit {query : ControlQuery} : Goes r .quiet (.submit query)
      { r with
        submit := .clear
        query := Function.update r.query r.serial query
        response := Function.update r.response r.serial none } .opened
  | clear : Goes r .opened .clear
      { r with submit := .store, done := Function.update r.done r.serial false } .cleared
  | store : Goes r .cleared .store { r with submit := .write, pending := some r.serial } .stored
  | write : Goes r .stored .write { r with submit := .wait, pipe := r.pipe + 1 } .rung
  | poll : Goes r .rung .poll { r with drain := .read } .noticed
  | read : Goes r .noticed .read { r with drain := .take, pipe := r.pipe - 1 } .read
  | take : Goes r .read .take { r with pending := none, drain := .fill r.serial } .taken
  | fill {reply : ControlReply} (fits : reply.answers (r.query r.serial) = true) :
      Goes r .taken (.fill reply)
        { r with
          drain := .complete r.serial
          response := Function.update r.response r.serial (some reply) } .answered
  | complete : Goes r .answered .complete
      { r with drain := .poll, done := Function.update r.done r.serial true } .completed
  | observe : Goes r .completed .observe
      { r with submit := .idle, serial := r.serial + 1 } .quiet

theorem goes_of_step (stands : r.Stands phase) (taken : system.step r ev = some next) :
    ∃ phase', Goes r phase ev next phase' := by
  have submit := stands.submit
  have drain := stands.drain
  change r.step ev = some next at taken
  cases ev with
  | submit query =>
      obtain ⟨stood, same⟩ := Option.ite_none_right_eq_some.mp taken
      cases same
      rw [submit] at stood
      cases phase with
      | quiet => exact ⟨_, .submit⟩
      | _ => cases stood
  | clear =>
      obtain ⟨stood, same⟩ := Option.ite_none_right_eq_some.mp taken
      cases same
      rw [submit] at stood
      cases phase with
      | opened => exact ⟨_, .clear⟩
      | _ => cases stood
  | store =>
      obtain ⟨stood, same⟩ := Option.ite_none_right_eq_some.mp taken
      cases same
      rw [submit] at stood
      cases phase with
      | cleared => exact ⟨_, .store⟩
      | _ => cases stood
  | write =>
      obtain ⟨stood, same⟩ := Option.ite_none_right_eq_some.mp taken
      cases same
      rw [submit] at stood
      cases phase with
      | stored => exact ⟨_, .write⟩
      | _ => cases stood
  | observe =>
      obtain ⟨⟨stood, done⟩, same⟩ := Option.ite_none_right_eq_some.mp taken
      cases same
      rw [submit] at stood
      cases phase with
      | completed => exact ⟨_, .observe⟩
      | rung | noticed | read | taken | answered =>
          rw [stands.done rfl] at done
          cases done
      | _ => cases stood
  | poll =>
      obtain ⟨⟨stood, ready⟩, same⟩ := Option.ite_none_right_eq_some.mp taken
      cases same
      rw [drain] at stood
      rw [stands.pipe] at ready
      cases phase with
      | rung => exact ⟨_, .poll⟩
      | noticed => cases stood
      | _ => exact absurd ready (Nat.lt_irrefl 0)
  | read =>
      obtain ⟨stood, same⟩ := Option.ite_none_right_eq_some.mp taken
      cases same
      rw [drain] at stood
      cases phase with
      | noticed => exact ⟨_, .read⟩
      | _ => cases stood
  | take =>
      obtain ⟨stood, same⟩ := Option.ite_none_right_eq_some.mp taken
      rw [drain] at stood
      cases phase with
      | read =>
          have pending : r.pending = some r.serial := stands.pending
          rw [pending] at same
          cases same
          exact ⟨_, .take⟩
      | _ => cases stood
  | fill reply =>
      simp only [step, drain] at taken
      cases phase with
      | taken =>
          obtain ⟨fits, same⟩ := Option.ite_none_right_eq_some.mp taken
          cases same
          exact ⟨_, .fill fits⟩
      | _ => cases taken
  | complete =>
      simp only [step, drain] at taken
      cases phase with
      | answered =>
          cases taken
          exact ⟨_, .complete⟩
      | _ => cases taken

/-- Each step leads to the next phase. -/
theorem stands_of_goes {phase' : Phase} (stands : r.Stands phase)
    (goes : Goes r phase ev next phase') : next.Stands phase' := by
  obtain ⟨submit, drain, pending, pipe, done, answered⟩ := stands
  cases goes with
  | submit => exact ⟨rfl, drain, pending, pipe, nofun, nofun⟩
  | clear => exact ⟨rfl, drain, pending, pipe, fun _ => Function.update_self .., nofun⟩
  | store => exact ⟨rfl, drain, rfl, pipe, done, nofun⟩
  | write => exact ⟨rfl, drain, pending, congrArg (· + 1) pipe, done, nofun⟩
  | poll => exact ⟨submit, rfl, pending, pipe, done, nofun⟩
  | read => exact ⟨submit, rfl, pending, congrArg (· - 1) pipe, done, nofun⟩
  | take => exact ⟨submit, rfl, rfl, pipe, done, nofun⟩
  | fill fits =>
      exact ⟨submit, rfl, pending, pipe, done, fun _ => ⟨_, Function.update_self .., fits⟩⟩
  | complete => exact ⟨submit, rfl, pending, pipe, fun _ => Function.update_self .., answered⟩
  | observe => exact ⟨rfl, drain, pending, pipe, nofun, nofun⟩

/-- What a count that goes up once in each exchange has come to: `flag` tells whether it has in
the current one. -/
def due (serial : Nat) (flag : Bool) (n : Nat) : Nat :=
  if n < serial then 1 else if n = serial ∧ flag = true then 1 else 0

theorem due_returned (serial n : Nat) : due (serial + 1) false n = due serial true n := by
  simp only [due, Bool.false_eq_true, and_false, if_false, and_true]
  by_cases before : n < serial
  · rw [if_pos before, if_pos (by omega)]
  · rw [if_neg before]
    by_cases same : n = serial
    · rw [if_pos same, if_pos (by omega)]
    · rw [if_neg same, if_neg (by omega)]

theorem due_flagged (serial n : Nat) :
    due serial true n = due serial false n + if serial = n then 1 else 0 := by
  simp only [due, Bool.false_eq_true, and_false, if_false, and_true]
  by_cases before : n < serial
  · rw [if_pos before, if_pos before, if_neg (by omega)]
  · rw [if_neg before, if_neg before]
    by_cases same : serial = n
    · rw [if_pos same, if_pos same.symm]
    · rw [if_neg same, if_neg (Ne.symm same)]

/-- A query is drained by the step that takes it. -/
theorem drains_of_goes {phase' : Phase} (stands : r.Stands phase)
    (goes : Goes r phase ev next phase') (n : Nat) :
    due next.serial phase'.drained n = due r.serial phase.drained n + drains n r ev := by
  cases goes with
  | take =>
      have pending : r.pending = some r.serial := stands.pending
      simp only [drains, pending, Option.some_inj]
      exact due_flagged r.serial n
  | observe => exact due_returned r.serial n
  | _ => rfl

/-- A query is completed by the step that sets `done`. -/
theorem completes_of_goes {phase' : Phase} (stands : r.Stands phase)
    (goes : Goes r phase ev next phase') (n : Nat) :
    due next.serial phase'.finished n = due r.serial phase.finished n + completes n r ev := by
  cases goes with
  | complete =>
      have drain : r.drain = .complete r.serial := stands.drain
      simp only [completes, drain, DrainPc.complete.injEq]
      exact due_flagged r.serial n
  | observe => exact due_returned r.serial n
  | _ => rfl

/-- The control thread works on the query in progress. -/
theorem alive_of_goes {phase' : Phase} (stands : r.Stands phase)
    (goes : Goes r phase ev next phase') : r.Alive ev := by
  have busy (waits : phase.submit = .wait) : r.InProgress r.serial := by
    refine ⟨rfl, ?_⟩
    rw [stands.submit, waits]
    exact SubmitPc.noConfusion
  cases goes with
  | take => exact ⟨r.serial, stands.pending, busy rfl⟩
  | fill =>
      intro n drain
      cases stands.drain.symm.trans drain
      exact busy rfl
  | complete =>
      intro n drain
      cases stands.drain.symm.trans drain
      exact busy rfl
  | _ => trivial

/-- What the steps so far have come to. -/
structure Kept (trace : List (Rendezvous × RendezvousEvent)) (r : Rendezvous) (phase : Phase) :
    Prop where
  stands : r.Stands phase
  drained : ∀ n, tally (drains n) trace = due r.serial phase.drained n
  completed : ∀ n, tally (completes n) trace = due r.serial phase.finished n
  answered : ∀ n < r.serial, r.Answered n
  alive : Meets Alive trace

theorem answered_of_goes {phase' : Phase} (stands : r.Stands phase)
    (answered : ∀ n < r.serial, r.Answered n) (goes : Goes r phase ev next phase') :
    ∀ n < next.serial, next.Answered n := by
  have later {response : Nat → Option ControlReply} {query : Nat → ControlQuery} {n : Nat}
      (before : n < r.serial) (same : response n = r.response n) (kept : query n = r.query n) :
      ∃ reply, response n = some reply ∧ reply.answers (query n) = true := by
    rw [same, kept]
    exact answered n before
  intro n before
  cases goes with
  | submit =>
      have other : n ≠ r.serial := Nat.ne_of_lt before
      exact later before (Function.update_of_ne other _ _) (Function.update_of_ne other _ _)
  | fill =>
      have other : n ≠ r.serial := Nat.ne_of_lt before
      exact later before (Function.update_of_ne other _ _) rfl
  | observe =>
      rcases Nat.lt_succ_iff_lt_or_eq.mp before with before | rfl
      · exact answered n before
      · exact stands.answered rfl
  | _ => exact answered n before

theorem kept_of_run {stale : Nat → Bool} {trace : List (Rendezvous × RendezvousEvent)}
    (run : system.Run (.init stale) trace r) : ∃ phase, Kept trace r phase := by
  induction run with
  | nil =>
      have none (n : Nat) : due 0 false n = 0 := by
        simp only [due, Bool.false_eq_true, and_false, if_false, Nat.not_lt_zero]
      exact ⟨.quiet, ⟨rfl, rfl, rfl, rfl, nofun, nofun⟩, fun n => (none n).symm,
        fun n => (none n).symm, nofun, meets_nil⟩
  | @snoc trace s e t _ taken ih =>
      obtain ⟨phase, kept⟩ := ih
      obtain ⟨phase', goes⟩ := goes_of_step kept.stands taken
      refine ⟨phase', stands_of_goes kept.stands goes, fun n => ?_, fun n => ?_,
        answered_of_goes kept.stands kept.answered goes,
        meets_snoc.mpr ⟨kept.alive, alive_of_goes kept.stands goes⟩⟩
      · rw [tally_snoc, kept.drained, drains_of_goes kept.stands goes]
      · rw [tally_snoc, kept.completed, completes_of_goes kept.stands goes]

theorem due_le_one (serial n : Nat) (flag : Bool) : due serial flag n ≤ 1 := by
  unfold due
  split
  · exact Nat.le_refl 1
  · split
    · exact Nat.le_refl 1
    · exact Nat.zero_le 1

/-- In every phase but the quiet one a thread can take a step. -/
theorem exists_step (stands : r.Stands phase) (busy : phase ≠ .quiet) :
    ∃ ev next, system.step r ev = some next := by
  obtain ⟨submit, drain, pending, pipe, done, answered⟩ := stands
  cases phase with
  | quiet => exact absurd rfl busy
  | opened => exact ⟨.clear, _, if_pos submit⟩
  | cleared => exact ⟨.store, _, if_pos submit⟩
  | stored => exact ⟨.write, _, if_pos submit⟩
  | rung => exact ⟨.poll, _, if_pos ⟨drain, pipe ▸ Nat.one_pos⟩⟩
  | noticed => exact ⟨.read, _, if_pos drain⟩
  | read => exact ⟨.take, _, if_pos drain⟩
  | taken =>
      obtain ⟨reply, fits⟩ : ∃ reply : ControlReply, reply.answers (r.query r.serial) = true := by
        cases r.query r.serial with
        | list => exact ⟨.list [], rfl⟩
        | switch => exact ⟨.switch false "", rfl⟩
      refine ⟨.fill reply, ?_⟩
      show ∃ next, r.step (.fill reply) = some next
      simp only [step, drain, Phase.drain, fits, if_true]
      exact ⟨_, rfl⟩
  | answered =>
      refine ⟨.complete, ?_⟩
      show ∃ next, r.step .complete = some next
      simp only [step, drain, Phase.drain]
      exact ⟨_, rfl⟩
  | completed => exact ⟨.observe, _, if_pos ⟨submit, done rfl⟩⟩

theorem remaining_of_stands (stands : r.Stands phase) : r.remaining = phase.remaining := by
  obtain ⟨submit, drain, pending, pipe, done, answered⟩ := stands
  unfold remaining
  rw [submit, drain]
  cases phase with
  | rung | completed =>
      simp only [Phase.submit, Phase.drain, done rfl]
      rfl
  | _ => rfl

theorem remaining_of_goes {phase' : Phase} (goes : Goes r phase ev next phase')
    (busy : phase ≠ .quiet) : phase'.remaining < phase.remaining := by
  cases goes with
  | submit => exact absurd rfl busy
  | _ => decide

/-- However the steps of the two threads interleave, each query is drained and completed once
before its submit returns. -/
theorem exactlyOnce_of_run {stale : Nat → Bool} {trace : List (Rendezvous × RendezvousEvent)}
    (run : system.Run (.init stale) trace r) : r.ExactlyOnce trace := by
  obtain ⟨phase, kept⟩ := kept_of_run run
  have quiet : r.submit = .idle → phase = .quiet := by
    intro idle
    have same := kept.stands.submit.symm.trans idle
    cases phase with
    | quiet => rfl
    | _ => cases same
  refine ⟨fun n before => ⟨?_, ?_, kept.answered n before⟩, fun n => ?_, fun n later out => ?_,
    kept.alive, fun idle => ?_, fun busy => ⟨?_, fun ev next taken => ?_⟩⟩
  · rw [kept.drained, due, if_pos before]
  · rw [kept.completed, due, if_pos before]
  · rw [kept.drained, kept.completed]
    exact ⟨due_le_one _ _ _, due_le_one _ _ _⟩
  · have none (flag : Bool) (low : phase = .quiet → flag = false) :
        due r.serial flag n = 0 := by
      rw [due, if_neg (Nat.not_lt.mpr later), if_neg]
      rintro ⟨same, flagged⟩
      have idle : r.submit = .idle := by
        by_contra busy
        exact out ⟨same, busy⟩
      rw [low (quiet idle)] at flagged
      cases flagged
    rw [kept.drained, kept.completed]
    exact ⟨none _ fun same => by rw [same]; rfl, none _ fun same => by rw [same]; rfl⟩
  · have stands := quiet idle ▸ kept.stands
    exact ⟨stands.pending, stands.pipe⟩
  · exact exists_step kept.stands fun same => busy (by rw [kept.stands.submit, same]; rfl)
  · obtain ⟨phase', goes⟩ := goes_of_step kept.stands taken
    rw [remaining_of_stands kept.stands, remaining_of_stands (stands_of_goes kept.stands goes)]
    exact remaining_of_goes goes fun same => busy (by rw [kept.stands.submit, same]; rfl)

/-- The steps of one exchange. -/
def exchange (query : ControlQuery) (reply : ControlReply) : List RendezvousEvent :=
  [.submit query, .clear, .store, .write, .poll, .read, .take, .fill reply, .complete, .observe]

/-- Two exchanges on a stack on which `done` happens to be set. -/
theorem exactlyOnce_of_run_twice :
    ∃ trace r, system.Run (.init fun _ => true) trace r ∧
      trace.map Prod.snd = exchange .list (.list []) ++
        exchange (.switch (.single 65)) (.switch true "") ∧
      r.ExactlyOnce trace ∧ r.serial = 2 := by
  refine Demonstrates.exists_run (P := fun _ r => r.serial = 2) (by decide +kernel) ?_
  intro trace r run serial
  exact ⟨exactlyOnce_of_run run, serial⟩

end Rendezvous

end Wisp
