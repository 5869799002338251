import Mathlib.Data.Prod.Lex
import Wisp.Lib.Fair
import Wisp.System.Conduct
import Wisp.System.Joined

/-!
# The server shuts down

`main` stops the admin thread first, so that no query is left for a control thread that has
gone, and the data plane last. A thread that has been stopped finds `running` cleared, or the
byte in its pipe, the next time it is back in its loop, and it cannot block there.

In the end `main` returns, provided that the threads are scheduled, that calls on sockets
return, and that the interruptions come to an end. One case is left: if `poll` fails in the
control thread, its loop is left with `running` still set, and the next query of the admin thread
is never answered. `main` then waits in `pthread_join` for ever.
-/

namespace Wisp

open Transition System

/-- An event that keeps a thread busy: a frame signal while the data plane drains its eventfd,
or a signal that interrupts `poll` in the control thread. -/
def ServerEvent.Disturbs : ServerEvent → Prop
  | .post | .controlInterrupted => True
  | _ => False

/-- How far a pass of the poll loop is from its end. -/
def PollPc.ahead : PollPc → Nat
  | .drain _ => 14
  | .accept _ => 13
  | .dispatch _ rest => 4 + rest.length
  | .clock => 3
  | .poll | .returned | .closed => 0

namespace Server

variable {s t : Server} {e : ServerEvent}

/-- The admin thread waits for a control thread that has left its loop. -/
def Stranded (s : Server) : Prop :=
  s.chan.submit = .wait ∧ s.chan.done s.chan.serial = false ∧ s.control.loop.pc = .returned

/-! ### Who helps, and how much is left to do -/

/-- Who moves the control thread. -/
def controlHelper (s : Server) : Actor :=
  if s.control.sending then .controlPeer
  else match s.control.loop.pc with
    | .dispatch ready (i :: _) =>
        match s.control.loop.polled i, ready.slots i with
        | some _, .input => .controlPeer
        | _, _ => .control
    | _ => .control

/-- Who moves the admin thread: in an exchange it may be the control thread. -/
def adminHelper (s : Server) : Actor :=
  match s.admin.pc with
  | .serve (.recv _) | .serve (.send _ _) => .adminPeer
  | .serve (.submit _ _) =>
      if s.chan.submit = .wait ∧ s.chan.done s.chan.serial = false then s.controlHelper else .admin
  | _ => .admin

/-- Whose step brings `main` closer to its end. -/
def helper (s : Server) : Actor :=
  match s.main with
  | .joinAdmin => if s.admin.pc.isReturned then .main else s.adminHelper
  | .joinControl => if s.control.loop.pc.isReturned then .main else s.controlHelper
  | .joinData => if s.plane.dataPlane.loop = .stopped then .main else .data
  | _ => .main

/-- The control thread on its way to the next `poll` that looks at the query channel. -/
def untilPoll (s : Server) : Nat :=
  2 * (s.control.loop.pc.ahead + if s.control.tested then 0 else 1) +
    if s.control.sending then 1 else 0

/-- The control thread on its way out, once `running` is cleared. -/
def untilReturned (s : Server) : Nat :=
  if s.control.loop.pc.isReturned then 0
  else 2 * (s.control.loop.pc.ahead + if s.control.tested then 2 else 1) +
    if s.control.sending then 1 else 0

/-- How far the admin thread is from its end, once `running` is cleared. -/
def adminAhead (s : Server) : Nat :=
  match s.admin.pc with
  | .accept => 19
  | .serve (.recv _) => 18
  | .serve (.submit _ _) => if s.chan.submit = .idle then 17 else 5 + s.chan.remaining
  | .serve (.send _ _) => 4
  | .serve (.close _) => 3
  | .serve .poll => 2
  | .top => 1
  | .returned => 0

/-- What the control thread has still to do before its next step in the exchange. -/
def errand (s : Server) : Nat :=
  if s.chan.submit = .wait ∧ s.chan.done s.chan.serial = false then
    if s.chan.drain = .poll then s.untilPoll else if s.control.sending then 1 else 0
  else 0

/-- What is left to do: for `main`, for the thread it waits for, and for who helps that one. -/
def measure (s : Server) : Nat ×ₗ Nat ×ₗ Nat :=
  toLex (s.main.left, match s.main with
    | .joinAdmin => toLex (s.adminAhead, s.errand)
    | .joinControl => toLex (0, s.untilReturned)
    | .joinData => toLex (0, s.plane.dataPlane.ahead)
    | _ => toLex (0, 0))

/-- A step of the others towards what `main` waits for: less is left to do, or as much with the
same helper, and it was not the helper's step. -/
def Nears (s : Server) (e : ServerEvent) (t : Server) : Prop :=
  t.measure < s.measure ∨
    t.measure = s.measure ∧ t.helper = s.helper ∧ e.owner ≠ s.helper

theorem measure_lt_of_left (less : t.main.left < s.main.left) : t.measure < s.measure :=
  Prod.Lex.toLex_lt_toLex.mpr (.inl less)

theorem left_of_mainStep (taken : s.mainStep = some t) : t.main.left < s.main.left := by
  cases stands : s.main <;> simp only [mainStep, stands] at taken
  case joinAdmin | joinData =>
      obtain ⟨-, same⟩ := Option.ite_none_right_eq_some.mp taken
      cases same
      exact Nat.lt_succ_self _
  case joinControl =>
      split at taken
      · cases taken
        exact Nat.lt_succ_self _
      · cases taken
  case closeControl =>
      obtain ⟨loop, -, rfl⟩ := Option.map_eq_some_iff.mp taken
      exact Nat.lt_succ_self _
  all_goals
    cases taken
    try exact Nat.lt_succ_self _

section JoinAdmin

/-- While `main` waits for the admin thread. -/
theorem measure_joinAdmin (stands : s.main = .joinAdmin) :
    s.measure = toLex (MainPc.joinAdmin.left, toLex (s.adminAhead, s.errand)) := by
  simp only [measure, stands]

theorem nears_of_adminAhead (stands : s.main = .joinAdmin) (same : t.main = s.main)
    (less : t.adminAhead < s.adminAhead) : s.Nears e t := by
  refine .inl ?_
  rw [measure_joinAdmin stands, measure_joinAdmin (same.trans stands)]
  exact Prod.Lex.toLex_lt_toLex.mpr (.inr ⟨rfl, Prod.Lex.toLex_lt_toLex.mpr (.inl less)⟩)

theorem nears_of_errand (stands : s.main = .joinAdmin) (same : t.main = s.main)
    (equal : t.adminAhead = s.adminAhead) (less : t.errand < s.errand) : s.Nears e t := by
  refine .inl ?_
  rw [measure_joinAdmin stands, measure_joinAdmin (same.trans stands)]
  exact Prod.Lex.toLex_lt_toLex.mpr (.inr ⟨rfl, Prod.Lex.toLex_lt_toLex.mpr (.inr ⟨equal, less⟩)⟩)

/-- Outside the rendezvous every step of the admin thread brings it closer to its end. -/
theorem adminAhead_of_goes {backlog : Nat} {pc : AdminLoopPc} (goes : AdminGoes s.admin e pc)
    (halted : s.admin.running = false) (rung : 0 < s.admin.stop) (idle : s.chan.submit = .idle) :
    adminAhead { s with admin := { s.admin with backlog, pc } } < s.adminAhead := by
  cases goes with
  | enters _ runs => cases halted.symm.trans runs
  | offered _ going => exact absurd going (Nat.ne_of_gt rung)
  | @received fd received stands =>
      have handed : (∃ query, handleConnection fd received = .submit fd query) ∨
          handleConnection fd received = .close fd := by
        unfold handleConnection
        split
        · exact .inr rfl
        · exact .inr rfl
        · split
          · exact .inl ⟨_, rfl⟩
          · split
            · exact .inr rfl
            · exact .inl ⟨_, rfl⟩
          · exact .inr rfl
      obtain ⟨query, asks⟩ | closes := handed
      · simp [adminAhead, stands, asks, idle]
      · simp [adminAhead, stands, closes]
  | leaves stands | stopped stands | interrupted stands | fails stands | refused stands
  | accepted stands | sent stands | closed stands => simp [adminAhead, stands]

/-- A step of the rendezvous brings the admin thread closer to its end. -/
theorem adminAhead_of_exchange {phase : Rendezvous.Phase} {chan : Rendezvous}
    {ev : RendezvousEvent} {c : ControlThread} {plane : Exposed} (fits : s.Fits phase)
    (taken : s.chan.step ev = some chan)
    (asks : ∀ query, ev = .submit query → ∃ fd query, s.admin.pc = .serve (.submit fd query))
    (inside : ev ≠ .observe) :
    adminAhead { s with chan, plane, control := c } < s.adminAhead := by
  obtain ⟨phase', goes, stands⟩ := fits.goes taken
  have before := fits.stands
  have asks : ∃ fd query, s.admin.pc = .serve (.submit fd query) := by
    cases goes with
    | submit => exact asks _ rfl
    | _ => exact fits.asking nofun
  obtain ⟨fd, query, here⟩ := asks
  simp only [adminAhead, here, before.submit, stands.submit,
    Rendezvous.remaining_of_stands before, Rendezvous.remaining_of_stands stands]
  cases goes with
  | observe => exact absurd rfl inside
  | _ => decide

/-- The admin thread waits for the control thread. -/
def Waits (s : Server) : Prop :=
  s.chan.submit = .wait ∧ s.chan.done s.chan.serial = false

theorem waits_iff {phase : Rendezvous.Phase} (fits : s.Fits phase) :
    s.Waits ↔ phase = .rung ∨ phase = .noticed ∨ phase = .read ∨ phase = .taken ∨
      phase = .answered := by
  have done := fits.stands.done
  unfold Waits
  rw [fits.stands.submit]
  cases phase <;> simp_all [Rendezvous.Phase.submit, Rendezvous.Phase.unset,
    Rendezvous.Phase.finished]

/-- While nobody waits for it, what the control thread does is no matter. -/
theorem nears_of_control_unawaited {c : ControlThread} {plane : Exposed}
    (stands : s.main = .joinAdmin) (alone : ¬ s.Waits)
    (goes : ControlGoes s.control s.chan e c) :
    s.Nears e { s with control := c, plane } := by
  have alone : ¬ (s.chan.submit = .wait ∧ s.chan.done s.chan.serial = false) := alone
  refine .inr ⟨?_, ?_, ?_⟩
  · rw [measure_joinAdmin stands, measure_joinAdmin (s := { s with control := c, plane }) stands]
    simp [adminAhead, errand, alone]
  · simp [helper, adminHelper, stands, alone]
  · have owner := owner_of_controlGoes goes
    have unlike : s.helper = .main ∨ s.helper = .admin ∨ s.helper = .adminPeer := by
      simp only [helper, stands, adminHelper, if_neg alone]
      split
      · exact .inl rfl
      · split <;> simp
    obtain helps | helps | helps := unlike <;> obtain owns | owns | owns := owner <;>
      simp [helps, owns]

/-- The next part of a pass leaves less to do, whatever the handler sends. -/
theorem untilPoll_of_ahead {c : ControlThread} {plane : Exposed}
    (tested : c.tested = s.control.tested) (unsent : s.control.sending = false)
    (less : c.loop.pc.ahead < s.control.loop.pc.ahead) :
    untilPoll { s with control := c, plane } < s.untilPoll := by
  simp only [untilPoll, tested, unsent, Bool.false_eq_true, if_false]
  generalize (if s.control.tested = true then 0 else 1) = rest
  split <;> omega

/-- On its errand the control thread comes closer to the end of it with every step. -/
theorem errand_of_controlGoes {c : ControlThread} {plane : Exposed} (good : s.Good)
    (stands : s.main = .joinAdmin) (waits : s.Waits) (calm : ¬ e.Disturbs)
    (goes : ControlGoes s.control s.chan e c)
    (going : ¬ Stranded { s with control := c, plane }) :
    errand { s with control := c, plane } < s.errand ∨
      c.sending = s.control.sending ∧ c.tested = s.control.tested ∧
        c.loop.pc = s.control.loop.pc ∧ c.loop.polled = s.control.loop.polled ∧
        e.owner = .outside := by
  obtain ⟨⟨phase, fits⟩, -, control, -⟩ := good
  rw [stands] at control
  obtain ⟨runs, unstopped⟩ := control.on (by decide)
  have waiting : s.chan.submit = .wait ∧ s.chan.done s.chan.serial = false := waits
  have drain := fits.stands.drain
  have pipe := fits.stands.pipe
  have working := fits.draining
  have answered := fits.answered
  simp only [errand, if_pos waiting]
  rcases (waits_iff fits).mp waits with rfl | other
  · have polls : s.chan.drain = .poll := drain
    have heard : s.chan.pipe = 1 := pipe
    simp only [if_pos polls]
    cases goes with
    | leaves _ _ _ halted => cases runs.symm.trans halted
    | stopped _ _ rung => exact absurd unstopped (Nat.ne_of_gt rung)
    | polls _ _ _ _ unheard => cases heard.symm.trans unheard
    | interrupted => exact absurd trivial calm
    | fails _ _ moved => exact absurd ⟨waiting.1, waiting.2, moved⟩ going
    | elsewhere same polled => exact .inr ⟨rfl, rfl, same, polled, rfl⟩
    | tests stands unsent untested =>
        left
        simp [untilPoll, stands, unsent, untested]
    | sent sending =>
        left
        simp [untilPoll, sending]
    | accepts stands _ unsent moved =>
        refine .inl (untilPoll_of_ahead rfl unsent ?_)
        rw [stands, moved, PollPc.ahead, PollPc.ahead, List.length_finRange]
        decide
    | drains stands _ unsent moved | dispatches stands unsent moved | receives stands unsent moved
    | ends stands unsent moved | ticks stands unsent moved =>
        exact .inl (untilPoll_of_ahead rfl unsent (by simp [stands, moved, PollPc.ahead]))
  · -- The query is in its hands, so it only waits for its sends.
    have busy : s.chan.drain ≠ .poll := by
      rw [drain]
      obtain rfl | rfl | rfl | rfl := other <;> nofun
    have here : (∃ ready, s.control.loop.pc = .drain ready) ∨
        ∃ ready, s.control.loop.pc = .accept ready := by
      obtain rfl | rfl | rfl | rfl := other
      · exact .inl ((working (by simp)).imp fun _ both => both.1)
      · exact .inl ((working (by simp)).imp fun _ both => both.1)
      · exact .inl ((working (by simp)).imp fun _ both => both.1)
      · exact .inr (answered rfl)
    simp only [if_neg busy]
    cases goes with
    | elsewhere same polled => exact .inr ⟨rfl, rfl, same, polled, rfl⟩
    | sent sending =>
        left
        simp [sending]
    | drains _ idle | accepts _ idle => exact absurd idle busy
    | _ => simp_all

/-- What the helper depends on. -/
theorem nears_of_same (main : t.main = s.main) (admin : t.admin.pc = s.admin.pc)
    (chan : t.chan = s.chan) (control : t.control = s.control)
    (plane : s.main = .joinData → t.plane.dataPlane = s.plane.dataPlane)
    (other : e.owner ≠ s.helper) : s.Nears e t := by
  refine .inr ⟨?_, ?_, other⟩
  · cases stands : s.main <;>
      simp_all [measure, adminAhead, errand, untilPoll, untilReturned]
  · cases stands : s.main <;> simp_all [helper, adminHelper, controlHelper]

/-- While `main` waits for the admin thread, every step brings that one closer to its end. -/
theorem nears_joinAdmin (good : s.Good) (stands : s.main = .joinAdmin) (calm : ¬ e.Disturbs)
    (acts : Acts s e t) (going : ¬ t.Stranded) : s.Nears e t := by
  have ordered := good
  obtain ⟨⟨phase, fits⟩, admin, control, data⟩ := good
  have helpers : s.helper ≠ .data ∧ s.helper ≠ .outside := by
    unfold helper adminHelper controlHelper
    rw [stands]
    dsimp only
    repeat' split
    all_goals simp
  rw [stands] at admin
  cases acts with
  | signals waits => cases waits.symm.trans stands
  | main taken => exact .inl (measure_lt_of_left (left_of_mainStep taken))
  | connects => exact nears_of_same rfl rfl rfl rfl (fun _ => rfl) (Ne.symm helpers.2)
  | admin goes =>
      have idle : s.chan.submit = .idle := by
        rw [fits.stands.submit, fits.quiet goes.elsewhere.1]
        rfl
      exact nears_of_adminAhead stands rfl
        (adminAhead_of_goes goes (admin.halted (by decide)) (admin.rung (by decide)) idle)
  | submits here taken =>
      exact nears_of_adminAhead stands rfl
        (adminAhead_of_exchange fits taken (fun _ _ => ⟨_, _, here⟩) nofun)
  | exchanges own taken =>
      refine nears_of_adminAhead stands rfl (adminAhead_of_exchange fits taken ?_ ?_)
      · rintro query rfl
        simp at own
      · rintro rfl
        simp at own
  | works own _ taken =>
      refine nears_of_adminAhead stands rfl (adminAhead_of_exchange fits taken ?_ ?_)
      · rintro query rfl
        simp at own
      · rintro rfl
        simp at own
  | observes here taken =>
      refine nears_of_adminAhead stands rfl ?_
      have busy : s.chan.submit = .wait := by
        obtain ⟨phase', goes, -⟩ := fits.goes taken
        cases goes with
        | observe => exact fits.stands.submit
      simp only [adminAhead, here, busy]
      simp
      omega
  | notices _ _ _ taken =>
      exact nears_of_adminAhead stands rfl (adminAhead_of_exchange fits taken nofun nofun)
  | fills _ _ _ _ _ taken =>
      exact nears_of_adminAhead stands rfl (adminAhead_of_exchange fits taken nofun nofun)
  | @control e c plane goes =>
      by_cases waits : s.Waits
      · rcases errand_of_controlGoes ordered stands waits calm goes going with
          less | ⟨sending, tested, pc, polled, owner⟩
        · exact nears_of_errand stands rfl rfl less
        · refine .inr ⟨?_, ?_, owner ▸ Ne.symm helpers.2⟩
          · rw [measure_joinAdmin stands,
              measure_joinAdmin (s := { s with control := c, plane }) stands]
            simp [adminAhead, errand, untilPoll, sending, tested, pc]
          · simp [helper, adminHelper, controlHelper, stands, sending, pc, polled]
      · exact nears_of_control_unawaited stands waits goes
  | @loops ev =>
      refine nears_of_same rfl rfl rfl rfl (fun here => nomatch stands.symm.trans here) ?_
      rcases owner_loop ev with owner | owner
      · exact owner ▸ Ne.symm helpers.1
      · exact owner ▸ Ne.symm helpers.2
  | stores =>
      exact nears_of_same rfl rfl rfl rfl (fun here => nomatch stands.symm.trans here)
        (Ne.symm helpers.2)
  | posts => exact absurd trivial calm

end JoinAdmin

section JoinControl

/-- While `main` waits for the control thread. -/
theorem nears_of_untilReturned (stands : s.main = .joinControl) (same : t.main = s.main)
    (less : t.untilReturned < s.untilReturned) : s.Nears e t := by
  refine .inl ?_
  simp only [measure, same, stands]
  exact Prod.Lex.toLex_lt_toLex.mpr (.inr ⟨rfl, Prod.Lex.toLex_lt_toLex.mpr (.inr ⟨rfl, less⟩)⟩)

theorem untilReturned_of_ahead {c : ControlThread} {plane : Exposed}
    (tested : c.tested = s.control.tested) (unsent : s.control.sending = false)
    (inside : s.control.loop.pc.isReturned = false)
    (less : c.loop.pc.ahead < s.control.loop.pc.ahead) :
    untilReturned { s with control := c, plane } < s.untilReturned := by
  simp only [untilReturned, tested, unsent, inside, Bool.false_eq_true, if_false]
  generalize (if s.control.tested = true then 2 else 1) = rest
  split
  · omega
  · split <;> omega

/-- A control thread that has been halted comes closer to its end with every step, and so does
`main` once it has returned. -/
theorem nears_joinControl (good : s.Good) (stands : s.main = .joinControl) (acts : Acts s e t) :
    s.Nears e t := by
  obtain ⟨⟨phase, fits⟩, admin, control, data⟩ := good
  rw [stands] at admin control
  have joined := admin.joined (by decide)
  have helpers : s.helper ≠ .data ∧ s.helper ≠ .outside := by
    unfold helper controlHelper
    rw [stands]
    dsimp only
    repeat' split
    all_goals simp
  have unasked (fd : Int) (query : ControlQuery) : s.admin.pc ≠ .serve (.submit fd query) := by
    simp [joined]
  obtain rfl := fits.quiet unasked
  cases acts with
  | signals waits => cases waits.symm.trans stands
  | main taken => exact .inl (measure_lt_of_left (left_of_mainStep taken))
  | connects => exact nears_of_same rfl rfl rfl rfl (fun _ => rfl) (Ne.symm helpers.2)
  | admin goes => exact absurd joined goes.elsewhere.2
  | submits here | observes here => exact absurd here (unasked _ _)
  | exchanges own taken | works own _ taken =>
      obtain ⟨query, rfl⟩ := fits.submits taken
      simp at own
  | notices _ _ _ taken | fills _ _ _ _ _ taken =>
      obtain ⟨query, same⟩ := fits.submits taken
      cases same
  | @control e c plane goes =>
      have out {c' : ControlThread} (inside : s.control.loop.pc.isReturned = false)
          (moved : c'.loop.pc = .returned) :
          untilReturned { s with control := c', plane } < s.untilReturned := by
        have outside : c'.loop.pc.isReturned = true := by rw [moved]; rfl
        simp only [untilReturned, inside, outside, if_true, Bool.false_eq_true, if_false]
        split <;> omega
      cases goes with
      | tests _ _ _ runs => cases (control.halted (by decide)).symm.trans runs
      | polls _ _ _ going => exact absurd going (Nat.ne_of_gt (control.rung (by decide)))
      | leaves here _ _ _ moved | stopped here _ _ moved | fails here _ moved =>
          exact nears_of_untilReturned stands rfl (out (by rw [here]; rfl) moved)
      | interrupted here tested =>
          refine nears_of_untilReturned stands rfl ?_
          simp [untilReturned, here, tested, PollPc.isReturned]
      | accepts here _ unsent moved =>
          refine nears_of_untilReturned stands rfl
            (untilReturned_of_ahead rfl unsent (by rw [here]; rfl) ?_)
          rw [here, moved, PollPc.ahead, PollPc.ahead, List.length_finRange]
          decide
      | drains here _ unsent moved | dispatches here unsent moved | receives here unsent moved
      | ends here unsent moved | ticks here unsent moved =>
          exact nears_of_untilReturned stands rfl
            (untilReturned_of_ahead rfl unsent (by rw [here]; rfl)
              (by simp [here, moved, PollPc.ahead]))
      | sent sending =>
          cases returned : s.control.loop.pc.isReturned with
          | true =>
              refine .inr ⟨?_, ?_, ?_⟩ <;>
                simp [measure, helper, stands, untilReturned, returned, ServerEvent.owner]
          | false =>
              refine nears_of_untilReturned stands rfl ?_
              simp [untilReturned, returned, sending]
      | elsewhere same polled =>
          refine .inr ⟨?_, ?_, Ne.symm helpers.2⟩
          · simp [measure, stands, untilReturned, same]
          · simp [helper, controlHelper, stands, same, polled]
  | @loops ev =>
      refine nears_of_same rfl rfl rfl rfl (fun here => by cases stands.symm.trans here) ?_
      rcases owner_loop ev with owner | owner
      · exact owner ▸ Ne.symm helpers.1
      · exact owner ▸ Ne.symm helpers.2
  | stores | posts =>
      exact nears_of_same rfl rfl rfl rfl (fun here => by cases stands.symm.trans here)
        (Ne.symm helpers.2)

end JoinControl

section JoinData

/-- A data plane that has been halted comes closer to its end with every step, unless it is
signalled over and over. -/
theorem nears_joinData (good : s.Good) (stands : s.main = .joinData) (calm : ¬ e.Disturbs)
    (acts : Acts s e t) : s.Nears e t := by
  obtain ⟨⟨phase, fits⟩, admin, control, data⟩ := good
  rw [stands] at admin control data
  have joined := admin.joined (by decide)
  have returned := control.joined (by decide)
  have helpers : s.helper = .main ∨ s.helper = .data := by
    unfold helper
    rw [stands]
    dsimp only
    split
    · exact .inl rfl
    · exact .inr rfl
  have unasked (fd : Int) (query : ControlQuery) : s.admin.pc ≠ .serve (.submit fd query) := by
    rw [joined]
    nofun
  obtain rfl := fits.quiet unasked
  -- Nothing that is left to other threads counts any more.
  have idle {t : Server} (same : t.main = s.main)
      (plane : t.plane.dataPlane = s.plane.dataPlane) (other : e.owner ≠ .main)
      (others : e.owner ≠ .data) : s.Nears e t := by
    refine .inr ⟨?_, ?_, ?_⟩
    · simp [measure, same, stands, plane]
    · simp [helper, same, stands, plane]
    · rcases helpers with helps | helps <;> rw [helps]
      · exact other
      · exact others
  cases acts with
  | signals waits => cases waits.symm.trans stands
  | main taken => exact .inl (measure_lt_of_left (left_of_mainStep taken))
  | connects => exact idle rfl rfl nofun nofun
  | admin goes => exact absurd joined goes.elsewhere.2
  | submits here | observes here => exact absurd here (unasked _ _)
  | exchanges own taken | works own _ taken =>
      obtain ⟨query, rfl⟩ := fits.submits taken
      simp at own
  | notices _ _ _ taken | fills _ _ _ _ _ taken =>
      obtain ⟨query, same⟩ := fits.submits taken
      cases same
  | control goes _ handles =>
      obtain rfl : _ = s.plane := handles.resolve_right (by rw [returned]; nofun)
      rcases owner_of_controlGoes goes with owner | owner | owner <;>
        exact idle rfl rfl (by rw [owner]; nofun) (by rw [owner]; nofun)
  | loops taken =>
      obtain ⟨next, moved, rfl⟩ := Option.map_eq_some_iff.mp taken
      have closer := (DataPlane.ahead_of_step (data.halted (by decide)) moved).2.2
      refine .inl ?_
      simp only [measure, stands]
      exact Prod.Lex.toLex_lt_toLex.mpr
        (.inr ⟨rfl, Prod.Lex.toLex_lt_toLex.mpr (.inr ⟨rfl, closer⟩)⟩)
  | stores => exact idle rfl rfl nofun nofun
  | posts => exact absurd trivial calm

end JoinData

/-! ### The helper can take a step -/

theorem ready_of_isSome {a : Actor} (e : ServerEvent) (owns : e.owner = a)
    (goes : (s.step e).isSome = true) : server.Ready ServerEvent.owner a s := by
  obtain ⟨t, taken⟩ := Option.isSome_iff_exists.mp goes
  exact ⟨e, t, owns, taken⟩

/-- In its loop the control thread can go on, as long as it has no query on its hands. -/
theorem ready_control (polls : s.chan.drain = .poll)
    (inside : s.control.loop.pc.isReturned = false) :
    server.Ready ServerEvent.owner s.controlHelper s := by
  unfold controlHelper
  cases sending : s.control.sending with
  | true => exact ready_of_isSome .controlSent rfl (by simp [step, sending])
  | false =>
      rw [if_neg Bool.false_ne_true]
      cases stands : s.control.loop.pc with
      | returned | closed => simp [stands, PollPc.isReturned] at inside
      | drain ready =>
          refine ready_of_isSome (.controlDrain ⟨0, 0⟩) rfl ?_
          simp only [step, unlessSending, sending, controlDrain, stands, polls, PollLoop.step]
          cases ready.chan <;> rfl
      | accept ready =>
          refine ready_of_isSome (.controlAccept (-1)) rfl ?_
          simp only [step, unlessSending, sending, controlAccept, stands, polls, PollLoop.step]
          cases ready.listen <;> rfl
      | clock =>
          refine ready_of_isSome (.controlTick ⟨0, 0⟩ ⟨0, 0⟩) rfl ?_
          simp [step, unlessSending, sending, stands, PollLoop.step]
      | poll =>
          cases tested : s.control.tested with
          | true =>
              refine ready_of_isSome (.controlPoll false fun _ => .quiet) rfl ?_
              simp only [step, controlPoll, tested, sending, stands, PollLoop.step, Bool.not_false,
                Bool.and_self, if_true, Option.bind_some]
              split
              · rename_i heard
                have heard : 0 < s.chan.pipe := by simp_all
                simp [Rendezvous.step, polls, heard]
              · rfl
          | false =>
              refine ready_of_isSome .controlTest rfl ?_
              simp only [step, stands, tested, sending, PollLoop.step]
              cases s.control.running <;> rfl
      | dispatch ready rest =>
          have nothing : s.control.loop.Available (delivered 0 []) :=
            ⟨List.nodup_nil, List.forall_mem_nil _⟩
          cases rest with
          | nil =>
              refine ready_of_isSome (.controlDispatch ⟨0, 0⟩) rfl ?_
              simp [step, unlessSending, sending, controlDispatch, stands, PollLoop.step]
          | cons i rest =>
              have goes : (s.control.loop.step (.dispatch 0 [] ⟨0, 0⟩)).isSome = true := by
                simp only [PollLoop.step, stands, PollLoop.dispatch]
                split <;> simp [nothing]
              cases polled : s.control.loop.polled i with
              | none =>
                  refine ready_of_isSome (.controlDispatch ⟨0, 0⟩)
                    (by simp [ServerEvent.owner, polled]) ?_
                  simpa [step, unlessSending, sending, controlDispatch, stands, polled] using goes
              | some fd =>
                  cases revents : ready.slots i with
                  | input =>
                      refine ready_of_isSome (.controlRecv 0 [] ⟨0, 0⟩)
                        (by simp [ServerEvent.owner, polled, revents]) ?_
                      simpa [step, unlessSending, sending, controlRecv, stands, polled, revents]
                        using goes
                  | quiet | hangup =>
                      refine ready_of_isSome (.controlDispatch ⟨0, 0⟩)
                        (by simp [ServerEvent.owner, polled, revents]) ?_
                      simpa [step, unlessSending, sending, controlDispatch, stands, polled, revents]
                        using goes

/-- With a query in its hands the control thread only waits for its sends. -/
theorem ready_works {ready : Ready}
    (here : s.control.loop.pc = .drain ready ∨ s.control.loop.pc = .accept ready)
    (goes : s.control.sending = false → ∃ e : ServerEvent,
      e.owner = .control ∧ (s.step e).isSome = true) :
    server.Ready ServerEvent.owner s.controlHelper s := by
  unfold controlHelper
  cases sending : s.control.sending with
  | true => exact ready_of_isSome .controlSent rfl (by simp [step, sending])
  | false =>
      obtain ⟨e, owns, some⟩ := goes sending
      rw [if_neg Bool.false_ne_true]
      rcases here with here | here <;> rw [here] <;> exact ready_of_isSome e owns some

/-- The control thread can fill in the answer. -/
theorem isSome_controlDrain {phase : Rendezvous.Phase} (fits : s.Fits phase)
    (taken : phase = .taken) (unsent : s.control.sending = false) :
    (s.step (.controlDrain ⟨0, 0⟩)).isSome = true := by
  obtain ⟨ready, here, reported⟩ := fits.draining (.inr (.inr taken))
  have drain : s.chan.drain = .fill s.chan.serial := by rw [fits.stands.drain, taken]; rfl
  obtain ⟨reply, known, settles⟩ := ControlPlane.settles_of_drainAdminQuery
    s.control.loop.cp (s.chan.query s.chan.serial) ⟨0, 0⟩
  have fitting := settles.answers
  simp only [step, unlessSending, unsent, controlDrain, here, drain, PollLoop.step, reported,
    Bool.false_eq_true, if_false, if_true, Option.bind_some, PollLoop.settle, known]
  simp [Rendezvous.step, drain, fitting]

/-- Whoever is to help the admin thread can. -/
theorem ready_adminHelper (good : s.Good) (stands : s.main = .joinAdmin)
    (going : ¬ s.Stranded) (inside : s.admin.pc.isReturned = false) :
    server.Ready ServerEvent.owner s.adminHelper s := by
  obtain ⟨⟨phase, fits⟩, admin, control, data⟩ := good
  rw [stands] at admin control
  unfold adminHelper
  cases here : s.admin.pc with
  | returned => simp [here, AdminLoopPc.isReturned] at inside
  | top => exact ready_of_isSome .adminTest rfl (by simp [step, here])
  | accept => exact ready_of_isSome (.adminAccept (-1)) rfl (by simp [step, here])
  | serve pc =>
      cases pc with
      | poll =>
          refine ready_of_isSome .adminPoll rfl ?_
          simp [step, adminPoll, here, admin.rung (by decide)]
      | recv fd => exact ready_of_isSome (.adminRecv .closed) rfl (by simp [step, here])
      | send fd pc => exact ready_of_isSome .adminSent rfl (by simp [step, here])
      | close fd => exact ready_of_isSome .adminClose rfl (by simp [step, here])
      | submit fd query =>
          have submit := fits.stands.submit
          have drain := fits.stands.drain
          have waits := waits_iff fits
          unfold Waits at waits
          dsimp only
          simp only [waits]
          have works (ready : Ready) (e : ServerEvent)
              (here : s.control.loop.pc = .drain ready ∨ s.control.loop.pc = .accept ready)
              (owns : e.owner = .control)
              (goes : s.control.sending = false → (s.step e).isSome = true) :
              server.Ready ServerEvent.owner s.controlHelper s :=
            ready_works here fun unsent => ⟨e, owns, goes unsent⟩
          cases phase with
          | quiet =>
              rw [if_neg (by simp)]
              exact ready_of_isSome .adminSubmit rfl
                (by simp [step, here, Rendezvous.step, submit, Rendezvous.Phase.submit])
          | opened =>
              rw [if_neg (by simp)]
              exact ready_of_isSome (.exchange .clear) rfl
                (by simp [step, exchange, Rendezvous.step, submit, Rendezvous.Phase.submit])
          | cleared =>
              rw [if_neg (by simp)]
              exact ready_of_isSome (.exchange .store) rfl
                (by simp [step, exchange, Rendezvous.step, submit, Rendezvous.Phase.submit])
          | stored =>
              rw [if_neg (by simp)]
              exact ready_of_isSome (.exchange .write) rfl
                (by simp [step, exchange, Rendezvous.step, submit, Rendezvous.Phase.submit])
          | completed =>
              rw [if_neg (by simp)]
              obtain ⟨reply, known, -⟩ := fits.stands.answered rfl
              have done : s.chan.done s.chan.serial = true := fits.stands.done rfl
              exact ready_of_isSome (.exchange .observe) rfl
                (by simp [step, exchange, here, known, Rendezvous.step, submit, done,
                  Rendezvous.Phase.submit])
          | rung =>
              rw [if_pos (by simp)]
              refine ready_control drain ?_
              cases pc : s.control.loop.pc with
              | returned => exact absurd ⟨submit, fits.stands.done rfl, pc⟩ going
              | closed => exact absurd (control.closed.mpr pc) (by decide)
              | _ => rfl
          | noticed =>
              rw [if_pos (by simp)]
              obtain ⟨ready, pc, -⟩ := fits.draining (.inl rfl)
              exact works ready (.exchange .read) (.inl pc) rfl fun unsent => by
                simp [step, exchange, unsent, Rendezvous.step, drain, Rendezvous.Phase.drain]
          | read =>
              rw [if_pos (by simp)]
              obtain ⟨ready, pc, -⟩ := fits.draining (.inr (.inl rfl))
              exact works ready (.exchange .take) (.inl pc) rfl fun unsent => by
                simp [step, exchange, unsent, Rendezvous.step, drain, Rendezvous.Phase.drain]
          | taken =>
              rw [if_pos (by simp)]
              obtain ⟨ready, pc, -⟩ := fits.draining (.inr (.inr rfl))
              exact works ready (.controlDrain ⟨0, 0⟩) (.inl pc) rfl (isSome_controlDrain fits rfl)
          | answered =>
              rw [if_pos (by simp)]
              obtain ⟨ready, pc⟩ := fits.answered rfl
              exact works ready (.exchange .complete) (.inr pc) rfl fun unsent => by
                simp [step, exchange, unsent, Rendezvous.step, drain, Rendezvous.Phase.drain]

/-- The data plane can go on until it stops. -/
theorem ready_data (good : s.Good) (stands : s.main = .joinData)
    (going : s.plane.dataPlane.loop ≠ .stopped) : server.Ready ServerEvent.owner .data s := by
  obtain ⟨-, -, -, data⟩ := good
  rw [stands] at data
  have known {idx : Int} (works : s.plane.dataPlane.loop.access = some idx) :
      ∃ i, Pipeline.bufOf idx = some i := DataPlane.bufOf_of_inRange (data.tame idx works)
  have next (goes : (s.plane.dataPlane.next s.plane.ring).isSome = true) :
      server.Ready ServerEvent.owner .data s := by
    refine ready_of_isSome (.loop .next) rfl ?_
    simpa [step, Exposed.step, DataPlane.step] using goes
  cases loop : s.plane.dataPlane.loop with
  | stopped => exact absurd loop going
  | undefined => exact absurd loop data.defined
  | wait =>
      have kicked := data.kicked (by decide) loop
      refine ready_of_isSome (.loop (.wake [.abortFd])) rfl ?_
      simp [step, Exposed.step, DataPlane.step, loop, DataPlane.reports, DataPlane.counter, kicked]
  | blit =>
      refine ready_of_isSome (.loop (.blitted 0 0)) rfl ?_
      simp [step, Exposed.step, DataPlane.step, loop]
  | drain events haveFrameSignal =>
      refine next ?_
      cases events with
      | nil => simp [DataPlane.next, loop]
      | cons source events =>
          simp only [DataPlane.next, loop]
          split <;> rfl
  | loadFrameId | loadWriteTs | loadPixels =>
      obtain ⟨i, found⟩ := known (by rw [loop]; rfl)
      exact next (by simp [DataPlane.next, loop, found])
  | top | woken | checkout | release | count => exact next (by simp [DataPlane.next, loop])

/-! ### In the end -/

/-- A signal has arrived, and nobody is stranded. -/
structure Closing (s : Server) : Prop where
  good : s.Good
  signalled : s.main ≠ .sigwait
  going : ¬ s.Stranded

/-- The server is closed, or stranded. -/
def Settled (s : Server) : Prop :=
  s.main = .returned ∨ s.Stranded

theorem eq_main_of_owner (owns : e.owner = .main) : e = .main := by
  cases e with
  | main => rfl
  | exchange ev => cases ev <;> cases owns
  | loop ev => cases ev <;> cases owns
  | _ => cases owns

theorem main_of_acts (acts : Acts s e t) (other : e ≠ .main) (signalled : s.main ≠ .sigwait) :
    t.main = s.main := by
  cases acts with
  | main => exact absurd rfl other
  | signals stands => exact absurd stands signalled
  | _ => rfl

/-- Every step of a server that is being closed brings it closer to its end. -/
theorem nears_of_acts (closing : s.Closing) (calm : ¬ e.Disturbs) (acts : Acts s e t)
    (going : ¬ t.Stranded) (unfinished : s.main ≠ .returned) : s.Nears e t := by
  -- Where `main` waits for nobody, it is its own helper.
  have alone (helps : s.helper = .main)
      (rest : ∀ t : Server, t.main = s.main → t.measure = s.measure ∧ t.helper = s.helper) :
      s.Nears e t := by
    by_cases own : e = .main
    · subst own
      cases acts with
      | main taken => exact .inl (measure_lt_of_left (left_of_mainStep taken))
      | admin goes => cases goes
      | control goes => cases goes
    · obtain ⟨same, kept⟩ := rest t (main_of_acts acts own closing.signalled)
      refine .inr ⟨same, kept, ?_⟩
      rw [helps]
      exact fun owns => own (eq_main_of_owner owns)
  cases stands : s.main with
  | joinAdmin => exact nears_joinAdmin closing.good stands calm acts going
  | joinControl => exact nears_joinControl closing.good stands acts
  | joinData => exact nears_joinData closing.good stands calm acts
  | sigwait => exact absurd stands closing.signalled
  | returned => exact absurd stands unfinished
  | _ =>
      refine alone (by simp [helper, stands]) fun t same => ?_
      simp [measure, helper, same, stands]

/-- The helper can take a step until the server is closed. -/
theorem ready_helper (closing : s.Closing) (unfinished : s.main ≠ .returned) :
    server.Ready ServerEvent.owner s.helper s := by
  have good := closing.good
  have moves (goes : s.mainStep.isSome = true) : server.Ready ServerEvent.owner .main s :=
    ready_of_isSome .main rfl goes
  unfold helper
  cases stands : s.main with
  | sigwait => exact absurd stands closing.signalled
  | returned => exact absurd stands unfinished
  | joinAdmin =>
      cases returned : s.admin.pc.isReturned with
      | true => exact moves (by simp [mainStep, stands, returned])
      | false => exact ready_adminHelper good stands closing.going returned
  | joinControl =>
      obtain ⟨⟨phase, fits⟩, admin, control, -⟩ := good
      rw [stands] at admin control
      cases returned : s.control.loop.pc.isReturned with
      | true =>
          refine moves ?_
          cases pc : s.control.loop.pc with
          | returned => simp [mainStep, stands, pc]
          | closed => exact absurd (control.closed.mpr pc) (by decide)
          | _ => simp [pc, PollPc.isReturned] at returned
      | false =>
          obtain rfl := fits.quiet (by simp [admin.joined (by decide)])
          exact ready_control fits.stands.drain returned
  | joinData =>
      by_cases stopped : s.plane.dataPlane.loop = .stopped
      · rw [if_pos stopped]
        exact moves (by simp [mainStep, stands, stopped])
      · rw [if_neg stopped]
        exact ready_data good stands stopped
  | closeControl =>
      obtain ⟨-, -, control, -⟩ := good
      rw [stands] at control
      refine moves ?_
      have returned := control.joined (by decide)
      cases pc : s.control.loop.pc with
      | returned => simp [mainStep, stands, PollLoop.step, pc]
      | closed => exact absurd (control.closed.mpr pc) (by decide)
      | _ => simp [pc, PollPc.isReturned] at returned
  | _ => exact moves (by simp [mainStep, stands])

/-- Who waits for a control thread that has gone waits for ever, and `main` with it. -/
theorem stranded_of_acts (good : s.Good) (stranded : s.Stranded) (acts : Acts s e t) :
    t.Stranded := by
  obtain ⟨waits, undone, gone⟩ := stranded
  obtain ⟨⟨phase, fits⟩, admin, -, -⟩ := good
  obtain rfl : phase = .rung := by
    rcases (waits_iff fits).mp ⟨waits, undone⟩ with rung | other | other | other | other
    · exact rung
    · obtain ⟨_, here, -⟩ := fits.draining (.inl other)
      cases gone.symm.trans here
    · obtain ⟨_, here, -⟩ := fits.draining (.inr (.inl other))
      cases gone.symm.trans here
    · obtain ⟨_, here, -⟩ := fits.draining (.inr (.inr other))
      cases gone.symm.trans here
    · obtain ⟨_, here⟩ := fits.answered other
      cases gone.symm.trans here
  obtain ⟨fd, query, asks⟩ := fits.asking nofun
  have unjoined : ¬ s.main.left ≤ MainPc.closeAdmin.left := by
    intro low
    cases asks.symm.trans (admin.joined low)
  have only {chan : Rendezvous} {ev : RendezvousEvent} (taken : s.chan.step ev = some chan) :
      ev = .poll := by
    obtain ⟨_, goes, -⟩ := fits.goes taken
    cases goes
    rfl
  cases acts with
  | main taken =>
      cases stands : s.main <;> simp only [mainStep, stands] at taken
      case haltAdmin | ringAdmin =>
          cases taken
          exact ⟨waits, undone, gone⟩
      case joinAdmin => simp [asks, AdminLoopPc.isReturned] at taken
      case sigwait | returned => cases taken
      all_goals exact absurd (by simp [stands, MainPc.left]) unjoined
  | admin goes => exact absurd asks (goes.elsewhere.1 fd query)
  | submits _ taken | observes _ taken => cases only taken
  | exchanges own taken =>
      obtain rfl := only taken
      simp at own
  | works own _ taken =>
      obtain rfl := only taken
      simp at own
  | notices here => cases gone.symm.trans here
  | fills here => cases gone.symm.trans here
  | control goes => exact ⟨waits, undone, (goes.returned (by rw [gone]; rfl)).trans gone⟩
  | signals | connects | loops | stores | posts => exact ⟨waits, undone, gone⟩

/-- Nobody waits for an answer once `main` has joined the admin thread. -/
theorem not_stranded_of_joined (good : s.Good) (joined : s.main.left ≤ MainPc.closeAdmin.left) :
    ¬ s.Stranded := by
  rintro ⟨waits, undone, -⟩
  obtain ⟨⟨phase, fits⟩, admin, -, -⟩ := good
  obtain rfl := fits.quiet (by simp [admin.joined joined])
  cases waits.symm.trans fits.stands.submit

theorem left_of_acts (acts : Acts s e t) : t.main.left ≤ s.main.left := by
  cases acts with
  | signals stands => simp [stands, MainPc.left]
  | main taken => exact Nat.le_of_lt (left_of_mainStep taken)
  | _ => exact Nat.le_refl _

theorem left_of_signal (taken : server.step s .signal = some t) :
    t.main.left = MainPc.haltAdmin.left := by
  obtain ⟨-, same⟩ := Option.ite_none_right_eq_some.mp taken
  cases same
  rfl

theorem helper_ne_outside : s.helper ≠ .outside := by
  unfold helper adminHelper controlHelper
  repeat' split
  all_goals simp

/-- A step of a server that is being closed closes it, or leaves less to do, or was nobody's who
matters. -/
theorem advances_of_step (closing : s.Closing) (met : s.Candid e ∧ ¬ e.Disturbs)
    (taken : server.step s e = some t) :
    Execution.Advances Closing Settled helper measure ServerEvent.owner s e t := by
  have acts := acts_of_step taken
  by_cases stranded : t.Stranded
  · exact .inl (.inr stranded)
  · by_cases finished : s.main = .returned
    · refine .inl (.inl ?_)
      have low := left_of_acts acts
      rw [finished] at low
      cases stands : t.main <;> simp [stands, MainPc.left] at low ⊢
    · refine .inr ⟨⟨closing.good.act met.1 acts, fun waits => ?_, stranded⟩,
        nears_of_acts closing met.2 acts stranded finished⟩
      have low := left_of_acts acts
      have signalled := closing.signalled
      rw [waits] at low
      cases stands : s.main <;> simp_all [MainPc.left]

end Server

end Wisp
