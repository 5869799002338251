import Wisp.Control.Deadline
import Wisp.Control.Promise
import Wisp.Control.Unheard

/-!
# The watch over the holder

Two things the control thread does by the clock alone: it takes the RT slot from an active
session that has fallen silent, and it ends an eviction whose grace period is over. A `Vigil`
records what both are about, from the events and not from the fields the source keeps: when
each session was last heard from, when the eviction under way began, and when the clock was
last checked.

An admin switch is settled by the second of them, even if no client ever answers.
-/

namespace Wisp

open Transition System

namespace Arbiter

variable {ι : Type*} {a a' : Arbiter ι} {cause : Cause ι} {i : ι}

/-- An active session is asked to wind down in this step. -/
def WindsDown (a a' : Arbiter ι) : Prop :=
  ∃ i, a.status i = some .activeRt ∧ a'.status i = some .evictingCooperative

instance (a a' : Arbiter Slot) : Decidable (WindsDown a a') :=
  inferInstanceAs (Decidable (∃ _, _ ∧ _))

/-- No session is active while another one winds down. -/
theorem Coherent.not_windsDown (coh : a.Coherent)
    (evicting : a.status i = some .evictingCooperative) : ¬ WindsDown a a' := by
  rintro ⟨h, active, -⟩
  have same := coh.exclusive h i (holds_of_status active rfl) (holds_of_status evicting rfl)
  simp [same, evicting] at active

variable [DecidableEq ι]

/-- A session becomes active only at the end of its warm-up. -/
theorem Step.activeRt_cases (step : a.Step cause a') (active : a'.status i = some .activeRt) :
    a.status i = some .activeRt ∨ cause = .ready i ∧ a.status i = some .grantedWarmup := by
  cases step <;> grind

/-- Only a switch makes a session wind down. -/
theorem Step.evicting_cases (step : a.Step cause a') (coh : a.Coherent)
    (evicting : a'.status i = some .evictingCooperative) :
    a.status i = some .evictingCooperative ∨ (∃ t, cause = .switch t) ∧ WindsDown a a' := by
  cases step with
  | @evicted h t active =>
      have held := (coh.active h).mp active
      by_cases same : i = h
      · exact .inr ⟨⟨t, rfl⟩, h, held, by simp⟩
      · exact .inl (by simpa [same] using evicting)
  | _ => grind

/-- Whoever holds the RT slot after a timeout or the end of a grace period is warming up. -/
theorem Step.warm_of_release {h : ι} {next : Option ι} (step : a.Step cause a')
    (coh : a.Coherent) (releases : cause = .timeout h next ∨ cause = .expiry h next)
    (holds : a'.Holds i) : a'.status i = some .grantedWarmup := by
  have only := fun j => coh.exclusive j h
  cases step with
  | timedOut status | expired status =>
      have held := holds_of_status status rfl
      grind
  | ignored ignores => rcases releases with rfl | rfl <;> cases ignores
  | _ => simp at releases

/-- A switch to a session that can take over makes the active one wind down. -/
theorem Step.winds_of_switch {h t : ι} (step : a.Step (.switch t) a') (coh : a.Coherent)
    (can : a.Grantable t) (active : a.status h = some .activeRt) :
    a'.status h = some .evictingCooperative ∧ a'.pending = some t ∧ a'.Grantable t := by
  have named := (coh.active h).mpr active
  have status := grantable_iff.mp can
  rw [grantable_iff]
  cases step with
  | ignored ignores => cases ignores
  | switched free => exact absurd (holds_of_status active rfl) (free h)
  | _ => grind

/-- A wind-down in favour of a session goes on until that session is granted or released. -/
theorem Step.winding {h t : ι} (step : a.Step cause a') (coh : a.Coherent)
    (known : ∀ i, cause = .connect i → i ≠ h)
    (evicting : a.status h = some .evictingCooperative) (pending : a.pending = some t)
    (can : a.Grantable t) (unpaid : ¬ a'.Granted t) (unreleased : ¬ History.Released t cause a') :
    a'.status h = some .evictingCooperative ∧ a'.pending = some t ∧ a'.Grantable t := by
  have holds : a.Holds h := holds_of_status evicting rfl
  have only := fun j => coh.exclusive j h
  have status := grantable_iff.mp can
  have other : h ≠ t := by
    rintro rfl
    exact can.not_holds holds
  have taken : ¬ a.Free := fun free => free h holds
  rw [grantable_iff]
  simp only [History.Released] at unreleased
  cases step with
  | activated status | declined status | timedOut status =>
      have same := only _ (holds_of_status status rfl) holds
      simp [same, evicting] at status
  | evicted active =>
      have status := (coh.active _).mp active
      have same := only _ (holds_of_status status rfl) holds
      simp [same, evicting] at status
  | _ => grind

/-- The end of a grace period grants to whom the RT slot is promised. -/
theorem Step.granted_of_expiry {h t : ι} {next : Option ι} (step : a.Step (.expiry h next) a')
    (pending : a.pending = some t) : a'.Granted t := by
  cases step with
  | ignored ignores => cases ignores
  | expired => simp [pending]

end Arbiter

/-- A switch that makes a session wind down sets the deadline. -/
theorem ControlPlane.deadline_of_windsDown {cp : ControlPlane} (coh : cp.arbiter.Coherent)
    {id : ClientId} {clock : Timespec}
    (winds : cp.arbiter.WindsDown (cp.handleSwitchQuery id clock).arbiter) :
    (cp.handleSwitchQuery id clock).evictionDeadlineMonotonic = graceDeadline clock := by
  obtain ⟨h, active, evicting⟩ := winds
  have state := (cp.arbiter_status_eq_some.mp active).2
  have named : cp.table.activeSlot = some h := (coh.active h).mpr active
  have changed : (cp.handleSwitchQuery id clock).table ≠ cp.table := by
    intro same
    have still : cp.arbiter.status h = some .evictingCooperative := by
      show cp.table.status h = _
      rw [← same]
      exact evicting
    simp [still] at active
  unfold handleSwitchQuery at changed ⊢
  split at changed
  · exact absurd rfl changed
  · rename_i idx _
    split at changed
    · exact absurd rfl changed
    · rename_i inactive
      split at changed
      · exact absurd rfl changed
      · rename_i able
        have other : h ≠ idx := by
          rintro rfl
          exact inactive state
        rw [if_neg inactive, if_neg able]
        simp [grantSlot, named, other, beginEviction, emit]

/-- A session that times out is told so. -/
theorem ControlPlane.warned_of_overdue {cp : ControlPlane} (coh : cp.arbiter.Coherent) {h : Slot}
    {now : Timespec} (late : cp.overdue now = some h) (clock : Timespec) :
    .send h (cp.table.slots h).ctrlFd .livenessTimeout ∈ (cp.tick now clock).out := by
  obtain ⟨active, silent⟩ := overdue_eq_some.mp late
  let ended : ControlPlane := { cp with table := cp.table.deactivate h }
  let told := (ended.evictClient.send h .livenessTimeout).send h .deactivate
  have unevicted : (cp.checkHeartbeat now clock).evictingSlot = none :=
    evictingSlot_checkHeartbeat coh late
  have ticked : cp.tick now clock = told.maybeGrantNextQueued clock := by
    rw [tick, checkGrace, unevicted]
    simp [checkHeartbeat, SessionTable.checkHeartbeatTimeouts, active, silent, told, ended]
  obtain ⟨effects, out, -⟩ := (Steady.maybeGrantNextQueued clock : Steady told _).out
  have fd : (ended.table.slots h).ctrlFd = (cp.table.slots h).ctrlFd :=
    (Steady.deactivate cp h).ctrlFd h
  rw [ticked, out, ← fd]
  refine List.mem_append_left _ ?_
  simp [told, send, emit, evictClient]

/-- When each session was last heard from, when the eviction under way began, and when the
clock was last checked. -/
structure Vigil where
  heard : Slot → Timespec
  begun : Timespec
  checked : Option Timespec

/-- Nothing has been heard and nothing checked. -/
def Vigil.none : Vigil :=
  ⟨fun _ => ⟨0, 0⟩, ⟨0, 0⟩, .none⟩

/-- What an event adds. -/
def Vigil.note (v : Vigil) (x : Observed) (ev : Event) (y : Observed) : Vigil where
  heard i := (x.1.hears ev i).getD (v.heard i)
  begun :=
    match ev with
    | .switch _ clock => if x.1.arbiter.WindsDown y.1.arbiter then clock else v.begun
    | _ => v.begun
  checked :=
    match ev with
    | .tick now _ => some now
    | _ => v.checked

/-- The reading an event is dated with, if it comes with one. -/
def Event.reading : Event → Option Timespec
  | .readable _ _ clock | .hangup _ clock | .switch _ clock => some clock
  | .tick now _ => some now
  | .accept _ | .list => none

/-- An observed control plane and the vigil kept over it. -/
abbrev Watched := Observed × Vigil

/-- The control thread with its history and its vigil. -/
def watched : System Watched Event :=
  observed.record Vigil.note

namespace Watched

/-- The monotonic clock never runs back behind a clock check. -/
def Forward (x : Watched) (ev : Event) : Prop :=
  ∀ t ∈ ev.reading, t.Normalised ∧ ∀ c ∈ x.2.checked, c.nanos ≤ t.nanos

/-- At the last clock check no active session had been silent for longer than allowed, and no
eviction was past its grace period. -/
def Attended (x : Watched) : Prop :=
  ∀ now ∈ x.2.checked, ∀ i,
    (x.1.1.arbiter.status i = some .activeRt →
      now.nanos - (x.2.heard i).nanos < (clientHeartbeatTimeoutMs + 1) * 1000000) ∧
    (x.1.1.arbiter.status i = some .evictingCooperative →
      now.nanos - x.2.begun.nanos < evictGraceMs * 1000000)

/-- A clock check takes the RT slot only from a session that has been silent for longer than
allowed, which is told, or after the grace period, less a millisecond. -/
def Patient (x : Watched) (ev : Event) : Prop :=
  let cp := x.1.1.quiesce.handle ev
  ∀ now clock, ev = .tick now clock → ∀ i,
    (x.1.1.arbiter.status i = some .activeRt → cp.arbiter.status i ≠ some .activeRt →
      clientHeartbeatTimeoutMs * 1000000 < now.nanos - (x.2.heard i).nanos ∧
        .send i (x.1.1.table.slots i).ctrlFd .livenessTimeout ∈ cp.out) ∧
    (x.1.1.arbiter.status i = some .evictingCooperative →
      cp.arbiter.status i ≠ some .evictingCooperative →
      (evictGraceMs - 1) * 1000000 < now.nanos - x.2.begun.nanos)

theorem reading_of_hears {cp : ControlPlane} {ev : Event} {i : Slot} {c : Timespec}
    (heard : cp.hears ev i = some c) : ev.reading = some c := by
  unfold ControlPlane.hears at heard
  split at heard
  · exact (Option.ite_none_right_eq_some.mp heard).2
  · cases heard

/-- The end of a warm-up is heard. -/
theorem hears_of_ready {cp : ControlPlane} {ev : Event} {i : Slot} (ready : cp.cause ev = .ready i)
    (warm : cp.arbiter.status i = some .grantedWarmup) : ∃ c, cp.hears ev i = some c := by
  cases ev with
  | readable idx received clock =>
      cases received with
      | message type payload fds =>
          simp only [ControlPlane.cause] at ready
          split at ready
          case h_3 kind =>
              cases ready
              exact ⟨clock, by simp [ControlPlane.hears, ControlPlane.Speaks, kind, warm]⟩
          all_goals cases ready
      | _ => cases ready
  | switch id clock =>
      simp only [ControlPlane.cause] at ready
      split at ready <;> cases ready
  | tick now clock =>
      simp only [ControlPlane.cause] at ready
      split at ready <;> cases ready
  | _ => cases ready

theorem switch_of_cause {cp : ControlPlane} {ev : Event} {t : Slot}
    (switches : cp.cause ev = .switch t) : ∃ id clock, ev = .switch id clock := by
  cases ev with
  | switch id clock => exact ⟨id, clock, rfl⟩
  | readable idx received clock =>
      cases received with
      | message type payload fds =>
          simp only [ControlPlane.cause] at switches
          split at switches <;> cases switches
      | _ => cases switches
  | tick now clock =>
      simp only [ControlPlane.cause] at switches
      split at switches <;> cases switches
  | _ => cases switches

/-- What the source keeps agrees with the vigil. -/
structure Kept (x : Watched) : Prop where
  sound : Sound x.1
  attended : x.Attended
  heard : ∀ i, x.1.1.arbiter.status i = some .activeRt →
    (x.1.1.table.slots i).lastHeartbeatMonotonic = x.2.heard i
  begun : ∀ i, x.1.1.arbiter.status i = some .evictingCooperative →
    x.2.begun.Normalised ∧ x.1.1.evictionDeadlineMonotonic = ControlPlane.graceDeadline x.2.begun

namespace Kept

variable {x y : Watched} {ev : Event} {i : Slot} {now : Timespec}

section Clock

variable (kept : Kept x)
include kept

theorem silent_of_overdue (late : x.1.1.overdue now = some i) :
    x.1.1.arbiter.status i = some .activeRt ∧
      clientHeartbeatTimeoutMs * 1000000 < now.nanos - (x.2.heard i).nanos := by
  obtain ⟨active, late⟩ := ControlPlane.overdue_eq_some.mp late
  have status := (kept.sound.coherent.active i).mp active
  refine ⟨status, ?_⟩
  rw [← kept.heard i status]
  by_contra early
  exact Int.not_lt.mpr (elapsedMs_le (Int.not_lt.mp early)) late

theorem alive_of_not_overdue (alive : x.1.1.overdue now = none)
    (active : x.1.1.arbiter.status i = some .activeRt) :
    now.nanos - (x.2.heard i).nanos < (clientHeartbeatTimeoutMs + 1) * 1000000 := by
  rw [← kept.heard i active]
  by_contra late
  have late := le_elapsedMs (Int.not_lt.mp late)
  have overdue : x.1.1.overdue now = some i :=
    ControlPlane.overdue_eq_some.mpr ⟨(kept.sound.coherent.active i).mpr active, by omega⟩
  simp [overdue] at alive

theorem late_of_overstayed (late : x.1.1.overstayed now = some i) :
    x.1.1.arbiter.status i = some .evictingCooperative ∧
      (evictGraceMs - 1) * 1000000 < now.nanos - x.2.begun.nanos := by
  obtain ⟨evicting, late⟩ := ControlPlane.overstayed_eq_some.mp late
  have status := (kept.sound.coherent.evicting i).mp evicting
  obtain ⟨normal, deadline⟩ := kept.begun i status
  have spec := (ControlPlane.graceDeadline_spec normal).2
  rw [← deadline] at spec
  refine ⟨status, ?_⟩
  by_contra early
  have within : elapsedMs now x.1.1.evictionDeadlineMonotonic ≤ -1 := elapsedMs_le (by omega)
  omega

theorem early_of_not_overstayed (within : x.1.1.overstayed now = none)
    (evicting : x.1.1.arbiter.status i = some .evictingCooperative) :
    now.nanos - x.2.begun.nanos < evictGraceMs * 1000000 := by
  obtain ⟨normal, deadline⟩ := kept.begun i evicting
  have spec := (ControlPlane.graceDeadline_spec normal).2
  rw [← deadline] at spec
  by_contra late
  have passed : 0 ≤ elapsedMs now x.1.1.evictionDeadlineMonotonic := le_elapsedMs (by omega)
  have overstayed : x.1.1.overstayed now = some i :=
    ControlPlane.overstayed_eq_some.mpr ⟨(kept.sound.coherent.evicting i).mpr evicting, passed⟩
  simp [overstayed] at within

end Clock

section Steps

variable (kept : Kept x) (once : ConnectOnce x.1 ev) (taken : watched.step x ev = some y)
include kept once taken

theorem refines : x.1.1.arbiter.Step (x.1.1.cause ev) y.1.1.arbiter :=
  (kept.sound.refines once (record_step.mp taken).1).1

omit kept once in
theorem handled : ev.enabled x.1.1 = true ∧ y.1.1 = x.1.1.quiesce.handle ev :=
  ControlPlane.step_eq_some.mp (record_step.mp (record_step.mp taken).1).1

/-- What was heard last of an active session, and when. -/
theorem heard_cases (active : y.1.1.arbiter.status i = some .activeRt) :
    (x.1.1.arbiter.status i = some .activeRt ∧ y.2.heard i = x.2.heard i ∨
        ev.reading = some (y.2.heard i)) ∧
      (y.1.1.table.slots i).lastHeartbeatMonotonic = y.2.heard i := by
  obtain ⟨on, same⟩ := handled taken
  have heard : y.2.heard i = (x.1.1.hears ev i).getD (x.2.heard i) := by
    rw [(record_step.mp taken).2]
    rfl
  have before : x.1.1.arbiter.status i = some .activeRt ∨ ∃ c, x.1.1.hears ev i = some c := by
    rcases (kept.refines once taken).activeRt_cases active with before | ⟨ready, warm⟩
    · exact .inl before
    · exact .inr (hears_of_ready ready warm)
  have present : (x.1.1.table.slots i).inUse = true := by
    rcases (kept.refines once taken).activeRt_cases active with status | ⟨-, status⟩
    · exact (x.1.1.arbiter_status_eq_some.mp status).1
    · exact (x.1.1.arbiter_status_eq_some.mp status).1
  have last : (y.1.1.table.slots i).lastHeartbeatMonotonic =
      (x.1.1.hears ev i).getD (x.1.1.table.slots i).lastHeartbeatMonotonic := by
    rw [same]
    exact ControlPlane.lastHeartbeat_handle on present
  cases hears : x.1.1.hears ev i with
  | some c =>
      rw [hears] at heard last
      exact ⟨.inr (heard ▸ reading_of_hears hears), last.trans heard.symm⟩
  | none =>
      have before : x.1.1.arbiter.status i = some .activeRt := by simpa [hears] using before
      rw [hears] at heard last
      exact ⟨.inl ⟨before, heard⟩, last.trans ((kept.heard i before).trans heard.symm)⟩

/-- An eviction that is under way keeps its deadline. -/
theorem begun_same (evicting : x.1.1.arbiter.status i = some .evictingCooperative) :
    y.2.begun = x.2.begun ∧
      y.1.1.evictionDeadlineMonotonic = x.1.1.evictionDeadlineMonotonic := by
  have coh := kept.sound.coherent
  constructor
  · rw [(record_step.mp taken).2]
    simp only [Vigil.note]
    split
    · exact if_neg (coh.not_windsDown evicting)
    · rfl
  · have inactive : x.1.1.table.activeSlot = none :=
      ControlPlane.inactive_of_evicting coh ((coh.evicting i).mpr evicting)
    rw [(handled taken).2]
    exact ControlPlane.deadline_handle inactive

/-- Where an eviction that is under way comes from. -/
theorem begun_cases (evicting : y.1.1.arbiter.status i = some .evictingCooperative) :
    x.1.1.arbiter.status i = some .evictingCooperative ∨
      ev.reading = some y.2.begun ∧
        y.1.1.evictionDeadlineMonotonic = ControlPlane.graceDeadline y.2.begun := by
  have coh := kept.sound.coherent
  rcases (kept.refines once taken).evicting_cases coh evicting with before | ⟨⟨t, switches⟩, winds⟩
  · exact .inl before
  · obtain ⟨id, clock, rfl⟩ := switch_of_cause switches
    obtain ⟨-, same⟩ := handled taken
    have dated : y.2.begun = clock := by
      rw [(record_step.mp taken).2]
      exact if_pos winds
    have quiet : x.1.1.quiesce.arbiter.Coherent := coh.quiet
    refine .inr ⟨dated ▸ rfl, ?_⟩
    rw [same] at winds
    rw [dated, same]
    exact ControlPlane.deadline_of_windsDown quiet winds

/-- What a clock check finds, and what it leaves behind. -/
theorem tick_cases {clock : Timespec} (ticks : ev = .tick now clock) :
    ((∃ h, x.1.1.overdue now = some h) ∨
        x.1.1.overdue now = none ∧ ∃ h, x.1.1.overstayed now = some h) ∧
      (∀ j, y.1.1.arbiter.Holds j → y.1.1.arbiter.status j = some .grantedWarmup) ∨
    x.1.1.overdue now = none ∧ x.1.1.overstayed now = none ∧
      y.1.1.arbiter.status = x.1.1.arbiter.status := by
  have step := kept.refines once taken
  have coh := kept.sound.coherent
  subst ticks
  simp only [ControlPlane.cause] at step
  cases late : x.1.1.overdue now with
  | some h =>
      rw [late] at step
      exact .inl ⟨.inl ⟨h, rfl⟩, fun j => step.warm_of_release coh (.inl rfl)⟩
  | none =>
      cases expired : x.1.1.overstayed now with
      | some h =>
          rw [late, expired] at step
          exact .inl ⟨.inr ⟨rfl, h, rfl⟩, fun j => step.warm_of_release coh (.inr rfl)⟩
      | none =>
          obtain ⟨-, same⟩ := handled taken
          have late' : x.1.1.quiesce.overdue now = none := late
          have expired' : x.1.1.quiesce.overstayed now = none := expired
          have still : (x.1.1.quiesce.tick now clock).arbiter.status = x.1.1.arbiter.status := by
            rw [ControlPlane.arbiter_tick_of_other late' expired']
            rfl
          exact .inr ⟨rfl, rfl, by rw [same]; exact still⟩

theorem attended_step (forward : x.Forward ev) : y.Attended := by
  have noted : y.2 = x.2.note x.1 ev y.1 := (record_step.mp taken).2
  intro c checked i
  by_cases ticks : ∃ now clock, ev = .tick now clock
  · obtain ⟨now, clock, ticks⟩ := ticks
    have same : c = now ∧ y.2.heard i = x.2.heard i ∧ y.2.begun = x.2.begun := by
      subst ticks
      rw [noted] at checked ⊢
      cases checked
      exact ⟨rfl, rfl, rfl⟩
    obtain ⟨rfl, heard, begun⟩ := same
    rw [heard, begun]
    rcases kept.tick_cases once taken ticks with ⟨-, warm⟩ | ⟨alive, within, still⟩
    · constructor
      · intro active
        have warm := warm i (Arbiter.holds_of_status active rfl)
        simp [active] at warm
      · intro evicting
        have warm := warm i (Arbiter.holds_of_status evicting rfl)
        simp [evicting] at warm
    · rw [still]
      exact ⟨kept.alive_of_not_overdue alive, kept.early_of_not_overstayed within⟩
  · have before : c ∈ x.2.checked := by
      rw [noted] at checked
      cases ev with
      | tick now clock => exact absurd ⟨now, clock, rfl⟩ ticks
      | _ => exact checked
    constructor
    · intro active
      rcases (kept.heard_cases once taken active).1 with ⟨status, same⟩ | dated
      · rw [same]
        exact (kept.attended c before i).1 status
      · have later := (forward _ dated).2 c before
        have positive : (0 : Int) < (clientHeartbeatTimeoutMs + 1) * 1000000 := by decide
        omega
    · intro evicting
      rcases kept.begun_cases once taken evicting with status | ⟨dated, -⟩
      · rw [(kept.begun_same once taken status).1]
        exact (kept.attended c before i).2 status
      · have later := (forward _ dated).2 c before
        have positive : (0 : Int) < evictGraceMs * 1000000 := by decide
        omega

theorem patient : x.Patient ev := by
  have coh := kept.sound.coherent
  obtain ⟨-, same⟩ := handled taken
  intro now clock ticks i
  rw [← same]
  rcases kept.tick_cases once taken ticks with ⟨⟨h, late⟩ | ⟨alive, h, late⟩, -⟩ | ⟨-, -, still⟩
  · obtain ⟨status, silent⟩ := kept.silent_of_overdue late
    have only {st : SessionState} (holder : x.1.1.arbiter.status i = some st)
        (holds : st.holdsRt = true) : i = h :=
      coh.exclusive i h (Arbiter.holds_of_status holder holds) (Arbiter.holds_of_status status rfl)
    constructor
    · intro active _
      obtain rfl := only active rfl
      refine ⟨silent, ?_⟩
      have quiet : x.1.1.quiesce.arbiter.Coherent := coh.quiet
      rw [same, ticks]
      exact ControlPlane.warned_of_overdue quiet late clock
    · intro evicting _
      obtain rfl := only evicting rfl
      simp [evicting] at status
  · obtain ⟨status, late⟩ := kept.late_of_overstayed late
    refine ⟨fun active _ => ?_, fun _ _ => late⟩
    have same := coh.exclusive i h (Arbiter.holds_of_status active rfl)
      (Arbiter.holds_of_status status rfl)
    rw [same, status] at active
    cases active
  · rw [still]
    exact ⟨fun active ends => absurd active ends, fun evicting ends => absurd evicting ends⟩

theorem step (forward : x.Forward ev) : Kept y where
  sound := kept.sound.step once (record_step.mp taken).1
  attended := kept.attended_step once taken forward
  heard _ active := (kept.heard_cases once taken active).2
  begun i evicting := by
    rcases kept.begun_cases once taken evicting with before | ⟨dated, deadline⟩
    · obtain ⟨same, deadline⟩ := kept.begun_same once taken before
      rw [same, deadline]
      exact kept.begun i before
    · exact ⟨(forward _ dated).1, deadline⟩

end Steps

end Kept

/-- A switch at the time `clock` names the session in `t`, which can take over, while the one in
`h` is active. -/
def Displaces (h t : Slot) (clock : Timespec) (x : Watched) : Event → Prop
  | .switch id reading => reading = clock ∧ x.1.1.table.findByClientId id = some t ∧
      x.1.1.arbiter.Grantable t ∧ x.1.1.arbiter.status h = some .activeRt
  | _ => False

/-- The clock is checked a grace period after `clock` or later. -/
def ChecksLate (clock : Timespec) : Event → Prop
  | .tick now _ => clock.nanos + evictGraceMs * 1000000 ≤ now.nanos
  | _ => False

/-- The session in `h` has been asked to wind down in favour of the one in `t`. -/
structure Winding (h t : Slot) (clock : Timespec) (x : Watched) : Prop where
  evicting : x.1.1.arbiter.status h = some .evictingCooperative
  pending : x.1.1.arbiter.pending = some t
  grantable : x.1.1.arbiter.Grantable t
  begun : x.2.begun = clock

/-- The step settles the switch to `t`: it is granted, it is gone, or another switch is
accepted. -/
def Settles (t : Slot) (x : Watched) (ev : Event) : Prop :=
  (x.1.1.quiesce.handle ev).arbiter.Granted t ∨
    History.Released t (x.1.1.cause ev) (x.1.1.quiesce.handle ev).arbiter

section Winding

variable {x y : Watched} {ev : Event} {h t : Slot} {clock : Timespec}
variable (kept : Kept x) (once : ConnectOnce x.1 ev) (taken : watched.step x ev = some y)
include kept once taken

/-- The switch begins with the wind-down of the active session. -/
theorem winding_of_displaces (displaces : x.Displaces h t clock ev) : Winding h t clock y := by
  have step := kept.refines once taken
  cases ev with
  | switch id reading =>
      obtain ⟨rfl, names, can, active⟩ := displaces
      simp only [ControlPlane.cause, names] at step
      obtain ⟨evicting, pending, can⟩ := step.winds_of_switch kept.sound.coherent can active
      refine ⟨evicting, pending, can, ?_⟩
      rw [(record_step.mp taken).2]
      exact if_pos ⟨h, active, evicting⟩
  | _ => cases displaces

/-- The wind-down goes on until the switch is settled. -/
theorem winding_step (winding : Winding h t clock x) (unsettled : ¬ x.Settles t ev) :
    Winding h t clock y := by
  obtain ⟨evicting, pending, can, begun⟩ := winding
  rw [Settles, ← (Kept.handled taken).2, not_or] at unsettled
  have known (i : Slot) (connects : x.1.1.cause ev = .connect i) : i ≠ h := by
    rintro rfl
    exact kept.sound.not_holds_of_connect once connects (Arbiter.holds_of_status evicting rfl)
  obtain ⟨evicting', pending', can'⟩ := (kept.refines once taken).winding kept.sound.coherent
    known evicting pending can unsettled.1 unsettled.2
  exact ⟨evicting', pending', can', (kept.begun_same once taken evicting).1.trans begun⟩

/-- A clock check after the grace period settles the switch. -/
theorem settles_of_late (winding : Winding h t clock x) (late : ChecksLate clock ev) :
    x.Settles t ev := by
  obtain ⟨evicting, pending, -, begun⟩ := winding
  have coh := kept.sound.coherent
  have step := kept.refines once taken
  cases ev with
  | tick now later =>
      have late : clock.nanos + evictGraceMs * 1000000 ≤ now.nanos := late
      have alive : x.1.1.overdue now = none := by
        rw [Option.eq_none_iff_forall_ne_some]
        intro j overdue
        have active := (kept.silent_of_overdue overdue).1
        have same := coh.exclusive j h (Arbiter.holds_of_status active rfl)
          (Arbiter.holds_of_status evicting rfl)
        simp [same, evicting] at active
      have expired : ∃ j, x.1.1.overstayed now = some j := by
        rw [← Option.ne_none_iff_exists']
        intro within
        have early := kept.early_of_not_overstayed within evicting
        rw [begun] at early
        omega
      obtain ⟨j, expired⟩ := expired
      simp only [ControlPlane.cause, alive, expired] at step
      rw [(Kept.handled taken).2] at step
      exact .inl (step.granted_of_expiry pending)
  | _ => cases late

end Winding

instance (t : Timespec) : Decidable t.Normalised :=
  decidable_of_iff (0 ≤ t.tvNsec ∧ t.tvNsec < 1000000000)
    ⟨fun normal => ⟨normal.1, normal.2⟩, fun normal => ⟨normal.nonneg, normal.lt_second⟩⟩

section Runs

variable {ring : Ring} {frameFd : Int} {dp : Bool} {supportedModes : List RenderMode}
variable {start : ControlPlane} {x : Watched} {trace : List (Watched × Event)}

/-- Each connection sends CONNECT at most once, and the clock does not run backwards. -/
def Regular (x : Watched) (ev : Event) : Prop :=
  ConnectOnce x.1 ev ∧ x.Forward ev

instance (h t : Slot) (clock : Timespec) (x : Watched) (ev : Event) :
    Decidable (x.Displaces h t clock ev) :=
  match ev with
  | .switch _ _ => inferInstanceAs (Decidable (_ ∧ _ ∧ _ ∧ _))
  | .accept _ | .readable _ _ _ | .hangup _ _ | .list | .tick _ _ => isFalse id

instance (clock : Timespec) (ev : Event) : Decidable (ChecksLate clock ev) :=
  match ev with
  | .tick _ _ => inferInstanceAs (Decidable (_ ≤ _))
  | .accept _ | .readable _ _ _ | .hangup _ _ | .list | .switch _ _ => isFalse id

instance (x : Watched) (ev : Event) : Decidable (Regular x ev) :=
  inferInstanceAs (Decidable (ConnectOnce x.1 ev ∧ ∀ t ∈ ev.reading,
    t.Normalised ∧ ∀ c ∈ x.2.checked, c.nanos ≤ t.nanos))

theorem kept_of_init (created : ControlPlane.init ring frameFd dp supportedModes = some start) :
    Kept ((start, .empty), .none) := by
  have absent := (ControlPlane.vacant_of_init created).absent
  refine ⟨Sound.of_init created, nofun, fun i active => ?_, fun i evicting => ?_⟩
  · cases (absent i).symm.trans active
  · cases (absent i).symm.trans evicting

theorem kept_of_run (created : ControlPlane.init ring frameFd dp supportedModes = some start)
    (run : watched.Run ((start, .empty), .none) trace x) (regular : Meets Regular trace) :
    Kept x :=
  run.invariant regular (kept_of_init created) fun _ _ _ kept regular taken =>
    kept.step regular.1 taken regular.2

open ControlPlane in
/-- A session is silent for one second and goes on, is asked to leave for another one and does
not answer, and that one falls silent in turn. -/
def lapses (first second : Slot) : List Event :=
  [.accept 10, .hello first 65 qvga, .accept 11, .hello second 66 qvga,
    .signal first .activateRequest,
    .readable first (.message MsgKind.readyForRt.toByte [] []) ⟨1, 0⟩, .tick ⟨2, 0⟩ ⟨2, 0⟩,
    .switch (.single 66) ⟨2, 500000000⟩, .tick ⟨3, 499000000⟩ ⟨3, 499000000⟩,
    .tick ⟨3, 500000000⟩ ⟨3, 500000000⟩,
    .readable second (.message MsgKind.readyForRt.toByte [] []) ⟨4, 0⟩,
    .tick ⟨5, 1000000⟩ ⟨5, 1000000⟩]

end Runs

end Watched

end Wisp
