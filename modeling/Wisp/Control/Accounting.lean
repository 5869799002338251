import Mathlib.Algebra.Group.Nat.Defs
import Mathlib.Data.List.FinRange
import Mathlib.Data.List.Nodup
import Wisp.Control.Observed

/-!
# What the generation counts

Each ACTIVATE_GRANT bumps the generation once, and so does each ACTIVE_RT session that a
heartbeat timeout or a disconnect ends. Nothing else does. A run from a fresh ring can
therefore be read off the generation, and a wind-down costs exactly the bump of the grant
that follows it.
-/

namespace Wisp

open Transition System

/-- The session that a heartbeat timeout or a disconnect takes away. -/
def Cause.ender {ι : Type*} : Cause ι → Option ι
  | .timeout i _ | .drop i _ => some i
  | _ => none

namespace Arbiter

variable {ι : Type*}

/-- How many ACTIVATE_GRANTs the last step sent. -/
def grants (a : Arbiter ι) : Nat :=
  a.log.countP fun entry => entry.target.isSome

/-- The ACTIVE_RT session that a timeout or a disconnect ends. -/
def ended (a : Arbiter ι) (cause : Cause ι) : Option ι :=
  cause.ender.bind fun i => if a.status i = some .activeRt then some i else none

section Logs

variable {a : Arbiter ι} {i : ι}

@[simp] theorem grants_quiet : a.quiet.grants = 0 := rfl

@[simp] theorem grants_clearPending : a.clearPending.grants = a.grants := rfl

@[simp] theorem grants_park : (a.park i).grants = a.grants := rfl

@[simp] theorem grants_bump : a.bump.grants = a.grants := by
  simp [grants, Entry.target]

@[simp] theorem grants_reply (ok : Bool) : (a.reply ok).grants = a.grants := by
  simp [grants, Entry.target]

variable [DecidableEq ι]

@[simp] theorem grants_move (state : Option SessionState) :
    (a.move i state).grants = a.grants := rfl

@[simp] theorem grants_join : (a.join i).grants = a.grants := rfl

@[simp] theorem grants_activate : (a.activate i).grants = a.grants := rfl

@[simp] theorem grants_evict (t : ι) : (a.evict i t).grants = a.grants := rfl

@[simp] theorem grants_leave : (a.leave i).grants = a.grants := by
  unfold leave
  split
  · exact grants_bump
  · rfl

@[simp] theorem grants_grant : (a.grant i).grants = a.grants + 1 := by
  simp [grants, Entry.target]

/-- Passing the slot on is one grant and one bump, or nothing. -/
theorem handOver_balance (next : Option ι) :
    (a.handOver next).generation + UInt32.ofNat a.grants =
      a.generation + UInt32.ofNat (a.handOver next).grants := by
  cases next with
  | none => rfl
  | some i => simp [handOver, UInt32.ofNat_add, UInt32.add_assoc, UInt32.add_comm]

end Logs

variable {a a' : Arbiter ι} {cause : Cause ι}

/-- Nobody warms up or is active: the RT slot is idle or its holder winds down. -/
def Unclaimed (a : Arbiter ι) : Prop :=
  ∀ i, a.status i ≠ some .grantedWarmup ∧ a.status i ≠ some .activeRt

theorem ended_eq_some {i : ι} :
    a.ended cause = some i ↔ cause.ender = some i ∧ a.status i = some .activeRt := by
  cases ender : cause.ender with
  | none => simp [ended, ender]
  | some j =>
      by_cases active : a.status j = some .activeRt
      · simp only [ended, ender, Option.bind_some, active, if_true, Option.some.injEq]
        constructor
        · rintro rfl
          exact ⟨rfl, active⟩
        · exact And.left
      · simp only [ended, ender, Option.bind_some, active, if_false, Option.some.injEq]
        constructor
        · intro none
          cases none
        · rintro ⟨rfl, status⟩
          exact absurd status active

theorem Unclaimed.ended_eq (unclaimed : a.Unclaimed) : a.ended cause = none := by
  cases cause <;> simp [ended, Cause.ender, (unclaimed _).2]

/-- While one session winds down, no other one warms up or is active. -/
theorem Coherent.unclaimed_of_evicting (coh : a.Coherent) {h : ι}
    (winding : a.status h = some .evictingCooperative) : a.Unclaimed := by
  have holds : a.Holds h := holds_of_status winding rfl
  intro i
  constructor
  all_goals
    intro status
    obtain rfl := coh.exclusive i h (holds_of_status status rfl) holds
    simp [winding] at status

theorem unclaimed_of_free (free : a.Free) : a.Unclaimed := fun i =>
  ⟨fun warm => free i (holds_of_status warm rfl), fun active => free i (holds_of_status active rfl)⟩

/-- A change that hands out nothing. -/
theorem Unclaimed.of_kept (unclaimed : a.Unclaimed)
    (kept : ∀ i st, a'.status i = some st → st.holdsRt = true → a.status i = some st) :
    a'.Unclaimed := by
  intro i
  constructor
  · intro warm
    exact (unclaimed i).1 (kept i _ warm rfl)
  · intro active
    exact (unclaimed i).2 (kept i _ active rfl)

variable [DecidableEq ι]

/-- The account of one step. -/
theorem Step.generation_eq (step : a.Step cause a') (coh : a.Coherent)
    (first : ∀ i, cause = .connect i → ¬ a.Holds i) :
    a'.generation = a.generation + UInt32.ofNat (a'.grants + (a.ended cause).toList.length) := by
  have passed {base : Arbiter ι} {next : Option ι} (silent : base.grants = 0) :
      (base.handOver next).generation =
        base.generation + UInt32.ofNat (base.handOver next).grants := by
    have balance := base.handOver_balance next
    simpa [silent] using balance
  have idle {i : ι} (holds : ¬ a.Holds i) : a.active ≠ some i := fun active =>
    holds (holds_of_status ((coh.active i).mp active) rfl)
  have inactive {i : ι} (holds : ¬ a.Holds i) : a.status i ≠ some .activeRt := fun active =>
    holds (holds_of_status active rfl)
  cases step with
  | ignored ignores =>
      cases cause with
      | drop | timeout => exact ignores.elim
      | _ => simp [ended, Cause.ender]
  | unnamed => simp [ended, Cause.ender]
  | answered => simp [ended, Cause.ender]
  | joined => simp [ended, Cause.ender]
  | accepted => simp [ended, Cause.ender]
  | refused => simp [ended, Cause.ender, idle (first _ rfl)]
  | left gone => simp [ended, Cause.ender, idle gone, inactive gone]
  | queued => simp [ended, Cause.ender]
  | granted => simp [ended, Cause.ender]
  | activated => simp [ended, Cause.ender]
  | evicted => simp [ended, Cause.ender]
  | parked => simp [ended, Cause.ender]
  | switched => simp [ended, Cause.ender]
  | declined =>
      rw [passed (by simp)]
      simp [ended, Cause.ender]
  | stopped =>
      rw [passed (by simp)]
      simp [ended, Cause.ender]
  | expired =>
      rw [passed (by simp)]
      simp [ended, Cause.ender]
  | timedOut status =>
      rw [passed (by simp)]
      simp [ended, Cause.ender, status, UInt32.add_assoc, UInt32.add_comm 1]
  | @dropped h =>
      rw [passed (by simp)]
      have active := coh.active h
      by_cases status : a.status h = some .activeRt
      · simp [ended, Cause.ender, status, active.mpr status, UInt32.add_assoc, UInt32.add_comm 1]
      · simp [ended, Cause.ender, status, mt active.mp status]

/-- A step passes the RT slot on at most once. -/
theorem Step.grants_le (step : a.Step cause a') : a'.grants ≤ 1 := by
  have passed {base : Arbiter ι} (next : Option ι) (silent : base.grants = 0) :
      (base.handOver next).grants ≤ 1 := by
    cases next <;> simp [handOver, silent]
  cases step with
  | declined | stopped | expired | timedOut | dropped => exact passed _ (by simp)
  | _ => simp

/-- It takes a grant to warm up, and a warm-up to be active. -/
theorem Unclaimed.step (unclaimed : a.Unclaimed) (coh : a.Coherent) (step : a.Step cause a')
    (ungranted : a'.grants = 0) : a'.Unclaimed := by
  have start : a.quiet.Unclaimed := unclaimed
  have moved (i : ι) {state : Option SessionState}
      (idle : state.any SessionState.holdsRt = false) : (a.quiet.move i state).Unclaimed := by
    refine start.of_kept fun j st status held => ?_
    rw [move_status] at status
    split at status
    · simp [status, held] at idle
    · exact status
  have left (i : ι) : (a.quiet.leave i).Unclaimed := by
    refine start.of_kept fun j st status held => ?_
    rw [leave_status] at status
    split at status
    · cases status
    · exact status
  -- Handing over to somebody is a grant, so nobody was there.
  have passed {base : Arbiter ι} {next : Option ι} (before : base.Unclaimed)
      (none : (base.handOver next).grants = 0) : (base.handOver next).Unclaimed := by
    cases next with
    | none => exact before
    | some i => simp [handOver] at none
  cases step with
  | ignored | unnamed | answered | parked => exact start
  | joined => exact moved _ rfl
  | accepted | queued => exact moved _ rfl
  | refused | left => exact left _
  | granted => simp at ungranted
  | switched => simp at ungranted
  | activated status => exact absurd status (unclaimed _).1
  | evicted active => exact absurd ((coh.active _).mp active) (unclaimed _).2
  | declined status => exact absurd status (unclaimed _).1
  | timedOut status => exact absurd status (unclaimed _).2
  | stopped => exact passed (moved _ rfl) ungranted
  | expired => exact passed (moved _ rfl) ungranted
  | dropped => exact passed (left _) ungranted

/-- Only an admin switch makes a session wind down. -/
theorem Step.begins_eviction {h : ι} (step : a.Step cause a')
    (before : a.status h ≠ some .evictingCooperative)
    (after : a'.status h = some .evictingCooperative) :
    ∃ t, a' = (a.quiet.evict h t).reply true := by
  have passed {base : Arbiter ι} {next : Option ι}
      (winding : (base.handOver next).status h = some .evictingCooperative) :
      base.status h = some .evictingCooperative := by
    rw [handOver_status] at winding
    split at winding
    · cases winding
    · exact winding
  have moved {i : ι} {state : Option SessionState} (other : state ≠ some .evictingCooperative)
      (winding : (a.quiet.move i state).status h = some .evictingCooperative) : False := by
    rw [move_status] at winding
    split at winding
    · exact other winding
    · exact before winding
  have left {i : ι} (winding : (a.quiet.leave i).status h = some .evictingCooperative) :
      False := by
    rw [leave_status] at winding
    split at winding
    · cases winding
    · exact before winding
  have given {i : ι} (winding : (a.quiet.grant i).status h = some .evictingCooperative) :
      False := by
    rw [grant_status] at winding
    split at winding
    · cases winding
    · exact before winding
  cases step with
  | ignored | unnamed | answered | parked => exact absurd after before
  | joined => exact (moved (by simp) after).elim
  | accepted => exact (moved (by simp) after).elim
  | refused | left => exact (left after).elim
  | queued => exact (moved (by simp) after).elim
  | granted => exact (given after).elim
  | switched => exact (given after).elim
  | activated =>
      rw [activate_status] at after
      split at after
      · cases after
      · exact absurd after before
  | @evicted k t =>
      rw [reply_status, evict_status] at after
      split at after
      · rename_i same
        exact ⟨t, by rw [same]⟩
      · exact absurd after before
  | declined => exact (moved (by simp) (passed after)).elim
  | stopped =>
      have winding := passed after
      exact (moved (by simp) winding).elim
  | timedOut =>
      have winding := passed after
      exact (moved (by simp) winding).elim
  | expired =>
      have winding := passed after
      exact (moved (by simp) winding).elim
  | dropped =>
      have winding := passed after
      exact (left winding).elim

end Arbiter

/-- The effect is an ACTIVATE_GRANT. -/
def Effect.isGrant : Effect → Bool
  | .send _ _ (.activateGrant _ _) => true
  | _ => false

namespace ControlPlane

/-- How many ACTIVATE_GRANTs the last event sent. -/
def grantsSent (cp : ControlPlane) : Nat :=
  cp.out.countP Effect.isGrant

/-- The slot is ACTIVE_RT and the event ends it: its client is gone or its heartbeat is
overdue. -/
def EndsActive (cp : ControlPlane) (ev : Event) (i : Slot) : Prop :=
  (cp.table.slots i).inUse = true ∧ (cp.table.slots i).state = .activeRt ∧
    match ev with
    | .hangup idx _ | .readable idx .closed _ => idx = i
    | .readable idx (.message type _ _) _ => idx = i ∧ MsgKind.ofByte type = some .disconnect
    | .tick now _ =>
        elapsedMs now (cp.table.slots i).lastHeartbeatMonotonic > clientHeartbeatTimeoutMs
    | _ => False

instance (cp : ControlPlane) (ev : Event) (i : Slot) : Decidable (cp.EndsActive ev i) := by
  unfold EndsActive
  split <;> infer_instance

/-- How many ACTIVE_RT sessions the event ends. -/
def activeEnded (cp : ControlPlane) (ev : Event) : Nat :=
  (List.finRange sessionMaxClients).countP fun i => cp.EndsActive ev i

theorem grantsSent_eq (cp : ControlPlane) : cp.grantsSent = cp.arbiter.grants := by
  simp only [grantsSent, Arbiter.grants, arbiter, List.countP_filterMap]
  congr 1
  funext e
  cases e with
  | send idx fd msg => cases msg <;> rfl
  | _ => rfl

/-- The event ends what its cause ends. -/
theorem endsActive_iff {cp : ControlPlane} {ev : Event} {i : Slot} (coh : cp.arbiter.Coherent) :
    cp.EndsActive ev i ↔ cp.arbiter.ended (cp.cause ev) = some i := by
  rw [Arbiter.ended_eq_some, arbiter_status_eq_some]
  cases ev with
  | accept fd => simp [EndsActive, cause, Cause.ender]
  | list => simp [EndsActive, cause, Cause.ender]
  | hangup idx clock => simp [EndsActive, cause, Cause.ender, and_left_comm, and_comm]
  | switch id clock =>
      simp only [EndsActive, cause]
      split <;> simp [Cause.ender]
  | tick now clock =>
      have late : (cp.cause (.tick now clock)).ender = cp.overdue now := by
        simp only [cause]
        cases cp.overdue now with
        | some h => rfl
        | none => cases cp.overstayed now <;> rfl
      rw [late, overdue_eq_some, ← arbiter_active, coh.active, arbiter_status_eq_some]
      simp only [EndsActive]
      constructor
      · rintro ⟨inUse, state, late⟩
        exact ⟨⟨⟨inUse, state⟩, late⟩, inUse, state⟩
      · rintro ⟨⟨-, late⟩, inUse, state⟩
        exact ⟨inUse, state, late⟩
  | readable idx received clock =>
      cases received with
      | closed => simp [EndsActive, cause, Cause.ender, and_left_comm, and_comm]
      | oversized => simp [EndsActive, cause, Cause.ender]
      | message type payload fds =>
          simp only [EndsActive, cause]
          cases kind : MsgKind.ofByte type with
          | none => simp [Cause.ender]
          | some kind' => cases kind' <;> simp [Cause.ender, and_left_comm, and_comm]

theorem activeEnded_eq {cp : ControlPlane} {ev : Event} (coh : cp.arbiter.Coherent) :
    cp.activeEnded ev = (cp.arbiter.ended (cp.cause ev)).toList.length := by
  simp only [activeEnded, endsActive_iff coh]
  cases cp.arbiter.ended (cp.cause ev) with
  | none => simp
  | some k =>
      calc (List.finRange sessionMaxClients).countP (fun i => some k = some i)
          = (List.finRange sessionMaxClients).count k := by
            apply List.countP_congr
            intro i _
            rw [decide_eq_true_iff, beq_iff_eq, Option.some.injEq]
            exact eq_comm
        _ = 1 := List.count_eq_one_of_mem (List.nodup_finRange _) (List.mem_finRange k)

/-- The account of one event. -/
theorem step_generation {x y : Observed} {ev : Event} (sound : Sound x) (once : ConnectOnce x ev)
    (taken : observed.step x ev = some y) :
    y.1.ring.generation =
      x.1.ring.generation + UInt32.ofNat (y.1.grantsSent + x.1.activeEnded ev) := by
  obtain ⟨step, -⟩ := sound.refines once taken
  have account := step.generation_eq sound.coherent fun i connects =>
    sound.not_holds_of_connect once connects
  rw [grantsSent_eq, activeEnded_eq sound.coherent]
  exact account

end ControlPlane

/-- How many ACTIVATE_GRANTs a run has sent. -/
def grantsIssued (trace : List (Observed × Event)) : Nat :=
  tally (fun x ev => (x.1.quiesce.handle ev).grantsSent) trace

/-- How many ACTIVE_RT sessions of a run were ended by a heartbeat timeout or a disconnect. -/
def activeEnded (trace : List (Observed × Event)) : Nat :=
  tally (fun x ev => x.1.activeEnded ev) trace

/-- A slot that was not winding down does so after the event. -/
def BeginsEviction (x : Observed) (ev : Event) : Prop :=
  ∃ h, (x.1.table.slots h).state ≠ .evictingCooperative ∧
    ((x.1.quiesce.handle ev).table.slots h).inUse = true ∧
    ((x.1.quiesce.handle ev).table.slots h).state = .evictingCooperative

/-- The event sends no ACTIVATE_GRANT. -/
def GrantsNone (x : Observed) (ev : Event) : Prop :=
  (x.1.quiesce.handle ev).grantsSent = 0

/-- With nobody in the RT slot, an event that grants nothing does not bump the generation,
and neither does any clock check. -/
def IdleKeeps (x : Observed) (ev : Event) : Prop :=
  (∀ i, (x.1.table.slots i).inUse = true → (x.1.table.slots i).state.holdsRt = false) →
    (GrantsNone x ev ∨ ∃ now clock, ev = .tick now clock) →
      (x.1.quiesce.handle ev).ring.generation = x.1.ring.generation

section Runs

variable {ring : Ring} {frameFd : Int} {dp : Bool} {supportedModes : List RenderMode}
variable {start : ControlPlane} {x y : Observed} {ev : Event} {trace : List (Observed × Event)}

/-- The account of a run. -/
theorem run_generation {start : Observed} (sound : Sound start)
    (run : observed.Run start trace x) (once : Meets ConnectOnce trace) :
    x.1.ring.generation =
      start.1.ring.generation + UInt32.ofNat (grantsIssued trace + activeEnded trace) := by
  induction run with
  | nil => simp [grantsIssued, activeEnded, tally]
  | @snoc trace s e t prior taken ih =>
      obtain ⟨before, last⟩ := meets_snoc.mp once
      have known : Sound s := prior.invariant before sound fun _ _ _ => Sound.step
      have step := ControlPlane.step_generation known last taken
      rw [observed_handled taken] at step ⊢
      rw [step, ih before, UInt32.add_assoc, ← UInt32.ofNat_add]
      congr 2
      simp only [grantsIssued, activeEnded, tally_snoc]
      omega

/-- While nobody warms up or is active, a step that grants nothing keeps it that way, and
every step bumps the generation once per grant. -/
theorem unclaimed_step (sound : Sound x) (once : ConnectOnce x ev)
    (taken : observed.step x ev = some y) (unclaimed : x.1.arbiter.Unclaimed) :
    y.1.ring.generation = x.1.ring.generation + UInt32.ofNat y.1.grantsSent ∧
      y.1.grantsSent ≤ 1 ∧ (y.1.grantsSent = 0 → y.1.arbiter.Unclaimed) := by
  obtain ⟨step, -⟩ := sound.refines once taken
  have account := ControlPlane.step_generation sound once taken
  rw [ControlPlane.activeEnded_eq sound.coherent, unclaimed.ended_eq] at account
  refine ⟨account, ?_, ?_⟩
  · rw [ControlPlane.grantsSent_eq]
    exact step.grants_le
  · rw [ControlPlane.grantsSent_eq]
    exact unclaimed.step sound.coherent step

/-- The begin of a wind-down leaves nobody warming up or active, and grants nothing. -/
theorem unclaimed_of_begins (sound : Sound x) (once : ConnectOnce x ev)
    (taken : observed.step x ev = some y) (begins : BeginsEviction x ev) :
    y.1.arbiter.Unclaimed ∧ y.1.ring.generation = x.1.ring.generation := by
  obtain ⟨h, settled, inUse, winding⟩ := begins
  rw [← observed_handled taken] at inUse winding
  have before : x.1.arbiter.status h ≠ some .evictingCooperative := fun status =>
    settled (x.1.arbiter_status_eq_some.mp status).2
  have after := y.1.arbiter_status_eq_some.mpr ⟨inUse, winding⟩
  obtain ⟨step, -⟩ := sound.refines once taken
  obtain ⟨t, evicted⟩ := step.begins_eviction before after
  refine ⟨(sound.step once taken).coherent.unclaimed_of_evicting after, ?_⟩
  exact congrArg Arbiter.generation evicted

/-- A wind-down costs one bump: that of the next grant, whoever gets it. -/
theorem generation_of_eviction {start : Observed} (sound : Sound start)
    {before between : List (Observed × Event)} {s s' : Observed} {ev' : Event}
    (run : observed.Run start (before ++ (s, ev) :: between ++ [(s', ev')]) x)
    (once : Meets ConnectOnce (before ++ (s, ev) :: between ++ [(s', ev')]))
    (begins : BeginsEviction s ev) (none : Meets GrantsNone between)
    (grants : ¬ GrantsNone s' ev') : x.1.ring.generation = s.1.ring.generation + 1 := by
  have kept : ∀ x ev y, Sound x → ConnectOnce x ev → observed.step x ev = some y → Sound y :=
    fun _ _ _ => Sound.step
  obtain ⟨_, first, last⟩ := run.split rfl
  obtain ⟨rfl, x', grant, done⟩ := last.uncons
  obtain rfl := done.of_nil
  obtain ⟨_, early, late⟩ := first.split rfl
  obtain ⟨rfl, t, evict, middle⟩ := late.uncons
  have onceBefore : Meets ConnectOnce before := fun p member => once p (by simp [member])
  have onceBetween : Meets ConnectOnce between := fun p member => once p (by simp [member])
  have soundS : Sound s := early.invariant onceBefore sound kept
  have onceS : ConnectOnce s ev := once (s, ev) (by simp)
  obtain ⟨unclaimed, begun⟩ := unclaimed_of_begins soundS onceS evict begins
  -- Until the grant nobody warms up or is active, so nothing bumps the generation.
  obtain ⟨soundS', waiting, same⟩ : Sound s' ∧ s'.1.arbiter.Unclaimed ∧
      s'.1.ring.generation = s.1.ring.generation := by
    refine middle.invariant (C := fun x ev => ConnectOnce x ev ∧ GrantsNone x ev)
      (I := fun x => Sound x ∧ x.1.arbiter.Unclaimed ∧ x.1.ring.generation = s.1.ring.generation)
      (fun p member => ⟨onceBetween p member, none p member⟩)
      ⟨soundS.step onceS evict, unclaimed, begun⟩ ?_
    rintro u e v ⟨sound, unclaimed, same⟩ ⟨once, silent⟩ taken
    obtain ⟨account, -, still⟩ := unclaimed_step sound once taken unclaimed
    have silent : v.1.grantsSent = 0 := by
      rw [observed_handled taken]
      exact silent
    refine ⟨sound.step once taken, still silent, ?_⟩
    rw [account, silent, same]
    simp
  obtain ⟨account, single, -⟩ := unclaimed_step soundS' (once (s', ev') (by simp)) grant waiting
  have one : x.1.grantsSent = 1 := by
    have some : x.1.grantsSent ≠ 0 := by
      rw [observed_handled grant]
      exact grants
    omega
  rw [account, one, same]
  rfl

/-- An idle server does not bump the generation. -/
theorem idleKeeps_of_step (sound : Sound x) (once : ConnectOnce x ev)
    (taken : observed.step x ev = some y) : IdleKeeps x ev := by
  intro idle quiet
  have free : x.1.arbiter.Free := by
    intro i holds
    obtain ⟨inUse, held⟩ := x.1.arbiter_holds_iff.mp holds
    simp [idle i inUse] at held
  rcases quiet with none | ⟨now, clock, rfl⟩
  · have account := (unclaimed_step sound once taken (Arbiter.unclaimed_of_free free)).1
    rw [observed_handled taken] at account
    rw [account, none]
    simp
  · have inactive : x.1.table.activeSlot = none := sound.coherent.not_active_of_free free
    have unevicted : x.1.quiesce.evictingSlot = none := sound.coherent.not_evicting_of_free free
    have same : (x.1.quiesce.tick now clock).arbiter = x.1.quiesce.arbiter :=
      ControlPlane.arbiter_tick_of_other (by simp [ControlPlane.overdue, inactive])
        (by simp [ControlPlane.overstayed, unevicted])
    exact congrArg Arbiter.generation same

/-- The generation of a run from a fresh ring is the number of grants and of active
sessions ended by a timeout or a disconnect. From the begin of a wind-down to the next
grant it rises by one, and an idle server leaves it alone. -/
theorem generation_accounting_of_run
    (created : ControlPlane.init .create frameFd dp supportedModes = some start)
    (run : observed.Run (start, .empty) trace x) (once : Meets ConnectOnce trace) :
    x.1.ring.generation.toNat = (grantsIssued trace + activeEnded trace) % 2 ^ 32 ∧
      (∀ before s ev between s' ev', trace = before ++ (s, ev) :: between ++ [(s', ev')] →
        BeginsEviction s ev → Meets GrantsNone between → ¬ GrantsNone s' ev' →
          x.1.ring.generation = s.1.ring.generation + 1) ∧
      Meets IdleKeeps trace := by
  have sound := Sound.of_init created
  have fresh : start.ring.generation = 0 := by
    unfold ControlPlane.init at created
    split at created
    · cases created
    · cases created
      rfl
  refine ⟨?_, ?_, ?_⟩
  · have account := run_generation sound run once
    rw [account, fresh]
    simp
  · rintro before s ev between s' ev' rfl begins none grants
    exact generation_of_eviction sound run once begins none grants
  · exact run.meets once sound (fun _ _ _ => Sound.step) fun _ _ _ => idleKeeps_of_step

open ControlPlane in
/-- A switch whose target is granted after STOPPED, and whose target then hangs up while
active: three grants and one ended session. -/
theorem generation_accounting_of_run_handover :
    ∃ trace x, observed.Run (booted, .empty) trace x ∧
      trace.map Prod.snd =
        [.accept 10, .hello 0 65 qvga, .signal 0 .activateRequest, .signal 0 .readyForRt,
          .accept 11, .hello 1 66 qvga, .switch (.single 66) ⟨0, 0⟩, .tick ⟨0, 0⟩ ⟨0, 0⟩,
          .signal 0 .stopped, .signal 1 .readyForRt, .signal 0 .activateRequest,
          .hangup 1 ⟨0, 0⟩] ∧
      (x.1.ring.generation.toNat = (grantsIssued trace + activeEnded trace) % 2 ^ 32 ∧
        Meets IdleKeeps trace) ∧ grantsIssued trace = 3 ∧ activeEnded trace = 1 := by
  refine Demonstrates.exists_run
    (P := fun trace x => Meets ConnectOnce trace ∧ grantsIssued trace = 3 ∧ activeEnded trace = 1)
    (by decide +kernel) ?_
  rintro trace x run ⟨once, counts⟩
  obtain ⟨account, -, idle⟩ := generation_accounting_of_run init_eq_booted run once
  exact ⟨⟨account, idle⟩, counts⟩

end Runs

end Wisp
