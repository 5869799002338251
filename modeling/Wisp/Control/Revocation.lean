import Wisp.Control.Observed
import Wisp.Lib.Epoch

/-!
# Losing the RT slot revokes the right to publish

A client may publish while the generation it was last granted is the ring's. A
session that no longer holds the RT slot should therefore have been granted an older
generation. `do_grant`, the heartbeat timeout and the disconnect of an active slot
bump the generation. The other ways to lose the RT slot rely on the successor's
grant to do it, and some of them have no successor.

`Lapses` lists these. The list is exact: in a run that connects once, with fewer than
`2 ^ 32` bumps, every loss revokes if and only if no step lapses.
-/

namespace Wisp

open Transition System Arbiter Epoch

namespace Arbiter

variable {ι : Type*} [DecidableEq ι] {a a' : Arbiter ι} {cause : Cause ι}

/-- The holder leaves without a bump and nobody takes over: it declines with an empty
queue, stops with nobody promised the slot, overstays its wind-down with neither, or
disconnects while warming up or winding down with neither. -/
def Lapses (a : Arbiter ι) : Cause ι → Prop
  | .decline i next => a.status i = some .grantedWarmup ∧ next = none
  | .stopped i => a.status i = some .evictingCooperative ∧ a.pending = none
  | .expiry _ next => a.pending = none ∧ next = none
  | .drop i next =>
      (a.status i = some .grantedWarmup ∨ a.status i = some .evictingCooperative) ∧
        (a.pending = none ∨ a.pending = some i) ∧ next = none
  | _ => False

instance (a : Arbiter ι) (cause : Cause ι) : Decidable (a.Lapses cause) :=
  match cause with
  | .decline i next =>
      inferInstanceAs (Decidable (a.status i = some .grantedWarmup ∧ next = none))
  | .stopped i =>
      inferInstanceAs (Decidable (a.status i = some .evictingCooperative ∧ a.pending = none))
  | .expiry _ next => inferInstanceAs (Decidable (a.pending = none ∧ next = none))
  | .drop i next => inferInstanceAs (Decidable
      ((a.status i = some .grantedWarmup ∨ a.status i = some .evictingCooperative) ∧
        (a.pending = none ∨ a.pending = some i) ∧ next = none))
  | .other | .arrive | .connect _ | .request _ | .ready _ | .switch _ | .timeout _ _ => isFalse id

/-- What a step does to the generation: nothing, revoke it and leave the slot idle,
or grant a new one to the only holder. -/
inductive Account (a a' : Arbiter ι) : Prop where
  | kept (log : ∀ entry ∈ a'.log, ∃ ok, entry = .answer ok)
      (generation : a'.generation = a.generation) (holds : ∀ i, a'.Holds i → a.Holds i)
  | revoked (log : a'.log = [.bump]) (generation : a'.generation = a.generation + 1)
      (free : a'.Free)
  | granted (i : ι) (before after : List (Entry ι))
      (log : a'.log = before ++ .bump :: .grant i a'.generation :: after)
      (bumps : before = [] ∨ before = [.bump]) (rest : after = [] ∨ after = [.answer true])
      (generation : a'.generation = a.generation + UInt32.ofNat before.length + 1)
      (holds : ∀ j, a'.Holds j ↔ j = i)

/-- Passing a freed slot on is a grant, or changes nothing. -/
theorem account_handOver {base : Arbiter ι} (next : Option ι) (free : base.Free)
    (log : base.log = []) (generation : base.generation = a.generation) :
    Account a (base.handOver next) := by
  cases next with
  | none =>
      refine .kept (by simp [handOver, log]) generation fun i holds => ?_
      exact absurd holds (free i)
  | some i =>
      refine .granted i [] [] (by simp [handOver, log]) (.inl rfl) (.inl rfl)
        (by simp [handOver, generation]) fun j => ?_
      simp [free j, eq_comm]

/-- The same after a bump. -/
theorem account_bump_handOver {base : Arbiter ι} (next : Option ι) (free : base.Free)
    (log : base.log = [.bump]) (generation : base.generation = a.generation + 1) :
    Account a (base.handOver next) := by
  cases next with
  | none => exact .revoked (by simp [handOver, log]) generation free
  | some i =>
      refine .granted i [.bump] [] (by simp [handOver, log]) (.inr rfl) (.inl rfl)
        (by simp [handOver, generation]) fun j => ?_
      simp [free j, eq_comm]

theorem account_leave (coh : a.Coherent) (i : ι) : Account a (a.quiet.leave i) := by
  by_cases active : a.active = some i
  · have holds := holds_of_status ((coh.active i).mp active) rfl
    exact .revoked (by simp [active]) (by simp [active]) (coh.quiet.free_leave holds)
  · exact .kept (by simp [active]) (by simp [active]) (by grind)

theorem Step.account (step : a.Step cause a') (coh : a.Coherent) : Account a a' := by
  have freed : ∀ h, a.Holds h → (a.quiet.move h (some .negotiated)).Free := fun _ holds =>
    coh.quiet.free_move rfl holds
  cases step with
  | ignored | unnamed | answered | parked => exact .kept (by simp) rfl fun _ => id
  | joined => exact .kept (by simp) rfl (by grind)
  | accepted => exact .kept (by simp) rfl (by grind)
  | queued => exact .kept (by simp) rfl (by grind)
  | activated status =>
      have holds := holds_of_status status rfl
      exact .kept (by simp) rfl (by grind)
  | evicted active =>
      have holds := holds_of_status ((coh.active _).mp active) rfl
      exact .kept (by simp) rfl (by grind)
  | refused => exact account_leave coh _
  | left => exact account_leave coh _
  | @granted i _ free =>
      exact .granted i [] [] rfl (.inl rfl) (.inl rfl) (by simp) fun j => by simp [free j]
  | @switched t free =>
      exact .granted t [] [.answer true] rfl (.inl rfl) (.inr rfl) (by simp) fun j => by
        simp [free j]
  | declined status =>
      exact account_handOver _ (freed _ (holds_of_status status rfl)) rfl rfl
  | stopped status =>
      exact account_handOver _ (freed _ (holds_of_status status rfl)) rfl rfl
  | expired status =>
      exact account_handOver _ (freed _ (holds_of_status status rfl)) rfl rfl
  | timedOut status =>
      exact account_bump_handOver _ (freed _ (holds_of_status status rfl)) rfl rfl
  | @dropped h next holds =>
      have free : (a.quiet.leave h).Free := coh.quiet.free_leave holds
      by_cases active : a.active = some h
      · exact account_bump_handOver _ free (by simp [active]) (by simp [active])
      · exact account_handOver _ free (by simp [active]) (by simp [active])

omit [DecidableEq ι] in
/-- The generation was moved on, so the step is no lapse. -/
theorem not_lost_of_bumped (bumped : a'.generation = a.generation + 1 ∨
    a'.generation = a.generation + 1 + 1) :
    ¬ (a'.generation = a.generation ∧ ∃ i, a.Loses a' i) := by
  rintro ⟨same, -⟩
  rw [same] at bumped
  rcases bumped with wrapped | wrapped
  · exact succ_ne _ wrapped.symm
  · exact succ_succ_ne _ wrapped.symm

/-- Passing on a freed slot loses a generation exactly if there is no successor. -/
theorem lost_handOver_iff {base : Arbiter ι} {h : ι} (next : Option ι) (holds : a.Holds h)
    (free : base.Free) (generation : base.generation = a.generation) :
    ((base.handOver next).generation = a.generation ∧ ∃ i, a.Loses (base.handOver next) i) ↔
      next = none := by
  cases next with
  | none => exact ⟨fun _ => rfl, fun _ => ⟨generation, h, holds, free h⟩⟩
  | some i =>
      refine iff_of_false (not_lost_of_bumped (.inl ?_)) (by simp)
      simp [generation]

/-- A step lapses exactly if somebody loses the slot and the generation stays. -/
theorem Step.lapses_iff (step : a.Step cause a') (coh : a.Coherent)
    (idle : ∀ i, cause = .connect i → ¬ a.Holds i) :
    a.Lapses cause ↔ a'.generation = a.generation ∧ ∃ i, a.Loses a' i := by
  have freed : ∀ h, a.Holds h → (a.quiet.move h (some .negotiated)).Free := fun _ holds =>
    coh.quiet.free_move rfl holds
  have settled : ∀ h, a.Holds h → (a.quiet.move h (some .negotiated)).clearPending.Free := freed
  have kept : ¬ a.Lapses cause → (∀ i, a.Holds i → a'.Holds i) →
      (a.Lapses cause ↔ a'.generation = a.generation ∧ ∃ i, a.Loses a' i) := by
    rintro steady holds
    refine iff_of_false steady ?_
    rintro ⟨-, i, held, lost⟩
    exact lost (holds i held)
  cases step with
  | ignored ignores =>
      refine kept ?_ fun _ => id
      cases cause <;> simp_all [Lapses, Ignores]
  | unnamed | answered | parked => exact kept id fun _ => id
  | activated | granted | evicted | switched => exact kept id (by grind)
  | joined absent =>
      have gone := not_holds_of_none absent
      exact kept id (by grind)
  | accepted | refused =>
      have gone := idle _ rfl
      exact kept id (by grind)
  | queued status =>
      have gone := not_holds_of_status status rfl
      exact kept id (by grind)
  | left gone =>
      refine kept ?_ (by grind)
      rintro ⟨status | status, -⟩ <;> exact gone (holds_of_status status rfl)
  | declined status =>
      have holds := holds_of_status status rfl
      refine Iff.trans ?_ (lost_handOver_iff _ holds (freed _ holds) rfl).symm
      simp [Lapses, status]
  | stopped status =>
      have holds := holds_of_status status rfl
      refine Iff.trans ?_ (lost_handOver_iff _ holds (settled _ holds) rfl).symm
      simp [Lapses, status]
  | expired status =>
      have holds := holds_of_status status rfl
      refine Iff.trans ?_ (lost_handOver_iff _ holds (settled _ holds) rfl).symm
      simp [Lapses, Option.or_eq_none_iff]
  | @timedOut h next status =>
      refine iff_of_false id (not_lost_of_bumped ?_)
      cases next <;> simp
  | @dropped h next holds =>
      have free : (a.quiet.leave h).clearPending.Free := coh.quiet.free_leave holds
      by_cases active : a.active = some h
      · have status := (coh.active h).mp active
        refine iff_of_false (by simp [Lapses, status]) (not_lost_of_bumped ?_)
        cases (a.quiet.leave h).pending.or next <;> simp [active]
      · refine Iff.trans ?_ (lost_handOver_iff _ holds free (by simp [active])).symm
        have named := coh.active h
        have settled := coh.settled h
        rw [holds_iff] at holds
        simp only [Lapses]
        grind [Option.or_eq_none_iff]

end Arbiter

namespace History

variable {ι : Type*} [DecidableEq ι] {h : History ι} {a a' : Arbiter ι} {cause : Cause ι}
variable {base : UInt32}

/-- A session that was last granted the current generation holds the RT slot. -/
def Revoked (h : History ι) (a : Arbiter ι) : Prop :=
  ∀ n, h.lastGrant n = some a.generation → ∃ i, h.session i = n ∧ a.Holds i

/-- All grants lie in the past of the counter, and the holder has the latest one. -/
structure Ledger (base : UInt32) (h : History ι) (a : Arbiter ι) : Prop where
  counted : a.generation = epoch base h.bumps
  past : ∀ n g, h.lastGrant n = some g → ∃ k, k ≤ h.bumps ∧ g = epoch base k
  held : ∀ i, a.Holds i → h.lastGrant (h.session i) = some a.generation

section Entries

omit [DecidableEq ι] in
theorem foldl_enter_answers {log : List (Entry ι)}
    (answers : ∀ entry ∈ log, ∃ ok, entry = .answer ok) : log.foldl enter h = h := by
  induction log with
  | nil => rfl
  | cons entry rest ih =>
      obtain ⟨ok, rfl⟩ := answers entry (by simp)
      exact ih fun entry member => answers entry (by simp [member])

theorem observe_kept (log : ∀ entry ∈ a'.log, ∃ ok, entry = .answer ok) :
    h.observe a cause a' = h.note a cause a' :=
  foldl_enter_answers log

theorem observe_revoked (log : a'.log = [.bump]) :
    h.observe a cause a' = { h.note a cause a' with bumps := h.bumps + 1 } := by
  simp [observe, log, enter, note]

theorem observe_granted {i : ι} {before after : List (Entry ι)}
    (log : a'.log = before ++ .bump :: .grant i a'.generation :: after)
    (bumps : before = [] ∨ before = [.bump]) (rest : after = [] ∨ after = [.answer true]) :
    h.observe a cause a' =
      { h.note a cause a' with
        bumps := h.bumps + before.length + 1
        lastGrant := Function.update h.lastGrant ((h.note a cause a').session i)
          (some a'.generation) } := by
  rcases bumps with rfl | rfl <;> rcases rest with rfl | rfl <;>
    simp [observe, log, enter, note]

/-- A session that is connected keeps its number. -/
theorem note_session_of_holds {i : ι} (holds : a.Holds i) :
    (h.note a cause a').session i = h.session i := by
  have present : ¬ Arrived a a' i := fun arrived => not_holds_of_none arrived.1 holds
  simp [note, present]

end Entries

omit [DecidableEq ι] in
/-- An earlier grant differs from every later value of the counter. -/
theorem Ledger.stale (ledger : Ledger base h a) {n m : Nat} {g : UInt32}
    (granted : h.lastGrant n = some g) (later : h.bumps < m) (few : m < 2 ^ 32) :
    g ≠ epoch base m := by
  obtain ⟨k, within, rfl⟩ := ledger.past n g granted
  intro same
  have := (epoch_inj (by omega) few).mp same
  omega

theorem Ledger.step (ledger : Ledger base h a) (coh : a.Coherent) (step : a.Step cause a') :
    Ledger base (h.observe a cause a') a' := by
  cases step.account coh with
  | kept log generation holds =>
      rw [observe_kept log]
      refine ⟨generation.trans ledger.counted, ledger.past, fun i held => ?_⟩
      rw [note_session_of_holds (holds i held), generation]
      exact ledger.held i (holds i held)
  | revoked log generation free =>
      rw [observe_revoked log]
      refine ⟨?_, fun n g granted => ?_, fun i held => absurd held (free i)⟩
      · rw [generation, ledger.counted, epoch_succ]
      · obtain ⟨k, within, same⟩ := ledger.past n g granted
        exact ⟨k, Nat.le_succ_of_le within, same⟩
  | granted i before after log bumps rest generation holds =>
      rw [observe_granted log bumps rest]
      have counted : a'.generation = epoch base (h.bumps + before.length + 1) := by
        rw [generation, ledger.counted, epoch_succ]
        simp [epoch, UInt32.ofNat_add, UInt32.add_assoc]
      refine ⟨counted, fun n g granted => ?_, fun j held => ?_⟩
      · dsimp only at granted ⊢
        rw [Function.update_apply] at granted
        split at granted
        · cases granted
          exact ⟨_, Nat.le_refl _, counted⟩
        · obtain ⟨k, within, same⟩ := ledger.past n g granted
          exact ⟨k, by omega, same⟩
      · rw [(holds j).mp held]
        simp

/-- Under the ledger, a step keeps all losses revoked exactly if it does not lapse. -/
theorem revoked_step_iff (ledger : Ledger base h a) (revoked : h.Revoked a) (coh : a.Coherent)
    (idle : ∀ i, cause = .connect i → ¬ a.Holds i) (step : a.Step cause a')
    (few : (h.observe a cause a').bumps < 2 ^ 32) :
    (h.observe a cause a').Revoked a' ↔ ¬ a.Lapses cause := by
  rw [step.lapses_iff coh idle]
  cases step.account coh with
  | kept log generation holds =>
      rw [observe_kept log]
      constructor
      · rintro after ⟨-, i, held, lost⟩
        have session : (h.note a cause a').session i = h.session i := note_session_of_holds held
        have latest := ledger.held i held
        rw [← session, ← generation] at latest
        obtain ⟨j, -, holder⟩ := after _ latest
        have same := coh.exclusive j i (holds j holder) held
        exact lost (same ▸ holder)
      · intro kept n latest
        rw [generation] at latest
        obtain ⟨i, rfl, held⟩ := revoked n latest
        refine ⟨i, note_session_of_holds held, ?_⟩
        by_contra lost
        exact kept ⟨generation, i, held, lost⟩
  | revoked log generation free =>
      refine iff_of_true ?_ (not_lost_of_bumped (.inl generation))
      have counted := (ledger.step coh step).counted
      rw [observe_revoked log] at few counted ⊢
      intro n latest
      exact absurd counted (ledger.stale latest (Nat.lt_succ_self _) few)
  | granted i before after log bumps rest generation holds =>
      refine iff_of_true ?_ (not_lost_of_bumped ?_)
      · have counted := (ledger.step coh step).counted
        rw [observe_granted log bumps rest] at few counted ⊢
        intro n latest
        dsimp only at latest few counted
        rw [Function.update_apply] at latest
        split at latest
        · rename_i same
          exact ⟨i, same.symm, (holds i).mpr rfl⟩
        · exact absurd counted (ledger.stale latest (by omega) few)
      · rcases bumps with rfl | rfl
        · exact .inl (by simpa using generation)
        · exact .inr (by simpa using generation)

end History

/-- Whoever does not hold the RT slot was last granted another generation than the
ring's: its later publishes fail the generation check. -/
def LossRevoked (x : Observed) : Prop :=
  ∀ n, (¬ ∃ i, x.2.session i = n ∧ (x.1.table.slots i).inUse = true ∧
      (x.1.table.slots i).state.holdsRt = true) →
    x.2.lastGrant n ≠ some x.1.ring.generation

theorem lossRevoked_iff (x : Observed) : LossRevoked x ↔ x.2.Revoked x.1.arbiter := by
  refine forall_congr' fun n => ?_
  simp only [ControlPlane.arbiter_holds_iff, ControlPlane.arbiter_generation]
  exact not_imp_not

/-- Whenever the RT slot is given up without a bump, somebody takes over. -/
def LossPassedOn (x : Observed) (ev : Event) : Prop :=
  ¬ x.1.arbiter.Lapses (x.1.cause ev)

instance (x : Observed) (ev : Event) : Decidable (LossPassedOn x ev) :=
  inferInstanceAs (Decidable (¬ _))

section Runs

variable {ring : Ring} {frameFd : Int} {dp : Bool} {supportedModes : List RenderMode}
variable {start : ControlPlane} {x : Observed} {trace : List (Observed × Event)}

/-- A run that connects once and bumps the generation fewer than `2 ^ 32` times revokes
every loss, in all its states, exactly if no step lapses. -/
theorem lossRevoked_run_iff
    (created : ControlPlane.init ring frameFd dp supportedModes = some start)
    (run : observed.Run (start, .empty) trace x) (once : Meets ConnectOnce trace)
    (few : x.2.bumps < 2 ^ 32) :
    (Through LossRevoked trace ∧ LossRevoked x) ↔ Meets LossPassedOn trace := by
  have vacant := ControlPlane.vacant_of_init created
  have bounded := run.bounded (fun x => x.2.bumps) observed_bumps few
  refine run.exact_states
    (I := fun x => Sound x ∧ x.2.Ledger start.ring.generation x.1.arbiter)
    (A := fun x ev => ConnectOnce x ev ∧ ∀ y, observed.step x ev = some y → y.2.bumps < 2 ^ 32)
    (fun p member => ⟨once p member, bounded p member⟩) ⟨Sound.of_init created, ?_⟩ ?_ ?_ ?_
  · refine ⟨by simp [History.empty], by simp [History.empty], fun i holds => ?_⟩
    exact absurd holds (not_holds_of_none (vacant.absent i))
  · simp [LossRevoked, History.empty]
  · rintro x ev y ⟨sound, ledger⟩ ⟨once, -⟩ taken
    obtain ⟨step, noted⟩ := sound.refines once taken
    exact ⟨sound.step once taken, noted ▸ ledger.step sound.coherent step⟩
  · rintro x ev y ⟨sound, ledger⟩ ⟨once, few⟩ revoked taken
    obtain ⟨step, noted⟩ := sound.refines once taken
    have few := few y taken
    rw [lossRevoked_iff] at revoked ⊢
    rw [noted] at few ⊢
    exact History.revoked_step_iff ledger revoked sound.coherent
      (fun i connects => sound.not_holds_of_connect once connects) step few

open ControlPlane in
/-- A wind-down that overstays its grace period in favour of a target that is there. -/
theorem lossRevoked_run_expiry :
    ∃ trace x, observed.Run (booted, .empty) trace x ∧
      trace.map Prod.snd =
        [.accept 10, .hello 0 65 qvga, .signal 0 .activateRequest, .signal 0 .readyForRt,
          .accept 11, .hello 1 66 qvga, .switch (.single 66) ⟨0, 0⟩, .tick ⟨2, 0⟩ ⟨2, 0⟩] ∧
      (Through LossRevoked trace ∧ LossRevoked x) ∧ x.1.ring.generation = 2 := by
  refine Demonstrates.exists_run
    (P := fun trace x => Meets ConnectOnce trace ∧ x.2.bumps < 2 ^ 32 ∧
      Meets LossPassedOn trace ∧ x.1.ring.generation = 2) (by decide +kernel) ?_
  rintro trace x run ⟨once, few, passed, second⟩
  exact ⟨(lossRevoked_run_iff init_eq_booted run once few).mpr passed, second⟩

open ControlPlane in
/-- The same wind-down after its target hung up: the client is force-demoted and its
generation stays the ring's. -/
theorem not_lossRevoked_of_expiry :
    ∃ trace x, observed.Run (booted, .empty) trace x ∧
      trace.map Prod.snd =
        [.accept 10, .hello 0 65 qvga, .signal 0 .activateRequest, .signal 0 .readyForRt,
          .accept 11, .hello 1 66 qvga, .switch (.single 66) ⟨0, 0⟩, .hangup 1 ⟨0, 0⟩,
          .tick ⟨2, 0⟩ ⟨2, 0⟩] ∧
      Meets ConnectOnce trace ∧ x.2.bumps < 2 ^ 32 ∧ ¬ LossRevoked x := by
  refine Demonstrates.exists_run
    (P := fun trace x => Meets ConnectOnce trace ∧ x.2.bumps < 2 ^ 32 ∧
      (¬ ∃ i, x.2.session i = 0 ∧ (x.1.table.slots i).inUse = true ∧
        (x.1.table.slots i).state.holdsRt = true) ∧
      x.2.lastGrant 0 = some x.1.ring.generation) (by decide +kernel) ?_
  rintro trace x - ⟨once, few, idle, latest⟩
  exact ⟨once, few, fun revoked => revoked 0 idle latest⟩

end Runs

end Wisp
