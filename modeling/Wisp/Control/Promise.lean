import Wisp.Control.Observed

/-!
# Accepted switches

An accepted switch to a session that cannot be granted at once is a promise, kept
in the single field `pending_grant_target`. Three handlers do not look at it:
`handle_ready_for_rt` activates a warmed-up session without beginning its eviction,
`handle_grant_decline` serves the queue first, and `handle_activate_request` grants
an idle slot to whoever asks.

These are the only ways a promise is broken. A run that connects once honours all
its accepted switches if and only if none of the three happens while a switch is
owed.
-/

namespace Wisp

open Transition System Arbiter

namespace History

variable {ι : Type*} [DecidableEq ι] {h : History ι} {a a' : Arbiter ι} {cause : Cause ι} {t : ι}

/-- The step ends the debt to `t` without paying it: the session is gone, or a later
switch for another session is accepted. -/
def Released (t : ι) (cause : Cause ι) (a' : Arbiter ι) : Prop :=
  a'.status t = none ∨ a'.Approved ∧ ∃ i, i ≠ t ∧ cause = .switch i

/-- While a switch is owed to `t`, nobody else is granted, and a warm-up that
completes is turned into a wind-down in favour of `t`. -/
def Honours (h : History ι) (a : Arbiter ι) (cause : Cause ι) (a' : Arbiter ι) : Prop :=
  ∀ t, h.owed = some t → ¬ Released t cause a' →
    (∀ i, a'.Granted i → i = t) ∧
      ∀ i, cause = .ready i → i ≠ t → a.status i = some .grantedWarmup →
        a'.status i = some .evictingCooperative ∧ a'.evicting = some i ∧ a'.pending = some t

/-- The step is none of those that overlook a debt to `t`. -/
def HeedsDebt (a : Arbiter ι) (t : ι) : Cause ι → Prop
  | .ready i => a.status i ≠ some .grantedWarmup
  | .decline i next => a.status i = some .grantedWarmup → next = none ∨ next = some t
  | .request i => i ≠ t → a.status i = some .negotiated → ¬ a.Free
  | _ => True

/-- The step overlooks no debt. -/
def Heeds (h : History ι) (a : Arbiter ι) (cause : Cause ι) : Prop :=
  ∀ t, h.owed = some t → HeedsDebt a t cause

/-- The debt is what `pending_grant_target` says, and no session is active. -/
def Backed (h : History ι) (a : Arbiter ι) : Prop :=
  ∀ t, h.owed = some t → a.pending = some t ∧ a.Grantable t ∧ a.active = none

theorem owedAfter_eq_some :
    h.owedAfter a cause a' = some t ↔
      (¬ a'.Granted t ∧ a'.status t ≠ none) ∧
        ((∃ i, cause = .switch i ∧ a'.Approved) ∧ cause = .switch t ∧ a.Grantable t ∨
          (¬ ∃ i, cause = .switch i ∧ a'.Approved) ∧ h.owed = some t) := by
  unfold owedAfter
  rw [Option.filter_eq_some_iff]
  cases cause with
  | switch i =>
      by_cases ok : a'.Approved
      · by_cases can : a.Grantable i
        · simp [ok, can]
          grind
        · simp [ok, can]
          grind
      · simp [ok]
        grind
  | _ => simp; grind

/-- A debt stays backed as long as it is not overlooked. -/
theorem Backed.step (backed : h.Backed a) (coh : a.Coherent)
    (first : ∀ i, cause = .connect i → ¬ a.Grantable i) (heeds : h.Heeds a cause)
    (step : a.Step cause a') : (h.observe a cause a').Backed a' := by
  intro t owed
  rw [observe_owed, owedAfter_eq_some] at owed
  obtain ⟨⟨unpaid, present⟩, ⟨_, rfl, can⟩ | ⟨untouched, owed⟩⟩ := owed
  · -- The debt is new. It is backed by the eviction begun, or by the note taken.
    have status := grantable_iff.mp can
    cases step with
    | ignored ignores => exact absurd ignores id
    | answered unable => exact absurd can unable
    | evicted active =>
        have held := (coh.active _).mp active
        rw [grantable_iff]
        grind
    | parked inactive => exact ⟨rfl, can, inactive⟩
    | switched => simp at unpaid
  · -- The debt is older. A step that frees the slot pays it, or it was overlooked.
    obtain ⟨promised, can, inactive⟩ := backed t owed
    have heeded := heeds t owed
    have status := grantable_iff.mp can
    rw [grantable_iff]
    cases step with
    | accepted | refused =>
        have other := first _ rfl
        grind
    | granted => grind [HeedsDebt]
    | activated warm => exact absurd warm heeded
    | declined warm =>
        have chosen := heeded warm
        grind
    | timedOut active =>
        have named := (coh.active _).mpr active
        grind
    | _ => grind

theorem heeds_of_honours (backed : h.Backed a) (step : a.Step cause a')
    (honours : h.Honours a cause a') : h.Heeds a cause := by
  intro t owed
  have status := grantable_iff.mp (backed t owed).2.1
  have honoured := honours t owed
  cases step with
  | ignored ignores => cases cause <;> grind [HeedsDebt, Ignores]
  | queued _ taken => exact fun _ _ => taken
  | @granted i negotiated =>
      intro other _ _
      obtain ⟨only, -⟩ := honoured (by simp only [Released]; grind)
      exact other (only i (by simp))
  | @activated i warm =>
      obtain ⟨-, begun⟩ := honoured (by simp only [Released]; grind)
      have evicting := (begun i rfl (by grind) warm).1
      simp at evicting
  | @declined i next warm =>
      intro _
      obtain ⟨only, -⟩ := honoured (by simp only [Released]; grind)
      cases next with
      | none => exact .inl rfl
      | some j => exact .inr (congrArg some (only j (by simp)))
  | _ => exact trivial

theorem honours_of_heeds (backed : h.Backed a) (coh : a.Coherent) (step : a.Step cause a')
    (heeds : h.Heeds a cause) : h.Honours a cause a' := by
  intro t owed unreleased
  obtain ⟨promised, can, inactive⟩ := backed t owed
  have heeded := heeds t owed
  refine ⟨fun i granted => ?_, fun i ready _ warm => absurd warm (by subst ready; exact heeded)⟩
  have status := grantable_iff.mp can
  cases step with
  | granted => grind [HeedsDebt]
  | switched =>
      simp only [Released] at unreleased
      grind
  | declined warm =>
      have chosen := heeded warm
      grind
  | timedOut active =>
      have named := (coh.active _).mpr active
      grind
  | _ => grind [holds_iff]

instance (h : History Slot) (a : Arbiter Slot) (cause : Cause Slot) (a' : Arbiter Slot) :
    Decidable (h.Honours a cause a') :=
  inferInstanceAs (Decidable (∀ t, h.owed = some t →
    ¬ (a'.status t = none ∨ a'.Approved ∧ ∃ i, i ≠ t ∧ cause = .switch i) →
      (∀ i, a'.Granted i → i = t) ∧
        ∀ i, cause = .ready i → i ≠ t → a.status i = some .grantedWarmup →
          a'.status i = some .evictingCooperative ∧ a'.evicting = some i ∧ a'.pending = some t))

instance (a : Arbiter Slot) (t : Slot) (cause : Cause Slot) : Decidable (HeedsDebt a t cause) :=
  match cause with
  | .ready i => inferInstanceAs (Decidable (a.status i ≠ some .grantedWarmup))
  | .decline i next => inferInstanceAs (Decidable (a.status i = some .grantedWarmup →
      next = none ∨ next = some t))
  | .request i => inferInstanceAs (Decidable (i ≠ t → a.status i = some .negotiated →
      ¬ ∀ j, ¬ a.Holds j))
  | .other | .arrive | .connect _ | .stopped _ | .drop _ _ | .switch _ | .timeout _ _
  | .expiry _ _ => isTrue trivial

instance (h : History Slot) (a : Arbiter Slot) (cause : Cause Slot) :
    Decidable (h.Heeds a cause) :=
  inferInstanceAs (Decidable (∀ t, h.owed = some t → HeedsDebt a t cause))

end History

/-- No accepted switch is forgotten or overtaken by this event. -/
def SwitchHonoured (x : Observed) (ev : Event) : Prop :=
  x.2.Honours x.1.arbiter (x.1.cause ev) (x.1.quiesce.handle ev).arbiter

instance (x : Observed) (ev : Event) : Decidable (SwitchHonoured x ev) :=
  inferInstanceAs (Decidable (History.Honours ..))

/-- While a switch is owed to a slot, no warm-up completes, no warm-up is declined
with another slot next in the queue, and no other NEGOTIATED slot asks for an idle
RT slot. -/
def SwitchHeeded (x : Observed) (ev : Event) : Prop :=
  x.2.Heeds x.1.arbiter (x.1.cause ev)

instance (x : Observed) (ev : Event) : Decidable (SwitchHeeded x ev) :=
  inferInstanceAs (Decidable (History.Heeds ..))

section Runs

variable {ring : Ring} {frameFd : Int} {dp : Bool} {supportedModes : List RenderMode}
variable {start : ControlPlane} {x : Observed} {trace : List (Observed × Event)}

/-- A run that connects once honours its accepted switches exactly if none of its
steps overlooks one. -/
theorem switchHonoured_run_iff
    (created : ControlPlane.init ring frameFd dp supportedModes = some start)
    (run : observed.Run (start, .empty) trace x) (once : Meets ConnectOnce trace) :
    Meets SwitchHonoured trace ↔ Meets SwitchHeeded trace := by
  refine run.exact (I := fun x => Sound x ∧ x.2.Backed x.1.arbiter) once
    ⟨Sound.of_init created, by simp [History.Backed, History.empty]⟩ ?_ ?_
  · rintro x ev y ⟨sound, backed⟩ once heeds taken
    obtain ⟨step, noted⟩ := sound.refines once taken
    refine ⟨sound.step once taken, noted ▸ backed.step sound.coherent ?_ heeds step⟩
    exact fun i connects => sound.not_grantable_of_connect once connects
  · rintro x ev y ⟨sound, backed⟩ once taken
    obtain ⟨step, -⟩ := sound.refines once taken
    rw [observed_handled taken] at step
    exact ⟨History.heeds_of_honours backed step,
      History.honours_of_heeds backed sound.coherent step⟩

open ControlPlane in
/-- A switch during a warm-up that is declined while the target is alone in the queue. -/
theorem switchHonoured_run_declined :
    ∃ trace x, observed.Run (booted, .empty) trace x ∧
      trace.map Prod.snd =
        [.accept 10, .hello 0 65 qvga, .signal 0 .activateRequest, .accept 11, .hello 1 66 qvga,
          .signal 1 .activateRequest, .switch (.single 66) ⟨0, 0⟩, .signal 0 .grantDecline] ∧
      Meets SwitchHonoured trace ∧ (x.1.table.slots 1).state = .grantedWarmup := by
  refine Demonstrates.exists_run
    (P := fun trace x => Meets ConnectOnce trace ∧ Meets SwitchHeeded trace ∧
      (x.1.table.slots 1).state = .grantedWarmup) (by decide +kernel) ?_
  rintro trace x run ⟨once, heeds, granted⟩
  exact ⟨(switchHonoured_run_iff init_eq_booted run once).mpr heeds, granted⟩

open ControlPlane in
/-- The same switch with another client in the queue: the decline grants that one. -/
theorem not_switchHonoured_of_decline :
    ∃ trace x, observed.Run (booted, .empty) trace x ∧
      trace.map Prod.snd =
        [.accept 10, .hello 0 65 qvga, .signal 0 .activateRequest, .accept 11, .hello 1 66 qvga,
          .accept 12, .hello 2 67 qvga, .signal 2 .activateRequest, .switch (.single 66) ⟨0, 0⟩,
          .signal 0 .grantDecline] ∧
      Meets ConnectOnce trace ∧ ¬ Meets SwitchHonoured trace :=
  Demonstrates.run (by decide +kernel)

end Runs

end Wisp
