import Wisp.Control.Observed

/-!
# No unrequested grant

A grant is justified when the session asked for it, or an accepted switch named it,
since it last lost the RT slot. The queue only holds sessions that asked. The field
`pending_grant_target` is less careful: it is cleared when a wind-down is settled or
the named session disconnects, but not when that session is granted through the
queue. A session that is still named when it loses the RT slot can be granted again
without having asked.

The two ways to lose the RT slot while still named are declining the grant and a
heartbeat timeout. A run without them justifies all its grants.
-/

namespace Wisp

open Transition System Arbiter

namespace History

variable {ι : Type*} [DecidableEq ι] {h : History ι} {a a' : Arbiter ι} {cause : Cause ι}

/-- Every session granted in this step asks for it now, or asked earlier and does not
hold the RT slot. -/
def Justifies (h : History ι) (a : Arbiter ι) (cause : Cause ι) (a' : Arbiter ι) : Prop :=
  ∀ i, a'.Granted i → Asks cause a' i ∨ h.asked i = true ∧ ¬ a.Holds i

/-- The session named by `pending_grant_target` neither declines its grant nor times
out. -/
def Retires (a : Arbiter ι) : Cause ι → Prop
  | .decline i _ => a.status i = some .grantedWarmup → a.pending ≠ some i
  | .timeout i _ => a.pending ≠ some i
  | _ => True

/-- Waiting sessions have asked, and so has the session that is promised the slot
unless it holds it. -/
structure Wanted (h : History ι) (a : Arbiter ι) : Prop where
  queued : ∀ i, a.status i = some .queued → h.asked i = true
  promised : ∀ i, a.pending = some i → a.Holds i ∨ h.asked i = true

/-- Asking lasts until the session arrives anew, negotiates, or loses the RT slot. -/
theorem observe_asked_iff {i : ι} :
    (h.observe a cause a').asked i = true ↔
      Asks cause a' i ∨
        h.asked i = true ∧ ¬ Arrived a a' i ∧ ¬ Negotiates cause a' i ∧ ¬ Loses a a' i := by
  rw [observe_asked]
  simp only [note]
  grind

/-- A session starts to wait only by asking. -/
theorem queued_of_step {i : ι} (step : a.Step cause a') (queued : a'.status i = some .queued) :
    cause = .request i ∨ a.status i = some .queued := by
  cases step with
  | @queued j =>
      by_cases same : i = j
      · exact .inl (by rw [same])
      · exact .inr (by simpa [same] using queued)
  | _ => exact .inr (by grind)

/-- A promise is made only by an accepted switch. -/
theorem promised_of_step {i : ι} (step : a.Step cause a') (promised : a'.pending = some i) :
    cause = .switch i ∧ a'.Approved ∨ a.pending = some i := by
  cases step with
  | evicted | parked =>
      cases promised
      exact .inl ⟨rfl, by simp⟩
  | _ => exact .inr (by grind)

/-- A session that loses the RT slot and is still named afterwards has declined or timed
out. -/
theorem not_retires_of_loses {i : ι} (step : a.Step cause a') (first : cause ≠ .connect i)
    (loses : Loses a a' i) (promised : a'.pending = some i) : ¬ Retires a cause := by
  obtain ⟨held, lost⟩ := loses
  cases step with
  | @declined h _ warm =>
      have same : i = h := by grind
      subst same
      exact fun retires => retires warm (by simpa using promised)
  | @timedOut h =>
      have same : i = h := by grind
      subst same
      exact fun retires => retires (by simpa using promised)
  | @accepted j | @refused j =>
      have other : i ≠ j := fun same => first (by rw [same])
      exact absurd (by grind) lost
  | joined absent =>
      have gone := not_holds_of_none absent
      grind
  | queued status =>
      have gone := not_holds_of_status status rfl
      grind
  | _ => grind

/-- A session that asked and is neither new nor renegotiated still counts as asking,
unless it loses the RT slot. -/
theorem asked_of_kept {i : ι} (asked : h.asked i = true) (present : a.status i ≠ none)
    (settled : ¬ Negotiates cause a' i) (kept : ¬ Loses a a' i) :
    (h.observe a cause a').asked i = true :=
  observe_asked_iff.mpr (.inr ⟨asked, fun arrived => present arrived.1, settled, kept⟩)

theorem Wanted.step (wanted : h.Wanted a) (coh : a.Coherent)
    (first : ∀ i, cause = .connect i → a.pending ≠ some i) (retires : Retires a cause)
    (step : a.Step cause a') : (h.observe a cause a').Wanted a' := by
  constructor
  · intro i queued
    rcases queued_of_step step queued with asks | before
    · exact observe_asked_iff.mpr (.inl (.inl asks))
    · refine asked_of_kept (wanted.queued i before) (by simp [before]) ?_ ?_
      · rintro ⟨-, negotiated⟩
        cases queued.symm.trans negotiated
      · exact fun loses => not_holds_of_status before rfl loses.1
  · intro i promised
    rcases promised_of_step step promised with asks | before
    · exact .inr (observe_asked_iff.mpr (.inl (.inr asks)))
    · have kept : ¬ Loses a a' i := fun loses =>
        not_retires_of_loses step (fun connects => first i connects before) loses promised retires
      obtain ⟨st, status, -⟩ := coh.known i before
      rcases wanted.promised i before with held | asked
      · exact .inl (not_not.mp fun lost => kept ⟨held, lost⟩)
      · refine .inr (asked_of_kept asked (by simp [status]) ?_ kept)
        exact fun negotiates => first i negotiates.1 before

/-- A granted session is the one that asks, the one elected, or the one promised. In
the last case it does not hold the RT slot itself, since the holder just left. -/
theorem Wanted.justifies (wanted : h.Wanted a) (coh : a.Coherent) (step : a.Step cause a') :
    h.Justifies a cause a' := by
  intro i granted
  have queued := wanted.queued i
  have promised := wanted.promised i
  have idle : a.status i = some .queued → ¬ a.Holds i := fun status =>
    not_holds_of_status status rfl
  cases step with
  | granted | switched => exact .inl (by grind [Asks])
  | declined _ elects | timedOut _ elects =>
      have waits := elects.1 i
      grind
  | @stopped h status =>
      have single := coh.exclusive i h
      have holds := holds_of_status status rfl
      have forward := coh.forward h ((coh.evicting h).mpr status)
      grind
  | @expired h next status elects =>
      have waits := elects.1 i
      have single := coh.exclusive i h
      have holds := holds_of_status status rfl
      have forward := coh.forward h ((coh.evicting h).mpr status)
      grind [Option.or_eq_some_iff]
  | @dropped h next holds elects =>
      have waits := elects.1 i
      have single := coh.exclusive i h
      grind [Option.or_eq_some_iff]
  | _ => grind

instance (h : History Slot) (a : Arbiter Slot) (cause : Cause Slot) (a' : Arbiter Slot) :
    Decidable (h.Justifies a cause a') :=
  inferInstanceAs (Decidable (∀ i, a'.Granted i → Asks cause a' i ∨ h.asked i = true ∧ ¬ a.Holds i))

instance (a : Arbiter Slot) (cause : Cause Slot) : Decidable (Retires a cause) :=
  match cause with
  | .decline i _ => inferInstanceAs (Decidable (a.status i = some .grantedWarmup →
      a.pending ≠ some i))
  | .timeout i _ => inferInstanceAs (Decidable (a.pending ≠ some i))
  | .other | .arrive | .connect _ | .request _ | .ready _ | .stopped _ | .drop _ _ | .switch _
  | .expiry _ _ => isTrue trivial

end History

/-- Every ACTIVATE_GRANT this event sends was asked for. -/
def GrantJustified (x : Observed) (ev : Event) : Prop :=
  x.2.Justifies x.1.arbiter (x.1.cause ev) (x.1.quiesce.handle ev).arbiter

instance (x : Observed) (ev : Event) : Decidable (GrantJustified x ev) :=
  inferInstanceAs (Decidable (History.Justifies ..))

/-- The slot that `pending_grant_target` names does not decline its grant in
GRANTED_WARMUP, and its heartbeat does not time out. -/
def TargetRetires (x : Observed) (ev : Event) : Prop :=
  History.Retires x.1.arbiter (x.1.cause ev)

instance (x : Observed) (ev : Event) : Decidable (TargetRetires x ev) :=
  inferInstanceAs (Decidable (History.Retires ..))

section Runs

variable {ring : Ring} {frameFd : Int} {dp : Bool} {supportedModes : List RenderMode}
variable {start : ControlPlane} {x : Observed} {trace : List (Observed × Event)}

/-- In a run that connects once, and in which no slot loses the RT slot by declining
or timing out while it is still the pending target, every grant was asked for. -/
theorem grantJustified_of_run
    (created : ControlPlane.init ring frameFd dp supportedModes = some start)
    (run : observed.Run (start, .empty) trace x) (once : Meets ConnectOnce trace)
    (retires : Meets TargetRetires trace) : Meets GrantJustified trace := by
  have vacant := ControlPlane.vacant_of_init created
  refine run.meets (I := fun x => Sound x ∧ x.2.Wanted x.1.arbiter)
    (C := fun x ev => ConnectOnce x ev ∧ TargetRetires x ev)
    (fun p member => ⟨once p member, retires p member⟩) ⟨Sound.of_init created, ?_⟩ ?_ ?_
  · refine ⟨by simp [vacant.absent], fun i promised => ?_⟩
    cases vacant.unpromised.symm.trans promised
  · rintro x ev y ⟨sound, wanted⟩ ⟨once, retires⟩ taken
    obtain ⟨step, noted⟩ := sound.refines once taken
    refine ⟨sound.step once taken, noted ▸ wanted.step sound.coherent ?_ retires step⟩
    intro i connects promised
    rcases sound.coherent.grantable_of_pending promised with holds | can
    · exact sound.not_holds_of_connect once connects holds
    · exact sound.not_grantable_of_connect once connects can
  · rintro x ev y ⟨sound, wanted⟩ ⟨once, _⟩ taken
    obtain ⟨step, -⟩ := sound.refines once taken
    rw [observed_handled taken] at step
    exact wanted.justifies sound.coherent step

open ControlPlane in
/-- A switch satisfied by STOPPED, then a timeout of the client it was made for. -/
theorem grantJustified_of_run_timeout :
    ∃ trace x, observed.Run (booted, .empty) trace x ∧
      trace.map Prod.snd =
        [.accept 10, .hello 0 65 qvga, .signal 0 .activateRequest, .signal 0 .readyForRt,
          .accept 11, .hello 1 66 qvga, .switch (.single 66) ⟨0, 0⟩, .signal 0 .stopped,
          .signal 1 .readyForRt, .signal 0 .activateRequest, .tick ⟨9, 0⟩ ⟨9, 0⟩] ∧
      Meets GrantJustified trace ∧ (x.1.table.slots 0).state = .grantedWarmup := by
  refine Demonstrates.exists_run
    (P := fun trace x => Meets ConnectOnce trace ∧ Meets TargetRetires trace ∧
      (x.1.table.slots 0).state = .grantedWarmup) (by decide +kernel) ?_
  rintro trace x run ⟨once, retires, granted⟩
  exact ⟨grantJustified_of_run init_eq_booted run once retires, granted⟩

open ControlPlane in
/-- A switch to a queued client during another warm-up. The decline grants the client
through the queue and leaves it the pending target. After its timeout it is granted
again when the next holder hangs up, although it never asked again. -/
theorem not_grantJustified_of_stale_target :
    ∃ trace x, observed.Run (booted, .empty) trace x ∧
      trace.map Prod.snd =
        [.accept 10, .hello 0 65 qvga, .signal 0 .activateRequest, .accept 11, .hello 1 66 qvga,
          .signal 1 .activateRequest, .switch (.single 66) ⟨0, 0⟩, .signal 0 .grantDecline,
          .signal 1 .readyForRt, .tick ⟨9, 0⟩ ⟨9, 0⟩, .signal 0 .activateRequest,
          .hangup 0 ⟨9, 0⟩] ∧
      Meets ConnectOnce trace ∧ ¬ Meets GrantJustified trace :=
  Demonstrates.run (by decide +kernel)

end Runs

end Wisp
