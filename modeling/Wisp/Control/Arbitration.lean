import Wisp.Control.Arbiter

/-!
# Arbitration steps

The abstract transition relation of the control plane. A `Cause` is what an event
means for the RT slot, and `Step` lists every change a cause can lead to, with the
state that decides which. It is the reference the control thread is measured
against.

All invariants of the control plane are derived from this list. The first of them
is coherence itself.
-/

namespace Wisp

/-- What an event means for the RT slot. A release carries the choice that
`find_next_queued` makes at that moment. -/
inductive Cause (ι : Type*) where
  | other
  | arrive
  | connect (i : ι)
  | request (i : ι)
  | ready (i : ι)
  | decline (i : ι) (next : Option ι)
  | stopped (i : ι)
  | drop (i : ι) (next : Option ι)
  | switch (i : ι)
  | timeout (i : ι) (next : Option ι)
  | expiry (i : ι) (next : Option ι)
  deriving DecidableEq

namespace Arbiter

variable {ι : Type*}

/-- The causes that change nothing in this state. -/
def Ignores (a : Arbiter ι) : Cause ι → Prop
  | .other | .arrive => True
  | .request i => a.status i ≠ some .negotiated
  | .ready i | .decline i _ => a.status i ≠ some .grantedWarmup
  | .stopped i => a.status i ≠ some .evictingCooperative
  | _ => False

variable [DecidableEq ι]

/-- One step of the arbiter. -/
inductive Step (a : Arbiter ι) : Cause ι → Arbiter ι → Prop where
  | ignored {cause} (ignores : a.Ignores cause) : Step a cause a.quiet
  | unnamed : Step a .other (a.quiet.reply false)
  | answered {i ok} (unable : ¬ a.Grantable i) (active : ok = true ↔ a.status i = some .activeRt) :
      Step a (.switch i) (a.quiet.reply ok)
  | joined {i} (absent : a.status i = none) : Step a .arrive (a.quiet.join i)
  | accepted {i} (present : a.status i ≠ none) :
      Step a (.connect i) (a.quiet.move i (some .negotiated))
  | refused {i} : Step a (.connect i) (a.quiet.leave i)
  | left {i next} (idle : ¬ a.Holds i) : Step a (.drop i next) (a.quiet.leave i)
  | queued {i} (status : a.status i = some .negotiated) (taken : ¬ a.Free) :
      Step a (.request i) (a.quiet.move i (some .queued))
  | granted {i} (status : a.status i = some .negotiated) (free : a.Free) :
      Step a (.request i) (a.quiet.grant i)
  | activated {i} (status : a.status i = some .grantedWarmup) :
      Step a (.ready i) (a.quiet.activate i)
  | evicted {h t} (active : a.active = some h) (can : a.Grantable t) :
      Step a (.switch t) ((a.quiet.evict h t).reply true)
  | parked {t} (inactive : a.active = none) (taken : ¬ a.Free) (can : a.Grantable t) :
      Step a (.switch t) ((a.quiet.park t).reply true)
  | switched {t} (free : a.Free) (can : a.Grantable t) :
      Step a (.switch t) ((a.quiet.grant t).reply true)
  | declined {h next} (status : a.status h = some .grantedWarmup) (elects : a.Elects next) :
      Step a (.decline h next) ((a.quiet.move h (some .negotiated)).handOver next)
  | stopped {h} (status : a.status h = some .evictingCooperative) :
      Step a (.stopped h)
        ((a.quiet.move h (some .negotiated)).clearPending.handOver a.pending)
  | timedOut {h next} (status : a.status h = some .activeRt) (elects : a.Elects next) :
      Step a (.timeout h next) ((a.quiet.move h (some .negotiated)).bump.handOver next)
  | expired {h next} (status : a.status h = some .evictingCooperative) (elects : a.Elects next) :
      Step a (.expiry h next)
        ((a.quiet.move h (some .negotiated)).clearPending.handOver (a.pending.or next))
  | dropped {h next} (holds : a.Holds h) (elects : a.Elects next) :
      Step a (.drop h next)
        ((a.quiet.leave h).clearPending.handOver ((a.quiet.leave h).pending.or next))

namespace Step

variable {a a' : Arbiter ι} {cause : Cause ι}

/-- Coherence survives every step. -/
theorem coherent (step : a.Step cause a') (coh : a.Coherent) : a'.Coherent := by
  have start : a.quiet.Coherent := coh.quiet
  have freed : ∀ h, a.Holds h → (a.quiet.move h (some .negotiated)).Free := fun _ holds =>
    start.free_move rfl holds
  cases step with
  | ignored => exact start
  | unnamed => exact start.reply false
  | answered => exact start.reply _
  | joined absent => exact start.join absent
  | accepted => exact start.yield
  | refused => exact start.leave
  | left => exact start.leave
  | queued => exact start.move rfl (by simp) fun _ => ⟨_, rfl, by simp⟩
  | granted _ free => exact start.grant free
  | activated status => exact start.activate status
  | evicted active can => exact (start.evict active can).reply true
  | parked _ _ can => exact (start.park can).reply true
  | switched free => exact (start.grant free).reply true
  | declined status =>
      exact start.yield.handOver (freed _ (holds_of_status status rfl)) _
  | stopped status =>
      exact start.yield.clearPending.handOver (freed _ (holds_of_status status rfl)) _
  | timedOut status =>
      have free := freed _ (holds_of_status status rfl)
      exact (start.yield.bump free).handOver free _
  | expired status =>
      exact start.yield.clearPending.handOver (freed _ (holds_of_status status rfl)) _
  | dropped holds => exact start.leave.clearPending.handOver (start.free_leave holds) _

end Step

end Arbiter

end Wisp
