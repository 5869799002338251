import Wisp.Shm.Ring
import Wisp.Lib.Transition

/-!
# The frame on display

The ring seen by its three parties. Producers claim, fill and publish buffers, the data
plane checks a frame out and releases it after the blit, and the control thread
evicts. A step is one section under the ring's mutex, a write of pixels, or one of the
two metadata stores in front of the publishing section. Any producer may take a step at
any time.

While a blit is running, `server_locked` is what keeps producers away from its
buffer. `wisps_evict_client` clears it on behalf of a data plane that is still
reading, so the next claim may return the very buffer on display.
-/

namespace Wisp

open Transition System

/-- The ring, and the index the data plane has checked out and not yet released. -/
structure Display where
  ring : Ring
  shown : Option Int

/-- A locked section of the ring, or a write outside of one. -/
inductive RingEvent where
  | writeSlot
  | render (idx : Buf) (pixels : List UInt8)
  | storeFrameId (idx : Buf) (frameId : UInt64)
  | storeWriteTs (idx : Buf) (nowNs : UInt64)
  | publish (idx : Buf)
  | checkout
  | release
  | evict

namespace Display

/-- The data plane is one thread: it checks out when it shows nothing, and releases
what it shows. A producer that finds an outstanding claim aborts and changes nothing. -/
def step (d : Display) : RingEvent → Option Display
  | .writeSlot =>
      match d.ring.writeSlot with
      | some (_, ring) => some { d with ring }
      | none => some d
  | .render idx pixels => some { d with ring := d.ring.render idx pixels }
  | .storeFrameId idx frameId => some { d with ring := d.ring.storeFrameId idx frameId }
  | .storeWriteTs idx nowNs => some { d with ring := d.ring.storeWriteTs idx nowNs }
  | .publish idx => some { d with ring := d.ring.publishLocked idx }
  | .checkout =>
      if d.shown.isSome then none
      else
        let (idx, ring) := d.ring.checkout
        some { ring, shown := if idx < 0 then none else some idx }
  | .release => if d.shown.isSome then some { ring := d.ring.release, shown := none } else none
  | .evict => some { d with ring := d.ring.evictClient }

/-- The parties of the ring as a transition system. -/
def system : System Display RingEvent where
  step := step

/-- The index a claim returns is not on display. -/
def Untorn (d : Display) : RingEvent → Prop
  | .writeSlot => ∀ idx, d.ring.writeSlot.map Prod.fst = some idx → d.shown ≠ some (idx.val : Int)
  | _ => True

/-- The control thread does not evict in the middle of a blit. -/
def EvictsBetweenBlits (d : Display) : RingEvent → Prop
  | .evict => d.shown = none
  | _ => True

instance (d : Display) (ev : RingEvent) : Decidable (d.Untorn ev) :=
  match ev with
  | .writeSlot => inferInstanceAs (Decidable (∀ idx, d.ring.writeSlot.map Prod.fst = some idx →
      d.shown ≠ some (idx.val : Int)))
  | .render _ _ | .storeFrameId _ _ | .storeWriteTs _ _ | .publish _ | .checkout | .release
  | .evict => isTrue trivial

instance (d : Display) (ev : RingEvent) : Decidable (d.EvictsBetweenBlits ev) :=
  match ev with
  | .evict => inferInstanceAs (Decidable (d.shown = none))
  | .writeSlot | .render _ _ | .storeFrameId _ _ | .storeWriteTs _ _ | .publish _ | .checkout
  | .release => isTrue trivial

/-- The buffer on display is the one the ring has locked for the server. -/
def Locked (d : Display) : Prop :=
  ∀ idx, d.shown = some idx → d.ring.serverLocked = idx

theorem locked_step {d next : Display} {ev : RingEvent} (locked : d.Locked)
    (between : d.EvictsBetweenBlits ev) (taken : system.step d ev = some next) :
    next.Locked := by
  change d.step ev = some next at taken
  intro idx shown
  cases ev with
  | writeSlot =>
      simp only [step] at taken
      split at taken
      · rename_i ring claimed
        obtain ⟨-, -, rfl⟩ := Ring.writeSlot_spec claimed
        cases taken
        exact locked idx shown
      · cases taken
        exact locked idx shown
  | render | storeFrameId | storeWriteTs | publish =>
      cases taken
      exact locked idx shown
  | checkout =>
      simp only [step, Ring.checkout] at taken
      split at taken
      · cases taken
      · cases taken
        by_cases ready : d.ring.latestReady < 0
        · simp [ready] at shown
        · have locks : 0 ≤ d.ring.latestReady := by omega
          simpa [ready, locks] using shown
  | release =>
      simp only [step] at taken
      split at taken
      · cases taken
        cases shown
      · cases taken
  | evict =>
      cases taken
      cases between.symm.trans shown

/-- A claim never returns the index the ring has locked for the server. -/
theorem untorn_of_locked {d : Display} (locked : d.Locked) (ev : RingEvent) : d.Untorn ev := by
  cases ev with
  | writeSlot =>
      intro idx returned shown
      obtain ⟨⟨_, ring⟩, claimed, rfl⟩ := Option.map_eq_some_iff.mp returned
      obtain ⟨-, other, -⟩ := Ring.writeSlot_spec claimed
      exact other (locked _ shown).symm
  | _ => trivial

/-- Nothing is on display. -/
theorem locked_of_idle {d : Display} (idle : d.shown = none) : d.Locked := by
  intro idx shown
  cases idle.symm.trans shown

/-- Starting from a fresh ring, no claim tears the frame on display as long as
evictions stay out of blits. -/
theorem untorn_of_run {finish : Display} {trace : List (Display × RingEvent)}
    (run : system.Run ⟨.create, none⟩ trace finish)
    (between : Meets EvictsBetweenBlits trace) : Meets Untorn trace := by
  refine run.meets (I := Locked) between (locked_of_idle rfl) (fun _ _ _ => locked_step) ?_
  intro d ev next locked _ _
  exact untorn_of_locked locked ev

/-- A claim during a blit, and an eviction after it. -/
theorem untorn_of_run_blit :
    ∃ trace finish, system.Run ⟨.create, none⟩ trace finish ∧
      trace.map Prod.snd =
        [.writeSlot, .publish 0, .checkout, .writeSlot, .publish 1, .release, .evict,
          .writeSlot] ∧
      Meets Untorn trace := by
  refine Demonstrates.exists_run (P := fun trace _ => Meets EvictsBetweenBlits trace)
    (by decide +kernel) ?_
  intro trace finish run between
  exact untorn_of_run run between

/-- An eviction in the middle of a blit: the next claim returns the buffer on display. -/
theorem not_untorn_of_evict :
    ∃ trace finish, system.Run ⟨.create, none⟩ trace finish ∧
      trace.map Prod.snd = [.writeSlot, .publish 0, .checkout, .evict, .writeSlot] ∧
      ¬ Meets Untorn trace :=
  Demonstrates.run (by decide +kernel)

end Display

end Wisp
