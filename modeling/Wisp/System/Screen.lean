import Wisp.System.Grants

/-!
# The screen in the whole system

The whole system, seen from its ring, is the three-party model of the display: every
step is one of its steps or leaves the ring alone. What is known about that model
therefore holds of the real producers, with their claims and publishes spread over any
number of clients and grants, and of the real control thread.
-/

namespace Wisp

open Transition System

namespace World

/-- The step of the ring that a step of the system makes. -/
def ringEvent (w : World) : WorldEvent → Option RingEvent
  | .effect =>
      match w.todo with
      | .evictClient :: _ => some .evict
      | _ => none
  | .app c choice =>
      match (w.clients c).app with
      | .claim => some .writeSlot
      | .render idx => some (.render idx choice.pixels)
      | .storeFrameId idx _ => some (.storeFrameId idx choice.word)
      | .storeWriteTs idx _ => some (.storeWriteTs idx choice.word)
      | .publishLocked idx _ => some (.publish idx)
      | _ => none
  | .checkout => some .checkout
  | .release => some .release
  | _ => none

theorem atPeer_display (w : World) (fd : Int) (change : Client → Client) :
    (w.atPeer fd change).display = w.display := by
  unfold atPeer
  split <;> rfl

/-- Every effect but an eviction leaves the ring alone. -/
theorem display_of_effect {w : World} {effect : Effect} {rest : List Effect}
    (todo : w.todo = effect :: rest) :
    (∃ rev, w.ringEvent .effect = some rev ∧
        Display.system.step w.display rev = some (w.perform effect).display) ∨
      w.ringEvent .effect = none ∧ (w.perform effect).display = w.display := by
  cases effect with
  | evictClient => exact .inl ⟨.evict, by simp [ringEvent, todo], rfl⟩
  | send | close => exact .inr ⟨by simp [ringEvent, todo], atPeer_display _ _ _⟩
  | _ => exact .inr ⟨by simp [ringEvent, todo], rfl⟩

/-- A producer acts on the ring by the functions of the display model only. -/
theorem display_of_app {w : World} {c : Nat} {choice : Choice} {client : Client} {ring : Ring}
    (stepped : (w.clients c).appStep w.ring choice = some (client, ring)) :
    (∃ rev, w.ringEvent (.app c choice) = some rev ∧
        Display.system.step w.display rev = some { w.display with ring }) ∨
      w.ringEvent (.app c choice) = none ∧ ring = w.ring := by
  have idles := Client.appStep_top stepped
  cases stands : (w.clients c).app <;> simp only [Client.appStep, stands] at stepped
  case offline | gone | aborted => cases stepped
  case claim =>
      refine .inl ⟨.writeSlot, by simp [ringEvent, stands], ?_⟩
      show w.display.step .writeSlot = _
      cases claimed : w.display.ring.writeSlot with
      | none =>
          have aborts : w.ring.writeSlot = none := claimed
          simp only [aborts, Option.some.injEq, Prod.mk.injEq] at stepped
          obtain ⟨-, rfl⟩ := stepped
          simp only [Display.step, claimed]
          rfl
      | some result =>
          have claims : w.ring.writeSlot = some result := claimed
          simp only [claims, Option.some.injEq, Prod.mk.injEq] at stepped
          obtain ⟨-, rfl⟩ := stepped
          simp only [Display.step, claimed]
  case render idx =>
      cases stepped
      exact .inl ⟨.render idx choice.pixels, by simp [ringEvent, stands], rfl⟩
  case storeFrameId idx frame =>
      cases stepped
      exact .inl ⟨.storeFrameId idx choice.word, by simp [ringEvent, stands], rfl⟩
  case storeWriteTs idx frame =>
      cases stepped
      exact .inl ⟨.storeWriteTs idx choice.word, by simp [ringEvent, stands], rfl⟩
  case publishLocked idx frame =>
      cases stepped
      exact .inl ⟨.publish idx, by simp [ringEvent, stands], rfl⟩
  case top => exact .inr ⟨by simp [ringEvent, stands], (idles stands).1⟩
  case join =>
      split at stepped <;> cases stepped
      exact .inr ⟨by simp [ringEvent, stands], rfl⟩
  all_goals
    cases stepped
    exact .inr ⟨by simp [ringEvent, stands], rfl⟩

/-- The ring of the whole system moves as the display model says. -/
theorem projects_display : world.Projects Display.system display ringEvent := by
  intro w ev next taken
  change w.step ev = some next at taken
  cases ev with
  | serve ev => exact .inr ⟨rfl, (serve_spec taken).2.1⟩
  | effect =>
      simp only [step] at taken
      split at taken
      · cases taken
      · cases taken
        exact display_of_effect ‹_›
  | control c ok now =>
      obtain ⟨client, -, rfl⟩ := Option.map_eq_some_iff.mp taken
      exact .inr ⟨rfl, rfl⟩
  | app c choice =>
      obtain ⟨⟨client, ring⟩, stepped, rfl⟩ := Option.map_eq_some_iff.mp taken
      rcases display_of_app stepped with ⟨rev, event, moved⟩ | ⟨event, same⟩
      · exact .inl ⟨rev, event, moved⟩
      · refine .inr ⟨event, ?_⟩
        subst same
        rfl
  | crash c =>
      cases taken
      exact .inr ⟨rfl, rfl⟩
  | checkout =>
      obtain ⟨display, stepped, rfl⟩ := Option.map_eq_some_iff.mp taken
      exact .inl ⟨.checkout, rfl, stepped⟩
  | release =>
      obtain ⟨display, stepped, rfl⟩ := Option.map_eq_some_iff.mp taken
      exact .inl ⟨.release, rfl, stepped⟩

/-- A claim of a client does not return the buffer on display. -/
def ClaimsUntorn (w : World) (ev : WorldEvent) : Prop :=
  ∀ rev, w.ringEvent ev = some rev → w.display.Untorn rev

/-- `wisps_evict_client` does not run in the middle of a blit. -/
def EvictsUnshown (w : World) (ev : WorldEvent) : Prop :=
  ∀ rev, w.ringEvent ev = some rev → w.display.EvictsBetweenBlits rev

/-- Whatever the clients and the server do, no client draws into the frame on display as
long as evictions stay out of blits. -/
theorem claimsUntorn_of_run {start finish : World} {trace : List (World × WorldEvent)}
    (booted : Booted start) (run : world.Run start trace finish)
    (between : Meets EvictsUnshown trace) : Meets ClaimsUntorn trace := by
  have idle : start.display.shown = none := congrArg Display.shown booted.display
  refine meets_project.mp ((run.project projects_display).meets (I := Display.Locked)
    (meets_project.mpr between) (Display.locked_of_idle idle) (fun _ _ _ => Display.locked_step) ?_)
  intro d ev next locked _ _
  exact Display.untorn_of_locked locked ev

end World

end Wisp
