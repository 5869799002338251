import Wisp.Lib.Critical
import Wisp.Shm.Display

/-!
# The mutex of the ring

The functions of `wire.h` and `server_shm.c` that run under `bookkeeping_lock`, a load or a store
at a time. `wisp_shm_ring_lock` takes a mutex that is robust: a client may be killed anywhere,
also in the middle of a section, and whoever comes next finds the ring as the client has left
it. The function looks for `EOWNERDEAD` only, so with any other error it returns without the
mutex.

Seen from outside every section is one step. What a killed client leaves behind is that of a
whole section or of none, but for one case: between the two stores of
`wisp_shm_ring_publish_slot` the frame is published and the claim is still there.
-/

namespace Wisp

open Transition System Critical

/-- The threads at the ring. A producer is the render thread of one client. -/
inductive RingParty where
  | dataPlane
  | control
  | producer (number : Nat)
  deriving DecidableEq, Repr

/-- The functions with a section under the mutex. -/
inductive RingOp where
  | writeSlot
  | publish (idx : Buf)
  | checkout
  | release
  | evict
  deriving DecidableEq, Repr

/-- Where a section stands, with the variables that are still needed. A section that is done
stands in front of `wisp_shm_ring_unlock`. -/
inductive RingPc where
  | loadReady
  | loadServerLocked (ready : Int)
  | loadClientLocked (ready serverLocked : Int)
  | storeClientLocked (idx : Buf)
  | claimed (idx : Buf)
  | aborting
  | storeReady (idx : Buf)
  | clearClientLocked
  | published
  | loadLatest
  | storeServerLocked (idx : Int)
  | checkedOut (idx : Int)
  | clearServerLocked
  | released
  | bumpGeneration
  | dropReady
  | dropServerLocked
  | dropClientLocked
  | evicted
  deriving DecidableEq, Repr

/-- How a function returns, if it does. -/
inductive RingReturn where
  | void
  | index (idx : Int)
  | abort
  deriving DecidableEq, Repr

/-- What a thread remembers: the index it has checked out, or that it has called `abort()`. -/
inductive RingView where
  | idle
  | shows (idx : Int)
  | aborted
  deriving DecidableEq, Repr

/-- A store outside of the sections, by a producer. -/
inductive RingAct where
  | render (idx : Buf) (pixels : List UInt8)
  | storeFrameId (idx : Buf) (frameId : UInt64)
  | storeWriteTs (idx : Buf) (nowNs : UInt64)
  deriving DecidableEq, Repr

/-- The index on display. -/
def RingView.shown : RingView → Option Int
  | .idle | .aborted => none
  | .shows idx => some idx

/-- The scan of `wisp_shm_ring_write_slot` over the values it has loaded. -/
def scanFree (ready serverLocked : Int) : Option Buf :=
  (List.finRange numBuffers).find? fun i =>
    (i.val : Int) != ready && (i.val : Int) != serverLocked

namespace RingPc

/-- The first access of a section. -/
def enter : RingOp → RingPc
  | .writeSlot => .loadReady
  | .publish idx => .storeReady idx
  | .checkout => .loadLatest
  | .release => .clearServerLocked
  | .evict => .bumpGeneration

/-- The next access of a section, or its return. -/
def access : RingPc → Ring → (RingPc × Ring) ⊕ RingReturn
  | .loadReady, ring => .inl (.loadServerLocked ring.latestReady, ring)
  | .loadServerLocked ready, ring => .inl (.loadClientLocked ready ring.serverLocked, ring)
  | .loadClientLocked ready serverLocked, ring =>
      if ring.clientLocked ≠ -1 then .inl (.aborting, ring)
      else
        match scanFree ready serverLocked with
        | some idx => .inl (.storeClientLocked idx, ring)
        | none => .inl (.aborting, ring)
  | .storeClientLocked idx, ring => .inl (.claimed idx, { ring with clientLocked := idx.val })
  | .claimed idx, _ => .inr (.index idx.val)
  | .aborting, _ => .inr .abort
  | .storeReady idx, ring => .inl (.clearClientLocked, { ring with latestReady := idx.val })
  | .clearClientLocked, ring => .inl (.published, { ring with clientLocked := -1 })
  | .published, _ => .inr .void
  | .loadLatest, ring =>
      if 0 ≤ ring.latestReady then .inl (.storeServerLocked ring.latestReady, ring)
      else .inl (.checkedOut ring.latestReady, ring)
  | .storeServerLocked idx, ring => .inl (.checkedOut idx, { ring with serverLocked := idx })
  | .checkedOut idx, _ => .inr (.index idx)
  | .clearServerLocked, ring => .inl (.released, { ring with serverLocked := -1 })
  | .released, _ => .inr .void
  | .bumpGeneration, ring => .inl (.dropReady, { ring with generation := ring.generation + 1 })
  | .dropReady, ring => .inl (.dropServerLocked, { ring with latestReady := -1 })
  | .dropServerLocked, ring => .inl (.dropClientLocked, { ring with serverLocked := -1 })
  | .dropClientLocked, ring => .inl (.evicted, { ring with clientLocked := -1 })
  | .evicted, _ => .inr .void

/-- The accesses that are left. -/
def rank : RingPc → Nat
  | .loadReady | .bumpGeneration => 4
  | .loadServerLocked _ | .dropReady => 3
  | .loadClientLocked _ _ | .storeReady _ | .loadLatest | .dropServerLocked => 2
  | .storeClientLocked _ | .clearClientLocked | .storeServerLocked _ | .clearServerLocked
  | .dropClientLocked => 1
  | .claimed _ | .aborting | .published | .checkedOut _ | .released | .evicted => 0

theorem falls (pc : RingPc) (ring : Ring) (pc' : RingPc) (ring' : Ring)
    (taken : pc.access ring = .inl (pc', ring')) : pc'.rank < pc.rank := by
  unfold access at taken
  split at taken
  case h_3 ready serverLocked =>
    split at taken
    · cases taken
      simp [rank]
    · split at taken
      · cases taken
        simp [rank]
      · cases taken
        simp [rank]
  case h_10 =>
    split at taken
    · cases taken
      simp [rank]
    · cases taken
      simp [rank]
  all_goals
    cases taken
    try simp [rank]

end RingPc

namespace RingAct

/-- The ring after a store. -/
def apply : RingAct → Ring → Ring
  | .render idx pixels, ring => ring.render idx pixels
  | .storeFrameId idx frameId, ring => ring.storeFrameId idx frameId
  | .storeWriteTs idx nowNs, ring => ring.storeWriteTs idx nowNs

/-- No section looks at what is stored outside of the sections. -/
theorem apart (act : RingAct) (pc : RingPc) (ring : Ring) :
    pc.access (act.apply ring) = (pc.access ring).map (Prod.map id act.apply) id := by
  have claim : (act.apply ring).clientLocked = ring.clientLocked := by cases act <;> rfl
  have ready : (act.apply ring).latestReady = ring.latestReady := by cases act <;> rfl
  cases pc with
  | loadClientLocked ready' serverLocked =>
      simp only [RingPc.access, claim]
      split
      · rfl
      · cases scanFree ready' serverLocked with
        | none => rfl
        | some idx => rfl
  | loadLatest =>
      simp only [RingPc.access, ready]
      split
      · rfl
      · rfl
  | _ => cases act <;> rfl

end RingAct

/-- A client may be killed. When the server is, the ring is gone. -/
def RingParty.mortal : RingParty → Bool
  | .producer _ => true
  | .dataPlane | .control => false

namespace RingView

/-- What a thread may call. -/
def calls : RingParty → RingView → RingOp → Bool
  | .dataPlane, .idle, .checkout => true
  | .dataPlane, .shows _, .release => true
  | .control, .idle, .evict => true
  | .producer _, .idle, .writeSlot => true
  | .producer _, .idle, .publish _ => true
  | _, _, _ => false

/-- What a thread remembers of a call. -/
def returns (view : RingView) : RingOp → RingReturn → RingView
  | .checkout, .index idx => if idx < 0 then .idle else .shows idx
  | .release, _ => .idle
  | .writeSlot, .abort => .aborted
  | _, _ => view

/-- A producer may store what it likes where it likes. -/
def acts : RingParty → RingView → RingAct → Bool
  | .producer _, .idle, _ => true
  | _, _, _ => false

variable {t : RingParty} {view : RingView} {op : RingOp}

theorem calls_checkout (calls : RingView.calls t view .checkout = true) :
    t = .dataPlane ∧ view = .idle := by
  cases t <;> cases view <;> first | exact ⟨rfl, rfl⟩ | cases calls

theorem calls_release (calls : RingView.calls t view .release = true) :
    t = .dataPlane ∧ ∃ idx, view = .shows idx := by
  cases t <;> cases view <;> first | exact ⟨rfl, _, rfl⟩ | cases calls

theorem calls_of_mortal (calls : RingView.calls t view op = true) (mortal : t.mortal = true) :
    op = .writeSlot ∨ ∃ idx, op = .publish idx := by
  cases t with
  | dataPlane | control => cases mortal
  | producer number =>
      cases op with
      | writeSlot => exact .inl rfl
      | publish idx => exact .inr ⟨idx, rfl⟩
      | checkout | release | evict => cases view <;> cases calls

/-- The data plane calls nothing else. -/
theorem other_of_calls (calls : RingView.calls t view op = true) (noCheckout : op ≠ .checkout)
    (noRelease : op ≠ .release) : t ≠ .dataPlane := by
  rintro rfl
  cases op with
  | checkout => exact noCheckout rfl
  | release => exact noRelease rfl
  | writeSlot | publish | evict => cases view <;> cases calls

end RingView

/-- The ring and its threads. -/
def ringProgram : Program RingParty Ring RingOp RingPc RingReturn RingAct RingView where
  enter := RingPc.enter
  access := RingPc.access
  calls := RingView.calls
  returns := RingView.returns
  acts := RingView.acts
  act := RingAct.apply
  mortal := RingParty.mortal
  rank := RingPc.rank
  falls := RingPc.falls
  apart := RingAct.apart

/-- The threads at the ring, with the mutex. -/
abbrev RingThreads := State RingParty Ring RingOp RingPc RingView

/-- A load or a store, a call that takes the mutex or gives it back, or the end of a client. -/
abbrev RingStep := Critical.Event RingParty RingOp RingAct

/-- A fresh ring that nobody uses. -/
def RingThreads.fresh : RingThreads :=
  .start .create fun _ => .idle

/-- A section at a time, with what it returns, or what is left of a publication that has been
cut in two. -/
inductive SectionEvent where
  | whole (ev : RingEvent) (returned : RingReturn)
  | halfPublish (idx : Buf)

namespace Display

/-- What the call returns. -/
def returned (d : Display) : RingEvent → RingReturn
  | .writeSlot =>
      match d.ring.writeSlot with
      | some (idx, _) => .index idx.val
      | none => .abort
  | .checkout => .index d.ring.checkout.1
  | .render _ _ | .storeFrameId _ _ | .storeWriteTs _ _ | .publish _ | .release | .evict => .void

theorem claims_of_returned {d : Display} {i : Int} (returned : d.returned .writeSlot = .index i) :
    ∃ idx, d.ring.writeSlot.map Prod.fst = some idx ∧ (idx.val : Int) = i := by
  simp only [Display.returned] at returned
  split at returned
  · rename_i idx ring claimed
    cases returned
    exact ⟨idx, by rw [claimed]; rfl, rfl⟩
  · cases returned

theorem aborts_iff (d : Display) : d.returned .writeSlot = .abort ↔ d.ring.clientLocked ≠ -1 := by
  rw [← Ring.writeSlot_eq_none_iff]
  simp only [Display.returned]
  split
  · rename_i claimed
    simp [claimed]
  · rename_i none
    simp [none]

/-- The frame is ready, and the claim is outstanding. -/
def halfPublish (d : Display) (idx : Buf) : Display :=
  { d with ring := { d.ring with latestReady := idx.val } }

/-- The ring as its parties see it. -/
def sections : System Display SectionEvent where
  step d
    | .whole ev returned => if d.returned ev = returned then d.step ev else none
    | .halfPublish idx => some (d.halfPublish idx)

end Display

namespace RingOp

/-- How far a section that has started on this ring has come. -/
def Came (ring : Ring) : RingOp → RingPc → Ring → Prop
  | .writeSlot, .loadReady, now => now = ring
  | .writeSlot, .loadServerLocked ready, now => ready = ring.latestReady ∧ now = ring
  | .writeSlot, .loadClientLocked ready serverLocked, now =>
      ready = ring.latestReady ∧ serverLocked = ring.serverLocked ∧ now = ring
  | .writeSlot, .storeClientLocked idx, now =>
      ring.writeSlot = some (idx, { ring with clientLocked := idx.val }) ∧ now = ring
  | .writeSlot, .claimed idx, now => ring.writeSlot = some (idx, now)
  | .writeSlot, .aborting, now => ring.writeSlot = none ∧ now = ring
  | .publish idx, .storeReady idx', now => idx' = idx ∧ now = ring
  | .publish idx, .clearClientLocked, now => now = { ring with latestReady := idx.val }
  | .publish idx, .published, now => now = ring.publishLocked idx
  | .checkout, .loadLatest, now => now = ring
  | .checkout, .storeServerLocked idx, now => idx = ring.latestReady ∧ 0 ≤ idx ∧ now = ring
  | .checkout, .checkedOut idx, now => ring.checkout = (idx, now)
  | .release, .clearServerLocked, now => now = ring
  | .release, .released, now => now = ring.release
  | .evict, .bumpGeneration, now => now = ring
  | .evict, .dropReady, now => now = { ring with generation := ring.generation + 1 }
  | .evict, .dropServerLocked, now =>
      now = { ring with generation := ring.generation + 1, latestReady := -1 }
  | .evict, .dropClientLocked, now =>
      now = { ring with generation := ring.generation + 1, latestReady := -1, serverLocked := -1 }
  | .evict, .evicted, now => now = ring.evictClient
  | _, _, _ => False

variable {op : RingOp} {ring now now' : Ring} {pc pc' : RingPc}

theorem came_enter (op : RingOp) (ring : Ring) : op.Came ring (.enter op) ring := by
  cases op with
  | publish idx => exact ⟨rfl, rfl⟩
  | _ => exact rfl

theorem came_access (came : op.Came ring pc now) (taken : pc.access now = .inl (pc', now')) :
    op.Came ring pc' now' := by
  unfold Came at came
  split at came
  case h_1 =>
    subst came
    cases taken
    exact ⟨rfl, rfl⟩
  case h_2 =>
    obtain ⟨rfl, rfl⟩ := came
    cases taken
    exact ⟨rfl, rfl, rfl⟩
  case h_3 =>
    obtain ⟨rfl, rfl, rfl⟩ := came
    simp only [RingPc.access] at taken
    split at taken
    · rename_i claimed
      cases taken
      exact ⟨(Ring.writeSlot_eq_none_iff _).mpr claimed, rfl⟩
    · rename_i unclaimed
      split at taken
      · rename_i idx found
        cases taken
        refine ⟨?_, rfl⟩
        show (if _ then none else _) = _
        rw [if_neg unclaimed]
        show Option.map _ (scanFree _ _) = _
        rw [found]
        rfl
      · rename_i missing
        have found := Ring.freeIndex_isSome now
        rw [show now.freeIndex = none from missing] at found
        cases found
  case h_4 =>
    obtain ⟨claims, rfl⟩ := came
    cases taken
    exact claims
  case h_7 =>
    obtain ⟨rfl, rfl⟩ := came
    cases taken
    exact rfl
  case h_10 =>
    subst came
    simp only [RingPc.access] at taken
    split at taken
    · rename_i ready
      cases taken
      exact ⟨rfl, ready, rfl⟩
    · rename_i unready
      cases taken
      show (_, ite _ _ _) = _
      rw [if_neg unready]
  case h_11 =>
    obtain ⟨rfl, ready, rfl⟩ := came
    cases taken
    show (_, ite _ _ _) = _
    rw [if_pos ready]
  all_goals
    first
      | (subst came; cases taken; exact rfl)
      | cases taken
      | exact came.elim

/-- What is seen of a section that returns. -/
def event : RingOp → RingEvent
  | .writeSlot => .writeSlot
  | .publish idx => .publish idx
  | .checkout => .checkout
  | .release => .release
  | .evict => .evict

/-- What is seen of a section whose client has been killed in it. -/
def remains : RingOp → RingPc → Option SectionEvent
  | .writeSlot, .claimed idx => some (.whole .writeSlot (.index idx.val))
  | .publish idx, .clearClientLocked => some (.halfPublish idx)
  | .publish idx, .published => some (.whole (.publish idx) .void)
  | _, _ => none

/-- The ring after the section as a whole. -/
def after (ring : Ring) : RingOp → Ring
  | .writeSlot => (ring.writeSlot.map Prod.snd).getD ring
  | .publish idx => ring.publishLocked idx
  | .checkout => ring.checkout.2
  | .release => ring.release
  | .evict => ring.evictClient

/-- An access at a time is as good as the function as a whole. -/
theorem exec_enter (op : RingOp) (ring : Ring) (shown : Option Int) :
    ringProgram.exec (ringProgram.enter op) ring =
      (Display.returned ⟨ring, shown⟩ op.event, op.after ring) := by
  obtain ⟨last, came, done⟩ := Program.invariant_of_exec (P := ringProgram)
    (I := op.Came ring) (fun _ _ _ _ came taken => came_access came taken) (came_enter op ring)
  show ringProgram.exec (.enter op) ring = _
  change op.Came ring last (ringProgram.exec (.enter op) ring).2 at came
  change last.access (ringProgram.exec (.enter op) ring).2 =
    .inr (ringProgram.exec (.enter op) ring).1 at done
  generalize ringProgram.exec (.enter op) ring = result at came done ⊢
  obtain ⟨returned, now⟩ := result
  unfold Came at came
  split at came
  case h_5 idx =>
    cases done
    simp only [Display.returned, event, after, came]
    rfl
  case h_6 =>
    obtain ⟨aborts, rfl⟩ := came
    cases done
    simp only [Display.returned, event, after, aborts]
    rfl
  case h_12 =>
    cases done
    simp only [Display.returned, event, after, came]
  case h_3 =>
    simp only [RingPc.access] at done
    split at done
    · cases done
    · split at done
      · cases done
      · cases done
  case h_10 =>
    simp only [RingPc.access] at done
    split at done
    · cases done
    · cases done
  all_goals
    first
      | (subst came; cases done; rfl)
      | cases done
      | exact came.elim

end RingOp

/-- What is seen of a store. -/
def RingAct.event : RingAct → RingEvent
  | .render idx pixels => .render idx pixels
  | .storeFrameId idx frameId => .storeFrameId idx frameId
  | .storeWriteTs idx nowNs => .storeWriteTs idx nowNs

/-- What is seen of a step that takes a section as a whole. -/
def seen : AtomicEvent RingParty RingOp RingPc RingReturn RingAct → Option SectionEvent
  | .whole _ op returned => some (.whole op.event returned)
  | .cut _ op pc => op.remains pc
  | .act _ act => some (.whole act.event .void)

/-- The ring, and what the data plane has checked out. -/
def display (a : Atomic RingParty Ring RingView) : Display :=
  ⟨a.shared, (a.view .dataPlane).shown⟩

/-- The view of the data plane is its own. -/
theorem display_update (a : Atomic RingParty Ring RingView) {t : RingParty}
    (other : t ≠ .dataPlane) (ring : Ring) (view : RingView) :
    display ⟨ring, Function.update a.view t view⟩ = { display a with ring } := by
  simp only [display, Function.update_of_ne other.symm]

/-- A section as a whole. -/
theorem step_event {a : Atomic RingParty Ring RingView} {t : RingParty} {op : RingOp}
    (calls : RingView.calls t (a.view t) op = true) :
    (display a).step op.event =
      some (display ⟨op.after a.shared, Function.update a.view t
        ((a.view t).returns op ((display a).returned op.event))⟩) := by
  cases op with
  | writeSlot =>
      rw [display_update a (RingView.other_of_calls calls (by simp) (by simp))]
      simp only [RingOp.after, RingOp.event, Display.step, display]
      cases a.shared.writeSlot with
      | none => rfl
      | some result => rfl
  | publish idx =>
      rw [display_update a (RingView.other_of_calls calls (by simp) (by simp))]
      rfl
  | evict =>
      rw [display_update a (RingView.other_of_calls calls (by simp) (by simp))]
      rfl
  | checkout =>
      obtain ⟨rfl, idle⟩ := RingView.calls_checkout calls
      simp only [display, RingOp.event, Display.step, Display.returned, RingOp.after,
        RingView.returns, Function.update_self, idle, RingView.shown, Option.isSome_none,
        Bool.false_eq_true, if_false]
      split
      · rfl
      · rfl
  | release =>
      obtain ⟨rfl, idx, shows⟩ := RingView.calls_release calls
      simp only [display, RingOp.event, Display.step, RingOp.after, RingView.returns,
        Function.update_self, shows, RingView.shown, Option.isSome_some, if_true]

/-- What is left of a claim or a publication. -/
theorem step_remains {a : Atomic RingParty Ring RingView} {op : RingOp} {pc : RingPc} {now : Ring}
    (came : op.Came a.shared pc now) (producers : op = .writeSlot ∨ ∃ idx, op = .publish idx) :
    (∃ ev, op.remains pc = some ev ∧
      Display.sections.step (display a) ev = some (display ⟨now, a.view⟩)) ∨
    op.remains pc = none ∧ now = a.shared := by
  unfold RingOp.Came at came
  split at came
  case h_1 => exact .inr ⟨rfl, came⟩
  case h_2 => exact .inr ⟨rfl, came.2⟩
  case h_3 => exact .inr ⟨rfl, came.2.2⟩
  case h_4 => exact .inr ⟨rfl, came.2⟩
  case h_5 idx =>
    refine .inl ⟨_, rfl, ?_⟩
    simp only [Display.sections, Display.returned, Display.step, display, came, if_true]
  case h_6 => exact .inr ⟨rfl, came.2⟩
  case h_7 => exact .inr ⟨rfl, came.2⟩
  case h_8 =>
    subst came
    exact .inl ⟨_, rfl, rfl⟩
  case h_9 =>
    subst came
    exact .inl ⟨_, rfl, rfl⟩
  case h_20 => exact came.elim
  all_goals simp at producers

/-- Sections of the code are sections of the ring. -/
theorem atomic_simulates :
    ringProgram.atomic.Simulates Display.sections (fun a d => d = display a)
      fun _ ev => seen ev := by
  rintro a ev next d rfl taken
  change ringProgram.atomicStep a ev = some next at taken
  cases ev with
  | whole t op returned =>
      have whole : ringProgram.exec (ringProgram.enter op) a.shared =
          ((display a).returned op.event, op.after a.shared) := RingOp.exec_enter _ _ _
      simp only [Program.atomicStep, whole] at taken
      obtain ⟨⟨calls, rfl⟩, same⟩ := Option.ite_none_right_eq_some.mp taken
      cases same
      refine .inl ⟨_, display _, rfl, ?_, rfl⟩
      show (if _ then (display a).step op.event else none) = _
      rw [if_pos rfl]
      exact step_event calls
  | cut t op pc =>
      simp only [Program.atomicStep] at taken
      obtain ⟨⟨mortal, calls⟩, cut⟩ := Option.ite_none_right_eq_some.mp taken
      obtain ⟨now, gets, rfl⟩ := Option.map_eq_some_iff.mp cut
      have came : op.Came a.shared pc now := Program.invariant_of_upTo (P := ringProgram)
        (I := op.Came a.shared) (fun _ _ _ _ came taken => RingOp.came_access came taken) gets
        (RingOp.came_enter op a.shared)
      rcases step_remains came (RingView.calls_of_mortal calls mortal) with
        ⟨ev, left, step⟩ | ⟨nothing, rfl⟩
      · exact .inl ⟨ev, _, left, step, rfl⟩
      · exact .inr ⟨nothing, rfl⟩
  | act t act =>
      simp only [Program.atomicStep] at taken
      obtain ⟨acts, same⟩ := Option.ite_none_right_eq_some.mp taken
      cases same
      refine .inl ⟨_, display _, rfl, ?_, rfl⟩
      cases act with
      | render | storeFrameId | storeWriteTs => rfl

namespace RingThreads

variable {trace : List (RingThreads × RingStep)} {s finish : RingThreads} {t : RingParty}

/-- The section that ends with a step, or is cut short by it. -/
def seen (s : RingThreads) (step : RingStep) : Option SectionEvent :=
  (ringProgram.label s step).bind Wisp.seen

/-- The ring as it would be if nobody were in a section. -/
def Matches (s : RingThreads) (d : Display) : Prop :=
  ∃ a, ringProgram.Matches s a ∧ d = display a

theorem simulates : ringProgram.system.Simulates Display.sections Matches seen :=
  Program.simulates.trans atomic_simulates

theorem matches_fresh : Matches fresh ⟨.create, none⟩ :=
  ⟨_, .start _ _, rfl⟩

/-- Whatever the threads do between one another's accesses, and wherever clients are killed: the
ring goes through sections as a whole, with the results that they return, and through halves of
publications. Whoever has the mutex is alone with it, and it can always be recovered. -/
theorem sections_of_run (run : ringProgram.system.Run fresh trace finish) :
    (∃ trace' d, Display.sections.Run ⟨.create, none⟩ trace' d ∧
      trace'.map Prod.snd = answers seen trace ∧
      d.shown = (finish.view .dataPlane).shown ∧
      ((∀ t, finish.mutex ≠ .held t true) → d.ring = finish.shared)) ∧
    (∀ t op pc, finish.place t = .within op pc → finish.mutex = .held t true) ∧
    finish.mutex ≠ .unrecoverable := by
  obtain ⟨trace', d, run', ⟨a, known, rfl⟩, -, same⟩ :=
    run.simulate (C := fun _ _ => True) (D := fun _ _ => True) simulates
      (fun _ _ _ _ _ _ _ => trivial) (fun _ _ => trivial) matches_fresh
  refine ⟨⟨trace', display a, run', same, ?_, ?_⟩, ?_, known.coherent.recoverable⟩
  · rw [known.view]
    rfl
  · intro idle
    exact (known.shared_eq idle).symm
  · intro t op pc within
    exact known.coherent.of_within within

/-- Producer 0 claims a buffer and is killed while it publishes it; the data plane then shows the
frame, and producer 1 is about to find the claim. -/
def halfPublished : List RingStep :=
  let writer : RingParty := .producer 0
  let heir : RingParty := .producer 1
  [.call writer .writeSlot, .lock writer, .access writer, .access writer, .access writer,
    .access writer, .unlock writer, .act writer (.storeFrameId 0 7), .call writer (.publish 0),
    .lock writer, .access writer, .call .dataPlane .checkout, .die writer, .lock .dataPlane,
    .consistent .dataPlane, .access .dataPlane, .call heir .writeSlot, .access .dataPlane,
    .unlock .dataPlane, .lock heir, .access heir, .access heir, .access heir]

/-- The threads after a client has been killed in the middle of a publication. -/
theorem sections_of_run_halfPublished :
    ∃ trace finish, ringProgram.system.Run fresh trace finish ∧
      trace.map Prod.snd = halfPublished ∧
      (∃ trace' d, Display.sections.Run ⟨.create, none⟩ trace' d ∧
        trace'.map Prod.snd = answers seen trace ∧
        d.shown = (finish.view .dataPlane).shown ∧
        ((∀ t, finish.mutex ≠ .held t true) → d.ring = finish.shared)) ∧
      (∀ t op pc, finish.place t = .within op pc → finish.mutex = .held t true) ∧
      finish.mutex ≠ .unrecoverable := by
  refine Demonstrates.exists_run (P := fun _ _ => True) (by decide +kernel) ?_
  intro trace finish run _
  exact sections_of_run run

/-- A claim does not return the index on display. -/
def Untorn (s : RingThreads) : RingStep → Prop
  | .unlock t => ∀ idx, s.place t = .within .writeSlot (.claimed idx) →
      (s.view .dataPlane).shown ≠ some (idx.val : Int)
  | _ => True

/-- An eviction does not end in the middle of a blit. -/
def EvictsBetweenBlits (s : RingThreads) : RingStep → Prop
  | .unlock t => ∀ pc, s.place t = .within .evict pc → (s.view .dataPlane).shown = none
  | _ => True

/-- What is seen of a section that ends. -/
theorem seen_unlock {op : RingOp} {pc : RingPc} {returned : RingReturn}
    (within : s.place t = .within op pc) (done : pc.access s.shared = .inr returned) :
    s.seen (.unlock t) = some (.whole op.event returned) := by
  have label : ringProgram.label s (.unlock t) = some (.whole t op returned) := by
    simp only [Program.label, within, show ringProgram.access pc s.shared = _ from done]
  rw [seen, label]
  rfl

/-- An eviction is seen when its section ends. -/
theorem unlock_of_evict {step : RingStep} {returned : RingReturn}
    (evicts : s.seen step = some (.whole .evict returned)) :
    ∃ t pc, step = .unlock t ∧ s.place t = .within .evict pc := by
  obtain ⟨ev, label, evict⟩ := Option.bind_eq_some_iff.mp evicts
  cases step with
  | call | lock | consistent | access => cases label
  | act t act =>
      cases label
      cases act <;> cases evict
  | die t =>
      simp only [Program.label] at label
      split at label
      · cases label
        rename_i op pc within
        change op.remains pc = _ at evict
        unfold RingOp.remains at evict
        split at evict <;> cases evict
      · cases label
  | unlock t =>
      simp only [Program.label] at label
      split at label
      · rename_i op pc within
        split at label
        · cases label
        · cases label
          cases op with
          | evict => exact ⟨t, pc, rfl, within⟩
          | writeSlot | publish | checkout | release => cases evict
      · cases label

/-- Locked, whichever step is taken. -/
theorem locked_of_sections {d next : Display} {ev : SectionEvent} (locked : d.Locked)
    (between : ∀ returned, ev = .whole .evict returned → d.shown = none)
    (taken : Display.sections.step d ev = some next) : next.Locked := by
  cases ev with
  | halfPublish idx =>
      cases taken
      exact locked
  | whole ev returned =>
      obtain ⟨-, taken⟩ := Option.ite_none_right_eq_some.mp taken
      refine Display.locked_step locked ?_ taken
      cases ev with
      | evict => exact between returned rfl
      | _ => trivial

/-- As long as no eviction ends in the middle of a blit, no claim returns the index on display,
whatever clients have been killed where. -/
theorem untornThreads_of_run (run : ringProgram.system.Run fresh trace finish)
    (between : Meets EvictsBetweenBlits trace) : Meets Untorn trace := by
  refine run.meets (I := fun s => ∃ d, Matches s d ∧ d.Locked) between
    ⟨_, matches_fresh, Display.locked_of_idle rfl⟩ ?_ ?_
  · rintro s step next ⟨d, known, locked⟩ between taken
    rcases simulates s step next d known taken with ⟨ev, d', seen, stepped, known'⟩ | ⟨-, known'⟩
    · refine ⟨d', known', locked_of_sections locked ?_ stepped⟩
      rintro returned rfl
      obtain ⟨t, pc, rfl, within⟩ := unlock_of_evict seen
      obtain ⟨a, known, rfl⟩ := known
      have idle := between pc within
      rwa [known.view] at idle
    · exact ⟨d, known', locked⟩
  · rintro s step next ⟨d, known, locked⟩ - taken
    cases step with
    | unlock t =>
        intro idx within shows
        have claims : s.seen (.unlock t) = some (.whole .writeSlot (.index idx)) :=
          seen_unlock within rfl
        rcases simulates s _ next d known taken with ⟨ev, d', seen, stepped, -⟩ | ⟨seen, -⟩
        · cases claims.symm.trans seen
          obtain ⟨returned, -⟩ := Option.ite_none_right_eq_some.mp stepped
          obtain ⟨idx', claims, same⟩ := Display.claims_of_returned returned
          obtain ⟨a, known, rfl⟩ := known
          rw [known.view, ← same] at shows
          exact Display.untorn_of_locked locked .writeSlot idx' claims shows
        · cases claims.symm.trans seen
    | call | lock | consistent | access | act | die => trivial

instance (s : RingThreads) (step : RingStep) : Decidable (s.EvictsBetweenBlits step) :=
  match step with
  | .unlock t =>
      match place : s.place t with
      | .within .evict pc =>
          decidable_of_iff ((s.view .dataPlane).shown = none)
            ⟨fun idle _ _ => idle, fun between => between pc place⟩
      | .within .writeSlot _ | .within (.publish _) _ | .within .checkout _ | .within .release _
      | .away | .waits _ | .recovers _ | .dead =>
          isTrue fun pc within => by cases place.symm.trans within
  | .call _ _ | .lock _ | .consistent _ | .access _ | .act _ _ | .die _ => isTrue trivial

/-- A claim during a blit, after a client has been killed. -/
theorem untornThreads_of_run_halfPublished :
    ∃ trace finish, ringProgram.system.Run fresh trace finish ∧
      trace.map Prod.snd = halfPublished ++
        [.unlock (.producer 1), .call .dataPlane .release, .lock .dataPlane, .access .dataPlane,
          .unlock .dataPlane, .call .control .evict, .lock .control, .access .control,
          .access .control, .access .control, .access .control, .unlock .control] ∧
      Meets Untorn trace := by
  refine Demonstrates.exists_run (P := fun trace _ => Meets EvictsBetweenBlits trace)
    (by decide +kernel) ?_
  intro trace finish run between
  exact untornThreads_of_run run between

/-- Whether a claim is outstanding: it has been made, and neither been published nor been taken
back by an eviction since. -/
def outstanding (claimed : Bool) : SectionEvent → Bool
  | .whole .writeSlot (.index _) => true
  | .whole (.publish _) _ | .whole .evict _ => false
  | _ => claimed

theorem claimed_step {d next : Display} {ev : SectionEvent} {claimed : Bool}
    (known : d.ring.clientLocked ≠ -1 ↔ claimed = true)
    (taken : Display.sections.step d ev = some next) :
    next.ring.clientLocked ≠ -1 ↔ outstanding claimed ev = true := by
  cases ev with
  | halfPublish idx =>
      cases taken
      exact known
  | whole ev returned =>
      obtain ⟨returns, stepped⟩ := Option.ite_none_right_eq_some.mp taken
      cases ev with
      | writeSlot =>
          simp only [Display.step] at stepped
          split at stepped
          · rename_i idx ring claims
            obtain ⟨-, -, rfl⟩ := Ring.writeSlot_spec claims
            simp only [Display.returned, claims] at returns
            subst returns
            cases stepped
            refine iff_of_true ?_ rfl
            show (idx.val : Int) ≠ -1
            omega
          · rename_i aborts
            simp only [Display.returned, aborts] at returns
            subst returns
            cases stepped
            exact known
      | publish | evict =>
          cases stepped
          exact iff_of_false (fun claimed => claimed rfl) Bool.false_ne_true
      | render | storeFrameId | storeWriteTs =>
          cases stepped
          exact known
      | checkout =>
          simp only [Display.step, Ring.checkout] at stepped
          split at stepped
          · cases stepped
          · cases stepped
            split
            · exact known
            · exact known
      | release =>
          obtain ⟨-, same⟩ := Option.ite_none_right_eq_some.mp stepped
          cases same
          exact known

theorem claimed_of_run {trace : List (Display × SectionEvent)} {d : Display}
    (run : Display.sections.Run ⟨.create, none⟩ trace d) :
    d.ring.clientLocked ≠ -1 ↔ (trace.map Prod.snd).foldl outstanding false = true := by
  induction run with
  | nil => exact iff_of_false (fun claimed => claimed rfl) nofun
  | snoc _ taken ih =>
      rw [List.map_append, List.foldl_append]
      exact claimed_step ih taken

/-- `wisp_shm_ring_write_slot` calls `abort()` exactly if a claim is outstanding. That includes
the claims of clients that have been killed: in the middle of a section, between their sections,
or half way through a publication. -/
theorem aborts_iff_of_run (run : ringProgram.system.Run fresh trace finish) {pc : RingPc}
    {returned : RingReturn} (within : finish.place t = .within .writeSlot pc)
    (done : pc.access finish.shared = .inr returned) :
    returned = .abort ↔ (answers seen trace).foldl outstanding false = true := by
  obtain ⟨trace', d, run', known, -, same⟩ :=
    run.simulate (C := fun _ _ => True) (D := fun _ _ => True) simulates
      (fun _ _ _ _ _ _ _ => trivial) (fun _ _ => trivial) matches_fresh
  have ends : ringProgram.system.step finish (.unlock t) =
      some (ringProgram.leave finish t .writeSlot returned) := by
    show ringProgram.step finish (.unlock t) = _
    simp only [Program.step, within, show ringProgram.access pc finish.shared = _ from done]
  rw [← same, ← claimed_of_run run', ← Display.aborts_iff]
  rcases simulates finish _ _ d known ends with ⟨ev, d', event, stepped, -⟩ | ⟨event, -⟩
  · cases (seen_unlock within done).symm.trans event
    obtain ⟨returns, -⟩ := Option.ite_none_right_eq_some.mp stepped
    rw [← returns]
    exact .rfl
  · cases (seen_unlock within done).symm.trans event

/-- The claim of a client that has been killed is outstanding. -/
theorem aborts_iff_of_run_halfPublished :
    ∃ trace finish, ringProgram.system.Run fresh trace finish ∧
      trace.map Prod.snd = halfPublished ∧
      (RingReturn.abort = .abort ↔ (answers seen trace).foldl outstanding false = true) := by
  refine Demonstrates.exists_run
    (P := fun _ finish => finish.place (.producer 1) = .within .writeSlot .aborting)
    (by decide +kernel) ?_
  intro trace finish run within
  exact aborts_iff_of_run run within rfl

/-- Nobody waits in vain: a thread that waits for the mutex gets it after steps of the thread
that has it, if one has, and at once otherwise. -/
theorem locks_of_run (run : ringProgram.system.Run fresh trace finish) {op : RingOp}
    (waits : finish.place t = .waits op) :
    ∃ trace' s, ringProgram.system.Run finish trace' s ∧
      (∀ p ∈ trace', ∃ b, finish.mutex = .held p.2.thread b) ∧
      ∃ next b, ringProgram.system.step s (.lock t) = some next ∧ next.mutex = .held t b := by
  obtain ⟨-, d, -, ⟨a, known, -⟩, -, -⟩ :=
    run.simulate (C := fun _ _ => True) (D := fun _ _ => True) simulates
      (fun _ _ _ _ _ _ _ => trivial) (fun _ _ => trivial) matches_fresh
  exact Program.locks_of_waits known.coherent waits

/-- The data plane waits for the mutex that a client has, before the client is killed. -/
theorem locks_of_run_publish :
    ∃ trace finish, ringProgram.system.Run fresh trace finish ∧
      trace.map Prod.snd = halfPublished.take 12 ∧
      ∃ trace' s, ringProgram.system.Run finish trace' s ∧
        (∀ p ∈ trace', ∃ b, finish.mutex = .held p.2.thread b) ∧
        ∃ next b, ringProgram.system.step s (.lock .dataPlane) = some next ∧
          next.mutex = .held .dataPlane b := by
  refine Demonstrates.exists_run
    (P := fun _ finish => finish.place .dataPlane = .waits .checkout) (by decide +kernel) ?_
  intro trace finish run waits
  exact locks_of_run run waits

end RingThreads

end Wisp
