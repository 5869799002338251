import Wisp.Control.Modes
import Wisp.System.Serial
import Wisp.System.Startup

/-!
# No frame is larger than its buffer

The control thread hands the data plane the width and the height of a mode in two stores, and
nothing stops the data plane from reading one of them before and the other one after. The modes
of `main` are such that it does not matter: each width and each height is that of the largest
frame at most, so any two of them that the data plane can meet make a frame that fits a buffer.
-/

namespace Wisp

open Transition System

/-- No wider and no higher than the largest frame. -/
def WithinFrame (width height : UInt32) : Prop :=
  width.toNat ≤ frameMaxWidth ∧ height.toNat ≤ frameMaxHeight

instance (width height : UInt32) : Decidable (WithinFrame width height) :=
  inferInstanceAs (Decidable (_ ∧ _))

/-- The width of one size and the height of another. -/
theorem fitsFrame_of_within {width height width' height' : UInt32}
    (first : WithinFrame width height) (second : WithinFrame width' height') :
    FitsFrame width height' :=
  Nat.mul_le_mul_right _ (Nat.mul_le_mul first.1 second.2)

theorem withinFrame_zero : WithinFrame 0 0 := by decide

theorem withinFrame_supportedModes : ∀ m ∈ supportedModes, WithinFrame m.width m.height := by
  decide

namespace ControlPlane

variable {cp cp' : ControlPlane} {ev : Event}

/-- What an event does to the mode of a session: it is kept, or set to zero with the rest of the
slot, or a supported one. -/
theorem modes_of_changes (changes : Changes cp ev cp') :
    cp'.supportedModes = cp.supportedModes ∧ ∀ i,
      (cp'.table.slots i).negotiatedMode = (cp.table.slots i).negotiatedMode ∨
        (cp'.table.slots i).negotiatedMode = ⟨0, 0, 0⟩ ∨
        (cp'.table.slots i).negotiatedMode ∈ cp.supportedModes := by
  cases changes with
  | steady _ _ steady =>
      exact ⟨steady.supportedModes, fun i => .inl (by rw [steady.negotiatedMode])⟩
  | @joined fd j valid free =>
      refine ⟨rfl, fun i => ?_⟩
      by_cases same : i = j
      · subst same
        simp only [SessionTable.setSlot, Function.update_self]
        exact .inr (.inl rfl)
      · simp only [SessionTable.setSlot, Function.update_of_ne same]
        exact .inl trivial
  | refused => exact ⟨rfl, fun _ => .inl rfl⟩
  | @negotiated j type payload fds clock connect chosen inUse found =>
      refine ⟨rfl, fun i => ?_⟩
      by_cases same : i = j
      · subst same
        simp only [SessionTable.setSlot, Function.update_self]
        exact .inr (.inr (supported_of_negotiateMode found))
      · simp only [SessionTable.setSlot, Function.update_of_ne same]
        exact .inl trivial
  | left _ _ leaves =>
      exact ⟨leaves.supportedModes, fun i => .inl (by rw [leaves.negotiatedMode])⟩
  | announced => exact ⟨rfl, fun _ => .inl rfl⟩

theorem installed_eq (cp : ControlPlane) :
    cp.installed = cp.outward.filterMap Effect.installs := by
  rw [installed, outward, List.filterMap_filter]
  congr 1
  funext effect
  cases effect <;> rfl

/-- The modes, and what the last event has installed. -/
structure Within (cp : ControlPlane) : Prop where
  supported : ∀ m ∈ cp.supportedModes, WithinFrame m.width m.height
  negotiated : ∀ i, WithinFrame (cp.table.slots i).negotiatedMode.width
    (cp.table.slots i).negotiatedMode.height
  installed : ∀ size ∈ cp.installed, WithinFrame size.1 size.2

theorem Within.quiesce (within : cp.Within) : cp.quiesce.Within :=
  ⟨within.supported, within.negotiated, nofun⟩

theorem within_of_init {ring : Ring} {frameFd : Int} {dp : Bool} {supportedModes : List RenderMode}
    (created : init ring frameFd dp supportedModes = some cp)
    (modes : ∀ m ∈ supportedModes, WithinFrame m.width m.height) : cp.Within := by
  unfold init at created
  split at created
  · cases created
  · cases created
    exact ⟨fun m member => modes m (List.mem_of_mem_take member), fun _ => withinFrame_zero, nofun⟩

/-- The same but for the closing of descriptors. -/
theorem Within.congr (within : cp.Within) (same : cp'.quiesce = cp.quiesce)
    (outward : cp'.outward = cp.outward) : cp'.Within := by
  have modes : cp'.quiesce.supportedModes = cp.quiesce.supportedModes := by rw [same]
  have table : cp'.quiesce.table = cp.quiesce.table := by rw [same]
  change cp'.supportedModes = cp.supportedModes at modes
  change cp'.table = cp.table at table
  refine ⟨?_, ?_, ?_⟩
  · rw [modes]
    exact within.supported
  · rw [table]
    exact within.negotiated
  · rw [installed_eq, outward, ← installed_eq]
    exact within.installed

theorem Within.handle (within : cp.Within) (orderly : cp.Orderly) (on : ev.enabled cp = true) :
    (cp.quiesce.handle ev).Within := by
  have changes : Changes cp.quiesce ev (cp.quiesce.handle ev) :=
    changes_of_handle on orderly.quiesce.unadopted
  obtain ⟨same, modes⟩ := modes_of_changes changes
  refine ⟨?_, fun i => ?_, fun size installs => ?_⟩
  · rw [same]
    exact within.supported
  · obtain kept | zero | supported := modes i
    · rw [kept]
      exact within.negotiated i
    · rw [zero]
      exact withinFrame_zero
    · exact within.supported _ supported
  · obtain ⟨-, i, rfl⟩ := installed_of_changes rfl changes installs
    exact within.negotiated i

end ControlPlane

/-- A step of the poll loop keeps the sizes within the largest frame. -/
theorem PollLoop.Good.within {l l' : PollLoop} {ev : PollEvent} (good : l.Good)
    (within : l.cp.Within) (taken : pollLoop.step l ev = some l') : l'.cp.Within := by
  cases good.does taken with
  | event e is enabled same outward => exact (within.handle good.orderly enabled).congr same outward
  | nothing no same =>
      obtain same | same := same
      · rw [same]
        exact within
      · rw [same]
        exact within.quiesce

theorem DataPlane.size_step {dp dp' : DataPlane} {ring ring' : Ring} {ev : LoopEvent}
    (taken : dp.step ring ev = some (dp', ring')) :
    dp'.width = dp.width ∧ dp'.height = dp.height := by
  cases turns_of_step taken with
  | @clears source => cases source <;> exact ⟨rfl, rfl⟩
  | checksOut =>
      unfold checkedOut
      split <;> exact ⟨rfl, rfl⟩
  | counts =>
      unfold account
      split <;> exact ⟨rfl, rfl⟩
  | moves | releases => exact ⟨rfl, rfl⟩

/-- The effects of a handler leave the size alone or install another one. -/
theorem Exposed.within_perform {effects : List Effect} {x : Exposed}
    (within : WithinFrame x.dataPlane.width x.dataPlane.height)
    (installs : ∀ size ∈ effects.filterMap Effect.installs, WithinFrame size.1 size.2) :
    WithinFrame (effects.foldl perform x).dataPlane.width
      (effects.foldl perform x).dataPlane.height := by
  induction effects generalizing x with
  | nil => exact within
  | cons effect effects ih =>
      have rest : ∀ size ∈ effects.filterMap Effect.installs, WithinFrame size.1 size.2 := by
        intro size member
        refine installs size ?_
        rw [List.filterMap_cons]
        split
        · exact member
        · exact List.mem_cons_of_mem _ member
      refine ih ?_ rest
      cases effect with
      | setMode width height => exact installs (width, height) List.mem_cons_self
      | _ => exact within

namespace Server

variable {s t : Server} {e : ServerEvent}

/-- A step that leaves the poll loop alone leaves the size of the data plane alone. -/
theorem size_of_unmoved (unnamed : s.loopEvent e = none) (taken : server.step s e = some t) :
    t.plane.dataPlane.width = s.plane.dataPlane.width ∧
      t.plane.dataPlane.height = s.plane.dataPlane.height := by
  have acts := acts_of_step taken
  change s.step e = some t at taken
  cases e with
  | main =>
      obtain ⟨-, -, -, -, width, height, -⟩ := frame_of_mainStep taken
      exact ⟨width, height⟩
  | loop ev =>
      obtain ⟨plane, stepped, rfl⟩ := Option.map_eq_some_iff.mp taken
      obtain ⟨next, moved, rfl⟩ := Option.map_eq_some_iff.mp stepped
      exact DataPlane.size_step moved
  | post =>
      cases taken
      exact ⟨rfl, rfl⟩
  | controlSent =>
      cases (Option.ite_none_right_eq_some.mp taken).2
      exact ⟨rfl, rfl⟩
  | controlInterrupted =>
      simp only [step] at taken
      split at taken
      · cases (Option.ite_none_right_eq_some.mp taken).2
        exact ⟨rfl, rfl⟩
      · cases taken
  | controlTest =>
      have running : s.control.running = true := by
        by_contra stopped
        simp [loopEvent, stopped] at unnamed
      simp only [step, running, if_true] at taken
      split at taken
      · cases (Option.ite_none_left_eq_some.mp taken).2
        exact ⟨rfl, rfl⟩
      · cases taken
  | controlDrain =>
      simp only [loopEvent] at unnamed
      split at unnamed <;> cases unnamed
  | controlPoll | controlAccept | controlDispatch | controlRecv | controlTick | controlFails
  | elsewhere => cases unnamed
  | _ =>
      cases acts with
      | control goes => cases goes
      | _ => exact ⟨rfl, rfl⟩

/-- What every state keeps: no size is beyond the largest frame. -/
structure Sized (s : Server) : Prop where
  loop : s.control.loop.Good
  modes : s.control.loop.cp.Within
  plane : WithinFrame s.plane.dataPlane.width s.plane.dataPlane.height

theorem Sized.step (sized : s.Sized) (taken : server.step s e = some t) : t.Sized := by
  obtain ⟨ev, -, stepped, performs⟩ | ⟨unnamed, same⟩ := loopMoves_of_step taken
  · have modes := sized.loop.within sized.modes stepped
    refine ⟨(sized.loop.step stepped).1, modes, ?_⟩
    obtain idle | performed := performs
    · rw [idle]
      exact sized.plane
    · rw [performed]
      exact Exposed.within_perform sized.plane modes.installed
  · obtain ⟨width, height⟩ := size_of_unmoved unnamed taken
    refine ⟨?_, ?_, ?_⟩
    · rw [same]
      exact sized.loop
    · rw [same]
      exact sized.modes
    · rw [width, height]
      exact sized.plane

/-- With the modes of `main`, whatever is in the ring and whoever stores into it: a width and a
height that the data plane reads at any two moments of a run make a frame of which `write_ppm`
reads nothing beyond its buffer. -/
theorem readsInside_of_run {cp : ControlPlane} {taken : Int → Bool} {stale : Nat → Bool}
    {shared ring : Ring} {frameFd : Int} {dp : Bool} {mode : RenderMode}
    {trace : List (Server × ServerEvent)} {finish : Server}
    (created : ControlPlane.init ring frameFd dp supportedModes = some cp)
    (first : mode ∈ supportedModes)
    (run : server.Run (boot cp taken stale shared mode.width mode.height) trace finish) :
    ∀ s ∈ finish :: trace.map Prod.fst, ∀ t ∈ finish :: trace.map Prod.fst,
      ReadsInside s.plane.dataPlane.width t.plane.dataPlane.height := by
  have initial : (boot cp taken stale shared mode.width mode.height).Sized :=
    ⟨PollLoop.good_of_init taken created,
      ControlPlane.within_of_init created withinFrame_supportedModes,
      withinFrame_supportedModes mode first⟩
  have free : Meets (fun _ _ => True) trace := fun _ _ => trivial
  have kept (s : Server) (e : ServerEvent) (t : Server) (sized : s.Sized) (_ : True)
      (taken : server.step s e = some t) : t.Sized := sized.step taken
  have sized : ∀ s ∈ finish :: trace.map Prod.fst, s.Sized := by
    intro s member
    cases member with
    | head => exact run.invariant free initial kept
    | tail _ member =>
        obtain ⟨p, listed, rfl⟩ := List.mem_map.mp member
        exact run.through free initial kept p listed
  intro s visited t visited'
  exact readsInside_of_fits
    (fitsFrame_of_within (sized s visited).plane (sized t visited').plane)

/-- The data plane starts with the largest mode, and a client is granted the slot with the
smallest one. -/
theorem readsInside_of_run_activation :
    ∃ trace finish, server.Run (boot { ControlPlane.booted with supportedModes }
        (fun fd => decide (fd < 10)) (fun _ => true) .create 1280 720) trace finish ∧
      trace.map Prod.snd = activation ∧ finish.plane.dataPlane.width = 320 ∧
      ∀ s ∈ finish :: trace.map Prod.fst, ∀ t ∈ finish :: trace.map Prod.fst,
        ReadsInside s.plane.dataPlane.width t.plane.dataPlane.height := by
  refine Demonstrates.exists_run (P := fun _ finish => finish.plane.dataPlane.width = 320)
    (by decide +kernel) ?_
  intro trace finish run installed
  have created : ControlPlane.init .create 3 true supportedModes =
      some { ControlPlane.booted with supportedModes } := rfl
  have first : (⟨1280, 720, 30⟩ : RenderMode) ∈ supportedModes := by decide
  exact ⟨installed, readsInside_of_run created first run⟩

end Server

end Wisp
