import Wisp.Shm.Sample

/-!
# The loop of the data plane

`data_plane.c`. The loop sleeps in `epoll_wait` on two eventfds, `frame_fd` for published
frames and `abort_fd` for kicks, drains those that are reported, and looks at the ring if
`frame_fd` was among them. `LoopPc` says where it stands between two system calls or accesses
to shared memory.

The index a checkout returns is whatever `latest_ready` held, and it is used on the arrays of
the ring as it is. An access that is out of range has no defined result; the loop then
stands at `undefined`, and nothing is known about it any more.
-/

namespace Wisp

open Transition System
open Pipeline (bufOf)

/-- The largest value of an eventfd counter. -/
def eventfdMax : Nat := 2 ^ 64 - 2

/-- `write` of 1 to a non-blocking eventfd: a counter that is full stays as it is. -/
def eventfdWrite (counter : Nat) : Nat :=
  if counter < eventfdMax then counter + 1 else counter

theorem eventfdWrite_pos (counter : Nat) : 0 < eventfdWrite counter := by
  unfold eventfdWrite eventfdMax
  split
  · omega
  · omega

/-- The descriptors the loop waits for. -/
inductive Source where
  | frameFd
  | abortFd
  deriving DecidableEq, Repr

/-- Where `wisps_data_plane_run` stands. At `drain` the events not looked at yet are left,
the first of them being drained, and `haveFrameSignal` is what it is in the source. -/
inductive LoopPc where
  | top
  | wait
  | woken (events : List Source)
  | drain (events : List Source) (haveFrameSignal : Bool)
  | checkout
  | loadFrameId (idx : Int)
  | loadWriteTs (idx : Int) (frameId : UInt64)
  | loadPixels (idx : Int) (frameId writeTsNs : UInt64)
  | blit (idx : Int) (frameId writeTsNs : UInt64)
  | release (writeTsNs : UInt64) (rc : Int) (nowNs : UInt64)
  | count (writeTsNs : UInt64) (rc : Int) (nowNs : UInt64)
  | stopped
  | undefined
  deriving DecidableEq, Repr

/-- `wisps_data_plane_stats_t` -/
structure DataPlaneStats where
  framesRendered : UInt64
  framesDropped : UInt64
  blitErrors : UInt64
  lastWriteToRenderNs : UInt64
  deriving DecidableEq, Repr

/-- `wisps_data_plane_t`, with the counters of its two eventfds and the loop's program
counter. -/
structure DataPlane where
  frameFd : Nat
  abortFd : Nat
  width : UInt32
  height : UInt32
  running : Bool
  stats : DataPlaneStats
  loop : LoopPc

/-- A step of the loop: a system call with an outcome the kernel or the sink decides, or the
next step of the code. -/
inductive LoopEvent where
  | next
  | wake (events : List Source)
  | interrupted
  | broken
  | blitted (rc : Int) (nowNs : UInt64)
  deriving DecidableEq, Repr

namespace DataPlane

/-- `wisps_data_plane_init` -/
def init (width height : UInt32) : DataPlane where
  frameFd := 0
  abortFd := 0
  width
  height
  running := true
  stats := ⟨0, 0, 0, 0⟩
  loop := .top

/-- `wisps_data_plane_kick` -/
def kick (dp : DataPlane) : DataPlane :=
  { dp with abortFd := eventfdWrite dp.abortFd }

/-- `wisps_data_plane_set_mode`, less the call of the sink. -/
def setMode (dp : DataPlane) (width height : UInt32) : DataPlane :=
  { dp with width, height }

/-- The store that opens `wisps_data_plane_stop`; a kick follows. -/
def halt (dp : DataPlane) : DataPlane :=
  { dp with running := false }

/-- Move the loop. -/
def goto (dp : DataPlane) (loop : LoopPc) : DataPlane :=
  { dp with loop }

/-- The counter behind a descriptor. -/
def counter (dp : DataPlane) : Source → Nat
  | .frameFd => dp.frameFd
  | .abortFd => dp.abortFd

/-- A `read` that returns clears the counter. -/
def clear (dp : DataPlane) : Source → DataPlane
  | .frameFd => { dp with frameFd := 0 }
  | .abortFd => { dp with abortFd := 0 }

/-- What `epoll_wait` may report: some of the readable descriptors, each once. -/
def reports (dp : DataPlane) (events : List Source) : Bool :=
  !events.isEmpty && decide events.Nodup && events.all fun source => decide (0 < dp.counter source)

/-- The statistics after a blit. -/
def account (dp : DataPlane) (writeTsNs : UInt64) (rc : Int) (nowNs : UInt64) : DataPlane :=
  if rc ≠ 0 then { dp with stats := { dp.stats with blitErrors := dp.stats.blitErrors + 1 } }
  else { dp with
    stats := { dp.stats with
      framesRendered := dp.stats.framesRendered + 1
      lastWriteToRenderNs := nowNs - writeTsNs } }

/-- The loop after a checkout has returned. -/
def checkedOut (dp : DataPlane) (idx : Int) : DataPlane :=
  if idx < 0 then
    { dp with stats := { dp.stats with framesDropped := dp.stats.framesDropped + 1 } }.goto .top
  else dp.goto (.loadFrameId idx)

/-- The next step of the code, with the ring it leaves behind. -/
def next (dp : DataPlane) (ring : Ring) : Option (DataPlane × Ring) :=
  match dp.loop with
  | .top => some (dp.goto (if dp.running then .wait else .stopped), ring)
  | .woken events => some (dp.goto (if dp.running then .drain events false else .stopped), ring)
  | .drain [] haveFrameSignal =>
      some (dp.goto (if haveFrameSignal then .checkout else .top), ring)
  | .drain (source :: events) haveFrameSignal =>
      if 0 < dp.counter source then some (dp.clear source, ring)
      else some (dp.goto (.drain events (haveFrameSignal || source == .frameFd)), ring)
  | .checkout => some (dp.checkedOut ring.checkout.1, ring.checkout.2)
  | .loadFrameId idx =>
      match bufOf idx with
      | some i => some (dp.goto (.loadWriteTs idx (ring.frameId i)), ring)
      | none => some (dp.goto .undefined, ring)
  | .loadWriteTs idx frameId =>
      match bufOf idx with
      | some i => some (dp.goto (.loadPixels idx frameId (ring.writeTsNs i)), ring)
      | none => some (dp.goto .undefined, ring)
  | .loadPixels idx frameId writeTsNs =>
      match bufOf idx with
      | some _ => some (dp.goto (.blit idx frameId writeTsNs), ring)
      | none => some (dp.goto .undefined, ring)
  | .release writeTsNs rc nowNs => some (dp.goto (.count writeTsNs rc nowNs), ring.release)
  | .count writeTsNs rc nowNs => some ((dp.account writeTsNs rc nowNs).goto .top, ring)
  | .wait | .blit _ _ _ | .stopped | .undefined => none

/-- A step of the loop. -/
def step (dp : DataPlane) (ring : Ring) : LoopEvent → Option (DataPlane × Ring)
  | .next => dp.next ring
  | .wake events =>
      match dp.loop with
      | .wait => if dp.reports events then some (dp.goto (.woken events), ring) else none
      | _ => none
  | .interrupted =>
      match dp.loop with
      | .wait => some (dp.goto .top, ring)
      | _ => none
  | .broken =>
      match dp.loop with
      | .wait => some (dp.goto .stopped, ring)
      | _ => none
  | .blitted rc nowNs =>
      match dp.loop with
      | .blit _ _ writeTsNs => some (dp.goto (.release writeTsNs rc nowNs), ring)
      | _ => none

end DataPlane

/-- The index at which a step from here accesses the arrays of the ring. -/
def LoopPc.access : LoopPc → Option Int
  | .loadFrameId idx | .loadWriteTs idx _ | .loadPixels idx _ _ | .blit idx _ _ => some idx
  | _ => none

/-- A frame signal has been reported and the loop is on its way to a checkout. -/
def LoopPc.bound : LoopPc → Bool
  | .drain events haveFrameSignal => haveFrameSignal || events.contains .frameFd
  | .checkout => true
  | _ => false

namespace DataPlane

/-- What a step of the loop does: it moves on, drains a descriptor, or is one of the three
steps that change the ring or the statistics. -/
inductive Turns (dp : DataPlane) (ring : Ring) : DataPlane → Ring → Prop where
  | moves {loop : LoopPc} (elsewhere : dp.loop ≠ .checkout)
      (bound : dp.loop.bound = true → loop.bound = true)
      (access : ∀ idx, loop.access = some idx → dp.loop.access = some idx) :
      Turns dp ring (dp.goto loop) ring
  | clears {source : Source} {events : List Source} {haveFrameSignal : Bool}
      (stands : dp.loop = .drain (source :: events) haveFrameSignal) :
      Turns dp ring (dp.clear source) ring
  | checksOut (stands : dp.loop = .checkout) :
      Turns dp ring (dp.checkedOut ring.checkout.1) ring.checkout.2
  | releases {writeTsNs : UInt64} {rc : Int} {nowNs : UInt64}
      (stands : dp.loop = .release writeTsNs rc nowNs) :
      Turns dp ring (dp.goto (.count writeTsNs rc nowNs)) ring.release
  | counts {writeTsNs : UInt64} {rc : Int} {nowNs : UInt64}
      (stands : dp.loop = .count writeTsNs rc nowNs) :
      Turns dp ring ((dp.account writeTsNs rc nowNs).goto .top) ring

variable {dp dp' : DataPlane} {ring ring' : Ring} {ev : LoopEvent}

/-- A step to a place from which nothing is accessed, when no checkout is due. -/
theorem Turns.of_goto {loop : LoopPc} (elsewhere : dp.loop.bound = false)
    (access : loop.access = none) : Turns dp ring (dp.goto loop) ring := by
  refine .moves ?_ ?_ ?_
  · rintro checkout
    simp [checkout, LoopPc.bound] at elsewhere
  · simp [elsewhere]
  · simp [access]

/-- An access that is in range goes on with the same index. -/
theorem Turns.of_load (idx : Int) {loop : LoopPc} (stands : dp.loop.access = some idx)
    (works : loop.access = some idx) : Turns dp ring (dp.goto loop) ring := by
  refine .moves ?_ ?_ ?_
  · rintro checkout
    simp [checkout, LoopPc.access] at stands
  · cases pc : dp.loop <;> simp_all [LoopPc.access, LoopPc.bound]
  · simp [stands, works]

theorem turns_of_next (taken : dp.next ring = some (dp', ring')) : Turns dp ring dp' ring' := by
  cases stands : dp.loop <;> simp only [next, stands] at taken
  case top | woken =>
      cases taken
      refine .of_goto (by rw [stands]; rfl) ?_
      split <;> rfl
  case drain events haveFrameSignal =>
      cases events with
      | nil =>
          cases taken
          refine .moves (by simp [stands]) ?_ ?_
          · cases haveFrameSignal <;> simp [stands, LoopPc.bound]
          · cases haveFrameSignal <;> simp [LoopPc.access]
      | cons source events =>
          dsimp only at taken
          split at taken
          · cases taken
            exact .clears stands
          · cases taken
            refine .moves (by simp [stands]) ?_ ?_
            · cases source <;> simp [stands, LoopPc.bound]
            · simp [LoopPc.access]
  case checkout =>
      cases taken
      exact .checksOut stands
  case loadFrameId idx =>
      split at taken
      · cases taken
        exact .of_load idx (by rw [stands]; rfl) rfl
      · cases taken
        exact .of_goto (by rw [stands]; rfl) rfl
  case loadWriteTs idx frameId =>
      split at taken
      · cases taken
        exact .of_load idx (by rw [stands]; rfl) rfl
      · cases taken
        exact .of_goto (by rw [stands]; rfl) rfl
  case loadPixels idx frameId writeTsNs =>
      split at taken
      · cases taken
        exact .of_load idx (by rw [stands]; rfl) rfl
      · cases taken
        exact .of_goto (by rw [stands]; rfl) rfl
  case release =>
      cases taken
      exact .releases stands
  case count =>
      cases taken
      exact .counts stands
  all_goals cases taken

/-- Every step of the loop is one of these. -/
theorem turns_of_step (taken : dp.step ring ev = some (dp', ring')) :
    Turns dp ring dp' ring' := by
  cases ev with
  | next => exact turns_of_next taken
  | wake events =>
      cases stands : dp.loop <;> simp only [step, stands] at taken
      case wait =>
          split at taken
          · cases taken
            exact .of_goto (by rw [stands]; rfl) rfl
          · cases taken
      all_goals cases taken
  | interrupted | broken =>
      cases stands : dp.loop <;> simp only [step, stands] at taken
      case wait =>
          cases taken
          exact .of_goto (by rw [stands]; rfl) rfl
      all_goals cases taken
  | blitted rc nowNs =>
      cases stands : dp.loop <;> simp only [step, stands] at taken
      case blit =>
          cases taken
          exact .of_goto (by rw [stands]; rfl) rfl
      all_goals cases taken

@[simp] theorem clear_loop (dp : DataPlane) (source : Source) :
    (dp.clear source).loop = dp.loop := by
  cases source <;> rfl

/-- The loop works on an index it has worked on before, or on one that a checkout returned. -/
theorem access_of_turns (turns : Turns dp ring dp' ring') {idx : Int}
    (works : dp'.loop.access = some idx) :
    dp.loop.access = some idx ∨ dp.loop = .checkout ∧ 0 ≤ idx ∧ idx = ring.latestReady := by
  cases turns with
  | moves elsewhere bound access => exact .inl (access idx works)
  | clears =>
      rw [clear_loop] at works
      exact .inl works
  | checksOut stands =>
      simp only [checkedOut] at works
      split at works
      · cases works
      · cases works
        exact .inr ⟨stands, Int.not_lt.mp ‹_›, rfl⟩
  | releases => cases works
  | counts => cases works

end DataPlane

/-- The index of a buffer. -/
def InRange (idx : Int) : Prop :=
  0 ≤ idx ∧ idx < (numBuffers : Int)

instance (idx : Int) : Decidable (InRange idx) :=
  inferInstanceAs (Decidable (_ ∧ _))

/-- The data plane, and the ring as any process that has mapped it may leave it. -/
structure Exposed where
  ring : Ring
  dataPlane : DataPlane

/-- A step of the loop, or anything the other processes and threads do: stores to the ring,
signals, kicks, changes of the mode, and the end. -/
inductive ExposedEvent where
  | loop (ev : LoopEvent)
  | store (ring : Ring)
  | signal
  | kick
  | setMode (width height : UInt32)
  | halt

namespace Exposed

variable {x y : Exposed} {ev : ExposedEvent}

def step (x : Exposed) : ExposedEvent → Option Exposed
  | .loop ev => (x.dataPlane.step x.ring ev).map fun next => ⟨next.2, next.1⟩
  | .store ring => some { x with ring }
  | .signal =>
      some { x with dataPlane := { x.dataPlane with frameFd := eventfdWrite x.dataPlane.frameFd } }
  | .kick => some { x with dataPlane := x.dataPlane.kick }
  | .setMode width height => some { x with dataPlane := x.dataPlane.setMode width height }
  | .halt => some { x with dataPlane := x.dataPlane.halt }

/-- The data plane on a ring that is not trusted, as a transition system. -/
def system : System Exposed ExposedEvent where
  step := step

/-- A checkout returns `-1` or the index of a buffer, and an access is to a buffer. -/
def Contained (x : Exposed) : ExposedEvent → Prop
  | .loop _ =>
      (x.dataPlane.loop = .checkout → x.ring.checkout.1 = -1 ∨ InRange x.ring.checkout.1) ∧
        ∀ idx ∈ x.dataPlane.loop.access, InRange idx
  | _ => True

/-- At a checkout `latest_ready` holds `-1` or the index of a buffer. -/
def Candid (x : Exposed) : ExposedEvent → Prop
  | .loop _ =>
      x.dataPlane.loop = .checkout →
        -1 ≤ x.ring.latestReady ∧ x.ring.latestReady < (numBuffers : Int)
  | _ => True

instance (x : Exposed) (ev : ExposedEvent) : Decidable (x.Contained ev) :=
  match ev with
  | .loop _ => inferInstanceAs (Decidable (_ ∧ ∀ idx ∈ x.dataPlane.loop.access, _))
  | .store _ | .signal | .kick | .setMode _ _ | .halt => isTrue trivial

instance (x : Exposed) (ev : ExposedEvent) : Decidable (x.Candid ev) :=
  match ev with
  | .loop _ => inferInstanceAs (Decidable (_ → _ ∧ _))
  | .store _ | .signal | .kick | .setMode _ _ | .halt => isTrue trivial

/-- The index the loop works on is one of a buffer. -/
def Tame (x : Exposed) : Prop :=
  ∀ idx ∈ x.dataPlane.loop.access, InRange idx

theorem tame_step (tame : x.Tame) (candid : x.Candid ev) (taken : system.step x ev = some y) :
    y.Tame := by
  cases ev with
  | loop ev =>
      obtain ⟨⟨dp, ring⟩, turned, rfl⟩ := Option.map_eq_some_iff.mp taken
      intro idx works
      rcases DataPlane.access_of_turns (DataPlane.turns_of_step turned) works with
        before | ⟨stands, positive, rfl⟩
      · exact tame idx before
      · exact ⟨positive, (candid stands).2⟩
  | store | signal | kick | setMode | halt =>
      cases taken
      exact tame

theorem contained_iff (tame : x.Tame) : x.Contained ev ↔ x.Candid ev := by
  cases ev with
  | loop ev =>
      have returns : x.ring.checkout.1 = x.ring.latestReady := rfl
      simp only [Contained, Candid, InRange, returns]
      constructor
      · rintro ⟨contained, -⟩ stands
        have := contained stands
        omega
      · intro candid
        refine ⟨fun stands => ?_, tame⟩
        have := candid stands
        omega
  | store | signal | kick | setMode | halt => exact Iff.rfl

/-- The data plane stays within the buffers exactly as long as each checkout finds a value in
`latest_ready` that a well-behaved producer may have stored there. -/
theorem contained_iff_candid {ring : Ring} {width height : UInt32}
    {trace : List (Exposed × ExposedEvent)}
    (run : system.Run ⟨ring, .init width height⟩ trace x) :
    Meets Contained trace ↔ Meets Candid trace := by
  refine run.exact (A := fun _ _ => True) (I := Tame) (fun _ _ => trivial) ?_ ?_ ?_
  · intro idx works
    cases works
  · intro x ev y tame _ candid taken
    exact tame_step tame candid taken
  · intro x ev y tame _ _
    exact contained_iff tame

/-- One frame signal, up to the first access to a buffer. -/
def glance : List ExposedEvent :=
  [.signal, .loop .next, .loop (.wake [.frameFd])] ++ List.replicate 6 (.loop .next)

/-- The second buffer is ready. -/
theorem contained_of_ready :
    ∃ trace x, system.Run ⟨{ Ring.create with latestReady := 1 }, .init 320 240⟩ trace x ∧
      trace.map Prod.snd = glance ∧ Meets Contained trace := by
  refine Demonstrates.exists_run (P := fun trace _ => Meets Candid trace) (by decide +kernel) ?_
  intro trace x run candid
  exact (contained_iff_candid run).mpr candid

/-- A producer stores an index that no buffer has. -/
theorem not_contained_of_stray :
    ∃ trace x, system.Run ⟨{ Ring.create with latestReady := 7 }, .init 320 240⟩ trace x ∧
      trace.map Prod.snd = glance ∧ ¬ Meets Contained trace :=
  Demonstrates.run (by decide +kernel)

end Exposed

end Wisp
