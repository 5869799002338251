import Wisp.Control.Plane
import Wisp.DataPlane.Memory

/-!
# What the server acquires and gives back

`main` of `server.c` with the constructors and destructors it calls, as far as descriptors,
mappings, names and memory go. Every call may fail. What a constructor has acquired when it fails
it has to give back itself, and `main` gives back what the earlier ones have returned.

While the threads run, what is held changes only by the sockets of the clients.
-/

namespace Wisp

open Custody

/-- The call that has failed. -/
inductive Failure where
  | shmOpen
  | ftruncate
  | mmap
  | frameFd
  | fileSink
  | sinkOpen
  | abortFd
  | epoll
  | channelPipe
  | adminPipe
  | adminSocket
  | adminBind
  | adminListen
  | noModes
  | controlPipe
  | controlSocket
  | controlBind
  | controlListen
  deriving DecidableEq, Repr

/-! ### The ring -/

/-- The mapped ring. Its name is a constant in the source. -/
structure ShmRing where
  mapping : Resource Kind
  name : Resource Kind

/-- `wisps_shm_ring_create` -/
def shmRingCreate : Prog Kind (Except Failure ShmRing) := do
  match ← acquireBoth .segmentName .descriptor with
  | none => pure (.error .shmOpen)
  | some (name, fd) =>
      if ← call then
        let mapping ← acquire .mapping
        release fd
        match mapping with
        | none => pure (.error .mmap)
        | some mapping => pure (.ok ⟨mapping, name⟩)
      else
        release fd
        pure (.error .ftruncate)

/-- `wisps_shm_ring_destroy` -/
def shmRingDestroy (ring : ShmRing) : Prog Kind Unit := do
  release ring.mapping
  release ring.name

/-- `file_open`: the directory exists, or it can be made. -/
def fileOpen : Prog Kind Bool := do
  if ← call then pure true else call

/-! ### The data plane, the query channel, the admin plane and the control plane -/

/-- The descriptors of `wisps_data_plane_t`. -/
structure DataPlaneFds where
  abortFd : Resource Kind
  epollFd : Resource Kind

/-- `wisps_data_plane_init` -/
def dataPlaneInit : Prog Kind (Except Failure DataPlaneFds) := do
  if ← fileOpen then
    match ← acquire .eventFd with
    | none => pure (.error .abortFd)
    | some abortFd =>
        match ← acquire .epollFd with
        | none => do
            release abortFd
            pure (.error .epoll)
        | some epollFd => pure (.ok ⟨abortFd, epollFd⟩)
  else pure (.error .sinkOpen)

/-- The two ends of a pipe. -/
structure PipeFds where
  readFd : Resource Kind
  writeFd : Resource Kind

/-- `wisps_control_query_channel_init` -/
def controlQueryChannelInit : Prog Kind (Except Failure PipeFds) := do
  match ← acquireBoth .descriptor .descriptor with
  | none => pure (.error .channelPipe)
  | some (readFd, writeFd) => pure (.ok ⟨readFd, writeFd⟩)

/-- `wisps_control_query_channel_close` -/
def controlQueryChannelClose (chan : PipeFds) : Prog Kind Unit := do
  release chan.readFd
  release chan.writeFd

/-- The descriptors of a plane that listens on a socket, and the path the socket is bound to. -/
structure PlaneFds where
  stop : PipeFds
  listenFd : Resource Kind
  path : Resource Kind

/-- The common part of `wisps_admin_plane_init` and `wisps_control_plane_init`. -/
def planeInit (pipe socket bind listen : Failure) : Prog Kind (Except Failure PlaneFds) := do
  match ← acquireBoth .descriptor .descriptor with
  | none => pure (.error pipe)
  | some (readFd, writeFd) =>
      match ← acquire .descriptor with
      | none => do
          release readFd
          release writeFd
          pure (.error socket)
      | some listenFd =>
          match ← acquire .socketPath with
          | none => do
              release listenFd
              release readFd
              release writeFd
              pure (.error bind)
          | some path =>
              if ← call then pure (.ok ⟨⟨readFd, writeFd⟩, listenFd, path⟩)
              else do
                release listenFd
                release readFd
                release writeFd
                pure (.error listen)

/-- `wisps_admin_plane_init` -/
def adminPlaneInit : Prog Kind (Except Failure PlaneFds) :=
  planeInit .adminPipe .adminSocket .adminBind .adminListen

/-- `wisps_control_plane_init` -/
def controlPlaneInit (supportedModes : List RenderMode) : Prog Kind (Except Failure PlaneFds) :=
  if supportedModes.length = 0 then pure (.error .noModes)
  else planeInit .controlPipe .controlSocket .controlBind .controlListen

/-- `wisps_admin_plane_close` -/
def adminPlaneClose (ap : PlaneFds) : Prog Kind Unit := do
  release ap.listenFd
  release ap.stop.readFd
  release ap.stop.writeFd
  release ap.path

/-- `wisps_control_plane_close`: `ctrlFds` are the sockets of the slots in use. -/
def controlPlaneClose (cp : PlaneFds) (ctrlFds : List (Resource Kind)) : Prog Kind Unit := do
  releaseAll ctrlFds
  release cp.listenFd
  release cp.stop.readFd
  release cp.stop.writeFd
  release cp.path

/-! ### `main` -/

/-- `g_supported_modes` -/
def supportedModes : List RenderMode :=
  [⟨320, 240, 60⟩, ⟨640, 480, 60⟩, ⟨1280, 720, 30⟩]

/-- `sink_opts` -/
def sinkOpts : FileSinkOpts where
  outDir := "/tmp/wisp_frames".toList
  snapshotInterval := 0
  maxSnapshots := 0

/-- All that `main` keeps while its threads run. -/
structure Running where
  ring : ShmRing
  frameFd : Resource Kind
  sink : FileCtx
  dp : DataPlaneFds
  chan : PipeFds
  ap : PlaneFds
  cp : PlaneFds

/-- The last three calls with which `main` gives up. -/
def rollback (ring : ShmRing) (frameFd : Resource Kind) (sink : FileCtx) : Prog Kind Unit := do
  sink.close
  release frameFd
  shmRingDestroy ring

/-- `main` up to the threads, one constructor after the other. -/
def startup : Prog Kind (Except Failure Running) := do
  match ← shmRingCreate with
  | .error failure => pure (.error failure)
  | .ok ring =>
      match ← acquire .eventFd with
      | none => do
          shmRingDestroy ring
          pure (.error .frameFd)
      | some frameFd =>
          match ← FileCtx.create sinkOpts with
          | none => do
              release frameFd
              shmRingDestroy ring
              pure (.error .fileSink)
          | some sink =>
              match ← dataPlaneInit with
              | .error failure => do
                  rollback ring frameFd sink
                  pure (.error failure)
              | .ok dp =>
                  match ← controlQueryChannelInit with
                  | .error failure => do
                      rollback ring frameFd sink
                      pure (.error failure)
                  | .ok chan =>
                      match ← adminPlaneInit with
                      | .error failure => do
                          controlQueryChannelClose chan
                          rollback ring frameFd sink
                          pure (.error failure)
                      | .ok ap =>
                          match ← controlPlaneInit supportedModes with
                          | .error failure => do
                              adminPlaneClose ap
                              controlQueryChannelClose chan
                              rollback ring frameFd sink
                              pure (.error failure)
                          | .ok cp => pure (.ok ⟨ring, frameFd, sink, dp, chan, ap, cp⟩)

/-- `main` after the signal, the joins aside. -/
def shutdown (s : Running) (ctrlFds : List (Resource Kind)) : Prog Kind Unit := do
  adminPlaneClose s.ap
  controlPlaneClose s.cp ctrlFds
  s.sink.close
  release s.dp.abortFd
  release s.dp.epollFd
  controlQueryChannelClose s.chan
  release s.frameFd
  shmRingDestroy s.ring

/-- `main`. `serve` is what happens until the threads are gone: it returns the sockets of the
clients that are still there. -/
def main (serve : Prog Kind (List (Resource Kind))) : Prog Kind (Option Failure) := do
  match ← startup with
  | .error failure => pure (some failure)
  | .ok running =>
      let ctrlFds ← serve
      shutdown running ctrlFds
      pure none

/-! ### What is left -/

/-- What a constructor leaves behind when this call has failed. -/
def Failure.lost : Failure → Multiset Kind
  | .ftruncate | .mmap => {.segmentName}
  | .adminListen | .controlListen => {.socketPath}
  | _ => 0

/-- The data plane has been initialised when this call fails. -/
def Failure.late : Failure → Bool
  | .shmOpen | .ftruncate | .mmap | .frameFd | .fileSink | .sinkOpen | .abortFd
  | .epoll => false
  | _ => true

/-- What is left when `main` returns 1: the descriptors of the data plane are never closed. -/
def Failure.left (failure : Failure) : Multiset Kind :=
  failure.lost + if failure.late then {.eventFd, .epollFd} else 0

section Owned

def ShmRing.owned (ring : ShmRing) : Multiset (Resource Kind) := {ring.mapping} + {ring.name}

def DataPlaneFds.owned (dp : DataPlaneFds) : Multiset (Resource Kind) :=
  {dp.abortFd} + {dp.epollFd}

def PipeFds.owned (fds : PipeFds) : Multiset (Resource Kind) := {fds.readFd} + {fds.writeFd}

def PlaneFds.owned (fds : PlaneFds) : Multiset (Resource Kind) :=
  fds.stop.owned + {fds.listenFd} + {fds.path}

def Running.owned (s : Running) : Multiset (Resource Kind) :=
  s.ring.owned + {s.frameFd} + s.sink.owned + s.dp.owned + s.chan.owned + s.ap.owned + s.cp.owned

end Owned

/-- What a constructor does to the holdings: what it returns has been added, or it has failed,
early or late in `main`, and left its debris. -/
def Yields {α : Type} (owned : α → Multiset (Resource Kind)) (late : Bool)
    (held : Multiset (Resource Kind)) :
    Except Failure α → Multiset (Resource Kind) → Prop
  | .ok a, held' => held' = owned a + held
  | .error failure, held' =>
      failure.late = late ∧ ∃ lost, lost.map Resource.kind = failure.lost ∧ held' = lost + held

variable {held : Multiset (Resource Kind)}

theorem yields_clean {α : Type} {owned : α → Multiset (Resource Kind)} {failure : Failure}
    (clean : failure.lost = 0) : Yields owned failure.late held (.error failure) held :=
  ⟨rfl, 0, clean.symm, (zero_add held).symm⟩

theorem keeps_shmRingCreate :
    Keeps held shmRingCreate (Yields ShmRing.owned false held) := by
  refine .bind (.acquireBoth (.pure (yields_clean rfl)) fun name fd named _ => ?_)
  have debris {failure : Failure} (lost : failure.lost = {.segmentName}) :
      Yields ShmRing.owned failure.late held (.error failure) ({name} + held) :=
    ⟨rfl, {name}, by simp [named, lost], rfl⟩
  refine .bind (.call (.bind (.acquire ?_ fun mapping _ => ?_)) ?_)
  · refine .bind (.release (F := {name} + held) (by abel) (.pure ?_))
    exact debris rfl
  · refine .bind (.release (F := {mapping} + {name} + held) (by abel) (.pure ?_))
    exact rfl
  · refine .bind (.release (F := {name} + held) (by abel) (.pure ?_))
    exact debris rfl

theorem keeps_shmRingDestroy {ring : ShmRing} {Q : Unit → Multiset (Resource Kind) → Prop}
    (done : Q () held) : Keeps (ring.owned + held) (shmRingDestroy ring) Q :=
  .bind (.release (add_assoc ..) (.release rfl done))

theorem keeps_fileOpen {Q : Bool → Multiset (Resource Kind) → Prop} (ok : Q true held)
    (failed : Q false held) : Keeps held fileOpen Q :=
  .bind (.call (.pure ok) (.call ok failed))

theorem keeps_dataPlaneInit :
    Keeps held dataPlaneInit fun r held' =>
      Yields DataPlaneFds.owned false held r held' ∧
        ∀ dp, r = .ok dp → dp.owned.map Resource.kind = {.eventFd, .epollFd} := by
  refine .bind (keeps_fileOpen ?_ (.pure ⟨yields_clean rfl, nofun⟩))
  refine .bind (.acquire (.pure ⟨yields_clean rfl, nofun⟩) fun abortFd abort => ?_)
  refine .bind (.acquire ?_ fun epollFd epoll => .pure ⟨?_, ?_⟩)
  · exact .bind (.release rfl (.pure ⟨yields_clean rfl, nofun⟩))
  · show {epollFd} + ({abortFd} + held) = {abortFd} + {epollFd} + held
    abel
  · rintro dp ⟨⟩
    simp [DataPlaneFds.owned, abort, epoll]

theorem keeps_controlQueryChannelInit :
    Keeps held controlQueryChannelInit (Yields PipeFds.owned true held) :=
  .bind (.acquireBoth (.pure (yields_clean rfl)) fun _ _ _ _ => .pure rfl)

theorem keeps_controlQueryChannelClose {chan : PipeFds}
    {Q : Unit → Multiset (Resource Kind) → Prop} (done : Q () held) :
    Keeps (chan.owned + held) (controlQueryChannelClose chan) Q :=
  .bind (.release (add_assoc ..) (.release rfl done))

/-- Only the path is left behind, when `listen` fails on a socket that is bound already. -/
theorem keeps_planeInit {pipe socket bind listen : Failure}
    (late : pipe.late = true ∧ socket.late = true ∧ bind.late = true ∧ listen.late = true)
    (clean : pipe.lost = 0 ∧ socket.lost = 0 ∧ bind.lost = 0)
    (bound : listen.lost = {.socketPath}) :
    Keeps held (planeInit pipe socket bind listen) (Yields PlaneFds.owned true held) := by
  have gives {failure : Failure} (late : failure.late = true) (clean : failure.lost = 0) :
      Yields PlaneFds.owned true held (.error failure) held :=
    late ▸ yields_clean clean
  refine .bind (.acquireBoth (.pure (gives late.1 clean.1)) fun readFd writeFd _ _ => ?_)
  refine .bind (.acquire ?_ fun listenFd _ => ?_)
  · refine .bind (.release (F := {writeFd} + held) (by abel) (.bind (.release rfl (.pure ?_))))
    exact gives late.2.1 clean.2.1
  · have undo {held' rest : Multiset (Resource Kind)} {failure : Failure}
        (same : held' = {listenFd} + {readFd} + {writeFd} + rest)
        (yields : Yields PlaneFds.owned true held (.error failure) rest) :
        Keeps held'
          (do
            release listenFd
            release readFd
            release writeFd
            pure (.error failure) : Prog Kind (Except Failure PlaneFds))
          (Yields PlaneFds.owned true held) := by
      refine .bind (.release (F := {readFd} + {writeFd} + rest) (by rw [same]; abel) ?_)
      exact .bind (.release (add_assoc ..) (.bind (.release rfl (.pure yields))))
    refine .bind (.acquire ?_ fun path named => .bind (.call (.pure ?_) ?_))
    · exact undo (by abel) (gives late.2.2.1 clean.2.2)
    · simp only [Yields, PlaneFds.owned, PipeFds.owned]
      abel
    · exact undo (by abel) ⟨late.2.2.2, {path}, by simp [named, bound], rfl⟩

theorem keeps_adminPlaneInit :
    Keeps held adminPlaneInit (Yields PlaneFds.owned true held) :=
  keeps_planeInit ⟨rfl, rfl, rfl, rfl⟩ ⟨rfl, rfl, rfl⟩ rfl

theorem keeps_controlPlaneInit (modes : List RenderMode) :
    Keeps held (controlPlaneInit modes) (Yields PlaneFds.owned true held) := by
  unfold controlPlaneInit
  split
  · exact .pure (yields_clean rfl)
  · exact keeps_planeInit ⟨rfl, rfl, rfl, rfl⟩ ⟨rfl, rfl, rfl⟩ rfl

theorem keeps_adminPlaneClose {ap : PlaneFds} {Q : Unit → Multiset (Resource Kind) → Prop}
    (done : Q () held) : Keeps (ap.owned + held) (adminPlaneClose ap) Q := by
  unfold PlaneFds.owned PipeFds.owned
  refine .bind (.release
    (F := {ap.stop.readFd} + {ap.stop.writeFd} + {ap.path} + held) (by abel) ?_)
  refine .bind (.release (F := {ap.stop.writeFd} + {ap.path} + held) (by abel) ?_)
  exact .bind (.release (F := {ap.path} + held) (by abel) (.release rfl done))

theorem keeps_controlPlaneClose {cp : PlaneFds} {ctrlFds : List (Resource Kind)}
    {Q : Unit → Multiset (Resource Kind) → Prop} (done : Q () held) :
    Keeps ((ctrlFds : Multiset (Resource Kind)) + (cp.owned + held))
      (controlPlaneClose cp ctrlFds) Q :=
  .bind (.releaseAll rfl (keeps_adminPlaneClose done))

theorem keeps_rollback {ring : ShmRing} {frameFd : Resource Kind} {sink : FileCtx}
    {Q : Unit → Multiset (Resource Kind) → Prop} (fits : sink.Fits) (done : Q () held) :
    Keeps (sink.owned + ({frameFd} + (ring.owned + held))) (rollback ring frameFd sink) Q :=
  .bind (FileCtx.keeps_close fits (.bind (.release rfl (keeps_shmRingDestroy done))))

/-- What `startup` does: it returns all that is to be given back, or leaves what this failure
leaves. -/
def Starts : Except Failure Running → Multiset (Resource Kind) → Prop
  | .ok s, held => s.sink.Fits ∧ held = s.owned
  | .error failure, held => held.map Resource.kind = failure.left

/-- Early failures leave what the constructor has left. -/
theorem starts_early {failure : Failure} {lost : Multiset (Resource Kind)}
    (early : failure.late = false) (kinds : lost.map Resource.kind = failure.lost) :
    Starts (.error failure) lost := by
  simp [Starts, Failure.left, early, kinds]

/-- Late ones leave the descriptors of the data plane too. -/
theorem starts_late {failure : Failure} {lost : Multiset (Resource Kind)} {dp : DataPlaneFds}
    (late : failure.late = true) (kinds : lost.map Resource.kind = failure.lost)
    (fds : dp.owned.map Resource.kind = {.eventFd, .epollFd}) :
    Starts (.error failure) (lost + dp.owned) := by
  simp only [Starts, Failure.left, late, if_true, Multiset.map_add, kinds, fds]

theorem keeps_startup : Keeps 0 startup Starts := by
  refine .bind (keeps_shmRingCreate.mono fun r held known => ?_)
  cases r with
  | error failure =>
      obtain ⟨early, lost, kinds, rfl⟩ := known
      rw [add_zero]
      exact .pure (starts_early early kinds)
  | ok ring =>
  obtain rfl := known
  refine .bind (.acquire (.bind (keeps_shmRingDestroy (.pure (starts_early rfl rfl)))) ?_)
  intro frameFd _
  refine .bind (FileCtx.keeps_create sinkOpts ?_ fun sink held sound => ?_)
  · exact .bind (.release rfl (.bind (keeps_shmRingDestroy (.pure (starts_early rfl rfl)))))
  obtain ⟨fits, rfl⟩ := sound
  have undo {failure : Failure} {held F : Multiset (Resource Kind)}
      (same : held = sink.owned + ({frameFd} + (ring.owned + F)))
      (left : Starts (.error failure) F) :
      Keeps held (do rollback ring frameFd sink; pure (.error failure)) Starts :=
    same ▸ .bind (keeps_rollback fits (.pure left))
  refine .bind (keeps_dataPlaneInit.mono fun r held known => ?_)
  obtain ⟨known, fds⟩ := known
  cases r with
  | error failure =>
      obtain ⟨early, lost, kinds, rfl⟩ := known
      exact undo (F := lost) (by abel) (starts_early early kinds)
  | ok dp =>
  obtain rfl := known
  have fds := fds dp rfl
  refine .bind (keeps_controlQueryChannelInit.mono fun r held known => ?_)
  cases r with
  | error failure =>
      obtain ⟨late, lost, kinds, rfl⟩ := known
      exact undo (F := lost + dp.owned) (by abel) (starts_late late kinds fds)
  | ok chan =>
  obtain rfl := known
  have undo {failure : Failure} {held F : Multiset (Resource Kind)}
      (same : held = chan.owned + (sink.owned + ({frameFd} + (ring.owned + F))))
      (left : Starts (.error failure) F) :
      Keeps held
        (do
          controlQueryChannelClose chan
          rollback ring frameFd sink
          pure (.error failure)) Starts :=
    same ▸ .bind (keeps_controlQueryChannelClose (undo rfl left))
  refine .bind (keeps_adminPlaneInit.mono fun r held known => ?_)
  cases r with
  | error failure =>
      obtain ⟨late, lost, kinds, rfl⟩ := known
      exact undo (F := lost + dp.owned) (by abel) (starts_late late kinds fds)
  | ok ap =>
  obtain rfl := known
  refine .bind ((keeps_controlPlaneInit supportedModes).mono fun r held known => ?_)
  cases r with
  | error failure =>
      obtain ⟨late, lost, kinds, rfl⟩ := known
      rw [show lost + (ap.owned + (chan.owned + (dp.owned + (sink.owned + ({frameFd} +
        (ring.owned + 0)))))) = ap.owned + (chan.owned + (sink.owned + ({frameFd} +
          (ring.owned + (lost + dp.owned))))) by abel]
      exact .bind (keeps_adminPlaneClose (undo rfl (starts_late late kinds fds)))
  | ok cp =>
  obtain rfl := known
  refine .pure ⟨fits, ?_⟩
  simp only [Running.owned]
  abel

/-- All that `startup` has returned is given back, with the sockets of the clients. -/
theorem keeps_shutdown {s : Running} {ctrlFds : List (Resource Kind)}
    {Q : Unit → Multiset (Resource Kind) → Prop} (fits : s.sink.Fits) (done : Q () held) :
    Keeps ((ctrlFds : Multiset (Resource Kind)) + (s.owned + held)) (shutdown s ctrlFds) Q := by
  rw [show (ctrlFds : Multiset (Resource Kind)) + (s.owned + held) =
    s.ap.owned + (ctrlFds + (s.cp.owned + (s.sink.owned + ({s.dp.abortFd} + ({s.dp.epollFd} +
      (s.chan.owned + ({s.frameFd} + (s.ring.owned + held)))))))) by
        simp only [Running.owned, DataPlaneFds.owned]
        abel]
  refine .bind (keeps_adminPlaneClose (.bind (keeps_controlPlaneClose (.bind ?_))))
  refine FileCtx.keeps_close fits (.bind (.release rfl (.bind (.release rfl (.bind ?_)))))
  exact keeps_controlQueryChannelClose (.bind (.release rfl (keeps_shmRingDestroy done)))

/-- What is left when `main` has returned: nothing, or what this failure leaves. -/
def Ends (exit : Option Failure) (held : Multiset (Resource Kind)) : Prop :=
  held.map Resource.kind = exit.elim 0 Failure.left

/-- One client connects and stays until the end. -/
def oneClient : Prog Kind (List (Resource Kind)) := do
  let fd ← acquire .descriptor
  pure fd.toList

end Wisp
