import Wisp.Control.Connect
import Wisp.DataPlane.Sink
import Wisp.Protocol.Codec

/-!
# The modes that a grant installs

A grant hands the mode of the session to the data plane, and the sink reads a frame of that
size out of a buffer of `WISP_FRAME_MAX_SIZE` bytes. The mode of a session is one of the
supported modes, as `negotiate_mode` only chooses among those, and the supported modes are what
`wisps_control_plane_init` was called with. Nothing on the way looks at the size: it depends on
the configuration alone whether the frame fits.
-/

namespace Wisp

open Transition System

/-- A frame of this size fits a buffer. -/
def FitsFrame (width height : UInt32) : Prop :=
  width.toNat * height.toNat * bytesPerPixel ≤ frameMaxSize

instance (width height : UInt32) : Decidable (FitsFrame width height) :=
  inferInstanceAs (Decidable (_ ≤ _))

/-- What `write_ppm` reads of a frame of this size is in the buffer. -/
def ReadsInside (width height : UInt32) : Prop :=
  ∀ offset ∈ ppmReads width height, offset < frameMaxSize

theorem mem_upTo {size n : UInt32} (member : n ∈ upTo size) : n.toNat < size.toNat := by
  obtain ⟨k, below, rfl⟩ := List.mem_map.mp member
  have small := List.mem_range.mp below
  have bound := size.toNat_lt
  rw [UInt32.toNat_ofNat', Nat.mod_eq_of_lt (by omega)]
  exact small

/-- A pixel of a frame that fits lies in the buffer: neither product wraps around. -/
theorem srcOffset_lt {width height y x byte : UInt32} (fits : FitsFrame width height)
    (row : y.toNat < height.toNat) (column : x.toNat < width.toNat) (channel : byte.toNat < 4) :
    srcOffset width y x byte < frameMaxSize := by
  have whole : (y.toNat + 1) * width.toNat ≤ width.toNat * height.toNat := by
    rw [Nat.mul_comm]
    exact Nat.mul_le_mul_left _ row
  rw [Nat.succ_mul] at whole
  have size : frameMaxSize = 3686400 := rfl
  have bytes : width.toNat * height.toNat * 4 ≤ 3686400 := size ▸ fits
  have rows : (y.toUInt64 * width.toUInt64 * 4).toNat = y.toNat * width.toNat * 4 := by
    rw [UInt64.toNat_mul, UInt64.toNat_mul, UInt32.toNat_toUInt64, UInt32.toNat_toUInt64]
    show y.toNat * width.toNat % 2 ^ 64 * 4 % 2 ^ 64 = _
    omega
  have columns : (x * 4 + byte).toNat = x.toNat * 4 + byte.toNat := by
    rw [UInt32.toNat_add, UInt32.toNat_mul]
    show (x.toNat * 4 % 2 ^ 32 + byte.toNat) % 2 ^ 32 = _
    omega
  rw [srcOffset, rows, columns]
  omega

theorem readsInside_of_fits {width height : UInt32} (fits : FitsFrame width height) :
    ReadsInside width height := by
  intro offset member
  obtain ⟨y, row, member⟩ := List.mem_flatMap.mp member
  obtain ⟨x, column, member⟩ := List.mem_flatMap.mp member
  have inside (byte : UInt32) (channel : byte.toNat < 4) :
      srcOffset width y x byte < frameMaxSize :=
    srcOffset_lt fits (mem_upTo row) (mem_upTo column) channel
  simp only [List.mem_cons, List.not_mem_nil, or_false] at member
  rcases member with rfl | rfl | rfl
  · exact inside 0 (by decide)
  · exact inside 1 (by decide)
  · exact inside 2 (by decide)

/-- The size that an effect installs. -/
def Effect.installs : Effect → Option (UInt32 × UInt32)
  | .setMode width height => some (width, height)
  | _ => none

namespace ControlPlane

variable {cp cp' start next : ControlPlane} {ev : Event} {trace : List (ControlPlane × Event)}
variable {ring : Ring} {frameFd : Int} {dp : Bool} {supportedModes : List RenderMode}

/-- The sizes that the last event installed, in order. -/
def installed (cp : ControlPlane) : List (UInt32 × UInt32) :=
  cp.out.filterMap Effect.installs

/-- Every installed size fits a buffer, and so does all that is read of it. -/
def InstallsFit (cp : ControlPlane) : Prop :=
  ∀ size ∈ cp.installed, FitsFrame size.1 size.2 ∧ ReadsInside size.1 size.2

/-- The supported modes and the modes of all sessions fit a buffer. -/
structure Fitted (cp : ControlPlane) : Prop where
  supported : ∀ m ∈ cp.supportedModes, FitsFrame m.width m.height
  negotiated : ∀ i, FitsFrame (cp.table.slots i).negotiatedMode.width
    (cp.table.slots i).negotiatedMode.height

theorem Fitted.quiesce (fitted : cp.Fitted) : cp.quiesce.Fitted :=
  ⟨fitted.supported, fitted.negotiated⟩

theorem fitsFrame_none : FitsFrame 0 0 := by decide

theorem fitted_of_init (created : init ring frameFd dp supportedModes = some start)
    (fits : ∀ m ∈ supportedModes.take maxModes, FitsFrame m.width m.height) : start.Fitted := by
  unfold init at created
  split at created
  · cases created
  · cases created
    exact ⟨fits, fun _ => fitsFrame_none⟩

/-- A mode that is chosen is a supported one. -/
theorem supported_of_negotiateMode {offered : List RenderMode} {chosen : RenderMode}
    (found : cp.negotiateMode offered = some chosen) : chosen ∈ cp.supportedModes := by
  rw [negotiateMode_eq] at found
  simpa using List.find?_some found

theorem fitted_of_changes (fitted : cp.Fitted) (changes : Changes cp ev cp') : cp'.Fitted := by
  cases changes with
  | steady _ _ steady =>
      refine ⟨?_, fun i => ?_⟩
      · rw [steady.supportedModes]
        exact fitted.supported
      · rw [steady.negotiatedMode]
        exact fitted.negotiated i
  | @joined fd j valid free =>
      refine ⟨fitted.supported, fun i => ?_⟩
      by_cases same : i = j
      · subst same
        simp only [SessionTable.setSlot, Function.update_self]
        exact fitsFrame_none
      · simp only [SessionTable.setSlot, Function.update_of_ne same]
        exact fitted.negotiated i
  | refused => exact ⟨fitted.supported, fitted.negotiated⟩
  | @negotiated j type payload fds clock connect chosen inUse found =>
      refine ⟨fitted.supported, fun i => ?_⟩
      by_cases same : i = j
      · subst same
        simp only [SessionTable.setSlot, Function.update_self]
        exact fitted.supported chosen (supported_of_negotiateMode found)
      · simp only [SessionTable.setSlot, Function.update_of_ne same]
        exact fitted.negotiated i
  | left _ _ leaves =>
      refine ⟨?_, fun i => ?_⟩
      · rw [leaves.supportedModes]
        exact fitted.supported
      · rw [leaves.negotiatedMode]
        exact fitted.negotiated i
  | announced => exact ⟨fitted.supported, fitted.negotiated⟩

/-- What an event installs is the mode of a session, and needs a data plane. -/
theorem installed_of_changes (quiet : cp.out = []) (changes : Changes cp ev cp')
    {size : UInt32 × UInt32} (installs : size ∈ cp'.installed) :
    cp.dp = true ∧ ∃ i, size = ((cp.table.slots i).negotiatedMode.width,
      (cp.table.slots i).negotiatedMode.height) := by
  obtain ⟨e, member, made⟩ := List.mem_filterMap.mp installs
  have ordinary (kept : cp.Ordinary e) :
      cp.dp = true ∧ ∃ i, size = ((cp.table.slots i).negotiatedMode.width,
        (cp.table.slots i).negotiatedMode.height) := by
    cases e with
    | setMode width height =>
        cases made
        obtain ⟨attached, i, same⟩ := kept
        exact ⟨attached, i, Prod.ext same.1 same.2⟩
    | _ => cases made
  cases changes with
  | steady _ _ steady =>
      obtain ⟨effects, out, kept⟩ := steady.out
      rw [out, quiet] at member
      exact ordinary (kept e member)
  | joined =>
      rw [quiet] at member
      cases member
  | refused =>
      simp only [emit, quiet, List.nil_append, List.mem_singleton] at member
      rw [member] at made
      cases made
  | negotiated =>
      simp only [send, emit, quiet, List.nil_append, List.mem_singleton] at member
      rw [member] at made
      cases made
  | left _ _ leaves =>
      obtain ⟨before, after, out, kept⟩ := leaves.out
      rw [out, quiet, List.nil_append, List.mem_append, List.mem_cons] at member
      rcases member with member | rfl | member
      · exact ordinary (kept e (List.mem_append_left _ member))
      · cases made
      · exact ordinary (kept e (List.mem_append_right _ member))
  | announced =>
      simp only [send, emit, quiet, List.nil_append, List.mem_append, List.mem_map,
        List.mem_singleton] at member
      rcases member with ⟨fd, _, rfl⟩ | rfl
      · cases made
      · cases made

theorem dp_of_changes (changes : Changes cp ev cp') : cp'.dp = cp.dp := by
  cases changes with
  | steady _ _ steady => exact steady.dp
  | left _ _ leaves => exact leaves.dp
  | _ => rfl

/-- A client that offers a supported mode gets it. -/
theorem handleReadable_offering {mode : RenderMode} (supported : mode ∈ cp.supportedModes)
    (idx : Slot) (name : ClientId) (clock : Timespec) :
    cp.handleReadable idx (.message MsgKind.connect.toByte
        (ConnectMsg.offering name mode).toBytes []) clock =
      { cp.send idx (.mode true mode) with
        table := cp.table.setSlot idx (negotiated (cp.table.slots idx)
          (connectOf (ConnectMsg.offering name mode).toBytes) mode) } := by
  have handed : connectOf (ConnectMsg.offering name mode).toBytes =
      { ConnectMsg.offering name mode with clientId := name.terminate } := by
    have one : (ConnectMsg.offering name mode).numModes.toNat ≤ maxModes :=
      show (1 : UInt32).toNat ≤ maxModes by decide
    rw [connectOf_eq (ConnectMsg.toBytes_length _) (by rw [ConnectMsg.ofBytes_toBytes]; exact one),
      ConnectMsg.ofBytes_toBytes]
    rfl
  have found : cp.negotiateMode [mode] = some mode := by
    rw [negotiateMode_eq]
    simp [supported]
  have offered : { ConnectMsg.offering name mode with clientId := name.terminate }.offered =
      [mode] := rfl
  have matching : ¬ ((ConnectMsg.offering name mode).protocolMagic ≠ protocolMagic ∨
      (ConnectMsg.offering name mode).protocolMajor ≠ protocolVersionMajor) := by
    rintro (magic | major)
    · exact magic rfl
    · exact major rfl
  rw [handleReadable_connect, handed, handleConnect, if_neg matching]
  simp only [offered, found]
  rfl

/-- A request that is granted at once installs the mode of the session. -/
theorem installed_of_request {idx : Slot} (attached : cp.dp = true)
    (settled : (cp.table.slots idx).state = .negotiated)
    (free : cp.table.rtSlotTaken = false) (inactive : cp.table.activeSlot = none)
    (clock : Timespec) :
    ((cp.table.slots idx).negotiatedMode.width, (cp.table.slots idx).negotiatedMode.height) ∈
      (cp.handleActivateRequest idx clock).installed := by
  have granted : cp.handleActivateRequest idx clock = cp.doGrant idx := by
    simp [handleActivateRequest, grantSlot, settled, free, inactive]
  have mode : (cp.evictClient.table.grant idx cp.evictClient.ring.generation).slots idx =
      { cp.table.slots idx with
        state := .grantedWarmup, grantedGeneration := cp.evictClient.ring.generation } :=
    Function.update_self ..
  rw [granted]
  have attached : cp.evictClient.dp = true := attached
  simp [doGrant, attached, send, emit, mode, installed, Effect.installs]

/-- Each mode that the server is configured with can get installed. -/
theorem exists_installed (created : init ring frameFd true supportedModes = some start)
    {mode : RenderMode} (supported : mode ∈ supportedModes.take maxModes) :
    ∃ trace cp, controlPlane.Run start trace cp ∧ (mode.width, mode.height) ∈ cp.installed := by
  unfold init at created
  split at created
  · cases created
  · cases created
    let connect := connectOf (ConnectMsg.offering (.single 65) mode).toBytes
    let start : ControlPlane := ⟨.init, ring, frameFd, true, supportedModes.take maxModes, none,
      none, ⟨0, 0⟩, []⟩
    let joined := { start with table := start.table.setSlot 0 (newcomer 10) }
    let settled := { joined.send 0 (.mode true mode) with
      table := joined.table.setSlot 0 (negotiated (newcomer 10) connect mode) }
    have first : controlPlane.step start (.accept 10) = some joined := rfl
    have admitted : settled = joined.quiesce.handle (.hello 0 65 mode) := by
      show _ = joined.handleReadable 0 (.message MsgKind.connect.toByte
        (ConnectMsg.offering (.single 65) mode).toBytes []) ⟨0, 0⟩
      rw [handleReadable_offering (by exact supported)]
      rfl
    have present : (Event.hello 0 65 mode).enabled joined = true := rfl
    have present' : (Event.signal 0 .activateRequest).enabled settled = true := rfl
    refine ⟨_, _, .snoc (.snoc (.snoc .nil first) (step_eq_some.mpr ⟨present, admitted⟩))
      (step_eq_some.mpr ⟨present', rfl⟩), ?_⟩
    exact installed_of_request rfl rfl rfl rfl ⟨0, 0⟩

/-- Where all supported modes fit, or no data plane listens, every event installs only sizes
that fit. -/
theorem installsFit_of_run (created : init ring frameFd dp supportedModes = some start)
    (fits : dp = true → ∀ m ∈ supportedModes.take maxModes, FitsFrame m.width m.height)
    (run : controlPlane.Run start trace cp) : cp.InstallsFit := by
  let Kept (s : ControlPlane) : Prop := s.Orderly ∧ (s.dp = true → s.Fitted)
  have initial : Kept start := by
    refine ⟨orderly_of_init created, fun attached => fitted_of_init created (fits ?_)⟩
    unfold init at created
    split at created
    · cases created
    · cases created
      exact attached
  have changes {s t : ControlPlane} {ev : Event} (kept : Kept s)
      (taken : controlPlane.step s ev = some t) : Changes s.quiesce ev t := by
    obtain ⟨on, rfl⟩ := step_eq_some.mp taken
    exact changes_of_handle on kept.1.quiesce.unadopted
  have preserved : ∀ s e t, Kept s → True → controlPlane.step s e = some t → Kept t := by
    intro s e t kept _ taken
    have changed := changes kept taken
    refine ⟨orderly_of_changes kept.1.quiesce changed, fun attached => ?_⟩
    have fitted := kept.2 ((dp_of_changes changed).symm.trans attached)
    exact fitted_of_changes fitted.quiesce changed
  cases run with
  | nil =>
      intro size installs
      unfold init at created
      split at created
      · cases created
      · cases created
        cases installs
  | @snoc trace s e _ prior taken =>
      have kept : Kept s := prior.invariant (fun _ _ => trivial) initial preserved
      intro size installs
      obtain ⟨attached, i, rfl⟩ := installed_of_changes rfl (changes kept taken) installs
      have fitting := (kept.2 attached).negotiated i
      exact ⟨fitting, readsInside_of_fits fitting⟩

/-- The configuration alone decides: all sizes that any run installs fit a buffer exactly when
the supported modes do, or no data plane listens. -/
theorem installsFit_iff (ring : Ring) (frameFd : Int) (dp : Bool)
    (supportedModes : List RenderMode) :
    (∀ start trace cp, init ring frameFd dp supportedModes = some start →
        controlPlane.Run start trace cp → cp.InstallsFit) ↔
      (dp = true → ∀ m ∈ supportedModes.take maxModes, FitsFrame m.width m.height) := by
  constructor
  · rintro installsFit rfl mode supported
    have some : supportedModes.length ≠ 0 := by
      intro none
      rw [List.length_eq_zero_iff.mp none] at supported
      cases supported
    obtain ⟨trace, cp, run, installed⟩ := exists_installed (if_neg some) supported
    exact (installsFit _ trace cp (if_neg some) run _ installed).1
  · intro fits start trace cp created run
    exact installsFit_of_run created fits run

/-- A server with a mode that no buffer holds. -/
def oversize : RenderMode := ⟨1920, 1080, 60⟩

/-- It starts, and a grant installs the mode. -/
theorem not_installsFit_of_run_oversize :
    ∃ start, init .create 3 true [oversize] = some start ∧
      ∃ trace cp, controlPlane.Run start trace cp ∧ trace.map Prod.snd =
        [.accept 10, .hello 0 65 oversize, .signal 0 .activateRequest] ∧ ¬ cp.InstallsFit := by
  refine ⟨_, rfl, Demonstrates.exists_run
    (P := fun _ cp => (oversize.width, oversize.height) ∈ cp.installed) (by decide +kernel) ?_⟩
  intro trace cp run installed fits
  exact absurd (fits _ installed).1 (by decide)

end ControlPlane

end Wisp
