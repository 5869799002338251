import Wisp.Lib.Transition
import Wisp.Lib.Window
import Wisp.Protocol.Wire

/-!
# The file sink

`fb_sink_file.c`. A blit writes `latest.ppm`, and every `snapshot_interval`-th one also a
numbered snapshot named after the frame id that the producer chose. The sink remembers the
last `max_snapshots` paths and removes the oldest file for each new one.

Paths are C strings, the disk maps them to what was written. Opening, writing and removing
files succeeds here, and so does `malloc`.
-/

namespace Wisp

open Transition System Window

/-- A path. -/
abbrev Path := List Char

/-- The files and their contents. -/
abbrev Disk := Path → Option (List UInt8)

/-- What `snprintf` leaves in a buffer of this size. -/
def snprintf (size : Nat) (text : List Char) : List Char :=
  text.take (size - 1)

/-- `%u` and `%llu` -/
def decimal (value : Nat) : List Char :=
  Nat.toDigits 10 value

/-- `%08llu` -/
def paddedDecimal (value : UInt64) : List Char :=
  List.replicate (8 - (decimal value.toNat).length) '0' ++ decimal value.toNat

/-- The offset in the frame of one byte of a pixel in `write_ppm`: the offset of the row is a
`size_t`, the one within the row has 32 bits. -/
def srcOffset (width y x byte : UInt32) : Nat :=
  (y.toUInt64 * width.toUInt64 * 4).toNat + (x * 4 + byte).toNat

/-- The offset in `row` of one byte of a pixel. -/
def rowOffset (x byte : UInt32) : Nat :=
  (x * 3 + byte).toNat

/-- The columns or rows of a frame. -/
def upTo (size : UInt32) : List UInt32 :=
  (List.range size.toNat).map UInt32.ofNat

/-- One row of the image: each pixel is turned from blue, green, red into red, green, blue. -/
def ppmRow (pixels : List UInt8) (width y : UInt32) : List UInt8 :=
  (upTo width).foldl
    (fun row x =>
      let src (byte : UInt32) : UInt8 := pixels.getD (srcOffset width y x byte) 0
      ((row.set (rowOffset x 0) (src 2)).set (rowOffset x 1) (src 1)).set (rowOffset x 2) (src 0))
    (List.replicate (width.toNat * 3) 0)

/-- `write_ppm`: the contents of the file. -/
def writePpm (pixels : List UInt8) (width height : UInt32) : List UInt8 :=
  let header := "P6\n".toList ++ decimal width.toNat ++ " ".toList ++ decimal height.toNat ++
    "\n255\n".toList
  header.map (fun c => UInt8.ofNat c.toNat) ++ (upTo height).flatMap (ppmRow pixels width)

/-- The offsets in the frame that `write_ppm` reads. -/
def ppmReads (width height : UInt32) : List Nat :=
  (upTo height).flatMap fun y => (upTo width).flatMap fun x =>
    [srcOffset width y x 0, srcOffset width y x 1, srcOffset width y x 2]

/-- `wisps_fb_sink_file_opts_t` -/
structure FileSinkOpts where
  outDir : List Char
  snapshotInterval : UInt32
  maxSnapshots : UInt32

/-- `wisps_fb_sink_file_ctx_t`. `snapshotPaths` are the entries that are set, the first
`snapshot_count` ones. -/
structure FileSink where
  outDir : List Char
  snapshotInterval : UInt32
  maxSnapshots : UInt32
  blitCount : UInt64
  snapshotPaths : List Path
  snapshotHead : Nat

namespace FileSink

/-- `wisps_fb_sink_file_create` -/
def create (opts : FileSinkOpts) : FileSink where
  outDir := opts.outDir.take 511
  snapshotInterval := opts.snapshotInterval
  maxSnapshots := opts.maxSnapshots
  blitCount := 0
  snapshotPaths := []
  snapshotHead := 0

/-- The path of the file that every blit writes. -/
def latestPath (sink : FileSink) : Path :=
  snprintf 600 (sink.outDir ++ "/latest.ppm".toList)

/-- The path of a numbered snapshot. -/
def snapshotPath (sink : FileSink) (frameId : UInt64) : Path :=
  snprintf 600 (sink.outDir ++ "/frame_".toList ++ paddedDecimal frameId ++ ".ppm".toList)

/-- `file_snapshot_record` -/
def snapshotRecord (sink : FileSink) (disk : Disk) (path : Path) : FileSink × Disk :=
  if sink.maxSnapshots = 0 then (sink, disk)
  else if sink.snapshotPaths.length = sink.maxSnapshots.toNat then
    ({ sink with
        snapshotPaths := sink.snapshotPaths.set sink.snapshotHead path
        snapshotHead := (sink.snapshotHead + 1) % sink.maxSnapshots.toNat },
      Function.update disk (sink.snapshotPaths.getD sink.snapshotHead []) none)
  else ({ sink with snapshotPaths := sink.snapshotPaths ++ [path] }, disk)

/-- The next blit writes a numbered snapshot. -/
def due (sink : FileSink) : Bool :=
  0 < sink.snapshotInterval && (sink.blitCount + 1) % sink.snapshotInterval.toUInt64 == 0

/-- `file_blit` -/
def blit (sink : FileSink) (disk : Disk) (pixels : List UInt8) (width height : UInt32)
    (frameId : UInt64) : FileSink × Disk :=
  let image := writePpm pixels width height
  let disk := Function.update disk sink.latestPath (some image)
  let counted := { sink with blitCount := sink.blitCount + 1 }
  if sink.due then
    counted.snapshotRecord (Function.update disk (sink.snapshotPath frameId) (some image))
      (sink.snapshotPath frameId)
  else (counted, disk)

end FileSink

/-- A blit as the data plane asks for it. -/
structure BlitCall where
  pixels : List UInt8
  width : UInt32
  height : UInt32
  frameId : UInt64

namespace FileSink

/-- The sink on its disk as a transition system. -/
def system : System (FileSink × Disk) BlitCall where
  step x call := some (x.1.blit x.2 call.pixels call.width call.height call.frameId)

/-- The frame ids of the snapshots recorded so far. -/
def note (recorded : List UInt64) (x : FileSink × Disk) (call : BlitCall)
    (_ : FileSink × Disk) : List UInt64 :=
  if x.1.due then recorded ++ [call.frameId] else recorded

/-- The sink with its history. -/
def logged : System ((FileSink × Disk) × List UInt64) BlitCall :=
  system.record note

/-- The numbered snapshots on the disk are those recorded last. -/
def KeepsNewest (x : (FileSink × Disk) × List UInt64) : Prop :=
  ∀ frameId, (x.1.2 (x.1.1.snapshotPath frameId)).isSome = true ↔
    frameId ∈ recent x.1.1.maxSnapshots.toNat x.2

/-- A snapshot that pushes out the oldest one has not been recorded under the same frame id
again since, and is not now. -/
def Distinguishes (x : (FileSink × Disk) × List UInt64) (call : BlitCall) : Prop :=
  x.1.1.due = true → x.1.1.maxSnapshots.toNat ≤ x.2.length →
    ∀ oldest ∈ (recent x.1.1.maxSnapshots.toNat x.2).head?,
      oldest ∉ recent x.1.1.maxSnapshots.toNat (x.2 ++ [call.frameId])

instance (x : (FileSink × Disk) × List UInt64) (call : BlitCall) :
    Decidable (Distinguishes x call) :=
  -- not by going through all frame ids
  haveI : Decidable (∀ oldest ∈ (recent x.1.1.maxSnapshots.toNat x.2).head?,
      oldest ∉ recent x.1.1.maxSnapshots.toNat (x.2 ++ [call.frameId])) :=
    Option.decidableForallMem _
  inferInstanceAs (Decidable (_ → _ → _))

section Paths

theorem paddedDecimal_injective : Function.Injective paddedDecimal := by
  intro a b same
  have value (id : UInt64) : Nat.ofDigitChars 10 (paddedDecimal id) 0 = id.toNat := by
    rw [paddedDecimal, Nat.ofDigitChars_append, Nat.ofDigitChars_replicate_zero, Nat.mul_zero]
    exact Nat.ofDigitChars_ten_toDigits
  exact UInt64.toNat_inj.mp (by rw [← value a, ← value b, same])

theorem paddedDecimal_length (frameId : UInt64) : (paddedDecimal frameId).length ≤ 20 := by
  have digits : (decimal frameId.toNat).length ≤ 20 := by
    have bound := frameId.toNat_lt
    exact (Nat.length_toDigits_le_iff (by decide) (by decide)).mpr (by omega)
  rw [paddedDecimal, List.length_append, List.length_replicate]
  omega

variable {sink : FileSink} (fits : sink.outDir.length ≤ 511)
include fits

/-- No path is cut off. -/
theorem snapshotPath_eq (frameId : UInt64) :
    sink.snapshotPath frameId =
      sink.outDir ++ "/frame_".toList ++ paddedDecimal frameId ++ ".ppm".toList := by
  refine List.take_of_length_le ?_
  have short := paddedDecimal_length frameId
  have name : "/frame_".toList.length = 7 := rfl
  have ending : ".ppm".toList.length = 4 := rfl
  simp only [List.length_append, name, ending]
  omega

theorem latestPath_eq : sink.latestPath = sink.outDir ++ "/latest.ppm".toList := by
  refine List.take_of_length_le ?_
  have name : "/latest.ppm".toList.length = 11 := rfl
  rw [List.length_append, name]
  omega

/-- Different frames have different paths. -/
theorem snapshotPath_inj {a b : UInt64} : sink.snapshotPath a = sink.snapshotPath b ↔ a = b := by
  refine ⟨fun same => ?_, fun same => same ▸ rfl⟩
  rw [snapshotPath_eq fits, snapshotPath_eq fits] at same
  exact paddedDecimal_injective (List.append_cancel_left (List.append_cancel_right same))

theorem snapshotPath_ne_latestPath (frameId : UInt64) :
    sink.snapshotPath frameId ≠ sink.latestPath := by
  rw [snapshotPath_eq fits, latestPath_eq fits, List.append_assoc, List.append_assoc]
  intro same
  have names := List.append_cancel_left same
  simp at names

end Paths

/-- The ring of paths holds the recorded snapshots, the oldest one at its head. -/
structure Tracks (x : (FileSink × Disk) × List UInt64) : Prop where
  fits : x.1.1.outDir.length ≤ 511
  bounded : 0 < x.1.1.maxSnapshots.toNat
  filling : x.1.1.snapshotPaths.length < x.1.1.maxSnapshots.toNat → x.1.1.snapshotHead = 0
  head : x.1.1.snapshotHead < x.1.1.maxSnapshots.toNat
  paths : x.1.1.snapshotPaths.rotate x.1.1.snapshotHead =
    (recent x.1.1.maxSnapshots.toNat x.2).map x.1.1.snapshotPath

variable {x y : (FileSink × Disk) × List UInt64} {call : BlitCall}

theorem Tracks.length (tracks : Tracks x) :
    x.1.1.snapshotPaths.length = min x.1.1.maxSnapshots.toNat x.2.length := by
  have lengths := congrArg List.length tracks.paths
  simpa using lengths

/-- What a blit leaves behind. -/
inductive Blits (x : (FileSink × Disk) × List UInt64) (frameId : UInt64) :
    (FileSink × Disk) × List UInt64 → Prop where
  | plain {blitCount : UInt64} {image : List UInt8} (idle : x.1.1.due = false) :
      Blits x frameId (({ x.1.1 with blitCount },
        Function.update x.1.2 x.1.1.latestPath (some image)), x.2)
  | filled {blitCount : UInt64} {image : List UInt8} (due : x.1.1.due = true)
      (room : x.2.length < x.1.1.maxSnapshots.toNat) :
      Blits x frameId (({ x.1.1 with
          blitCount, snapshotPaths := x.1.1.snapshotPaths ++ [x.1.1.snapshotPath frameId] },
        Function.update (Function.update x.1.2 x.1.1.latestPath (some image))
          (x.1.1.snapshotPath frameId) (some image)), x.2 ++ [frameId])
  | replaced {blitCount : UInt64} {image : List UInt8} {oldest : UInt64} {rest : List UInt64}
      (due : x.1.1.due = true) (full : x.1.1.maxSnapshots.toNat ≤ x.2.length)
      (window : recent x.1.1.maxSnapshots.toNat x.2 = oldest :: rest) :
      Blits x frameId (({ x.1.1 with
          blitCount
          snapshotPaths := x.1.1.snapshotPaths.set x.1.1.snapshotHead (x.1.1.snapshotPath frameId)
          snapshotHead := (x.1.1.snapshotHead + 1) % x.1.1.maxSnapshots.toNat },
        Function.update (Function.update (Function.update x.1.2 x.1.1.latestPath (some image))
          (x.1.1.snapshotPath frameId) (some image)) (x.1.1.snapshotPath oldest) none),
        x.2 ++ [frameId])

/-- The path at the head of a full ring is that of the oldest snapshot recorded. -/
theorem Tracks.oldest (tracks : Tracks x) (full : x.1.1.maxSnapshots.toNat ≤ x.2.length) :
    ∃ oldest rest, recent x.1.1.maxSnapshots.toNat x.2 = oldest :: rest ∧
      x.1.1.snapshotPaths.getD x.1.1.snapshotHead [] = x.1.1.snapshotPath oldest := by
  have length : (recent x.1.1.maxSnapshots.toNat x.2).length = x.1.1.maxSnapshots.toNat := by
    rw [recent_length, Nat.min_eq_left full]
  cases window : recent x.1.1.maxSnapshots.toNat x.2 with
  | nil =>
      have bounded := tracks.bounded
      rw [window, List.length_nil] at length
      omega
  | cons oldest rest =>
      refine ⟨oldest, rest, rfl, ?_⟩
      have inside : x.1.1.snapshotHead < x.1.1.snapshotPaths.length := by
        rw [tracks.length, Nat.min_eq_left full]
        exact tracks.head
      have first := List.head?_rotate inside
      rw [tracks.paths, window] at first
      rw [List.getD_eq_getElem?_getD, ← first]
      rfl

theorem blits_of_step (tracks : Tracks x) (taken : logged.step x call = some y) :
    Blits x call.frameId y := by
  obtain ⟨moved, noted⟩ := record_step.mp taken
  have after := Option.some.inj moved
  have together : y = (y.1, y.2) := rfl
  rw [together, noted, ← after]
  have bounded : x.1.1.maxSnapshots ≠ 0 := by
    intro none
    have bounded := tracks.bounded
    simp [none] at bounded
  simp only [blit, note]
  split
  · rename_i due
    simp only [snapshotRecord, if_neg bounded]
    split
    · rename_i full
      have long : x.1.1.maxSnapshots.toNat ≤ x.2.length := by
        rw [tracks.length] at full
        omega
      obtain ⟨oldest, rest, window, path⟩ := tracks.oldest long
      rw [path]
      exact .replaced due long window
    · rename_i room
      refine .filled due ?_
      rw [tracks.length] at room
      omega
  · rename_i idle
    exact .plain (by simpa using idle)

theorem tracks_step (tracks : Tracks x) (blits : Blits x call.frameId y) : Tracks y := by
  cases blits with
  | plain => exact ⟨tracks.fits, tracks.bounded, tracks.filling, tracks.head, tracks.paths⟩
  | filled due room =>
      have start : x.1.1.snapshotHead = 0 := by
        apply tracks.filling
        rw [tracks.length]
        omega
      refine ⟨tracks.fits, tracks.bounded, fun _ => start, tracks.head, ?_⟩
      have paths := tracks.paths
      rw [start, List.rotate_zero] at paths
      show (x.1.1.snapshotPaths ++ [_]).rotate x.1.1.snapshotHead = (recent _ (x.2 ++ [_])).map _
      rw [start, List.rotate_zero, paths, recent_snoc_of_lt room, List.map_append]
      rfl
  | replaced due full window =>
      have size : x.1.1.snapshotPaths.length = x.1.1.maxSnapshots.toNat := by
        rw [tracks.length, Nat.min_eq_left full]
      refine ⟨tracks.fits, tracks.bounded, fun room => ?_, Nat.mod_lt _ tracks.bounded, ?_⟩
      · simp [size] at room
      · have turned := rotate_set (by rw [size]; exact tracks.head)
          (x.1.1.snapshotPath call.frameId)
        rw [size] at turned
        refine turned.trans ?_
        rw [tracks.paths, recent_snoc_of_le tracks.bounded full, List.map_append, List.map_tail]
        rfl

/-- Which numbered files are there after two writes. -/
theorem written_iff (tracks : Tracks x) (keeps : KeepsNewest x) {image : List UInt8}
    (frameId other : UInt64) :
    (Function.update (Function.update x.1.2 x.1.1.latestPath (some image))
        (x.1.1.snapshotPath frameId) (some image) (x.1.1.snapshotPath other)).isSome = true ↔
      other = frameId ∨ other ∈ recent x.1.1.maxSnapshots.toNat x.2 := by
  by_cases new : other = frameId
  · subst new
    simp
  · rw [Function.update_of_ne (fun same => new ((snapshotPath_inj tracks.fits).mp same)),
      Function.update_of_ne (snapshotPath_ne_latestPath tracks.fits other), keeps other]
    simp [new]

/-- After a blit the files are right exactly if the one removed is none of those to keep. -/
theorem keepsNewest_step (tracks : Tracks x) (keeps : KeepsNewest x)
    (blits : Blits x call.frameId y) : KeepsNewest y ↔ Distinguishes x call := by
  cases blits with
  | @plain blitCount image idle =>
      refine iff_of_true (fun other => ?_) fun due => absurd due (by simp [idle])
      show (Function.update x.1.2 x.1.1.latestPath (some image)
        (x.1.1.snapshotPath other)).isSome = true ↔ _
      rw [Function.update_of_ne (snapshotPath_ne_latestPath tracks.fits other)]
      exact keeps other
  | filled due room =>
      refine iff_of_true (fun other => ?_) fun _ full => absurd room (Nat.not_lt.mpr full)
      refine (written_iff tracks keeps call.frameId other).trans ?_
      show _ ↔ other ∈ recent x.1.1.maxSnapshots.toNat (x.2 ++ [call.frameId])
      rw [recent_snoc_of_lt room, List.mem_append, List.mem_singleton, or_comm]
  | @replaced blitCount image oldest rest due full window =>
      let written : Disk := Function.update (Function.update x.1.2 x.1.1.latestPath (some image))
        (x.1.1.snapshotPath call.frameId) (some image)
      have kept : recent x.1.1.maxSnapshots.toNat (x.2 ++ [call.frameId]) =
          rest ++ [call.frameId] := by
        rw [recent_snoc_of_le tracks.bounded full, window, List.tail_cons]
      have distinguishes : Distinguishes x call ↔ oldest ∉ rest ++ [call.frameId] := by
        simp [Distinguishes, due, full, window, kept]
      rw [distinguishes]
      constructor
      · intro keeps' stays
        have present := (keeps' oldest).mpr (by rw [← kept] at stays; exact stays)
        simp [snapshotPath] at present
      · intro gone other
        show (Function.update written (x.1.1.snapshotPath oldest) none
          (x.1.1.snapshotPath other)).isSome = true ↔
            other ∈ recent x.1.1.maxSnapshots.toNat (x.2 ++ [call.frameId])
        rw [kept]
        by_cases old : other = oldest
        · subst old
          simpa using gone
        · rw [Function.update_of_ne (fun same => old ((snapshotPath_inj tracks.fits).mp same)),
            written_iff tracks keeps, window]
          simp [old, or_comm]

/-- A bounded sink keeps the newest snapshots exactly as long as no frame id comes back while
its file is the next to be removed. -/
theorem keepsNewest_iff_distinguishes {opts : FileSinkOpts} {disk : Disk}
    {trace : List (((FileSink × Disk) × List UInt64) × BlitCall)}
    (bounded : 0 < opts.maxSnapshots)
    (empty : ∀ frameId, disk ((create opts).snapshotPath frameId) = none)
    (run : logged.Run ((create opts, disk), []) trace x) :
    (Through KeepsNewest trace ∧ KeepsNewest x) ↔ Meets Distinguishes trace := by
  have start : Tracks ((create opts, disk), []) := by
    refine ⟨?_, UInt32.lt_iff_toNat_lt.mp bounded, fun _ => rfl, UInt32.lt_iff_toNat_lt.mp bounded,
      by simp [create, recent]⟩
    exact (List.length_take_le 511 opts.outDir)
  refine run.exact_states (A := fun _ _ => True) (I := Tracks) (fun _ _ => trivial) start ?_ ?_ ?_
  · intro frameId
    simp [empty, recent]
  · intro x call y tracks _ taken
    exact tracks_step tracks (blits_of_step tracks taken)
  · intro x call y tracks _ keeps taken
    exact keepsNewest_step tracks keeps (blits_of_step tracks taken)

/-- A blit of one pixel. -/
def dot (frameId : UInt64) : BlitCall :=
  ⟨[1, 2, 3, 0], 1, 1, frameId⟩

/-- A frame id comes back after its file is gone. -/
theorem keepsNewest_of_run_return :
    ∃ trace x, logged.Run ((create ⟨['d'], 1, 2⟩, fun _ => none), []) trace x ∧
      trace.map Prod.snd = [dot 1, dot 2, dot 3, dot 1, dot 2] ∧
      Through KeepsNewest trace ∧ KeepsNewest x := by
  refine Demonstrates.exists_run (P := fun trace _ => Meets Distinguishes trace)
    (by decide +kernel) ?_
  intro trace x run distinguishes
  exact (keepsNewest_iff_distinguishes (by decide) (fun _ => rfl) run).mpr distinguishes

/-- A client that restarts at 0: the snapshot just written is removed. -/
theorem not_keepsNewest_of_run_restart :
    ∃ trace x, logged.Run ((create ⟨['d'], 1, 1⟩, fun _ => none), []) trace x ∧
      trace.map Prod.snd = [dot 0, dot 0] ∧ ¬ KeepsNewest x := by
  refine Demonstrates.exists_run
    (P := fun _ x => 0 ∈ recent x.1.1.maxSnapshots.toNat x.2 ∧
      (x.1.2 (x.1.1.snapshotPath 0)).isSome = false) (by decide +kernel) ?_
  rintro trace x - ⟨recorded, gone⟩ keeps
  rw [(keeps 0).mpr recorded] at gone
  cases gone

end FileSink

end Wisp
