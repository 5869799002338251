import Wisp.DataPlane.Sink
import Wisp.Lib.Netpbm
import Wisp.Shm.Sample

/-!
# What is in the files of the sink

`write_ppm` writes an image that any reader of the format gets back, pixel for pixel. It may
fail in the middle, and it does not look at what `fprintf` and `fclose` return: a file may be
shorter than what was written to it, whatever `write_ppm` returns.

A reader never gets an image that is not one of the frames blitted, though, nor one under the
number of another frame.
-/

namespace Wisp

open Transition System

/-- The byte of a pixel, from the left and the top: red, green and blue are at the offsets
2, 1 and 0. -/
def pixelByte (pixels : List UInt8) (width y x byte : Nat) : UInt8 :=
  pixels.getD ((y * width + x) * 4 + byte) 0

/-- Red, green and blue of the pixels of a row. -/
def rowSamples (pixels : List UInt8) (width columns y : Nat) : List UInt8 :=
  (List.range columns).flatMap fun x =>
    [pixelByte pixels width y x 2, pixelByte pixels width y x 1, pixelByte pixels width y x 0]

theorem rowSamples_length (pixels : List UInt8) (width columns y : Nat) :
    (rowSamples pixels width columns y).length = columns * 3 := by
  simp [rowSamples, List.length_flatMap]

/-- The picture in a frame. -/
def picture (pixels : List UInt8) (width height : UInt32) : Netpbm.Image where
  width := width.toNat
  height := height.toNat
  samples := (List.range height.toNat).flatMap
    (rowSamples pixels width.toNat width.toNat)
  fits := by
    rw [List.length_flatMap]
    simp only [rowSamples_length, List.map_const', List.length_range, List.sum_replicate_nat]
    rw [Nat.mul_assoc]
    exact Nat.mul_left_comm _ _ _

/-- What `write_ppm` prints in front of the rows. -/
def ppmHeader (width height : UInt32) : List UInt8 :=
  ("P6\n".toList ++ decimal width.toNat ++ " ".toList ++ decimal height.toNat ++
    "\n255\n".toList).map fun c => UInt8.ofNat c.toNat

theorem ppmHeader_eq (width height : UInt32) :
    ppmHeader width height = Netpbm.front width.toNat height.toNat := rfl

section Rows

variable {width y : UInt32} (pixels : List UInt8)

/-- Nothing overflows as long as the bytes of a row can be counted with 32 bits. -/
theorem srcOffset_eq (narrow : width.toNat ≤ 2 ^ 30) {x : Nat} (inside : x < width.toNat)
    {byte : UInt32} (small : byte.toNat < 4) :
    srcOffset width y (UInt32.ofNat x) byte = (y.toNat * width.toNat + x) * 4 + byte.toNat := by
  have rows : y.toNat * width.toNat * 4 < 2 ^ 64 := by
    have bound := y.toNat_lt
    calc y.toNat * width.toNat * 4 ≤ y.toNat * 2 ^ 30 * 4 :=
          Nat.mul_le_mul_right 4 (Nat.mul_le_mul_left y.toNat narrow)
      _ < 2 ^ 64 := by omega
  have less : y.toNat * width.toNat < 2 ^ 64 := by omega
  have four : (4 : UInt64).toNat = 4 := rfl
  have four' : (4 : UInt32).toNat = 4 := rfl
  have column : (UInt32.ofNat x).toNat = x := by
    rw [UInt32.toNat_ofNat']
    omega
  simp only [srcOffset, UInt64.toNat_mul, UInt32.toNat_mul, UInt32.toNat_add,
    UInt32.toNat_toUInt64, four, four', column]
  rw [Nat.mod_eq_of_lt less, Nat.mod_eq_of_lt rows, Nat.mod_eq_of_lt (by omega : x * 4 < 2 ^ 32),
    Nat.mod_eq_of_lt (by omega)]
  omega

theorem rowOffset_eq (narrow : width.toNat ≤ 2 ^ 30) {x : Nat} (inside : x < width.toNat)
    {byte : UInt32} (small : byte.toNat < 3) :
    rowOffset (UInt32.ofNat x) byte = x * 3 + byte.toNat := by
  have column : (UInt32.ofNat x).toNat = x := by
    rw [UInt32.toNat_ofNat']
    omega
  have three : (3 : UInt32).toNat = 3 := rfl
  simp only [rowOffset, UInt32.toNat_mul, UInt32.toNat_add, three, column]
  rw [Nat.mod_eq_of_lt (by omega : x * 3 < 2 ^ 32), Nat.mod_eq_of_lt (by omega)]

/-- Three stores into the part of a row that is still empty. -/
theorem set_three (done : List UInt8) (r g b : UInt8) (left : Nat) :
    (((done ++ List.replicate (left + 3) 0).set done.length r).set (done.length + 1) g).set
      (done.length + 2) b = done ++ [r, g, b] ++ List.replicate left 0 := by
  have room : (List.replicate (left + 3) 0 : List UInt8) =
      0 :: 0 :: 0 :: List.replicate left 0 := rfl
  rw [room, List.append_assoc]
  simp

/-- The loop over the columns. -/
theorem foldl_columns (narrow : width.toNat ≤ 2 ^ 30) {columns left : Nat}
    (inside : columns + left = width.toNat) :
    (upTo (UInt32.ofNat columns)).foldl
      (fun row x =>
        let src (byte : UInt32) : UInt8 := pixels.getD (srcOffset width y x byte) 0
        ((row.set (rowOffset x 0) (src 2)).set (rowOffset x 1) (src 1)).set (rowOffset x 2) (src 0))
      (List.replicate (width.toNat * 3) 0) =
    rowSamples pixels width.toNat columns y.toNat ++ List.replicate (left * 3) 0 := by
  have size : (UInt32.ofNat columns).toNat = columns := by
    rw [UInt32.toNat_ofNat']
    omega
  rw [upTo, size, List.foldl_map]
  induction columns generalizing left with
  | zero => simp [rowSamples, ← inside]
  | succ columns ih =>
      have size : (UInt32.ofNat columns).toNat = columns := by
        rw [UInt32.toNat_ofNat']
        omega
      have within : columns < width.toNat := by omega
      rw [List.range_succ, List.foldl_append, @ih (left + 1) (by omega) size,
        List.foldl_cons, List.foldl_nil]
      have src {byte : UInt32} (small : byte.toNat < 4) :
          pixels.getD (srcOffset width y (UInt32.ofNat columns) byte) 0 =
            pixelByte pixels width.toNat y.toNat columns byte.toNat := by
        rw [srcOffset_eq narrow within small, pixelByte]
      have row := rowSamples_length pixels width.toNat columns y.toNat
      dsimp only
      rw [rowOffset_eq narrow within (by decide), rowOffset_eq narrow within (by decide),
        rowOffset_eq narrow within (by decide), src (by decide), src (by decide), src (by decide),
        ← row, Nat.add_mul, Nat.one_mul]
      refine (set_three _ _ _ _ (left * 3)).trans ?_
      rw [rowSamples, rowSamples, List.range_succ, List.flatMap_append]
      simp

theorem ppmRow_eq (narrow : width.toNat ≤ 2 ^ 30) :
    ppmRow pixels width y = rowSamples pixels width.toNat width.toNat y.toNat := by
  have columns := @foldl_columns width y pixels narrow _ _ (Nat.add_zero width.toNat)
  rw [UInt32.ofNat_toNat, Nat.zero_mul, List.replicate_zero, List.append_nil] at columns
  exact columns

/-- The file for a frame is the one for its picture. -/
theorem writePpm_eq (narrow : width.toNat ≤ 2 ^ 30) (height : UInt32) :
    writePpm pixels width height = Netpbm.write (picture pixels width height) := by
  show ppmHeader width height ++ _ = Netpbm.front width.toNat height.toNat ++ _
  rw [ppmHeader_eq, upTo, List.flatMap_map]
  refine congrArg _ (List.flatMap_congr fun y member => ?_)
  have size : (UInt32.ofNat y).toNat = y := by
    have bound := height.toNat_lt
    rw [List.mem_range] at member
    rw [UInt32.toNat_ofNat']
    omega
  rw [ppmRow_eq pixels narrow, size]

end Rows

/-- How the calls that write one file turn out: whether it is opened, whether there is memory for
a row, what `fwrite` returns for each row, and how many bytes of all that was written reach the
disk in the end. -/
structure WriteFate where
  opened : Bool
  row : Bool
  accepted : List Nat
  flushed : Nat

/-- Nothing fails. -/
def WriteFate.Intact (fate : WriteFate) (image : List UInt8) : Prop :=
  fate.opened = true ∧ fate.row = true ∧ fate.accepted = [] ∧ image.length ≤ fate.flushed

/-- The loop over the rows: the bytes handed over, and whether all of them were taken. A row that
`accepted` has no entry for is taken as a whole. -/
def fwriteRows : List (List UInt8) → List Nat → List UInt8 × Bool
  | [], _ => ([], true)
  | row :: rows, accepted =>
      let taken := min (accepted.headD row.length) row.length
      if taken ≠ row.length then (row.take taken, false)
      else
        let (bytes, ok) := fwriteRows rows accepted.tail
        (row ++ bytes, ok)

/-- `write_ppm` when calls fail: the contents of the file if there is one, and whether 0 is
returned. -/
def tryWritePpm (fate : WriteFate) (pixels : List UInt8) (width height : UInt32) :
    Option (List UInt8) × Bool :=
  if !fate.opened then (none, false)
  else if !fate.row then (some ((ppmHeader width height).take fate.flushed), false)
  else
    let (bytes, ok) := fwriteRows ((upTo height).map (ppmRow pixels width)) fate.accepted
    (some ((ppmHeader width height ++ bytes).take fate.flushed), ok)

/-- `fopen` truncates the file. -/
def Disk.put (disk : Disk) (path : Path) : Option (List UInt8) → Disk
  | none => disk
  | some bytes => Function.update disk path (some bytes)

/-- How the calls of a blit turn out. -/
structure BlitFate where
  latest : WriteFate
  snapshot : WriteFate
  removed : Bool

namespace FileSink

/-- `file_snapshot_record`, with a `remove` that may fail. -/
def tryRecord (sink : FileSink) (disk : Disk) (path : Path) (removed : Bool) : FileSink × Disk :=
  ((sink.snapshotRecord disk path).1, if removed then (sink.snapshotRecord disk path).2 else disk)

/-- `file_blit` when calls fail, with what it returns. -/
def tryBlit (sink : FileSink) (disk : Disk) (call : BlitCall) (fate : BlitFate) :
    (FileSink × Disk) × Int :=
  let (latest, ok) := tryWritePpm fate.latest call.pixels call.width call.height
  let disk := disk.put sink.latestPath latest
  if !ok then ((sink, disk), -1)
  else
    let counted := { sink with blitCount := sink.blitCount + 1 }
    if sink.due then
      let path := sink.snapshotPath call.frameId
      let (snapshot, ok) := tryWritePpm fate.snapshot call.pixels call.width call.height
      let disk := disk.put path snapshot
      if ok then (counted.tryRecord disk path fate.removed, 0) else ((counted, disk), 0)
    else ((counted, disk), 0)

/-- The sink on a disk that may refuse anything. -/
def trying : System (FileSink × Disk) (BlitCall × BlitFate) where
  step x e := some (x.1.tryBlit x.2 e.1 e.2).1

/-- The sink with the blits asked for so far. -/
def asked : System ((FileSink × Disk) × List (BlitCall × BlitFate)) (BlitCall × BlitFate) :=
  trying.record fun history _ e _ => history ++ [e]

end FileSink

section Prefixes

variable {fate : WriteFate} {pixels : List UInt8} {width height : UInt32} {bytes : List UInt8}

/-- What is handed over is the beginning of the rows, and all of them if nothing is refused. -/
theorem fwriteRows_isPrefix (rows : List (List UInt8)) (accepted : List Nat) :
    (fwriteRows rows accepted).1 <+: rows.flatten := by
  induction rows generalizing accepted with
  | nil => exact List.prefix_refl _
  | cons row rows ih =>
      rw [List.flatten_cons, fwriteRows]
      split
      · exact (List.take_prefix _ _).trans (List.prefix_append _ _)
      · exact (List.prefix_append_right_inj row).mpr (ih accepted.tail)

theorem fwriteRows_nil (rows : List (List UInt8)) : fwriteRows rows [] = (rows.flatten, true) := by
  induction rows with
  | nil => rfl
  | cons row rows ih =>
      rw [fwriteRows, List.headD_nil, Nat.min_self, if_neg (not_not.mpr rfl), List.tail_nil, ih]
      rfl

theorem writePpm_eq_append (pixels : List UInt8) (width height : UInt32) :
    writePpm pixels width height = ppmHeader width height ++
      ((upTo height).map (ppmRow pixels width)).flatten := by
  rw [writePpm, List.flatMap_def]
  rfl

/-- A file holds the beginning of the image. -/
theorem tryWritePpm_isPrefix (written : (tryWritePpm fate pixels width height).1 = some bytes) :
    bytes <+: writePpm pixels width height := by
  rw [writePpm_eq_append]
  rw [tryWritePpm] at written
  split at written
  · cases written
  · split at written
    · cases written
      exact (List.take_prefix _ _).trans (List.prefix_append _ _)
    · cases written
      exact (List.take_prefix _ _).trans
        ((List.prefix_append_right_inj _).mpr (fwriteRows_isPrefix _ _))

theorem opened_of_tryWritePpm (written : (tryWritePpm fate pixels width height).1 = some bytes) :
    fate.opened = true := by
  rw [tryWritePpm] at written
  split at written
  · cases written
  · rename_i opened
    simpa using opened

theorem tryWritePpm_eq_none (unwritten : (tryWritePpm fate pixels width height).1 = none) :
    fate.opened = false := by
  rw [tryWritePpm] at unwritten
  split at unwritten
  · rename_i closed
    simpa using closed
  · split at unwritten
    · cases unwritten
    · cases unwritten

/-- If nothing fails, all of it. -/
theorem tryWritePpm_of_intact (intact : fate.Intact (writePpm pixels width height)) :
    tryWritePpm fate pixels width height = (some (writePpm pixels width height), true) := by
  obtain ⟨opened, row, accepted, flushed⟩ := intact
  rw [writePpm_eq_append] at flushed ⊢
  simp only [tryWritePpm, opened, row, accepted, fwriteRows_nil, Bool.not_true, Bool.false_eq_true,
    if_false, List.take_of_length_le flushed]

end Prefixes

namespace Disk

variable {disk : Disk} {path path' : Path}

theorem put_of_ne (other : path' ≠ path) (file : Option (List UInt8)) :
    disk.put path file path' = disk path' := by
  cases file with
  | none => rfl
  | some bytes => exact Function.update_of_ne other _ _

theorem put_some (bytes : List UInt8) : disk.put path (some bytes) path = some bytes :=
  Function.update_self _ _ _

/-- A file that is there has been put there, or it was there before. -/
theorem found_of_put {file : Option (List UInt8)} {bytes : List UInt8}
    (found : disk.put path file path' = some bytes) :
    path' = path ∧ file = some bytes ∨ disk path' = some bytes ∧ (path' = path → file = none) := by
  by_cases here : path' = path
  · subst here
    cases file with
    | none => exact .inr ⟨found, fun _ => rfl⟩
    | some new =>
        rw [put_some] at found
        exact .inl ⟨rfl, found⟩
  · rw [put_of_ne here] at found
    exact .inr ⟨found, fun same => absurd same here⟩

end Disk

/-- The frame lies within its buffer, and the bytes of a row can be counted with 32 bits. -/
structure BlitCall.Sound (call : BlitCall) : Prop where
  narrow : call.width.toNat ≤ 2 ^ 30
  whole : call.width.toNat * call.height.toNat * 4 ≤ call.pixels.length

/-- The picture that the sink is asked to show. -/
def BlitCall.picture (call : BlitCall) : Netpbm.Image :=
  Wisp.picture call.pixels call.width call.height

/-- Whoever reads the beginning of the file of a frame sees its picture. -/
theorem BlitCall.Sound.eq_picture {call : BlitCall} (sound : call.Sound) {bytes : List UInt8}
    {image : Netpbm.Image} (part : bytes <+: writePpm call.pixels call.width call.height)
    (reads : Netpbm.read bytes = some image) : image = call.picture := by
  rw [writePpm_eq call.pixels sound.narrow] at part
  exact Netpbm.eq_of_read part reads

namespace FileSink

/-- The blits that have opened `latest.ppm`. -/
def shown (history : List (BlitCall × BlitFate)) : List (BlitCall × BlitFate) :=
  history.filter fun e => e.2.latest.opened

/-- An image in one of the files is a frame that the sink was asked to show: the last one that the
file was opened for, or one with the number in the name of the file. -/
structure Genuine (x : (FileSink × Disk) × List (BlitCall × BlitFate)) : Prop where
  latest : ∀ bytes image, x.1.2 x.1.1.latestPath = some bytes → Netpbm.read bytes = some image →
    ∃ e, (shown x.2).getLast? = some e ∧ image = e.1.picture
  snapshot : ∀ frameId bytes image, x.1.2 (x.1.1.snapshotPath frameId) = some bytes →
    Netpbm.read bytes = some image → ∃ e ∈ x.2, e.1.frameId = frameId ∧ image = e.1.picture

/-- If no call fails, the frame can be read as soon as the blit returns. -/
def Fresh (x : (FileSink × Disk) × List (BlitCall × BlitFate)) (e : BlitCall × BlitFate) : Prop :=
  e.2.latest.Intact (writePpm e.1.pixels e.1.width e.1.height) →
    (x.1.1.tryBlit x.1.2 e.1 e.2).2 = 0 ∧
      ∃ bytes, (x.1.1.tryBlit x.1.2 e.1 e.2).1.2 x.1.1.latestPath = some bytes ∧
        Netpbm.read bytes = some e.1.picture

/-- The sink keeps the paths of numbered files only. -/
structure Numbers (sink : FileSink) : Prop where
  fits : sink.outDir.length ≤ 511
  paths : ∀ path ∈ sink.snapshotPaths, ∃ frameId, path = sink.snapshotPath frameId

/-- What a blit does to the sink and the disk. -/
inductive Tries (sink : FileSink) (disk : Disk) (call : BlitCall) (fate : BlitFate) :
    FileSink × Disk → Prop where
  | latest {sink' : FileSink} (outDir : sink'.outDir = sink.outDir)
      (paths : sink'.snapshotPaths = sink.snapshotPaths) :
      Tries sink disk call fate (sink', disk.put sink.latestPath
        (tryWritePpm fate.latest call.pixels call.width call.height).1)
  | snapshot {sink' : FileSink} (outDir : sink'.outDir = sink.outDir)
      (paths : ∀ path ∈ sink'.snapshotPaths,
        path ∈ sink.snapshotPaths ∨ path = sink.snapshotPath call.frameId) :
      Tries sink disk call fate (sink', (disk.put sink.latestPath
          (tryWritePpm fate.latest call.pixels call.width call.height).1).put
        (sink.snapshotPath call.frameId)
        (tryWritePpm fate.snapshot call.pixels call.width call.height).1)
  | removed {sink' : FileSink} {old : Path} (outDir : sink'.outDir = sink.outDir)
      (paths : ∀ path ∈ sink'.snapshotPaths,
        path ∈ sink.snapshotPaths ∨ path = sink.snapshotPath call.frameId)
      (kept : old ∈ sink.snapshotPaths ∨ old = []) :
      Tries sink disk call fate (sink', Function.update ((disk.put sink.latestPath
          (tryWritePpm fate.latest call.pixels call.width call.height).1).put
        (sink.snapshotPath call.frameId)
        (tryWritePpm fate.snapshot call.pixels call.width call.height).1) old none)

variable {sink : FileSink} {disk : Disk} {call : BlitCall} {fate : BlitFate}

/-- What `file_snapshot_record` does. -/
theorem snapshotRecord_cases (sink : FileSink) (disk : Disk) (path : Path) :
    (sink.snapshotRecord disk path).1.outDir = sink.outDir ∧
      (∀ p ∈ (sink.snapshotRecord disk path).1.snapshotPaths, p ∈ sink.snapshotPaths ∨ p = path) ∧
      ((sink.snapshotRecord disk path).2 = disk ∨
        ∃ old, (old ∈ sink.snapshotPaths ∨ old = []) ∧
          (sink.snapshotRecord disk path).2 = Function.update disk old none) := by
  unfold snapshotRecord
  split
  · exact ⟨rfl, fun p member => .inl member, .inl rfl⟩
  · split
    · refine ⟨rfl, fun p member => List.mem_or_eq_of_mem_set member, .inr ⟨_, ?_, rfl⟩⟩
      rw [List.getD_eq_getElem?_getD]
      cases found : sink.snapshotPaths[sink.snapshotHead]? with
      | none => exact .inr rfl
      | some old => exact .inl (List.mem_of_getElem? found)
    · refine ⟨rfl, fun p member => ?_, .inl rfl⟩
      simpa using member

theorem tries_tryBlit (sink : FileSink) (disk : Disk) (call : BlitCall) (fate : BlitFate) :
    Tries sink disk call fate (sink.tryBlit disk call fate).1 := by
  unfold tryBlit
  simp only
  split
  · exact .latest rfl rfl
  · split
    · obtain ⟨outDir, paths, disk'⟩ := snapshotRecord_cases
        { sink with blitCount := sink.blitCount + 1 }
        ((disk.put sink.latestPath
          (tryWritePpm fate.latest call.pixels call.width call.height).1).put
            (sink.snapshotPath call.frameId)
            (tryWritePpm fate.snapshot call.pixels call.width call.height).1)
        (sink.snapshotPath call.frameId)
      split
      · unfold tryRecord
        split
        · rcases disk' with same | ⟨old, kept, same⟩
          · rw [same]
            exact .snapshot outDir paths
          · rw [same]
            exact .removed outDir paths kept
        · exact .snapshot outDir paths
      · exact .snapshot rfl fun _ member => .inl member
    · exact .latest rfl rfl

section Steps

variable {y : FileSink × Disk}

theorem Tries.outDir (tries : Tries sink disk call fate y) : y.1.outDir = sink.outDir := by
  cases tries with
  | latest outDir | snapshot outDir | removed outDir => exact outDir

theorem Tries.latestPath (tries : Tries sink disk call fate y) :
    y.1.latestPath = sink.latestPath := by
  rw [FileSink.latestPath, tries.outDir]
  rfl

theorem Tries.snapshotPath (tries : Tries sink disk call fate y) (frameId : UInt64) :
    y.1.snapshotPath frameId = sink.snapshotPath frameId := by
  rw [FileSink.snapshotPath, tries.outDir]
  rfl

theorem Tries.numbers (tries : Tries sink disk call fate y) (numbers : Numbers sink) :
    Numbers y.1 := by
  have extends' (paths : ∀ path ∈ y.1.snapshotPaths,
      path ∈ sink.snapshotPaths ∨ path = sink.snapshotPath call.frameId) : Numbers y.1 := by
    refine ⟨tries.outDir ▸ numbers.fits, fun path member => ?_⟩
    rcases paths path member with before | rfl
    · obtain ⟨frameId, rfl⟩ := numbers.paths path before
      exact ⟨frameId, (tries.snapshotPath frameId).symm⟩
    · exact ⟨call.frameId, (tries.snapshotPath call.frameId).symm⟩
  cases tries with
  | latest outDir paths => exact extends' fun path member => .inl (paths ▸ member)
  | snapshot outDir paths | removed outDir paths kept => exact extends' paths

/-- A file that is there after a blit is one that it has written, or it was there before. -/
theorem Tries.found (tries : Tries sink disk call fate y) {path : Path} {bytes : List UInt8}
    (found : y.2 path = some bytes) :
    path = sink.latestPath ∧
        (tryWritePpm fate.latest call.pixels call.width call.height).1 = some bytes ∨
      path = sink.snapshotPath call.frameId ∧
        (tryWritePpm fate.snapshot call.pixels call.width call.height).1 = some bytes ∨
      disk path = some bytes ∧ (path = sink.latestPath →
        (tryWritePpm fate.latest call.pixels call.width call.height).1 = none) := by
  have both (found : ((disk.put sink.latestPath
        (tryWritePpm fate.latest call.pixels call.width call.height).1).put
        (sink.snapshotPath call.frameId)
        (tryWritePpm fate.snapshot call.pixels call.width call.height).1) path = some bytes) :
      path = sink.latestPath ∧
          (tryWritePpm fate.latest call.pixels call.width call.height).1 = some bytes ∨
        path = sink.snapshotPath call.frameId ∧
          (tryWritePpm fate.snapshot call.pixels call.width call.height).1 = some bytes ∨
        disk path = some bytes ∧ (path = sink.latestPath →
          (tryWritePpm fate.latest call.pixels call.width call.height).1 = none) := by
    rcases Disk.found_of_put found with ⟨same, written⟩ | ⟨found, -⟩
    · exact .inr (.inl ⟨same, written⟩)
    · rcases Disk.found_of_put found with written | before
      · exact .inl written
      · exact .inr (.inr before)
  cases tries with
  | latest =>
      rcases Disk.found_of_put found with written | before
      · exact .inl written
      · exact .inr (.inr before)
  | snapshot => exact both found
  | @removed _ old =>
      by_cases gone : path = old
      · subst gone
        cases (Function.update_self _ _ _).symm.trans found
      · exact both ((Function.update_of_ne gone _ _).symm.trans found)

theorem shown_snoc (history : List (BlitCall × BlitFate)) (e : BlitCall × BlitFate) :
    shown (history ++ [e]) = if e.2.latest.opened then shown history ++ [e] else shown history := by
  simp only [shown, List.filter_append, List.filter_cons, List.filter_nil]
  split
  · rfl
  · exact List.append_nil _

variable {x z : (FileSink × Disk) × List (BlitCall × BlitFate)} {e : BlitCall × BlitFate}

theorem genuine_step (numbers : Numbers x.1.1) (genuine : Genuine x) (sound : e.1.Sound)
    (tries : Tries x.1.1 x.1.2 e.1 e.2 y) : Genuine (y, x.2 ++ [e]) := by
  refine ⟨fun bytes image found reads => ?_, fun frameId bytes image found reads => ?_⟩
  · change y.2 y.1.latestPath = some bytes at found
    rw [tries.latestPath] at found
    show ∃ e', (shown (x.2 ++ [e])).getLast? = some e' ∧ image = e'.1.picture
    rw [shown_snoc]
    rcases tries.found found with ⟨-, written⟩ | ⟨same, -⟩ | ⟨before, unwritten⟩
    · rw [if_pos (opened_of_tryWritePpm written)]
      exact ⟨e, List.getLast?_concat, sound.eq_picture (tryWritePpm_isPrefix written) reads⟩
    · exact absurd same.symm (snapshotPath_ne_latestPath numbers.fits _)
    · rw [if_neg (by simp [tryWritePpm_eq_none (unwritten rfl)])]
      exact genuine.latest bytes image before reads
  · change y.2 (y.1.snapshotPath frameId) = some bytes at found
    rw [tries.snapshotPath] at found
    show ∃ e' ∈ x.2 ++ [e], e'.1.frameId = frameId ∧ image = e'.1.picture
    rcases tries.found found with ⟨same, -⟩ | ⟨same, written⟩ | ⟨before, -⟩
    · exact absurd same (snapshotPath_ne_latestPath numbers.fits _)
    · refine ⟨e, by simp, ((snapshotPath_inj numbers.fits).mp same).symm, ?_⟩
      exact sound.eq_picture (tryWritePpm_isPrefix written) reads
    · obtain ⟨e', member, known⟩ := genuine.snapshot frameId bytes image before reads
      exact ⟨e', List.mem_append_left _ member, known⟩

/-- What a blit has written to `latest.ppm` stays there. -/
theorem Tries.latest_of_written (tries : Tries sink disk call fate y) (numbers : Numbers sink)
    {bytes : List UInt8}
    (written : (tryWritePpm fate.latest call.pixels call.width call.height).1 = some bytes) :
    y.2 sink.latestPath = some bytes := by
  have other (frameId : UInt64) : sink.latestPath ≠ sink.snapshotPath frameId :=
    (snapshotPath_ne_latestPath numbers.fits frameId).symm
  cases tries with
  | latest =>
      dsimp only
      rw [written, Disk.put_some]
  | snapshot =>
      dsimp only
      rw [Disk.put_of_ne (other _), written, Disk.put_some]
  | @removed _ old _ _ kept =>
      have apart : sink.latestPath ≠ old := by
        rcases kept with kept | rfl
        · obtain ⟨frameId, rfl⟩ := numbers.paths old kept
          exact other frameId
        · rw [latestPath_eq numbers.fits]
          simp
      dsimp only
      rw [Function.update_of_ne apart, Disk.put_of_ne (other _), written, Disk.put_some]

/-- `file_blit` returns 0 if the frame has been taken. -/
theorem tryBlit_of_written
    (written : (tryWritePpm fate.latest call.pixels call.width call.height).2 = true) :
    (sink.tryBlit disk call fate).2 = 0 := by
  simp only [tryBlit, written, Bool.not_true, Bool.false_eq_true, if_false]
  split
  · split
    · rfl
    · rfl
  · rfl

theorem fresh_of_numbers (numbers : Numbers x.1.1) (sound : e.1.Sound) : Fresh x e := by
  intro intact
  have whole := tryWritePpm_of_intact intact
  have latest := (tries_tryBlit x.1.1 x.1.2 e.1 e.2).latest_of_written numbers (by rw [whole])
  refine ⟨tryBlit_of_written (by rw [whole]), _, latest, ?_⟩
  rw [writePpm_eq e.1.pixels sound.narrow]
  exact Netpbm.read_write _

/-- Whatever fails, and wherever: an image that is read from `latest.ppm` is the frame for which
the file was opened last, one from a numbered file is a frame with this number, and a frame that
was written without a failure can be read. -/
theorem genuine_of_run {opts : FileSinkOpts} {disk : Disk}
    {trace : List (((FileSink × Disk) × List (BlitCall × BlitFate)) × (BlitCall × BlitFate))}
    (noLatest : ∀ bytes, disk (create opts).latestPath = some bytes → Netpbm.read bytes = none)
    (noSnapshot : ∀ frameId bytes, disk ((create opts).snapshotPath frameId) = some bytes →
      Netpbm.read bytes = none)
    (sound : Meets (fun _ e => e.1.Sound) trace)
    (run : asked.Run ((create opts, disk), []) trace x) :
    Through Genuine trace ∧ Genuine x ∧ Meets Fresh trace := by
  have start : Numbers (create opts) := ⟨List.length_take_le 511 opts.outDir, nofun⟩
  have blank : Genuine ((create opts, disk), []) := by
    refine ⟨fun bytes image found reads => ?_, fun frameId bytes image found reads => ?_⟩
    · cases (noLatest bytes found).symm.trans reads
    · cases (noSnapshot frameId bytes found).symm.trans reads
  have kept : ∀ x e z, Genuine x ∧ Numbers x.1.1 → e.1.Sound → asked.step x e = some z →
      Genuine z ∧ Numbers z.1.1 := by
    rintro x e z ⟨genuine, numbers⟩ sound taken
    obtain ⟨moved, noted⟩ := record_step.mp taken
    have tries := tries_tryBlit x.1.1 x.1.2 e.1 e.2
    have after : (x.1.1.tryBlit x.1.2 e.1 e.2).1 = z.1 := Option.some.inj moved
    rw [after] at tries
    have together : z = (z.1, x.2 ++ [e]) := by rw [← noted]
    rw [together]
    exact ⟨genuine_step numbers genuine sound tries, tries.numbers numbers⟩
  refine ⟨?_, (run.invariant sound ⟨blank, start⟩ kept).1, ?_⟩
  · exact (run.through sound ⟨blank, start⟩ kept).mono fun _ _ known => known.1
  · exact run.meets sound ⟨blank, start⟩ kept fun _ _ _ known sound _ =>
      fresh_of_numbers known.2 sound

instance (call : BlitCall) : Decidable call.Sound :=
  decidable_of_iff (call.width.toNat ≤ 2 ^ 30 ∧
      call.width.toNat * call.height.toNat * 4 ≤ call.pixels.length)
    ⟨fun both => ⟨both.1, both.2⟩, fun sound => ⟨sound.narrow, sound.whole⟩⟩

/-- A blit that succeeds, one whose row is cut short, and one whose old snapshot stays. -/
def mishaps : List (BlitCall × BlitFate) :=
  let good : WriteFate := ⟨true, true, [], 100⟩
  [(dot 1, ⟨good, good, true⟩), (dot 2, ⟨⟨true, true, [2], 100⟩, good, true⟩),
    (dot 3, ⟨good, ⟨true, true, [], 5⟩, false⟩)]

/-- Calls fail in all places. -/
theorem genuine_of_run_mishaps :
    ∃ trace x, asked.Run ((create ⟨['d'], 1, 1⟩, fun _ => none), []) trace x ∧
      trace.map Prod.snd = mishaps ∧ Through Genuine trace ∧ Genuine x ∧ Meets Fresh trace := by
  refine Demonstrates.exists_run (P := fun trace _ => Meets (fun _ e => e.1.Sound) trace)
    (by decide +kernel) ?_
  intro trace x run sound
  exact genuine_of_run (fun _ found => by cases found) (fun _ _ found => by cases found) sound run

end Steps

end FileSink

section Viewer

/-- Blue, green and red, as they come from the ring, in the order of the file. -/
def regroup : List UInt8 → List UInt8
  | b :: g :: r :: rest => r :: g :: b :: regroup rest
  | _ => []

/-- The file that `write_ppm` makes of what it reads, one byte after the other. -/
def ppmOfReads (width height : UInt32) (reads : List (Nat × UInt8)) : List UInt8 :=
  ppmHeader width height ++ regroup (reads.map Prod.snd)

theorem regroup_append (xs : List (UInt8 × UInt8 × UInt8)) (rest : List UInt8) :
    regroup ((xs.flatMap fun p => [p.1, p.2.1, p.2.2]) ++ rest) =
      (xs.flatMap fun p => [p.2.2, p.2.1, p.1]) ++ regroup rest := by
  induction xs with
  | nil => rfl
  | cons p xs ih =>
      simp only [List.flatMap_cons, List.cons_append, List.nil_append, regroup, ih]

variable {width height : UInt32} {pixels : List UInt8} {reads : List (Nat × UInt8)}

/-- Blue, green and red of the pixels of a frame. -/
def pixelBytes (pixels : List UInt8) (width height : Nat) : List (UInt8 × UInt8 × UInt8) :=
  (List.range height).flatMap fun y => (List.range width).map fun x =>
    (pixelByte pixels width y x 0, pixelByte pixels width y x 1, pixelByte pixels width y x 2)

theorem samples_picture :
    (picture pixels width height).samples =
      (pixelBytes pixels width.toNat height.toNat).flatMap fun p => [p.2.2, p.2.1, p.1] := by
  show (List.range height.toNat).flatMap _ = _
  rw [pixelBytes, List.flatMap_assoc]
  refine List.flatMap_congr fun y _ => ?_
  rw [rowSamples, List.flatMap_map]

/-- The offsets that `write_ppm` reads lead to the pixels, one after the other. -/
theorem map_ppmReads (narrow : width.toNat ≤ 2 ^ 30) :
    (ppmReads width height).map (fun offset => pixels.getD offset 0) =
      (pixelBytes pixels width.toNat height.toNat).flatMap fun p => [p.1, p.2.1, p.2.2] := by
  simp only [ppmReads, pixelBytes, upTo, List.map_flatMap, List.flatMap_assoc, List.flatMap_map]
  refine List.flatMap_congr fun y member => ?_
  have row : (UInt32.ofNat y).toNat = y := by
    have bound := height.toNat_lt
    rw [List.mem_range] at member
    rw [UInt32.toNat_ofNat']
    omega
  refine List.flatMap_congr fun x member => ?_
  have inside := List.mem_range.mp member
  simp only [List.map_cons, List.map_nil, pixelByte]
  rw [srcOffset_eq narrow inside (by decide), srcOffset_eq narrow inside (by decide),
    srcOffset_eq narrow inside (by decide), row]
  rfl

/-- If every byte read is the one in the frame, and all of them are read in order, the file is
that of the frame. -/
theorem ppmOfReads_eq (narrow : width.toNat ≤ 2 ^ 30)
    (offsets : reads.map Prod.fst = ppmReads width height)
    (shows : ∀ p ∈ reads, pixels[p.1]? = some p.2) :
    ppmOfReads width height reads = Netpbm.write (picture pixels width height) := by
  have bytes : reads.map Prod.snd = (ppmReads width height).map fun o => pixels.getD o 0 := by
    rw [← offsets, List.map_map]
    refine List.map_congr_left fun p member => ?_
    show p.2 = pixels.getD p.1 0
    rw [List.getD_eq_getElem?_getD, shows p member]
    rfl
  have grouped := regroup_append (pixelBytes pixels width.toNat height.toNat) []
  rw [List.append_nil, ← map_ppmReads narrow, ← bytes, ← samples_picture] at grouped
  show ppmHeader width height ++ regroup _ = Netpbm.front width.toNat height.toNat ++ _
  rw [ppmHeader_eq, grouped]
  exact congrArg _ (List.append_nil _)

namespace Pipeline

variable {ring : Ring} {x : Pipeline × Latest Frame}
variable {trace : List ((Pipeline × Latest Frame) × PipelineEvent)}

/-- The file of a blit shows the frame, pixel for pixel. -/
def Pictures (blit : Blit) (frame : Frame) : Prop :=
  ∀ width height : UInt32, width.toNat ≤ 2 ^ 30 →
    blit.reads.map Prod.fst = ppmReads width height →
    Netpbm.read (ppmOfReads width height blit.reads) = some (picture frame.pixels width height)

theorem pictures_of_shows {blit : Blit} {frame : Frame} (shows : blit.Shows frame) :
    Pictures blit frame := by
  intro width height narrow offsets
  rw [ppmOfReads_eq narrow offsets shows.2.2]
  exact Netpbm.read_write _

/-- From the producer to whoever reads `latest.ppm`: however the producer and the data plane
interleave, the files of the blits show the frames that the register of the latest frame
delivers, in this order, each as the producer has drawn it. -/
theorem pictures_of_run (idle : Idle ring) (run : sampling.Run (start ring, .empty) trace x) :
    (∃ actions, (Latest.system Frame).Run .empty actions x.2 ∧
        actions.map Prod.snd = trace.filterMap fun p => p.1.1.action p.2) ∧
      List.Forall₂ (fun blit n => ∃ frame, x.2.value n = some frame ∧
        blit.frameId = frame.frameId ∧ Pictures blit frame) x.1.blits x.2.delivered := by
  refine ⟨latest_of_run idle run, ?_⟩
  have faithful : Faithful x := run.invariant (C := fun _ _ => True) (fun _ _ => trivial)
    (faithful_start idle) fun _ _ _ faithful _ taken => (follows_sampling faithful taken).1
  refine faithful.delivers.imp fun blit n known => ?_
  obtain ⟨frame, value, shows⟩ := known
  exact ⟨frame, value, shows.1, pictures_of_shows shows⟩

/-- A fresh ring with room for a pixel in each buffer. -/
def onePixel : Ring :=
  { Ring.create with frameBufs := fun _ => [0, 0, 0, 0] }

/-- A pixel is drawn and shown, while the next one is being drawn. -/
theorem pictures_of_run_onePixel :
    ∃ trace x, sampling.Run (start onePixel, .empty) trace x ∧
      trace.map Prod.snd =
        [.writeSlot, .draw 0 7, .draw 1 8, .draw 2 9, .publishSlot 1 100, .storeWriteTs,
          .publishLocked, .checkout, .loadFrameId, .loadWriteTs, .read 0, .writeSlot, .draw 1 5,
          .read 1, .read 2, .release true] ∧
      x.1.blits.map (fun blit => blit.reads.map Prod.fst) = [ppmReads 1 1] ∧
      List.Forall₂ (fun blit n => ∃ frame, x.2.value n = some frame ∧
        blit.frameId = frame.frameId ∧ Pictures blit frame) x.1.blits x.2.delivered := by
  refine Demonstrates.exists_run
    (P := fun _ x => x.1.blits.map (fun blit => blit.reads.map Prod.fst) = [ppmReads 1 1])
    (by decide +kernel) ?_
  intro trace x run offsets
  exact ⟨offsets, (pictures_of_run ⟨rfl, rfl, rfl⟩ run).2⟩

end Pipeline

end Viewer

end Wisp
