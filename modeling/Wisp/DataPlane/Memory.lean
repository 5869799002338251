import Wisp.DataPlane.Sink
import Wisp.Lib.Custody

/-!
# The memory and the files of the sink

`fb_sink_file.c` once more, as far as what it acquires and gives back goes. Here every call may
fail: opening and writing a file, and `malloc`, `calloc` and `strdup`.
-/

namespace Wisp

open Custody

/-- What the process can hold. A name is held until it is unlinked. -/
inductive Kind where
  | descriptor
  | eventFd
  | epollFd
  | mapping
  | memory
  | device
  | bufferObject
  | stream
  | segmentName
  | socketPath
  deriving DecidableEq, Repr

/-- `wisps_fb_sink_file_ctx_t` and the memory it has. `paths` are the first `snapshot_count`
entries of the array; an entry is `none` if `strdup` has returned `NULL`. -/
structure FileCtx where
  ctx : Resource Kind
  snapshotPaths : Option (Resource Kind)
  snapshotInterval : UInt32
  maxSnapshots : UInt32
  blitCount : UInt64
  paths : List (Option (Resource Kind))
  snapshotHead : Nat

/-- `write_ppm` returns 0. -/
def writeRows : Nat → Prog Kind Bool
  | 0 => pure true
  | rows + 1 => do if ← call then writeRows rows else pure false

/-- `write_ppm`: the stream and the buffer for a row. -/
def writePpmFile (height : UInt32) : Prog Kind Bool := do
  match ← acquire .stream with
  | none => pure false
  | some f =>
      match ← acquire .memory with
      | none => do
          release f
          pure false
      | some row => do
          let written ← writeRows height.toNat
          release row
          release f
          pure written

namespace FileCtx

/-- `wisps_fb_sink_file_create` -/
def create (opts : FileSinkOpts) : Prog Kind (Option FileCtx) := do
  match ← acquire .memory with
  | none => pure none
  | some ctx =>
      if 0 < opts.maxSnapshots then
        match ← acquire .memory with
        | none => do
            release ctx
            pure none
        | some snapshotPaths =>
            pure (some
              ⟨ctx, some snapshotPaths, opts.snapshotInterval, opts.maxSnapshots, 0, [], 0⟩)
      else pure (some ⟨ctx, none, opts.snapshotInterval, opts.maxSnapshots, 0, [], 0⟩)

/-- `file_snapshot_record` -/
def snapshotRecord (sink : FileCtx) : Prog Kind FileCtx := do
  if sink.maxSnapshots = 0 then pure sink
  else if sink.paths.length = sink.maxSnapshots.toNat then
    let _ ← call
    releaseIf (sink.paths.getD sink.snapshotHead none)
    let path ← acquire .memory
    pure { sink with
      paths := sink.paths.set sink.snapshotHead path
      snapshotHead := (sink.snapshotHead + 1) % sink.maxSnapshots.toNat }
  else
    let path ← acquire .memory
    pure { sink with paths := sink.paths ++ [path] }

/-- The blit that is counted now writes a numbered snapshot. -/
def due (sink : FileCtx) : Bool :=
  0 < sink.snapshotInterval && sink.blitCount % sink.snapshotInterval.toUInt64 == 0

/-- `file_blit`: whether it returns 0. -/
def blit (sink : FileCtx) (height : UInt32) : Prog Kind (Bool × FileCtx) := do
  if ← writePpmFile height then
    let sink := { sink with blitCount := sink.blitCount + 1 }
    if sink.due then
      if ← writePpmFile height then
        let sink ← sink.snapshotRecord
        pure (true, sink)
      else pure (true, sink)
    else pure (true, sink)
  else pure (false, sink)

/-- One blit after the other, as the data plane asks for them. -/
def blits : List UInt32 → FileCtx → Prog Kind FileCtx
  | [], sink => pure sink
  | height :: rest, sink => do
      let r ← sink.blit height
      blits rest r.2

/-- Give back the paths that are there. -/
def releasePaths : List (Option (Resource Kind)) → Prog Kind Unit
  | [] => pure ()
  | path :: rest => do
      releaseIf path
      releasePaths rest

/-- `file_close` -/
def close (sink : FileCtx) : Prog Kind Unit := do
  match sink.snapshotPaths with
  | none => pure ()
  | some snapshotPaths =>
      releasePaths sink.paths
      release snapshotPaths
  release sink.ctx

/-- What the paths take up. -/
def pathsOwned (paths : List (Option (Resource Kind))) : Multiset (Resource Kind) :=
  ↑(paths.filterMap id)

/-- What the sink takes up. -/
def owned (sink : FileCtx) : Multiset (Resource Kind) :=
  pathsOwned sink.paths + Custody.owned sink.snapshotPaths + {sink.ctx}

/-- The array has an entry for each path, and is there if it is needed. -/
structure Fits (sink : FileCtx) : Prop where
  bounded : sink.paths.length ≤ sink.maxSnapshots.toNat
  head : sink.maxSnapshots ≠ 0 → sink.snapshotHead < sink.maxSnapshots.toNat
  array : sink.snapshotPaths = none ↔ sink.maxSnapshots = 0

variable {held rest : Multiset (Resource Kind)}

theorem pathsOwned_cons (path : Option (Resource Kind)) (paths : List (Option (Resource Kind))) :
    pathsOwned (path :: paths) = Custody.owned path + pathsOwned paths := by
  cases path <;> simp [pathsOwned]

theorem pathsOwned_append (first second : List (Option (Resource Kind))) :
    pathsOwned (first ++ second) = pathsOwned first + pathsOwned second := by
  simp [pathsOwned]

/-- An entry is exchanged. -/
theorem pathsOwned_set {paths : List (Option (Resource Kind))} {i : Nat}
    (inside : i < paths.length) :
    ∃ others, pathsOwned paths = Custody.owned (paths.getD i none) + others ∧
      ∀ path, pathsOwned (paths.set i path) = Custody.owned path + others := by
  induction paths generalizing i with
  | nil => cases inside
  | cons first rest ih =>
      cases i with
      | zero =>
          exact ⟨pathsOwned rest, pathsOwned_cons first rest, fun path => pathsOwned_cons path rest⟩
      | succ i =>
          obtain ⟨others, before, after⟩ := ih (Nat.lt_of_succ_lt_succ inside)
          refine ⟨Custody.owned first + others, ?_, fun path => ?_⟩
          · rw [pathsOwned_cons, before, List.getD_cons_succ]
            abel
          · rw [List.set_cons_succ, pathsOwned_cons, after]
            abel

theorem keeps_writeRows {Q : Bool → Multiset (Resource Kind) → Prop} (done : ∀ ok, Q ok held)
    (rows : Nat) : Keeps held (writeRows rows) Q := by
  induction rows with
  | zero => exact .pure (done true)
  | succ rows ih => exact .bind (.call ih (.pure (done false)))

/-- However writing the image goes, the stream is closed and the buffer is freed. -/
theorem keeps_writePpmFile {Q : Bool → Multiset (Resource Kind) → Prop} (done : ∀ ok, Q ok held)
    (height : UInt32) : Keeps held (writePpmFile height) Q := by
  refine .bind (.acquire (.pure (done false)) fun f _ => .bind (.acquire ?_ fun row _ => ?_))
  · exact .bind (.release rfl (.pure (done false)))
  · refine .bind (keeps_writeRows (fun ok => ?_) _)
    exact .bind (.release rfl (.bind (.release rfl (.pure (done ok)))))

/-- The sink has what it needs, and the process nothing else besides. -/
def Sound (held : Multiset (Resource Kind)) (sink : FileCtx) (held' : Multiset (Resource Kind)) :
    Prop :=
  sink.Fits ∧ held' = sink.owned + held

theorem keeps_create (opts : FileSinkOpts) {Q : Option FileCtx → Multiset (Resource Kind) → Prop}
    (failed : Q none held) (created : ∀ sink held', Sound held sink held' → Q (some sink) held') :
    Keeps held (create opts) Q := by
  refine .bind (.acquire (.pure failed) fun ctx _ => ?_)
  dsimp only
  split
  · rename_i some
    refine .bind (.acquire (.bind (.release rfl (.pure failed))) fun snapshotPaths _ => .pure ?_)
    refine created _ _ ⟨⟨Nat.zero_le _, fun _ => ?_, iff_of_false nofun ?_⟩, ?_⟩
    · exact UInt32.lt_iff_toNat_lt.mp some
    · intro none
      replace none : opts.maxSnapshots = 0 := none
      rw [none] at some
      cases some
    · simp only [FileCtx.owned, pathsOwned, List.filterMap_nil, Multiset.coe_nil, owned_some]
      abel
  · rename_i none
    have none : opts.maxSnapshots = 0 := UInt32.le_zero_iff.mp (UInt32.not_lt.mp none)
    refine .pure (created _ _
      ⟨⟨Nat.zero_le _, fun some => absurd none some, iff_of_true rfl none⟩, ?_⟩)
    simp [FileCtx.owned, pathsOwned]

theorem keeps_snapshotRecord {sink : FileCtx} {Q : FileCtx → Multiset (Resource Kind) → Prop}
    (fits : sink.Fits) (done : ∀ sink' held', Sound held sink' held' → Q sink' held') :
    Keeps (sink.owned + held) sink.snapshotRecord Q := by
  unfold snapshotRecord
  split
  · exact .pure (done _ _ ⟨fits, rfl⟩)
  · rename_i some
    have positive : 0 < sink.maxSnapshots.toNat := Nat.zero_lt_of_lt (fits.head some)
    split
    · rename_i full
      have inside : sink.snapshotHead < sink.paths.length := full ▸ fits.head some
      obtain ⟨others, before, after⟩ := pathsOwned_set inside
      have freed : Keeps (sink.owned + held) (do
          releaseIf (sink.paths.getD sink.snapshotHead none)
          let path ← acquire .memory
          pure { sink with
            paths := sink.paths.set sink.snapshotHead path
            snapshotHead := (sink.snapshotHead + 1) % sink.maxSnapshots.toNat }) Q := by
        refine .bind (.releaseIf
          (F := others + Custody.owned sink.snapshotPaths + {sink.ctx} + held) ?_ ?_)
        · rw [FileCtx.owned, before]
          abel
        · refine .bind (.acquire_owned fun path => .pure (done _ _ ⟨⟨?_, ?_, fits.array⟩, ?_⟩))
          · rw [List.length_set]
            exact fits.bounded
          · exact fun _ => Nat.mod_lt _ positive
          · rw [FileCtx.owned, after]
            abel
      exact .bind (.call freed freed)
    · rename_i room
      refine .bind (.acquire_owned fun path => .pure (done _ _ ⟨⟨?_, fits.head, fits.array⟩, ?_⟩))
      · rw [List.length_append, List.length_singleton]
        exact Nat.lt_of_le_of_ne fits.bounded room
      · simp only [FileCtx.owned, pathsOwned_append, pathsOwned_cons]
        simp only [pathsOwned, List.filterMap_nil, Multiset.coe_nil]
        abel

/-- A blit leaves nothing behind but what the sink records. -/
theorem keeps_blit {sink : FileCtx} {Q : Bool × FileCtx → Multiset (Resource Kind) → Prop}
    (fits : sink.Fits) (height : UInt32)
    (done : ∀ ok sink' held', Sound held sink' held' → Q (ok, sink') held') :
    Keeps (sink.owned + held) (sink.blit height) Q := by
  refine .bind (keeps_writePpmFile (fun ok => ?_) height)
  have counted : Fits { sink with blitCount := sink.blitCount + 1 } :=
    ⟨fits.bounded, fits.head, fits.array⟩
  cases ok with
  | false => exact .pure (done _ _ _ ⟨fits, rfl⟩)
  | true =>
      rw [if_pos rfl]
      dsimp only
      split
      · refine .bind (keeps_writePpmFile (fun ok => ?_) height)
        cases ok with
        | false => exact .pure (done _ _ _ ⟨counted, rfl⟩)
        | true =>
            exact .bind (keeps_snapshotRecord counted fun _ _ sound => .pure (done _ _ _ sound))
      · exact .pure (done _ _ _ ⟨counted, rfl⟩)

theorem keeps_blits {Q : FileCtx → Multiset (Resource Kind) → Prop}
    (done : ∀ sink held', Sound held sink held' → Q sink held') (heights : List UInt32)
    {sink : FileCtx} (fits : sink.Fits) : Keeps (sink.owned + held) (blits heights sink) Q := by
  induction heights generalizing sink with
  | nil => exact .pure (done _ _ ⟨fits, rfl⟩)
  | cons height rest ih =>
      refine .bind (keeps_blit fits height fun ok sink' held' sound => ?_)
      obtain ⟨fits, rfl⟩ := sound
      exact ih fits

theorem keeps_releasePaths {Q : Unit → Multiset (Resource Kind) → Prop}
    {paths : List (Option (Resource Kind))} (done : Q () held) :
    Keeps (pathsOwned paths + held) (releasePaths paths) Q := by
  induction paths with
  | nil => exact .pure (by simpa [pathsOwned] using done)
  | cons path rest ih =>
      rw [pathsOwned_cons, add_assoc]
      exact .bind (.releaseIf rfl ih)

theorem keeps_close {sink : FileCtx} {Q : Unit → Multiset (Resource Kind) → Prop}
    (fits : sink.Fits) (done : Q () held) : Keeps (sink.owned + held) sink.close Q := by
  unfold close
  split
  · rename_i none
    refine .bind (.pure (.release ?_ done))
    have empty : sink.paths = [] := by
      have bounded := fits.bounded
      rw [fits.array.mp none] at bounded
      exact List.length_eq_zero_iff.mp (Nat.le_zero.mp bounded)
    simp [FileCtx.owned, empty, none, pathsOwned]
  · rename_i snapshotPaths some
    rw [FileCtx.owned, some, owned_some, add_assoc, add_assoc]
    refine .bind (keeps_releasePaths (.bind (.release rfl ?_)))
    exact .release rfl done

/-- A sink is created and takes some blits. -/
def session (opts : FileSinkOpts) (heights : List UInt32) : Prog Kind (Option FileCtx) := do
  match ← create opts with
  | none => pure none
  | some sink => do
      let sink ← blits heights sink
      pure (some sink)

/-- And it is closed. -/
def lifetime (opts : FileSinkOpts) (heights : List UInt32) : Prog Kind Unit := do
  match ← session opts heights with
  | none => pure ()
  | some sink => sink.close

theorem keeps_session (opts : FileSinkOpts) (heights : List UInt32)
    {Q : Option FileCtx → Multiset (Resource Kind) → Prop} (failed : Q none held)
    (done : ∀ sink held', Sound held sink held' → Q (some sink) held') :
    Keeps held (session opts heights) Q := by
  refine .bind (keeps_create opts (.pure failed) fun sink held' sound => ?_)
  obtain ⟨fits, rfl⟩ := sound
  exact .bind (keeps_blits (fun sink held' sound => .pure (done _ _ sound)) heights fits)

/-- Whatever calls fail, and whatever is blitted: between two blits the process holds the sink
with at most `max_snapshots` paths and no file, and when the sink is closed nothing at all.
Nothing is freed twice. -/
theorem released_of_lifetime (opts : FileSinkOpts) (heights : List UInt32) (answer : Nat → Bool) :
    (∀ sink, ((session opts heights).run (.start answer)).1 = some sink →
        sink.Fits ∧ ((session opts heights).run (.start answer)).2.held = sink.owned) ∧
      (((session opts heights).run (.start answer)).1 = none →
        ((session opts heights).run (.start answer)).2.held = 0) ∧
      ((lifetime opts heights).run (.start answer)).2.held = 0 ∧
      ((lifetime opts heights).run (.start answer)).2.strays = 0 := by
  have holds : Keeps 0 (session opts heights) fun r held =>
      (∀ sink, r = some sink → sink.Fits ∧ held = sink.owned) ∧ (r = none → held = 0) := by
    refine keeps_session opts heights ⟨nofun, fun _ => rfl⟩ fun sink held sound => ⟨?_, nofun⟩
    rintro _ ⟨⟩
    exact ⟨sound.1, sound.2.trans (add_zero _)⟩
  have ends : Keeps 0 (lifetime opts heights) fun _ held => held = 0 := by
    refine .bind (keeps_session opts heights (.pure rfl) fun sink held sound => ?_)
    obtain ⟨fits, rfl⟩ := sound
    exact keeps_close fits rfl
  obtain ⟨⟨kept, failed⟩, -⟩ := holds.start answer
  exact ⟨kept, failed, ends.start answer⟩

end FileCtx

end Wisp
