import Wisp.Protocol.Wire

/-!
# The shared frame ring

`wisp_shm_ring_t` and the functions that touch it. Every function below runs
under the ring's robust mutex, except for the two metadata stores of
`wisp_shm_ring_publish_slot`, which precede its locked section. Those stores and
the locked section are therefore separate definitions, and
`publishSlot` is their composition.

The index fields hold any `int32_t` a process may have stored; `-1` means none.
-/

namespace Wisp

/-- A buffer index that is in range. -/
abbrev Buf := Fin numBuffers

/-- `wisp_shm_ring_t` -/
structure Ring where
  latestReady : Int
  serverLocked : Int
  clientLocked : Int
  frameCounter : UInt32
  generation : UInt32
  frameId : Buf → UInt64
  writeTsNs : Buf → UInt64
  frameBufs : Buf → List UInt8

namespace Ring

/-- `wisps_shm_ring_create`: the contents of a freshly mapped ring. -/
def create : Ring where
  latestReady := -1
  serverLocked := -1
  clientLocked := -1
  frameCounter := 0
  generation := 0
  frameId := fun _ => 0
  writeTsNs := fun _ => 0
  frameBufs := fun _ => []

/-- The scan of `wisp_shm_ring_write_slot` for an index that is neither ready nor
locked by the server. -/
def freeIndex (ring : Ring) : Option Buf :=
  (List.finRange numBuffers).find? fun i =>
    (i.val : Int) != ring.latestReady && (i.val : Int) != ring.serverLocked

/-- `wisp_shm_ring_write_slot`. `none` is a call of `abort()`. -/
def writeSlot (ring : Ring) : Option (Buf × Ring) :=
  if ring.clientLocked ≠ -1 then none
  else ring.freeIndex.map fun i => (i, { ring with clientLocked := (i.val : Int) })

/-- The store to `frame_id[idx]` that opens `wisp_shm_ring_publish_slot`. -/
def storeFrameId (ring : Ring) (idx : Buf) (frameId : UInt64) : Ring :=
  { ring with frameId := Function.update ring.frameId idx frameId }

/-- The store to `write_ts_ns[idx]` that follows it. -/
def storeWriteTs (ring : Ring) (idx : Buf) (nowNs : UInt64) : Ring :=
  { ring with writeTsNs := Function.update ring.writeTsNs idx nowNs }

/-- The locked section of `wisp_shm_ring_publish_slot`. -/
def publishLocked (ring : Ring) (idx : Buf) : Ring :=
  { ring with latestReady := (idx.val : Int), clientLocked := -1 }

/-- `wisp_shm_ring_publish_slot` -/
def publishSlot (ring : Ring) (idx : Buf) (frameId nowNs : UInt64) : Ring :=
  ((ring.storeFrameId idx frameId).storeWriteTs idx nowNs).publishLocked idx

/-- `wisps_shm_ring_checkout`: the index returned and the ring left behind. -/
def checkout (ring : Ring) : Int × Ring :=
  (ring.latestReady,
    if 0 ≤ ring.latestReady then { ring with serverLocked := ring.latestReady } else ring)

/-- `wisps_shm_ring_release` -/
def release (ring : Ring) : Ring :=
  { ring with serverLocked := -1 }

/-- `wisps_evict_client` -/
def evictClient (ring : Ring) : Ring :=
  { ring with
    generation := ring.generation + 1
    latestReady := -1
    serverLocked := -1
    clientLocked := -1 }

/-- A producer writing its pixels into a buffer. -/
def render (ring : Ring) (idx : Buf) (pixels : List UInt8) : Ring :=
  { ring with frameBufs := Function.update ring.frameBufs idx pixels }

@[simp] theorem evictClient_generation (ring : Ring) :
    ring.evictClient.generation = ring.generation + 1 := rfl

/-- Three buffers always leave one that is neither ready nor locked. -/
theorem freeIndex_isSome (ring : Ring) : ring.freeIndex.isSome := by
  rw [freeIndex, List.find?_isSome]
  by_contra none
  simp only [List.mem_finRange, true_and, not_exists, Bool.not_eq_true, Bool.and_eq_false_iff,
    bne_eq_false_iff_eq] at none
  have h₀ : (0 : Int) = ring.latestReady ∨ (0 : Int) = ring.serverLocked := none 0
  have h₁ : (1 : Int) = ring.latestReady ∨ (1 : Int) = ring.serverLocked := none 1
  have h₂ : (2 : Int) = ring.latestReady ∨ (2 : Int) = ring.serverLocked := none 2
  omega

/-- The only way `wisp_shm_ring_write_slot` aborts is an outstanding claim. -/
theorem writeSlot_eq_none_iff (ring : Ring) :
    ring.writeSlot = none ↔ ring.clientLocked ≠ -1 := by
  unfold writeSlot
  split
  · simp_all
  · have found := ring.freeIndex_isSome
    simp only [Option.map_eq_none_iff]
    constructor
    · intro missing
      simp [missing] at found
    · intro claimed
      contradiction

/-- A returned index is claimed, and is not the one the server has locked. -/
theorem writeSlot_spec {ring ring' : Ring} {idx : Buf} (h : ring.writeSlot = some (idx, ring')) :
    ring.clientLocked = -1 ∧ (idx.val : Int) ≠ ring.serverLocked ∧
      ring' = { ring with clientLocked := (idx.val : Int) } := by
  unfold writeSlot at h
  split at h
  · cases h
  · rename_i unclaimed
    obtain ⟨i, found, same⟩ := Option.map_eq_some_iff.mp h
    cases same
    have chosen := List.find?_some found
    simp only [Bool.and_eq_true, bne_iff_ne] at chosen
    exact ⟨not_not.mp unclaimed, chosen.2, rfl⟩

/-- Nor is it the ready one. -/
theorem writeSlot_unready {ring ring' : Ring} {idx : Buf}
    (h : ring.writeSlot = some (idx, ring')) : (idx.val : Int) ≠ ring.latestReady := by
  unfold writeSlot at h
  split at h
  · cases h
  · obtain ⟨i, found, same⟩ := Option.map_eq_some_iff.mp h
    cases same
    have chosen := List.find?_some found
    simp only [Bool.and_eq_true, bne_iff_ne] at chosen
    exact chosen.1

end Ring

end Wisp
