import Mathlib.Data.Fintype.Basic
import Wisp.DataPlane.Memory
import Wisp.Shm.Dmabuf

/-!
# The buffers of a GPU client

`client_gbm.c`: a device, and for each slot of the ring a buffer object with an exported
descriptor. Any of the calls may fail; then all that has been made so far is destroyed. What the
driver chooses for a buffer is a parameter.
-/

namespace Wisp

open Custody

/-- `WISP_FORMAT_XRGB8888`: the characters `XR24`. -/
def formatXrgb8888 : UInt32 := 0x34325258

/-- `WISP_MODIFIER_LINEAR` -/
def modifierLinear : UInt64 := 0

/-- `WISP_MODIFIER_INVALID` -/
def modifierInvalid : UInt64 := 0x00ffffffffffffff

/-- What the driver says about the buffer objects it has made. -/
structure GbmDriver where
  stride : Resource Kind → UInt32
  offset : Resource Kind → UInt32
  modifier : Resource Kind → UInt64

/-- `wispc_gbm_bufs_t`: `none` stands for `NULL`, and for a negative descriptor. -/
structure GbmBufs where
  gbm : Option (Resource Kind)
  bo : Buf → Option (Resource Kind)
  fds : Buf → Option (Resource Kind)
  desc : Buf → DmabufDesc

namespace GbmBufs

/-- What `wispc_gbm_bufs_create` starts from. -/
def empty : GbmBufs where
  gbm := none
  bo := fun _ => none
  fds := fun _ => none
  desc := fun _ => default

/-- The loop of `wispc_gbm_bufs_destroy`. -/
def destroyFrom : List Buf → GbmBufs → Prog Kind GbmBufs
  | [], bufs => pure bufs
  | i :: rest, bufs => do
      releaseIf (bufs.fds i)
      releaseIf (bufs.bo i)
      destroyFrom rest
        { bufs with fds := Function.update bufs.fds i none, bo := Function.update bufs.bo i none }

/-- `wispc_gbm_bufs_destroy`: what is left in the structure. -/
def destroy (bufs : GbmBufs) : Prog Kind GbmBufs := do
  let bufs ← destroyFrom (List.finRange numBuffers) bufs
  releaseIf bufs.gbm
  pure { bufs with gbm := none }

/-- The geometry of a buffer. -/
def describe (driver : GbmDriver) (width height : UInt32) (bo : Resource Kind) : DmabufDesc where
  width
  height
  fourcc := formatXrgb8888
  stride := driver.stride bo
  offset := driver.offset bo
  modifier :=
    if driver.modifier bo = modifierInvalid then modifierLinear else driver.modifier bo

/-- The loop of `wispc_gbm_bufs_create`, with what it does when it fails. -/
def createFrom (driver : GbmDriver) (width height : UInt32) :
    List Buf → GbmBufs → Prog Kind (Bool × GbmBufs)
  | [], bufs => pure (true, bufs)
  | i :: rest, bufs => do
      match ← acquire .bufferObject with
      | none => do
          let bufs ← bufs.destroy
          pure (false, bufs)
      | some bo =>
          let bufs := { bufs with bo := Function.update bufs.bo i (some bo) }
          match ← acquire .descriptor with
          | none => do
              let bufs ← bufs.destroy
              pure (false, bufs)
          | some fd =>
              createFrom driver width height rest
                { bufs with
                  fds := Function.update bufs.fds i (some fd)
                  desc := Function.update bufs.desc i (describe driver width height bo) }

/-- `wispc_gbm_bufs_create`: whether it returns 0, and the structure. -/
def create (driver : GbmDriver) (width height : UInt32) : Prog Kind (Bool × GbmBufs) := do
  match ← acquire .device with
  | none => pure (false, empty)
  | some gbm =>
      createFrom driver width height (List.finRange numBuffers) { empty with gbm := some gbm }

/-- What the structure stands for. -/
def owned (bufs : GbmBufs) : Multiset (Resource Kind) :=
  Custody.owned bufs.gbm + (ownedBy bufs.bo + ownedBy bufs.fds)

/-- Nothing is left in the structure. -/
structure Vacant (bufs : GbmBufs) : Prop where
  gbm : bufs.gbm = none
  bo : ∀ i, bufs.bo i = none
  fds : ∀ i, bufs.fds i = none

/-- A set of buffers as it is returned: every slot has its buffer and its descriptor, with the
geometry that has been asked for and what the driver has chosen. -/
structure Complete (driver : GbmDriver) (width height : UInt32) (bufs : GbmBufs) : Prop where
  gbm : bufs.gbm.isSome = true
  slots : ∀ i, ∃ bo fd, bufs.bo i = some bo ∧ bufs.fds i = some fd ∧
    bufs.desc i = describe driver width height bo

variable {held : Multiset (Resource Kind)} {bufs : GbmBufs} {driver : GbmDriver}
variable {width height : UInt32}

/-- The slots that the loop has come by are empty, the others are as they were. -/
structure Emptied (slots : List Buf) (bufs bufs' : GbmBufs) : Prop where
  gbm : bufs'.gbm = bufs.gbm
  bo : ∀ i, bufs'.bo i = if i ∈ slots then none else bufs.bo i
  fds : ∀ i, bufs'.fds i = if i ∈ slots then none else bufs.fds i

theorem keeps_destroyFrom {Q : GbmBufs → Multiset (Resource Kind) → Prop} (slots : List Buf)
    (done : ∀ bufs', Emptied slots bufs bufs' → Q bufs' (bufs'.owned + held)) :
    Keeps (bufs.owned + held) (destroyFrom slots bufs) Q := by
  induction slots generalizing bufs with
  | nil => exact .pure (done bufs ⟨rfl, fun _ => by simp, fun _ => by simp⟩)
  | cons i rest ih =>
      obtain ⟨fds, ofFds, withoutFd⟩ := ownedBy_update bufs.fds i
      obtain ⟨bos, ofBos, withoutBo⟩ := ownedBy_update bufs.bo i
      have start : bufs.owned + held = Custody.owned (bufs.fds i) +
          (Custody.owned (bufs.bo i) + (Custody.owned bufs.gbm + (bos + fds) + held)) := by
        rw [GbmBufs.owned, ofFds, ofBos]
        abel
      rw [start]
      refine .bind (.releaseIf rfl (.bind (.releaseIf rfl ?_)))
      have next := @ih { bufs with
        fds := Function.update bufs.fds i none, bo := Function.update bufs.bo i none }
      simp only [GbmBufs.owned, withoutFd, withoutBo, owned_none, zero_add] at next
      refine next fun bufs' emptied => ?_
      refine done bufs' ⟨emptied.gbm, fun j => ?_, fun j => ?_⟩
      · rw [emptied.bo]
        by_cases same : j = i <;> simp [same]
      · rw [emptied.fds]
        by_cases same : j = i <;> simp [same]

/-- Everything is given back, and nothing is left in the structure. -/
theorem keeps_destroy {Q : GbmBufs → Multiset (Resource Kind) → Prop}
    (done : ∀ bufs', Vacant bufs' → Q bufs' held) : Keeps (bufs.owned + held) bufs.destroy Q := by
  refine .bind (keeps_destroyFrom _ fun bufs' emptied => ?_)
  have bo (i : Buf) : bufs'.bo i = none := by simp [emptied.bo]
  have fds (i : Buf) : bufs'.fds i = none := by simp [emptied.fds]
  refine .bind (.releaseIf (F := held) ?_ (.pure (done _ ⟨rfl, bo, fds⟩)))
  rw [GbmBufs.owned, ownedBy_none bo, ownedBy_none fds]
  abel

/-- The slots that are still to come are empty, the others have their buffers. -/
structure Made (driver : GbmDriver) (width height : UInt32) (slots : List Buf) (bufs : GbmBufs) :
    Prop where
  gbm : bufs.gbm.isSome = true
  nodup : slots.Nodup
  empty : ∀ i ∈ slots, bufs.bo i = none ∧ bufs.fds i = none
  filled : ∀ i, i ∉ slots → ∃ bo fd, bufs.bo i = some bo ∧ bufs.fds i = some fd ∧
    bufs.desc i = describe driver width height bo

theorem owned_bo {i : Buf} (unset : bufs.bo i = none) (bo : Resource Kind) :
    owned { bufs with bo := Function.update bufs.bo i (some bo) } = {bo} + bufs.owned := by
  obtain ⟨others, before, after⟩ := ownedBy_update bufs.bo i
  rw [unset, owned_none, zero_add] at before
  simp only [owned, after, before, owned_some]
  abel

theorem owned_fd {i : Buf} {desc : Buf → DmabufDesc} (unset : bufs.fds i = none)
    (fd : Resource Kind) :
    owned { bufs with fds := Function.update bufs.fds i (some fd), desc } =
      {fd} + bufs.owned := by
  obtain ⟨others, before, after⟩ := ownedBy_update bufs.fds i
  rw [unset, owned_none, zero_add] at before
  simp only [owned, after, before, owned_some]
  abel

/-- The next slot gets its buffer. -/
theorem Made.next {i : Buf} {rest : List Buf} (made : Made driver width height (i :: rest) bufs)
    (bo fd : Resource Kind) :
    Made driver width height rest { bufs with
      bo := Function.update bufs.bo i (some bo)
      fds := Function.update bufs.fds i (some fd)
      desc := Function.update bufs.desc i (describe driver width height bo) } := by
  obtain ⟨fresh, nodup⟩ := List.nodup_cons.mp made.nodup
  refine ⟨made.gbm, nodup, fun j member => ?_, fun j outside => ?_⟩
  · have other : j ≠ i := fun same => fresh (same ▸ member)
    simpa [other] using made.empty j (List.mem_cons_of_mem i member)
  · by_cases same : j = i
    · subst same
      exact ⟨bo, fd, by simp⟩
    · simpa [same] using made.filled j (by simp [same, outside])

theorem keeps_createFrom {Q : Bool × GbmBufs → Multiset (Resource Kind) → Prop}
    (failed : ∀ bufs', Vacant bufs' → Q (false, bufs') held)
    (created : ∀ bufs', Complete driver width height bufs' → Q (true, bufs') (bufs'.owned + held))
    (slots : List Buf) {bufs : GbmBufs} (made : Made driver width height slots bufs) :
    Keeps (bufs.owned + held) (createFrom driver width height slots bufs) Q := by
  have gives (bufs : GbmBufs) : Keeps (bufs.owned + held) (do
      let bufs ← bufs.destroy
      pure (false, bufs)) Q :=
    .bind (keeps_destroy fun bufs' vacant => .pure (failed bufs' vacant))
  induction slots generalizing bufs with
  | nil => exact .pure (created bufs ⟨made.gbm, fun i => made.filled i List.not_mem_nil⟩)
  | cons i rest ih =>
      obtain ⟨noBo, noFd⟩ := made.empty i List.mem_cons_self
      refine .bind (.acquire (gives bufs) fun bo _ => ?_)
      rw [← add_assoc, ← owned_bo noBo]
      refine .bind (.acquire (gives _) fun fd _ => ?_)
      have unset : { bufs with bo := Function.update bufs.bo i (some bo) }.fds i = none := noFd
      rw [← add_assoc, ← owned_fd unset]
      exact ih (made.next bo fd)

theorem keeps_create {Q : Bool × GbmBufs → Multiset (Resource Kind) → Prop}
    (failed : ∀ bufs, Vacant bufs → Q (false, bufs) held)
    (created : ∀ bufs, Complete driver width height bufs → Q (true, bufs) (bufs.owned + held)) :
    Keeps held (create driver width height) Q := by
  refine .bind (.acquire (.pure (failed _ ⟨rfl, fun _ => rfl, fun _ => rfl⟩)) fun gbm _ => ?_)
  have start : ({gbm} : Multiset (Resource Kind)) = owned { empty with gbm := some gbm } := by
    simp [owned, empty, ownedBy_none]
  rw [start]
  refine keeps_createFrom failed created _ ⟨rfl, List.nodup_finRange _, fun _ _ => ⟨rfl, rfl⟩,
    fun i outside => absurd (List.mem_finRange i) outside⟩

/-- Create a set of buffers, destroy it, and destroy it once more. -/
def lifetime (driver : GbmDriver) (width height : UInt32) : Prog Kind (Bool × GbmBufs) := do
  let r ← create driver width height
  let bufs ← r.2.destroy
  let bufs ← bufs.destroy
  pure (r.1, bufs)

/-- Whatever calls fail: a set of buffers is returned complete, and holds what its fields name, or
nothing is held and no field names anything. It can be destroyed in either case, and once more,
and every buffer and descriptor is given back once. -/
theorem released_of_create (driver : GbmDriver) (width height : UInt32) (answer : Nat → Bool) :
    (((create driver width height).run (.start answer)).1.1 = true →
        Complete driver width height ((create driver width height).run (.start answer)).1.2) ∧
      (((create driver width height).run (.start answer)).1.1 = false →
        Vacant ((create driver width height).run (.start answer)).1.2) ∧
      ((create driver width height).run (.start answer)).2.held =
        ((create driver width height).run (.start answer)).1.2.owned ∧
      Vacant ((lifetime driver width height).run (.start answer)).1.2 ∧
      ((lifetime driver width height).run (.start answer)).2.held = 0 ∧
      ((lifetime driver width height).run (.start answer)).2.strays = 0 := by
  have vacantOwned {bufs : GbmBufs} (vacant : Vacant bufs) : bufs.owned = 0 := by
    rw [owned, vacant.gbm, ownedBy_none vacant.bo, ownedBy_none vacant.fds]
    rfl
  have makes : Keeps 0 (create driver width height) fun r held =>
      (r.1 = true → Complete driver width height r.2) ∧ (r.1 = false → Vacant r.2) ∧
        held = r.2.owned :=
    keeps_create (fun bufs vacant => ⟨nofun, fun _ => vacant, (vacantOwned vacant).symm⟩)
      fun bufs complete => ⟨fun _ => complete, nofun, add_zero _⟩
  have ends : Keeps 0 (lifetime driver width height) fun r held => Vacant r.2 ∧ held = 0 := by
    refine .bind (makes.mono fun r held known => ?_)
    rw [known.2.2, ← add_zero r.2.owned]
    refine .bind (keeps_destroy fun bufs vacant => ?_)
    have again : Keeps (bufs.owned + 0) (do
        let bufs ← bufs.destroy
        pure (r.1, bufs)) fun r held => Vacant r.2 ∧ held = 0 :=
      .bind (keeps_destroy fun bufs vacant => .pure ⟨vacant, rfl⟩)
    rw [vacantOwned vacant, add_zero] at again
    exact again
  obtain ⟨⟨complete, vacant, holds⟩, -⟩ := makes.start answer
  obtain ⟨⟨gone, nothing⟩, once⟩ := ends.start answer
  exact ⟨complete, vacant, holds, gone, nothing, once⟩

end GbmBufs

end Wisp
