import Wisp.Control.Sockets
import Wisp.Lib.Descriptors

/-!
# Who owns the sockets

Every accepted socket that is open belongs to one slot in use, and every slot in use has one. The
table of descriptors is that of the whole process; the accepted sockets are its objects, and all
other descriptors are left aside. This is kept by what the handlers do: a client joins, is
refused or leaves, and descriptors that are no sockets come and go.
-/

namespace Wisp

namespace ControlPlane

/-- What `wisps_control_plane_close` closes, less the descriptors of the poll loop itself. -/
def close (cp : ControlPlane) : List Int :=
  ((List.finRange sessionMaxClients).filter fun i =>
    (cp.table.slots i).inUse && decide ((cp.table.slots i).ctrlFd ≥ 0)).map fun i =>
      (cp.table.slots i).ctrlFd

end ControlPlane

/-- The slots in use have descriptors of their own, and these are those of the open sockets. -/
structure Owned (cp : ControlPlane) (files : Descriptors Int) : Prop where
  distinct : ∀ i j, (cp.table.slots i).inUse = true → (cp.table.slots j).inUse = true →
    (cp.table.slots i).ctrlFd = (cp.table.slots j).ctrlFd → i = j
  sockets : ∀ fd, fd ∈ files.objects ↔
    ∃ i, (cp.table.slots i).inUse = true ∧ (cp.table.slots i).ctrlFd = fd
  valid : ∀ i, (cp.table.slots i).inUse = true → 0 ≤ (cp.table.slots i).ctrlFd

namespace Owned

variable {cp cp' : ControlPlane} {files : Descriptors Int} {fds : List Int} {fd : Int} {i : Slot}

/-- The descriptor of a slot in use refers to a socket. -/
theorem socket (owned : Owned cp files) (inUse : (cp.table.slots i).inUse = true) :
    ∃ n, files.entry (cp.table.slots i).ctrlFd = .object n :=
  (owned.sockets _).mpr ⟨i, inUse, rfl⟩

theorem keep (owned : Owned cp files) (same : cp.SameSockets cp') : Owned cp' files := by
  refine ⟨fun i j => ?_, fun fd => ?_, fun i => ?_⟩
  · rw [(same i).1, (same i).2, (same j).1, (same j).2]
    exact owned.distinct i j
  · simp only [same _]
    exact owned.sockets fd
  · rw [(same i).1, (same i).2]
    exact owned.valid i

theorem installAll (owned : Owned cp files) (free : ∀ fd ∈ fds, files.entry fd = .free) :
    Owned cp (files.installAll fds) := by
  refine ⟨owned.distinct, fun fd => ?_, owned.valid⟩
  rw [Descriptors.objects_installAll free]
  exact owned.sockets fd

/-- Closing what is no client's socket. -/
theorem release (owned : Owned cp files) (other : ∀ fd ∈ fds, files.entry fd = .other) :
    Owned cp (files.closeAll fds) := by
  refine ⟨owned.distinct, fun fd => ?_, owned.valid⟩
  rw [Descriptors.objects_closeAll, ← owned.sockets]
  refine and_iff_left_of_imp ?_
  rintro ⟨n, names⟩ member
  cases (other fd member).symm.trans names

/-- A slot is freed and its socket closed. -/
theorem leave (owned : Owned cp files) (inUse : (cp.table.slots i).inUse = true)
    (frees : cp.Frees i cp') : Owned cp' (files.closeAll [(cp.table.slots i).ctrlFd]) := by
  have stays {j : Slot} (used : (cp'.table.slots j).inUse = true) :
      j ≠ i ∧ (cp.table.slots j).inUse = true ∧
        (cp'.table.slots j).ctrlFd = (cp.table.slots j).ctrlFd := by
    have other : j ≠ i := by
      rintro rfl
      rw [frees.gone] at used
      cases used
    exact ⟨other, (frees.others j other).1 ▸ used, (frees.others j other).2⟩
  refine ⟨fun j k first second same => ?_, fun fd => ?_, fun j used => ?_⟩
  · obtain ⟨-, first, here⟩ := stays first
    obtain ⟨-, second, there⟩ := stays second
    rw [here, there] at same
    exact owned.distinct j k first second same
  · rw [Descriptors.objects_closeAll]
    show fd ∈ files.objects ∧ fd ∉ [(cp.table.slots i).ctrlFd] ↔ _
    rw [owned.sockets, List.mem_singleton]
    constructor
    · rintro ⟨⟨j, used, rfl⟩, other⟩
      have ne : j ≠ i := by
        rintro rfl
        exact other rfl
      exact ⟨j, (frees.others j ne).1.trans used, (frees.others j ne).2⟩
    · rintro ⟨j, used, rfl⟩
      obtain ⟨other, used, here⟩ := stays used
      rw [here]
      exact ⟨⟨j, used, rfl⟩, fun same => other (owned.distinct j i used inUse same)⟩
  · obtain ⟨-, used, here⟩ := stays used
    rw [here]
    exact owned.valid j used

/-- A socket is accepted into a free slot. -/
theorem join (owned : Owned cp files) (valid : 0 ≤ fd) (unused : files.entry fd = .free)
    (vacant : (cp.table.slots i).inUse = false) :
    Owned { cp with table := cp.table.setSlot i (ControlPlane.newcomer fd) }
      (files.create fd) := by
  have here : (cp.table.setSlot i (ControlPlane.newcomer fd)).slots i = ControlPlane.newcomer fd :=
    Function.update_self ..
  have there {j : Slot} (other : j ≠ i) :
      (cp.table.setSlot i (ControlPlane.newcomer fd)).slots j = cp.table.slots j :=
    Function.update_of_ne other ..
  have fresh {j : Slot} (used : (cp.table.slots j).inUse = true) :
      (cp.table.slots j).ctrlFd ≠ fd := by
    rintro rfl
    obtain ⟨n, names⟩ := owned.socket used
    cases unused.symm.trans names
  refine ⟨fun j k first second same => ?_, fun k => ?_, fun j used => ?_⟩
  · by_cases left : j = i
    · by_cases right : k = i
      · rw [left, right]
      · rw [left, here, there right] at same
        rw [there right] at second
        exact absurd same.symm (fresh second)
    · rw [there left] at first same
      by_cases right : k = i
      · rw [right, here] at same
        exact absurd same (fresh first)
      · rw [there right] at second same
        exact owned.distinct j k first second same
  · rw [Descriptors.objects_create, Set.mem_insert_iff, owned.sockets]
    constructor
    · rintro (rfl | ⟨j, used, rfl⟩)
      · exact ⟨i, by rw [here]; rfl, by rw [here]; rfl⟩
      · have other : j ≠ i := by
          rintro rfl
          rw [vacant] at used
          cases used
        exact ⟨j, by rwa [there other], by rw [there other]⟩
    · rintro ⟨j, used, rfl⟩
      by_cases same : j = i
      · rw [same, here]
        exact .inl rfl
      · rw [there same] at used ⊢
        exact .inr ⟨j, used, rfl⟩
  · by_cases same : j = i
    · rw [same, here]
      exact valid
    · rw [there same] at used ⊢
      exact owned.valid j used

/-- A socket is accepted and closed at once. -/
theorem refuse (owned : Owned cp files) (unused : files.entry fd = .free) :
    Owned cp ((files.create fd).closeAll [fd]) := by
  refine ⟨owned.distinct, fun k => ?_, owned.valid⟩
  rw [Descriptors.objects_closeAll, Descriptors.objects_create, ← owned.sockets]
  show k ∈ insert fd files.objects ∧ k ∉ [fd] ↔ _
  rw [Set.mem_insert_iff, List.mem_singleton]
  constructor
  · rintro ⟨same | known, other⟩
    · exact absurd same other
    · exact known
  · rintro ⟨n, names⟩
    refine ⟨.inr ⟨n, names⟩, ?_⟩
    rintro rfl
    cases unused.symm.trans names

/-- The end closes the sockets of all slots in use. -/
theorem mem_close (owned : Owned cp files) :
    fd ∈ cp.close ↔ ∃ i, (cp.table.slots i).inUse = true ∧ (cp.table.slots i).ctrlFd = fd := by
  simp only [ControlPlane.close, List.mem_map, List.mem_filter, List.mem_finRange, true_and,
    Bool.and_eq_true, decide_eq_true_eq]
  constructor
  · rintro ⟨i, ⟨inUse, -⟩, same⟩
    exact ⟨i, inUse, same⟩
  · rintro ⟨i, inUse, same⟩
    exact ⟨i, ⟨inUse, owned.valid i inUse⟩, same⟩

theorem nodup_close (owned : Owned cp files) : cp.close.Nodup := by
  refine List.Nodup.map_on ?_ ((List.nodup_finRange _).filter _)
  intro i first j second same
  simp only [List.mem_filter, Bool.and_eq_true] at first second
  exact owned.distinct i j first.2.1 second.2.1 same

end Owned

end Wisp
