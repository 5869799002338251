import Wisp.Shm.Ring

/-!
# Announced dmabufs

The server's record of the GPU buffers a client announced, and the validation of
an announce message. Ownership of the received descriptors moves through these
functions, so each one also returns the descriptors it closes, in order.
-/

namespace Wisp

/-- `wisp_close_fds`: the descriptors it passes to `close`. -/
def closeFds (fds : List Int) : List Int :=
  fds.filter (0 ≤ ·)

/-- `wisps_dmabuf_set_t` -/
structure DmabufSet where
  valid : Bool
  fds : Buf → Int
  desc : Buf → DmabufDesc

namespace DmabufSet

/-- An all-zero record, as left by `memset` over a whole session slot. -/
def zero : DmabufSet where
  valid := false
  fds := fun _ => 0
  desc := fun _ => default

/-- The record `wisps_dmabuf_set_from_announce` starts from. -/
def empty : DmabufSet where
  valid := false
  fds := fun _ => -1
  desc := fun _ => default

/-- The per-buffer check of `wisps_dmabuf_set_from_announce`, true if it fails. -/
def malformed (d : DmabufDesc) (fd : Int) : Bool :=
  fd < 0 || d.width == 0 || d.height == 0 || d.stride == 0 || d.stride < d.width

/-- `wisps_dmabuf_set_from_announce`: whether it returns 0, the set it leaves, and
the descriptors it closes. -/
def fromAnnounce (msg : DmabufAnnounceMsg) (fds : List Int) : Bool × DmabufSet × List Int :=
  if msg.nbufs.toNat ≠ numBuffers ∨ fds.length ≠ numBuffers then
    (false, empty, closeFds (fds.take numBuffers))
  else if (List.finRange numBuffers).any fun i => malformed (msg.desc i) (fds.getD i.val 0) then
    (false, empty, closeFds fds)
  else
    (true, { valid := true, fds := fun i => fds.getD i.val 0, desc := msg.desc }, [])

/-- `wisps_dmabuf_set_close`: the set it leaves and the descriptors it closes. -/
def close (set : DmabufSet) : DmabufSet × List Int :=
  ({ set with valid := false, fds := fun _ => -1 }, closeFds (List.ofFn set.fds))

/-- Closing the set at once closes what was announced. -/
theorem fromAnnounce_released (msg : DmabufAnnounceMsg) (fds : List Int) :
    (fromAnnounce msg fds).2.2 ++
        (if (fromAnnounce msg fds).1 then (fromAnnounce msg fds).2.1.close.2 else []) =
      closeFds (fds.take numBuffers) := by
  unfold fromAnnounce
  split
  · simp
  · rename_i counts
    have count : fds.length = numBuffers := by
      by_contra wrong
      exact counts (.inr wrong)
    rw [List.take_of_length_le (Nat.le_of_eq count)]
    split
    · simp
    · have all : List.ofFn (fun i : Buf => fds.getD i.val 0) = fds := by
        apply List.ext_getElem
        · rw [List.length_ofFn, count]
        · intro n _ there
          simp only [List.getElem_ofFn, List.getD_eq_getElem?_getD, List.getElem?_eq_getElem there,
            Option.getD_some]
      simp only [if_true, List.nil_append, close, all]

/-- A buffer that can be scanned out: the stride covers one row of 4-byte pixels. -/
def Scannable (d : DmabufDesc) (fd : Int) : Prop :=
  0 ≤ fd ∧ d.width ≠ 0 ∧ d.height ≠ 0 ∧ bytesPerPixel * d.width.toNat ≤ d.stride.toNat

/-- A buffer whose stride in bytes is at least its width in pixels. -/
def Shaped (d : DmabufDesc) (fd : Int) : Prop :=
  0 ≤ fd ∧ d.width ≠ 0 ∧ d.height ≠ 0 ∧ d.width.toNat ≤ d.stride.toNat

instance (d : DmabufDesc) (fd : Int) : Decidable (Scannable d fd) :=
  inferInstanceAs (Decidable (_ ∧ _))

instance (d : DmabufDesc) (fd : Int) : Decidable (Shaped d fd) :=
  inferInstanceAs (Decidable (_ ∧ _))

/-- The announce names all buffers, comes with as many descriptors, and each pair has the
property. -/
def Each (P : DmabufDesc → Int → Prop) (msg : DmabufAnnounceMsg) (fds : List Int) : Prop :=
  msg.nbufs.toNat = numBuffers ∧ fds.length = numBuffers ∧
    ∀ i : Buf, P (msg.desc i) (fds.getD i.val 0)

instance (P : DmabufDesc → Int → Prop) [∀ d fd, Decidable (P d fd)] (msg : DmabufAnnounceMsg)
    (fds : List Int) : Decidable (Each P msg fds) :=
  inferInstanceAs (Decidable (_ ∧ _))

/-- Announced buffers are taken over exactly when all of them can be scanned out. Otherwise
each descriptor is closed once. -/
structure TakesOver (msg : DmabufAnnounceMsg) (fds : List Int) : Prop where
  accepts : (fromAnnounce msg fds).1 = true ↔ Each Scannable msg fds
  owns : (fromAnnounce msg fds).1 = true →
    (fromAnnounce msg fds).2.1.valid = true ∧ (fromAnnounce msg fds).2.2 = [] ∧
      ∀ i : Buf, (fromAnnounce msg fds).2.1.fds i = fds.getD i.val 0 ∧
        (fromAnnounce msg fds).2.1.desc i = msg.desc i
  releases : (fromAnnounce msg fds).1 = false →
    (fromAnnounce msg fds).2.1.valid = false ∧
      (∀ i : Buf, (fromAnnounce msg fds).2.1.fds i = -1) ∧
      ∀ fd, 0 ≤ fd → (fromAnnounce msg fds).2.2.count fd = fds.count fd

theorem malformed_eq_false_iff (d : DmabufDesc) (fd : Int) :
    malformed d fd = false ↔ Shaped d fd := by
  have zero {n : UInt32} : (n == 0) = false ↔ n ≠ 0 := beq_eq_false_iff_ne
  simp only [malformed, Shaped, Bool.or_eq_false_iff, decide_eq_false_iff_not, zero,
    UInt32.lt_iff_toNat_lt, Nat.not_lt, Int.not_lt]
  constructor
  · rintro ⟨⟨⟨⟨owned, width⟩, height⟩, -⟩, covers⟩
    exact ⟨owned, width, height, covers⟩
  · rintro ⟨owned, width, height, covers⟩
    refine ⟨⟨⟨⟨owned, width⟩, height⟩, ?_⟩, covers⟩
    rintro none
    rw [none] at covers
    exact width (UInt32.toNat_inj.mp (Nat.le_zero.mp covers))

theorem closeFds_count (fds : List Int) {fd : Int} (owned : 0 ≤ fd) :
    (closeFds fds).count fd = fds.count fd :=
  List.count_filter (decide_eq_true owned)

/-- The code accepts what is shaped, and hands the descriptors over or closes them. -/
theorem fromAnnounce_spec (msg : DmabufAnnounceMsg) {fds : List Int}
    (room : fds.length ≤ numBuffers) :
    Each Shaped msg fds ∧ fromAnnounce msg fds =
        (true, { valid := true, fds := fun i => fds.getD i.val 0, desc := msg.desc }, []) ∨
      ¬ Each Shaped msg fds ∧ fromAnnounce msg fds = (false, empty, closeFds fds) := by
  unfold fromAnnounce
  split
  · rename_i counts
    refine .inr ⟨fun each => ?_, by rw [List.take_of_length_le room]⟩
    rcases counts with counts | counts
    · exact counts each.1
    · exact counts each.2.1
  · rename_i counts
    simp only [not_or, not_not] at counts
    have all : (List.finRange numBuffers).any (fun i => malformed (msg.desc i) (fds.getD i.val 0))
        = false ↔ Each Shaped msg fds := by
      simp only [List.any_eq_false, List.mem_finRange, true_imp_iff, Bool.not_eq_true,
        malformed_eq_false_iff, Each, counts, true_and]
    split
    · rename_i bad
      refine .inr ⟨fun each => ?_, rfl⟩
      rw [all.mpr each] at bad
      cases bad
    · rename_i good
      exact .inl ⟨all.mp (by simpa using good), rfl⟩

/-- The code takes a stride in bytes for one in pixels: the announces it treats right are
those that it refuses anyway, and those whose strides cover their rows. -/
theorem takesOver_iff (msg : DmabufAnnounceMsg) (fds : List Int)
    (room : fds.length ≤ numBuffers) :
    TakesOver msg fds ↔
      (Each Shaped msg fds → ∀ i : Buf,
        bytesPerPixel * (msg.desc i).width.toNat ≤ (msg.desc i).stride.toNat) := by
  have narrow : Each Scannable msg fds → Each Shaped msg fds := by
    rintro ⟨nbufs, nfds, each⟩
    refine ⟨nbufs, nfds, fun i => ?_⟩
    obtain ⟨owned, width, height, covers⟩ := each i
    refine ⟨owned, width, height, ?_⟩
    unfold bytesPerPixel at covers
    omega
  constructor
  · rintro ⟨accepts, -, -⟩ shaped i
    rcases fromAnnounce_spec msg room with ⟨-, result⟩ | ⟨unshaped, -⟩
    · exact ((accepts.mp (by rw [result])).2.2 i).2.2.2
    · exact absurd shaped unshaped
  · intro covers
    rcases fromAnnounce_spec msg room with ⟨shaped, result⟩ | ⟨unshaped, result⟩
    · refine ⟨?_, ?_, ?_⟩ <;> rw [result]
      · refine iff_of_true rfl ⟨shaped.1, shaped.2.1, fun i => ?_⟩
        obtain ⟨owned, width, height, -⟩ := shaped.2.2 i
        exact ⟨owned, width, height, covers shaped i⟩
      · exact fun _ => ⟨rfl, rfl, fun i => ⟨rfl, rfl⟩⟩
      · exact fun refused => absurd refused Bool.noConfusion
    · refine ⟨?_, ?_, ?_⟩ <;> rw [result]
      · exact iff_of_false Bool.noConfusion fun each => unshaped (narrow each)
      · exact fun accepted => absurd accepted Bool.noConfusion
      · exact fun _ => ⟨rfl, fun _ => rfl, fun fd owned => closeFds_count fds owned⟩

/-- An announce of three buffers of the same geometry. -/
def uniform (width height stride : UInt32) : DmabufAnnounceMsg where
  nbufs := UInt32.ofNat numBuffers
  desc := fun _ => { (default : DmabufDesc) with width, height, stride }

/-- Padded rows are accepted. -/
theorem takesOver_uniform : TakesOver (uniform 640 480 2688) [5, 6, 7] :=
  (takesOver_iff (uniform 640 480 2688) [5, 6, 7] (by decide)).mpr (by decide)

/-- A stride of one byte for each pixel is accepted too. -/
theorem not_takesOver_uniform : ¬ TakesOver (uniform 640 480 640) [5, 6, 7] := by
  intro takes
  have scannable : Each Scannable (uniform 640 480 640) [5, 6, 7] := takes.accepts.mp (by decide)
  exact absurd scannable (by decide)

end DmabufSet

end Wisp
