import Wisp.Control.Event
import Wisp.Lib.Truncation

/-!
# Timeouts and deadlines

The control thread compares readings of the monotonic clock in whole milliseconds, which it
finds by truncation. A session never times out too soon, and less than a millisecond late. A
grace period never ends late, and less than a millisecond too soon.
-/

namespace Wisp

namespace Timespec

/-- The nanoseconds are less than a second, as in every reading of the clock. -/
structure Normalised (t : Timespec) : Prop where
  nonneg : 0 ≤ t.tvNsec
  lt_second : t.tvNsec < 1000000000

/-- The time in nanoseconds. -/
def nanos (t : Timespec) : Int := t.tvSec * 1000000000 + t.tvNsec

end Timespec

section Elapsed

variable {now since : Timespec} {ms : Int}

theorem nanos_sub_nanos (now since : Timespec) :
    now.nanos - since.nanos = Truncation.difference 1000 1000000
      (now.tvSec - since.tvSec) (now.tvNsec - since.tvNsec) := by
  simp only [Timespec.nanos, Truncation.difference]
  omega

theorem elapsedMs_le (early : now.nanos - since.nanos ≤ ms * 1000000) :
    elapsedMs now since ≤ ms := by
  apply Truncation.count_le (by decide)
  rw [← nanos_sub_nanos]
  exact early

theorem le_elapsedMs (late : ms * 1000000 ≤ now.nanos - since.nanos) :
    ms ≤ elapsedMs now since := by
  apply Truncation.le_count (by decide)
  rw [← nanos_sub_nanos]
  exact late

-- Twice the same 1000.5 ms, rounded down and rounded up.
example : elapsedMs ⟨2, 500000⟩ ⟨1, 0⟩ = 1000 ∧ elapsedMs ⟨2, 200000⟩ ⟨0, 999700000⟩ = 1001 := by
  decide

/-- `elapsedMs` as the source computes it, in `int64_t`. -/
def elapsedMs64 (now since : Timespec) : Int64 :=
  (Int64.ofInt now.tvSec - Int64.ofInt since.tvSec) * 1000 +
    (Int64.ofInt now.tvNsec - Int64.ofInt since.tvNsec) / 1000000

theorem elapsedMs64_eq (normalNow : now.Normalised) (normalSince : since.Normalised) :
    elapsedMs64 now since = Int64.ofInt (elapsedMs now since) := by
  obtain ⟨nonnegNow, ltNow⟩ := normalNow
  obtain ⟨nonnegSince, ltSince⟩ := normalSince
  have least : Int64.minValue.toInt = -9223372036854775808 := by decide
  have greatest : Int64.maxValue.toInt = 9223372036854775807 := by decide
  have thousand : (1000 : Int64) = Int64.ofInt 1000 := by decide
  have million : (1000000 : Int64) = Int64.ofInt 1000000 := by decide
  have quotient : (Int64.ofInt now.tvNsec - Int64.ofInt since.tvNsec) / 1000000 =
      Int64.ofInt ((now.tvNsec - since.tvNsec).tdiv 1000000) := by
    rw [Int64.ofInt_tdiv (by omega) (by omega) (by omega) (by omega), Int64.ofInt_sub, million]
  rw [elapsedMs64, quotient, thousand, ← Int64.ofInt_sub, ← Int64.ofInt_mul, ← Int64.ofInt_add]
  rfl

/-- The machine finds the same milliseconds as long as they fit. -/
theorem toInt_elapsedMs64 (normalNow : now.Normalised) (normalSince : since.Normalised)
    (least : Int64.minValue.toInt ≤ elapsedMs now since)
    (greatest : elapsedMs now since ≤ Int64.maxValue.toInt) :
    (elapsedMs64 now since).toInt = elapsedMs now since := by
  rw [elapsedMs64_eq normalNow normalSince]
  exact Int64.toInt_ofInt_of_le least (Int.lt_of_le_sub_one greatest)

end Elapsed

namespace ControlPlane

variable {cp : ControlPlane} {idx : Slot} {now clock : Timespec}

theorem checkHeartbeatTimeouts_of_le {table : SessionTable}
    (active : table.activeSlot = some idx)
    (early : now.nanos - (table.slots idx).lastHeartbeatMonotonic.nanos ≤
      clientHeartbeatTimeoutMs * 1000000) :
    table.checkHeartbeatTimeouts now = (none, table) := by
  have heard := elapsedMs_le early
  rw [SessionTable.checkHeartbeatTimeouts, active]
  exact if_neg (Int.not_lt.mpr heard)

theorem checkHeartbeatTimeouts_of_lt {table : SessionTable}
    (active : table.activeSlot = some idx)
    (late : (clientHeartbeatTimeoutMs + 1) * 1000000 ≤
      now.nanos - (table.slots idx).lastHeartbeatMonotonic.nanos) :
    table.checkHeartbeatTimeouts now = (some idx, table.deactivate idx) := by
  have unheard := le_elapsedMs late
  rw [SessionTable.checkHeartbeatTimeouts, active]
  exact if_pos (Int.lt_of_add_one_le unheard)

/-- The deadline is the reading plus the grace period, with the carry made good. -/
theorem graceDeadline_spec {clock : Timespec} (normal : clock.Normalised) :
    (graceDeadline clock).Normalised ∧
      (graceDeadline clock).nanos = clock.nanos + evictGraceMs * 1000000 := by
  obtain ⟨nonneg, ltSecond⟩ := normal
  have short : evictGraceMs % 1000 < 1000 := Nat.mod_lt _ (by decide)
  simp only [graceDeadline, Timespec.nanos]
  split
  · refine ⟨⟨?_, ?_⟩, ?_⟩ <;> simp only <;> omega
  · refine ⟨⟨?_, ?_⟩, ?_⟩ <;> simp only <;> omega

/-- What the grace check does with the slot when its time is up. -/
def expire (cp : ControlPlane) (idx : Slot) (clock : Timespec) : ControlPlane :=
  let cp := { cp with evictingSlot := none }
  let cp := { cp with table := (cp.table.markEvictionForced idx).reclaimEviction idx }
  cp.finishPendingGrant.maybeGrantNextQueued clock

theorem checkGrace_of_evicting (evicting : cp.evictingSlot = some idx) :
    cp.checkGrace now clock =
      if elapsedMs now cp.evictionDeadlineMonotonic ≥ 0 then cp.expire idx clock else cp := by
  rw [checkGrace, evicting]
  rfl

theorem checkGrace_of_le (evicting : cp.evictingSlot = some idx)
    (late : cp.evictionDeadlineMonotonic.nanos ≤ now.nanos) :
    cp.checkGrace now clock = cp.expire idx clock := by
  have passed : 0 ≤ elapsedMs now cp.evictionDeadlineMonotonic := le_elapsedMs (by omega)
  rw [checkGrace_of_evicting evicting, if_pos passed]

theorem checkGrace_of_lt (early : now.nanos + 1000000 ≤ cp.evictionDeadlineMonotonic.nanos) :
    cp.checkGrace now clock = cp := by
  have within : elapsedMs now cp.evictionDeadlineMonotonic ≤ -1 := elapsedMs_le (by omega)
  cases evicting : cp.evictingSlot with
  | none => rw [checkGrace, evicting]
  | some idx => rw [checkGrace_of_evicting evicting, if_neg (by omega)]

/-- The time arithmetic of the control thread is right to within one millisecond. -/
structure Punctual (cp : ControlPlane) : Prop where
  alive : ∀ idx now, cp.table.activeSlot = some idx →
    now.nanos - (cp.table.slots idx).lastHeartbeatMonotonic.nanos ≤
      clientHeartbeatTimeoutMs * 1000000 →
    cp.table.checkHeartbeatTimeouts now = (none, cp.table)
  silent : ∀ idx now, cp.table.activeSlot = some idx →
    (clientHeartbeatTimeoutMs + 1) * 1000000 ≤
      now.nanos - (cp.table.slots idx).lastHeartbeatMonotonic.nanos →
    cp.table.checkHeartbeatTimeouts now = (some idx, cp.table.deactivate idx)
  deadline : ∀ prevIdx target clock, clock.Normalised →
    (cp.beginEviction prevIdx target clock).evictionDeadlineMonotonic.Normalised ∧
      (cp.beginEviction prevIdx target clock).evictionDeadlineMonotonic.nanos =
        clock.nanos + evictGraceMs * 1000000
  expires : ∀ idx now clock, cp.evictingSlot = some idx →
    cp.evictionDeadlineMonotonic.nanos ≤ now.nanos →
    cp.checkGrace now clock = cp.expire idx clock
  waits : ∀ now clock, now.nanos + 1000000 ≤ cp.evictionDeadlineMonotonic.nanos →
    cp.checkGrace now clock = cp
  machine : ∀ now since : Timespec, now.Normalised → since.Normalised →
    Int64.minValue.toInt ≤ elapsedMs now since →
    elapsedMs now since ≤ Int64.maxValue.toInt →
    (elapsedMs64 now since).toInt = elapsedMs now since

theorem punctual_of_controlPlane (cp : ControlPlane) : cp.Punctual where
  alive _ _ active early := checkHeartbeatTimeouts_of_le active early
  silent _ _ active late := checkHeartbeatTimeouts_of_lt active late
  deadline _ _ _ normal := graceDeadline_spec normal
  expires _ _ _ evicting late := checkGrace_of_le evicting late
  waits _ _ early := checkGrace_of_lt early
  machine _ _ normalNow normalSince least greatest :=
    toInt_elapsedMs64 normalNow normalSince least greatest

/-- The session in this slot has been active since 0.9997 s. -/
def beating (idx : Slot) : ControlPlane :=
  let session := { Session.zero with inUse := true, ctrlFd := 10, state := .grantedWarmup }
  { booted with table := (booted.table.setSlot idx session).activate idx ⟨0, 999700000⟩ }

/-- After 1000 ms it is still alive, after 1001 ms it has timed out. Its eviction at 2.0007 s
is over at 3.0007 s, and not yet at 2.9997 s. -/
theorem punctual_of_controlPlane_beating :
    (beating 0).table.checkHeartbeatTimeouts ⟨1, 999700000⟩ = (none, (beating 0).table) ∧
      (beating 0).table.checkHeartbeatTimeouts ⟨2, 700000⟩ =
        (some 0, (beating 0).table.deactivate 0) ∧
      ((beating 0).beginEviction 0 1 ⟨2, 700000⟩).checkGrace ⟨3, 700000⟩ ⟨3, 800000⟩ =
        ((beating 0).beginEviction 0 1 ⟨2, 700000⟩).expire 0 ⟨3, 800000⟩ ∧
      ((beating 0).beginEviction 0 1 ⟨2, 700000⟩).checkGrace ⟨2, 999700000⟩ ⟨3, 0⟩ =
        (beating 0).beginEviction 0 1 ⟨2, 700000⟩ ∧
      (elapsedMs64 ⟨2, 700000⟩ ⟨0, 999700000⟩).toInt = 1001 := by
  have active := punctual_of_controlPlane (beating 0)
  have evicting := punctual_of_controlPlane ((beating 0).beginEviction 0 1 ⟨2, 700000⟩)
  refine ⟨active.alive 0 _ rfl (by decide), active.silent 0 _ rfl (by decide),
    evicting.expires 0 _ _ rfl (by decide), evicting.waits _ _ (by decide), ?_⟩
  exact active.machine ⟨2, 700000⟩ ⟨0, 999700000⟩ ⟨by decide, by decide⟩ ⟨by decide, by decide⟩
    (by decide) (by decide)

end ControlPlane

end Wisp
