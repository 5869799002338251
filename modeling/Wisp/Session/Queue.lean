import Mathlib.Data.Int.Order.Basic
import Mathlib.Data.List.Sort
import Mathlib.Data.Prod.Lex
import Mathlib.Order.Fin.Basic
import Wisp.Session.Table

/-!
# The order of the queue

The queue for the RT slot is not stored. It is derived from the session states and from
the time of each request, with the slot index deciding between equal times. `requestKey`
is that order, and the scan of `wisps_session_table_find_next_queued` answers with its
least queued slot.
-/

namespace Wisp

namespace SessionTable

variable (table : SessionTable)

/-- `(activate_requested_monotonic, slot index)`, to be compared lexicographically. -/
def requestKey (i : Slot) : Int ×ₗ Int ×ₗ Slot :=
  toLex ((table.slots i).activateRequestedMonotonic.tvSec,
    toLex ((table.slots i).activateRequestedMonotonic.tvNsec, i))

/-- For a slot further down the table, `ts_less` is the order of the queue. -/
theorem tsLess_iff_requestKey_lt {i b : Slot} (after : b < i) :
    tsLess (table.slots i).activateRequestedMonotonic
        (table.slots b).activateRequestedMonotonic = true ↔
      table.requestKey i < table.requestKey b := by
  simp only [requestKey, Prod.Lex.toLex_lt_toLex, tsLess]
  split
  · rename_i differ
    simp [differ]
  · rename_i same
    have later : ¬ i < b := Nat.lt_asymm after
    simp_all

/-- One step of the scan keeps the earlier of the two slots. -/
theorem nextQueuedStep_of_queued {i b : Slot} (queued : table.isQueued i = true) (after : b < i) :
    table.nextQueuedStep (some b) i =
      if table.requestKey i < table.requestKey b then some i else some b := by
  simp only [nextQueuedStep, queued, Bool.not_true, Bool.false_eq_true, if_false,
    table.tsLess_iff_requestKey_lt after]

/-- It goes on with a slot that goes before both, the best one so far and the one it comes to
if that one is queued. -/
theorem nextQueuedStep_le {best : Option Slot} {i : Slot} (behind : ∀ b, best = some b → b < i) :
    (∀ b, best = some b →
      ∃ c, table.nextQueuedStep best i = some c ∧ table.requestKey c ≤ table.requestKey b) ∧
    (table.isQueued i = true →
      ∃ c, table.nextQueuedStep best i = some c ∧ table.requestKey c ≤ table.requestKey i) ∧
    ∀ c, table.nextQueuedStep best i = some c → best = some c ∨ c = i := by
  by_cases queued : table.isQueued i = true
  · cases best with
    | none =>
        have taken : table.nextQueuedStep none i = some i := by simp [nextQueuedStep, queued]
        rw [taken]
        exact ⟨by simp, fun _ => ⟨i, rfl, le_refl _⟩, by simp⟩
    | some b =>
        rw [table.nextQueuedStep_of_queued queued (behind b rfl)]
        by_cases earlier : table.requestKey i < table.requestKey b
        · rw [if_pos earlier]
          refine ⟨?_, fun _ => ⟨i, rfl, le_refl _⟩, by simp⟩
          rintro _ ⟨⟩
          exact ⟨i, rfl, le_of_lt earlier⟩
        · rw [if_neg earlier]
          refine ⟨?_, fun _ => ⟨b, rfl, not_lt.mp earlier⟩, fun _ => Or.inl⟩
          rintro _ ⟨⟩
          exact ⟨b, rfl, le_refl _⟩
  · have skipped : table.nextQueuedStep best i = best := by simp [nextQueuedStep, queued]
    rw [skipped]
    exact ⟨fun b isBest => ⟨b, isBest, le_refl _⟩, fun waits => absurd waits queued,
      fun _ => Or.inl⟩

/-- The scan answers with a slot that no queued slot goes before. The slots that are
still to be scanned lie behind the best one so far. -/
theorem foldl_nextQueuedStep_le (scanned : List Slot) (best : Option Slot)
    (ascending : scanned.Pairwise (· < ·)) (behind : ∀ b, best = some b → ∀ i ∈ scanned, b < i)
    {r : Slot} (found : scanned.foldl table.nextQueuedStep best = some r) :
    (∀ b, best = some b → table.requestKey r ≤ table.requestKey b) ∧
      ∀ i ∈ scanned, table.isQueued i = true → table.requestKey r ≤ table.requestKey i := by
  induction scanned generalizing best with
  | nil =>
      refine ⟨fun b isBest => ?_, by simp⟩
      cases found.symm.trans isBest
      exact le_refl _
  | cons i rest ih =>
      obtain ⟨first, ascending⟩ := List.pairwise_cons.mp ascending
      obtain ⟨keepsBest, keepsNew, known⟩ :=
        table.nextQueuedStep_le fun b isBest => behind b isBest i List.mem_cons_self
      have beyond : ∀ c, table.nextQueuedStep best i = some c → ∀ j ∈ rest, c < j := by
        intro c isBest j member
        rcases known c isBest with old | rfl
        · exact behind c old j (List.mem_cons_of_mem _ member)
        · exact first j member
      rw [List.foldl_cons] at found
      obtain ⟨least, others⟩ := ih _ ascending beyond found
      refine ⟨fun b isBest => ?_, fun j member waits => ?_⟩
      · obtain ⟨c, step, le⟩ := keepsBest b isBest
        exact le_trans (least c step) le
      · rcases List.mem_cons.mp member with rfl | later
        · obtain ⟨c, step, le⟩ := keepsNew waits
          exact le_trans (least c step) le
        · exact others j later waits

/-- `wisps_session_table_find_next_queued` answers with the first slot of the queue. -/
theorem findNextQueued_le {table : SessionTable} {i j : Slot}
    (found : table.findNextQueued = some i) (waits : table.isQueued j = true) :
    table.requestKey i ≤ table.requestKey j := by
  have ascending : (List.finRange sessionMaxClients).Pairwise (· < ·) :=
    (List.sortedLT_finRange _).pairwise
  exact (table.foldl_nextQueuedStep_le _ none ascending (by simp) found).2 j
    (List.mem_finRange j) waits

end SessionTable

end Wisp
