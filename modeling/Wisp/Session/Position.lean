import Wisp.Lib.Line
import Wisp.Session.Queue

/-!
# The reported positions

A queued client is told its position by `wisps_session_table_queue_position`, and the slot
goes to the client that `wisps_session_table_find_next_queued` finds. The two scan the table
separately. Both describe one line, in which the queued slots stand by `requestKey`: the
position is the place in this line, and the slot found is the first of it.
-/

namespace Wisp

theorem tsLess_iff {a b : Timespec} :
    tsLess a b = true ↔ a.tvSec < b.tvSec ∨ a.tvSec = b.tvSec ∧ a.tvNsec < b.tvNsec := by
  by_cases same : a.tvSec = b.tvSec <;> simp [tsLess, same]

namespace SessionTable

variable (table : SessionTable)

/-- The slots that wait. -/
def queue : Finset Slot :=
  Finset.univ.filter fun i => table.isQueued i = true

@[simp] theorem mem_queue {i : Slot} : i ∈ table.queue ↔ table.isQueued i = true := by
  simp only [queue, Finset.mem_filter, Finset.mem_univ, true_and]

theorem queue_card_le : table.queue.card ≤ sessionMaxClients :=
  le_trans (Finset.card_filter_le _ _) (le_of_eq (Finset.card_fin sessionMaxClients))

theorem requestKey_injective : Function.Injective table.requestKey := by
  intro i j same
  have stamps := congrArg (fun key => (ofLex key).2) same
  exact congrArg (fun key => (ofLex key).2) stamps

/-- The condition under which `wisps_session_table_queue_position` counts a slot. -/
theorem requestKey_lt_iff {i idx : Slot} :
    table.requestKey i < table.requestKey idx ↔
      tsLess (table.slots i).activateRequestedMonotonic
          (table.slots idx).activateRequestedMonotonic = true ∨
        (table.slots i).activateRequestedMonotonic =
          (table.slots idx).activateRequestedMonotonic ∧ i < idx := by
  generalize sinceI : (table.slots i).activateRequestedMonotonic = a
  generalize sinceIdx : (table.slots idx).activateRequestedMonotonic = b
  obtain ⟨secI, nsecI⟩ := a
  obtain ⟨secIdx, nsecIdx⟩ := b
  simp only [requestKey, Prod.Lex.toLex_lt_toLex, tsLess_iff, sinceI, sinceIdx,
    Timespec.mk.injEq, and_or_left, and_assoc, or_assoc]

/-! ### The place in the line -/

theorem queuePosition_of_not_queued {i : Slot} (absent : table.isQueued i = false) :
    table.queuePosition i = 0 := by
  simp [queuePosition, absent]

/-- The position counts the queued slots with a smaller key. -/
theorem queuePosition_eq {i : Slot} (waits : table.isQueued i = true) :
    table.queuePosition i = UInt32.ofNat (Line.place table.queue table.requestKey i) := by
  have counted : ((List.finRange sessionMaxClients).countP fun j =>
      j ≠ i && table.isQueued j &&
        (tsLess (table.slots j).activateRequestedMonotonic
            (table.slots i).activateRequestedMonotonic ||
          ((table.slots j).activateRequestedMonotonic ==
            (table.slots i).activateRequestedMonotonic && j < i))) =
      (table.queue.filter fun j => table.requestKey j < table.requestKey i).card := by
    rw [List.countP_eq_length_filter,
      ← List.toFinset_card_of_nodup ((List.nodup_finRange _).filter _)]
    congr 1
    ext j
    have other : table.requestKey j < table.requestKey i → j ≠ i := by
      rintro before rfl
      exact lt_irrefl _ before
    simp only [List.mem_toFinset, List.mem_filter, List.mem_finRange, Finset.mem_filter,
      mem_queue, Bool.and_eq_true, Bool.or_eq_true, decide_eq_true_eq, beq_iff_eq, true_and,
      ← table.requestKey_lt_iff]
    exact ⟨fun h => ⟨h.1.2, h.2⟩, fun h => ⟨⟨other h.2, h.1⟩, h.2⟩⟩
  rw [queuePosition, waits, Line.place, ← counted]
  rfl

theorem queuePosition_toNat {i : Slot} (waits : table.isQueued i = true) :
    (table.queuePosition i).toNat = Line.place table.queue table.requestKey i := by
  have short : Line.place table.queue table.requestKey i ≤ sessionMaxClients :=
    le_trans (Line.place_le_card (table.mem_queue.mpr waits)) table.queue_card_le
  rw [table.queuePosition_eq waits, UInt32.toNat_ofNat_of_lt']
  exact lt_of_le_of_lt short (by decide)

/-! ### The order in which the slots are served -/

theorem findNextQueued_eq_none_iff_queue : table.findNextQueued = none ↔ table.queue = ∅ := by
  simp [findNextQueued_eq_none_iff, Finset.eq_empty_iff_forall_notMem]

/-- The slot found is the first of the line. -/
theorem findNextQueued_eq_some_iff {i : Slot} :
    table.findNextQueued = some i ↔
      i ∈ table.queue ∧ ∀ j ∈ table.queue, table.requestKey i ≤ table.requestKey j := by
  constructor
  · intro found
    have waits := (table.isQueued_iff i).mpr (findNextQueued_queued found)
    exact ⟨table.mem_queue.mpr waits,
      fun j member => findNextQueued_le found (table.mem_queue.mp member)⟩
  · rintro ⟨member, first⟩
    cases found : table.findNextQueued with
    | none =>
        rw [findNextQueued_eq_none_iff_queue] at found
        simp [found] at member
    | some r =>
        have waits := (table.isQueued_iff r).mpr (findNextQueued_queued found)
        have before := findNextQueued_le found (table.mem_queue.mp member)
        have after := first r (table.mem_queue.mpr waits)
        rw [table.requestKey_injective (le_antisymm before after)]

/-- A slot stops waiting. Who else waits, and since when, stays the same. -/
structure Leaves (i : Slot) (table' : SessionTable) : Prop where
  gone : table'.isQueued i = false
  others : ∀ j ≠ i, table'.isQueued j = table.isQueued j
  stamps : ∀ j ≠ i, (table'.slots j).activateRequestedMonotonic =
    (table.slots j).activateRequestedMonotonic

variable {table} {table' : SessionTable} {i : Slot}

/-- Only the slot itself is touched. -/
theorem Leaves.of_slots (gone : table'.isQueued i = false)
    (same : ∀ j ≠ i, table'.slots j = table.slots j) : table.Leaves i table' where
  gone := gone
  others j other := by simp only [isQueued, same j other]
  stamps j other := by rw [same j other]

/-- A queued slot leaves the queue when it is granted. -/
theorem leaves_grant (generation : UInt32) : table.Leaves i (table.grant i generation) := by
  apply Leaves.of_slots
  · simp [isQueued, grant, setSlot]
  · intro j other
    exact Function.update_of_ne other _ _

/-- And when its client goes away. -/
theorem leaves_remove : table.Leaves i (table.remove i).1 := by
  apply Leaves.of_slots
  · simp [isQueued, table.remove_inUse i]
  · exact fun j other => table.remove_slots_of_ne other

theorem Leaves.queue_eq (leaves : table.Leaves i table') : table'.queue = table.queue.erase i := by
  ext j
  by_cases same : j = i
  · subst same
    simp [leaves.gone]
  · simp [leaves.others j same, same]

theorem Leaves.requestKey_eq (leaves : table.Leaves i table') {j : Slot} (other : j ≠ i) :
    table'.requestKey j = table.requestKey j := by
  simp only [requestKey, leaves.stamps j other]

/-- When the first of the line leaves, everybody else moves up by one. -/
theorem Leaves.queuePosition_succ (leaves : table.Leaves i table')
    (found : table.findNextQueued = some i) {j : Slot} (other : j ≠ i)
    (waits : table.isQueued j = true) :
    (table'.queuePosition j).toNat + 1 = (table.queuePosition j).toNat := by
  obtain ⟨member, first⟩ := table.findNextQueued_eq_some_iff.mp found
  have remains : j ∈ table.queue.erase i :=
    Finset.mem_erase.mpr ⟨other, table.mem_queue.mpr waits⟩
  have same : ∀ h ∈ table.queue.erase i, table'.requestKey h = table.requestKey h :=
    fun h left => leaves.requestKey_eq (Finset.ne_of_mem_erase left)
  rw [table.queuePosition_toNat waits, queuePosition_toNat _ ((leaves.others j other).trans waits),
    leaves.queue_eq, Line.place_congr same remains]
  exact Line.place_erase table.requestKey_injective.injOn member first
    (table.mem_queue.mpr waits) other

/-- The slots in the order in which `wisps_session_table_find_next_queued` finds them, when each
leaves the queue before the next search. -/
inductive Serves : SessionTable → List Slot → Prop where
  | done {table : SessionTable} (empty : table.findNextQueued = none) : Serves table []
  | next {table table' : SessionTable} {i : Slot} {order : List Slot}
      (found : table.findNextQueued = some i) (leaves : table.Leaves i table')
      (rest : Serves table' order) : Serves table (i :: order)

/-- This serves the line. -/
theorem Serves.served {order : List Slot} (serves : Serves table order) :
    Line.Served table.requestKey table.queue order := by
  induction serves with
  | @done table empty =>
      rw [table.findNextQueued_eq_none_iff_queue.mp empty]
      exact .done
  | @next table table' i order found leaves rest ih =>
      obtain ⟨member, first⟩ := table.findNextQueued_eq_some_iff.mp found
      rw [leaves.queue_eq] at ih
      exact .next member first
        (ih.congr fun h left => (leaves.requestKey_eq (Finset.ne_of_mem_erase left)).symm)

/-- The search comes to an end, for instance when every slot found is granted. -/
theorem exists_serves (table : SessionTable) : ∃ order, Serves table order := by
  generalize length : table.queue.card = k
  induction k generalizing table with
  | zero =>
      have empty := table.findNextQueued_eq_none_iff_queue.mpr (Finset.card_eq_zero.mp length)
      exact ⟨[], .done empty⟩
  | succ k ih =>
      cases found : table.findNextQueued with
      | none =>
          rw [findNextQueued_eq_none_iff_queue] at found
          simp [found] at length
      | some i =>
          have leaves : table.Leaves i (table.grant i 0) := leaves_grant 0
          have member := (table.findNextQueued_eq_some_iff.mp found).1
          obtain ⟨order, rest⟩ := ih (table.grant i 0) (by
            rw [leaves.queue_eq, Finset.card_erase_of_mem member, length, Nat.add_sub_cancel])
          exact ⟨i :: order, .next found leaves rest⟩

/-- The slots are served in the order of their positions. -/
theorem Serves.map_queuePosition {order : List Slot} (serves : Serves table order) :
    order.map (fun i => (table.queuePosition i).toNat) = List.range' 1 table.queue.card := by
  have places := serves.served.map_place table.requestKey_injective.injOn
  rw [← places]
  apply List.map_congr_left
  intro i listed
  exact table.queuePosition_toNat (table.mem_queue.mp (serves.served.mem i listed))

/-- What a reported position means: the places `1, ..., k` in the order of the requests, and how
many slots are to be served up to this one. -/
structure RanksQueue (table : SessionTable) : Prop where
  bijective : Set.BijOn (fun i => (table.queuePosition i).toNat) {i | table.isQueued i = true}
    (Set.Icc 1 table.queue.card)
  ordered : ∀ i j, table.isQueued i = true → table.isQueued j = true →
    (table.queuePosition i < table.queuePosition j ↔ table.requestKey i < table.requestKey j)
  absent : ∀ i, table.isQueued i = false → table.queuePosition i = 0
  first : ∀ i, table.queuePosition i = 1 ↔ table.findNextQueued = some i
  nobody : table.findNextQueued = none ↔ table.queue.card = 0
  moves : ∀ i table', table.findNextQueued = some i → table.Leaves i table' →
    ∀ j ≠ i, table.isQueued j = true →
      (table'.queuePosition j).toNat + 1 = (table.queuePosition j).toNat
  serves : ∀ order, Serves table order →
    order.map (fun i => (table.queuePosition i).toNat) = List.range' 1 table.queue.card
  ends : ∃ order, Serves table order

theorem queuePosition_bijOn (table : SessionTable) :
    Set.BijOn (fun i => (table.queuePosition i).toNat) {i | table.isQueued i = true}
      (Set.Icc 1 table.queue.card) := by
  have waiting : {i | table.isQueued i = true} = (table.queue : Set Slot) := by
    ext i
    simp
  rw [waiting]
  apply (Line.place_bijOn table.requestKey_injective.injOn).congr
  intro i member
  exact (table.queuePosition_toNat (table.mem_queue.mp (Finset.mem_coe.mp member))).symm

theorem queuePosition_eq_one_iff (table : SessionTable) (i : Slot) :
    table.queuePosition i = 1 ↔ table.findNextQueued = some i := by
  rw [findNextQueued_eq_some_iff, mem_queue, ← UInt32.toNat_inj]
  cases waits : table.isQueued i with
  | false => simp [table.queuePosition_of_not_queued waits]
  | true =>
      rw [table.queuePosition_toNat waits, UInt32.toNat_one, Line.place_eq_one_iff]
      simp

/-- In every table the position is the rank in the order of the queue. -/
theorem ranksQueue_of_table (table : SessionTable) : table.RanksQueue where
  bijective := table.queuePosition_bijOn
  ordered i j waitsI waitsJ := by
    rw [UInt32.lt_iff_toNat_lt, table.queuePosition_toNat waitsI,
      table.queuePosition_toNat waitsJ]
    exact Line.place_lt_place_iff (table.mem_queue.mpr waitsI)
  absent _ waits := table.queuePosition_of_not_queued waits
  first := table.queuePosition_eq_one_iff
  nobody := by rw [findNextQueued_eq_none_iff_queue, Finset.card_eq_zero]
  moves _ _ found leaves _ other waits := leaves.queuePosition_succ found other waits
  serves _ serves := serves.map_queuePosition
  ends := exists_serves table

/-- Three clients wait. Slots 1 and 6 asked at the same time, slot 4 asked before them, and
slot 2 is free again after waiting since an earlier time. -/
def waitingRoom : SessionTable where
  slots i :=
    let asked (inUse : Bool) (sec nsec : Int) : Session :=
      { Session.zero with
        inUse, state := .queued, activateRequestedMonotonic := ⟨sec, nsec⟩ }
    match i.val with
    | 1 | 6 => asked true 8 0
    | 2 => asked false 3 0
    | 4 => asked true 7 999999999
    | _ => .zero
  activeSlot := none

/-- Slot 4 comes first, and once it has been granted, slot 6 is second instead of third. -/
theorem ranksQueue_of_table_waitingRoom :
    waitingRoom.findNextQueued = some 4 ∧ waitingRoom.queuePosition 6 = 3 ∧
      ((waitingRoom.grant 4 9).queuePosition 6).toNat + 1 =
        (waitingRoom.queuePosition 6).toNat :=
  ⟨by decide, by decide, (ranksQueue_of_table waitingRoom).moves 4 _ (by decide)
    (leaves_grant 9) 6 (by decide) (by decide)⟩

end SessionTable

end Wisp
