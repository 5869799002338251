import Wisp.Shm.Dmabuf

/-!
# The session table

`session_table.c`: the fixed array of client sessions and the transitions of one
session. The table knows nothing about sockets or the ring; which of its
functions runs when is decided by the control plane.

An index that the source keeps as an `int` with `-1` for "none" is an `Option`.
Functions that read the clock take the reading as an argument.
-/

namespace Wisp

/-- `WISPS_SESSION_MAX_CLIENTS` -/
abbrev sessionMaxClients : Nat := 8

/-- An index into the session table. -/
abbrev Slot := Fin sessionMaxClients

/-- `wisps_session_state_t` -/
inductive SessionState where
  | connected
  | negotiated
  | queued
  | grantedWarmup
  | activeRt
  | evictingCooperative
  | evictingForced
  | rejected
  deriving DecidableEq, Repr, Inhabited

/-- The states in which a session occupies the RT slot. -/
def SessionState.holdsRt : SessionState → Bool
  | .grantedWarmup | .activeRt | .evictingCooperative | .evictingForced => true
  | _ => false

/-- The states `grant_slot` and `finish_pending_grant` accept a target in. -/
def SessionState.grantable : SessionState → Bool
  | .negotiated | .queued => true
  | _ => false

/-- `wisps_session_t` -/
structure Session where
  inUse : Bool
  ctrlFd : Int
  clientId : ClientId
  state : SessionState
  offeredModes : Fin maxModes → RenderMode
  numOfferedModes : UInt32
  negotiatedMode : RenderMode
  negotiatedProtocolMinor : UInt32
  grantedGeneration : UInt32
  lastHeartbeatMonotonic : Timespec
  activateRequestedMonotonic : Timespec
  payloadKind : PayloadKind
  dmabufSet : DmabufSet

/-- A session slot after `memset`. -/
def Session.zero : Session where
  inUse := false
  ctrlFd := 0
  clientId := fun _ => 0
  state := .connected
  offeredModes := fun _ => ⟨0, 0, 0⟩
  numOfferedModes := 0
  negotiatedMode := ⟨0, 0, 0⟩
  negotiatedProtocolMinor := 0
  grantedGeneration := 0
  lastHeartbeatMonotonic := ⟨0, 0⟩
  activateRequestedMonotonic := ⟨0, 0⟩
  payloadKind := .pixels
  dmabufSet := .zero

/-- `wisps_session_table_t` -/
structure SessionTable where
  slots : Slot → Session
  activeSlot : Option Slot

/-- `ts_less` -/
def tsLess (a b : Timespec) : Bool :=
  if a.tvSec ≠ b.tvSec then a.tvSec < b.tvSec else a.tvNsec < b.tvNsec

/-- The whole milliseconds the source finds between two readings: seconds and
nanoseconds are differenced separately and C division truncates. -/
def elapsedMs (now since : Timespec) : Int :=
  (now.tvSec - since.tvSec) * 1000 + (now.tvNsec - since.tvNsec).tdiv 1000000

namespace SessionTable

/-- `wisps_session_table_init` -/
def init : SessionTable where
  slots := fun _ => { Session.zero with ctrlFd := -1 }
  activeSlot := none

/-- Replace one slot. -/
def setSlot (table : SessionTable) (idx : Slot) (session : Session) : SessionTable :=
  { table with slots := Function.update table.slots idx session }

/-- Change the state of one slot. -/
def setState (table : SessionTable) (idx : Slot) (state : SessionState) : SessionTable :=
  table.setSlot idx { table.slots idx with state }

/-- The first slot that is not in use. -/
def firstFree (table : SessionTable) : Option Slot :=
  (List.finRange sessionMaxClients).find? fun i => !(table.slots i).inUse

/-- `wisps_session_table_add`: `none` when the table is full. -/
def add (table : SessionTable) (fd : Int) : Option (Slot × SessionTable) :=
  table.firstFree.map fun i =>
    (i, table.setSlot i
      { Session.zero with inUse := true, ctrlFd := fd, state := .connected, payloadKind := .pixels })

/-- `wisps_session_table_find_by_client_id` -/
def findByClientId (table : SessionTable) (id : ClientId) : Option Slot :=
  (List.finRange sessionMaxClients).find? fun i =>
    (table.slots i).inUse && ClientId.strncmpEq (table.slots i).clientId id

/-- `wisps_session_table_grant` -/
def grant (table : SessionTable) (idx : Slot) (generation : UInt32) : SessionTable :=
  table.setSlot idx
    { table.slots idx with state := .grantedWarmup, grantedGeneration := generation }

/-- `wisps_session_table_deactivate` -/
def deactivate (table : SessionTable) (idx : Slot) : SessionTable :=
  if (table.slots idx).state ≠ .activeRt then table
  else
    let table := table.setState idx .negotiated
    if table.activeSlot = some idx then { table with activeSlot := none } else table

/-- `wisps_session_table_activate` -/
def activate (table : SessionTable) (idx : Slot) (clock : Timespec) : SessionTable :=
  let table := match table.activeSlot with
    | some previous => if previous ≠ idx then table.deactivate previous else table
    | none => table
  let table := table.setSlot idx
    { table.slots idx with state := .activeRt, lastHeartbeatMonotonic := clock }
  { table with activeSlot := some idx }

/-- `wisps_session_table_begin_eviction` -/
def beginEviction (table : SessionTable) (idx : Slot) : SessionTable :=
  if (table.slots idx).state ≠ .activeRt then table
  else
    let table := table.setState idx .evictingCooperative
    if table.activeSlot = some idx then { table with activeSlot := none } else table

/-- `wisps_session_table_mark_eviction_forced` -/
def markEvictionForced (table : SessionTable) (idx : Slot) : SessionTable :=
  if (table.slots idx).state = .evictingCooperative then table.setState idx .evictingForced
  else table

/-- `wisps_session_table_reclaim_eviction` -/
def reclaimEviction (table : SessionTable) (idx : Slot) : SessionTable :=
  if (table.slots idx).state ≠ .evictingCooperative ∧
      (table.slots idx).state ≠ .evictingForced then table
  else table.setState idx .negotiated

/-- `wisps_session_table_rt_slot_taken` -/
def rtSlotTaken (table : SessionTable) : Bool :=
  (List.finRange sessionMaxClients).any fun i =>
    (table.slots i).inUse && (table.slots i).state.holdsRt

/-- `wisps_session_table_remove`, with the descriptors closed on the way. -/
def remove (table : SessionTable) (idx : Slot) : SessionTable × List Int :=
  if !(table.slots idx).inUse then (table, [])
  else
    let table := table.deactivate idx
    let session := table.slots idx
    let (set, closed) :=
      if session.dmabufSet.valid then session.dmabufSet.close else (session.dmabufSet, [])
    (table.setSlot idx { session with dmabufSet := set, inUse := false, ctrlFd := -1 }, closed)

/-- `wisps_session_table_check_heartbeat_timeouts`: the slot timed out, if any. -/
def checkHeartbeatTimeouts (table : SessionTable) (now : Timespec) :
    Option Slot × SessionTable :=
  match table.activeSlot with
  | none => (none, table)
  | some idx =>
      if elapsedMs now (table.slots idx).lastHeartbeatMonotonic > clientHeartbeatTimeoutMs then
        (some idx, table.deactivate idx)
      else (none, table)

/-- Whether a slot waits in the queue. -/
def isQueued (table : SessionTable) (i : Slot) : Bool :=
  (table.slots i).inUse && (table.slots i).state == .queued

/-- The loop body of `wisps_session_table_find_next_queued`. -/
def nextQueuedStep (table : SessionTable) (best : Option Slot) (i : Slot) : Option Slot :=
  if !table.isQueued i then best
  else match best with
    | none => some i
    | some b =>
        if tsLess (table.slots i).activateRequestedMonotonic
            (table.slots b).activateRequestedMonotonic then some i
        else best

/-- `wisps_session_table_find_next_queued` -/
def findNextQueued (table : SessionTable) : Option Slot :=
  (List.finRange sessionMaxClients).foldl table.nextQueuedStep none

/-- `wisps_session_table_queue_position` -/
def queuePosition (table : SessionTable) (idx : Slot) : UInt32 :=
  if !table.isQueued idx then 0
  else
    let stamp i := (table.slots i).activateRequestedMonotonic
    UInt32.ofNat <| 1 + (List.finRange sessionMaxClients).countP fun i =>
      i ≠ idx && table.isQueued i &&
        (tsLess (stamp i) (stamp idx) || (stamp i == stamp idx && i < idx))

theorem rtSlotTaken_iff (table : SessionTable) :
    table.rtSlotTaken = true ↔
      ∃ i, (table.slots i).inUse = true ∧ (table.slots i).state.holdsRt = true := by
  simp [rtSlotTaken]

@[simp] theorem isQueued_iff (table : SessionTable) (i : Slot) :
    table.isQueued i = true ↔
      (table.slots i).inUse = true ∧ (table.slots i).state = .queued := by
  simp [isQueued]

/-- The scan for the next queued slot answers with a queued slot, and it answers
as soon as it has met one. -/
theorem foldl_nextQueuedStep (table : SessionTable) (scanned : List Slot) (best : Option Slot)
    (known : ∀ i, best = some i → table.isQueued i = true) :
    (∀ i, scanned.foldl table.nextQueuedStep best = some i → table.isQueued i = true) ∧
      (scanned.foldl table.nextQueuedStep best = none ↔
        best = none ∧ ∀ i ∈ scanned, table.isQueued i = false) := by
  induction scanned generalizing best with
  | nil => simpa using known
  | cons j rest ih =>
      rw [List.foldl_cons]
      by_cases waits : table.isQueued j = true
      · have found : ∃ i, table.nextQueuedStep best j = some i ∧ table.isQueued i = true := by
          simp only [nextQueuedStep, waits, Bool.not_true, Bool.false_eq_true, if_false]
          cases best with
          | none => exact ⟨j, rfl, waits⟩
          | some b =>
              by_cases earlier : tsLess (table.slots j).activateRequestedMonotonic
                  (table.slots b).activateRequestedMonotonic = true
              · exact ⟨j, by simp [earlier], waits⟩
              · exact ⟨b, by simp [earlier], known b rfl⟩
        obtain ⟨i, step, queued⟩ := found
        have rest := ih (some i) (by simpa using queued)
        rw [step]
        refine ⟨rest.1, ?_⟩
        rw [rest.2]
        simp [waits]
      · have skipped : table.nextQueuedStep best j = best := by
          simp [nextQueuedStep, waits]
        rw [skipped]
        refine ⟨(ih best known).1, ?_⟩
        rw [(ih best known).2]
        simp [waits]

theorem findNextQueued_queued {table : SessionTable} {i : Slot}
    (h : table.findNextQueued = some i) :
    (table.slots i).inUse = true ∧ (table.slots i).state = .queued :=
  (table.isQueued_iff i).mp
    ((table.foldl_nextQueuedStep _ none (by simp)).1 i h)

theorem findNextQueued_eq_none_iff (table : SessionTable) :
    table.findNextQueued = none ↔
      ∀ i, (table.slots i).inUse = true → (table.slots i).state ≠ .queued := by
  rw [findNextQueued, (table.foldl_nextQueuedStep _ none (by simp)).2]
  simp [isQueued]

/-- The choice depends only on who waits and since when. -/
theorem findNextQueued_congr {table table' : SessionTable}
    (queued : ∀ i, table'.isQueued i = table.isQueued i)
    (stamps : ∀ i, (table'.slots i).activateRequestedMonotonic =
      (table.slots i).activateRequestedMonotonic) :
    table'.findNextQueued = table.findNextQueued := by
  have step : table'.nextQueuedStep = table.nextQueuedStep := by
    funext best i
    simp only [nextQueuedStep, queued, stamps]
  rw [findNextQueued, findNextQueued, step]

/-- Changing a slot that neither waited before nor waits afterwards does not change
the choice. -/
theorem findNextQueued_setSlot {table : SessionTable} {idx : Slot} (session : Session)
    (before : table.isQueued idx = false)
    (after : (session.inUse && session.state == .queued) = false)
    (stamp : session.activateRequestedMonotonic = (table.slots idx).activateRequestedMonotonic) :
    (table.setSlot idx session).findNextQueued = table.findNextQueued := by
  apply findNextQueued_congr
  · intro i
    by_cases same : i = idx
    · subst same
      rw [before]
      simpa [isQueued, setSlot] using after
    · simp [isQueued, setSlot, same]
  · intro i
    by_cases same : i = idx
    · subst same
      simp [setSlot, stamp]
    · simp [setSlot, same]

theorem deactivate_slots (table : SessionTable) (idx : Slot) :
    (table.deactivate idx).slots =
      if (table.slots idx).state = .activeRt then (table.setState idx .negotiated).slots
      else table.slots := by
  by_cases active : (table.slots idx).state = .activeRt
  · simp only [deactivate, active, ne_eq, not_true_eq_false, if_false, if_true]
    split <;> rfl
  · simp [deactivate, active]

theorem findNextQueued_deactivate (table : SessionTable) (idx : Slot) :
    (table.deactivate idx).findNextQueued = table.findNextQueued := by
  have slots := table.deactivate_slots idx
  split at slots
  · rename_i active
    rw [← findNextQueued_setSlot { table.slots idx with state := .negotiated }
      (by simp [isQueued, active]) (by simp) rfl]
    apply findNextQueued_congr <;> simp [isQueued, slots, setState]
  · apply findNextQueued_congr <;> simp [isQueued, slots]

theorem findNextQueued_remove {table : SessionTable} {idx : Slot}
    (before : (table.slots idx).state ≠ .queued) :
    (table.remove idx).1.findNextQueued = table.findNextQueued := by
  have waits : (table.deactivate idx).isQueued idx = false := by
    by_cases active : (table.slots idx).state = .activeRt <;>
      simp [isQueued, deactivate_slots, setState, setSlot, active, before]
  cases inUse : (table.slots idx).inUse with
  | false => simp [remove, inUse]
  | true =>
      rw [← findNextQueued_deactivate table idx]
      simp only [remove, inUse, Bool.not_true, Bool.false_eq_true, if_false]
      exact findNextQueued_setSlot _ waits rfl rfl

/-- A session that winds down is negotiated again once it is reclaimed, forced or not. -/
theorem reclaimEviction_of_cooperative {table : SessionTable} {idx : Slot}
    (state : (table.slots idx).state = .evictingCooperative) :
    table.reclaimEviction idx = table.setState idx .negotiated := by
  simp [reclaimEviction, state]

theorem reclaimEviction_markEvictionForced {table : SessionTable} {idx : Slot}
    (state : (table.slots idx).state = .evictingCooperative) :
    (table.markEvictionForced idx).reclaimEviction idx = table.setState idx .negotiated := by
  simp [markEvictionForced, reclaimEviction, setState, setSlot, state]

/-- Freeing a slot leaves it unused and touches no other. -/
theorem remove_inUse (table : SessionTable) (idx : Slot) :
    ((table.remove idx).1.slots idx).inUse = false := by
  cases inUse : (table.slots idx).inUse with
  | false => simp [remove, inUse]
  | true => simp [remove, inUse, setSlot]

theorem remove_slots_of_ne (table : SessionTable) {i idx : Slot} (other : i ≠ idx) :
    (table.remove idx).1.slots i = table.slots i := by
  have same : (table.deactivate idx).slots i = table.slots i := by
    rw [deactivate_slots]
    split
    · exact Function.update_of_ne other _ _
    · rfl
  cases inUse : (table.slots idx).inUse with
  | false => simp [remove, inUse]
  | true => simpa [remove, inUse, setSlot, Function.update_of_ne other] using same

theorem firstFree_spec {table : SessionTable} {i : Slot} (h : table.firstFree = some i) :
    (table.slots i).inUse = false := by
  simpa using List.find?_some h

theorem findByClientId_inUse {table : SessionTable} {id : ClientId} {i : Slot}
    (h : table.findByClientId id = some i) : (table.slots i).inUse = true := by
  have found := List.find?_some h
  simp only [Bool.and_eq_true] at found
  exact found.1

end SessionTable

end Wisp
