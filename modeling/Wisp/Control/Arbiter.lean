import Wisp.Session.Table

/-!
# The arbiter of the RT slot

The abstract model of the control plane: which session is in which state, who is
promised the RT slot next, and which generation was last handed out. Sockets,
modes and clocks are gone, and sessions are elements of an arbitrary type. The
caches `active` and `evicting` of the source stay, because keeping them in
agreement with the session states is what the source has to get right.

`Coherent` is that agreement, together with the uniqueness of the holder. Every
change the control plane can make is built from the few operations below, and
each operation comes with the condition under which it keeps `Coherent`.
-/

namespace Wisp

/-- What a step does that others can see: a new generation, an ACTIVATE_GRANT, the
answer to an admin switch. -/
inductive Entry (ι : Type*) where
  | bump
  | grant (i : ι) (generation : UInt32)
  | answer (ok : Bool)
  deriving DecidableEq

/-- The bookkeeping of the control plane. `status i` is `none` when `i` is not
connected, and `log` holds what the last step did. -/
@[ext] structure Arbiter (ι : Type*) where
  status : ι → Option SessionState
  stamp : ι → UInt32
  active : Option ι
  evicting : Option ι
  pending : Option ι
  generation : UInt32
  log : List (Entry ι)

namespace Arbiter

section Views

variable {ι : Type*}

/-- The session occupies the RT slot. -/
def Holds (a : Arbiter ι) (i : ι) : Prop :=
  (a.status i).any SessionState.holdsRt = true

/-- The session may be given the RT slot. -/
def Grantable (a : Arbiter ι) (i : ι) : Prop :=
  (a.status i).any SessionState.grantable = true

/-- No session occupies the RT slot. -/
def Free (a : Arbiter ι) : Prop :=
  ∀ i, ¬ a.Holds i

/-- Some session waits for the RT slot. -/
def Waiting (a : Arbiter ι) : Prop :=
  ∃ i, a.status i = some .queued

/-- A choice of the next holder among the waiting sessions. -/
def Elects (a : Arbiter ι) (next : Option ι) : Prop :=
  (∀ i, next = some i → a.status i = some .queued) ∧ (next = none → ¬ a.Waiting)

/-- The caches and stamps agree with the session states, and at most one session
holds the RT slot. -/
structure Coherent (a : Arbiter ι) : Prop where
  exclusive : ∀ i j, a.Holds i → a.Holds j → i = j
  active : ∀ i, a.active = some i ↔ a.status i = some .activeRt
  evicting : ∀ i, a.evicting = some i ↔ a.status i = some .evictingCooperative
  settled : ∀ i, a.status i ≠ some .evictingForced ∧ a.status i ≠ some .rejected
  current : ∀ i, a.Holds i → a.stamp i = a.generation
  known : ∀ i, a.pending = some i → ∃ st, a.status i = some st ∧ st ≠ .connected
  forward : ∀ i, a.evicting = some i → a.pending ≠ some i

/-- Nobody is connected and nothing is promised. -/
structure Vacant (a : Arbiter ι) : Prop where
  absent : ∀ i, a.status i = none
  inactive : a.active = none
  unevicted : a.evicting = none
  unpromised : a.pending = none

variable {a : Arbiter ι} {i j : ι}

theorem holds_of_status {st : SessionState} (h : a.status i = some st)
    (holds : st.holdsRt = true) : a.Holds i := by
  simpa [Holds, h] using holds

theorem not_holds_of_status {st : SessionState} (h : a.status i = some st)
    (idle : st.holdsRt = false) : ¬ a.Holds i := by
  simpa [Holds, h] using idle

theorem not_holds_of_none (h : a.status i = none) : ¬ a.Holds i := by
  simp [Holds, h]

theorem Grantable.not_holds (h : a.Grantable i) : ¬ a.Holds i := by
  unfold Grantable at h
  cases status : a.status i with
  | none => exact not_holds_of_none status
  | some st => cases st <;> simp_all [Holds, SessionState.grantable, SessionState.holdsRt]

theorem Vacant.coherent (vacant : a.Vacant) : a.Coherent := by
  obtain ⟨absent, inactive, unevicted, unpromised⟩ := vacant
  refine ⟨?_, ?_, ?_, ?_, ?_, ?_, ?_⟩ <;>
    simp [Holds, absent, inactive, unevicted, unpromised]

theorem holds_iff :
    a.Holds i ↔ a.status i = some .grantedWarmup ∨ a.status i = some .activeRt ∨
      a.status i = some .evictingCooperative ∨ a.status i = some .evictingForced := by
  cases status : a.status i with
  | none => simp [Holds, status]
  | some st => cases st <;> simp [Holds, status, SessionState.holdsRt]

theorem grantable_iff :
    a.Grantable i ↔ a.status i = some .negotiated ∨ a.status i = some .queued := by
  cases status : a.status i with
  | none => simp [Grantable, status]
  | some st => cases st <;> simp [Grantable, status, SessionState.grantable]

namespace Coherent

variable (coh : a.Coherent)
include coh

theorem not_active_of_free (free : a.Free) : a.active = none := by
  cases active : a.active with
  | none => rfl
  | some i => exact absurd (holds_of_status ((coh.active i).mp active) rfl) (free i)

theorem not_evicting_of_free (free : a.Free) : a.evicting = none := by
  cases evicting : a.evicting with
  | none => rfl
  | some i => exact absurd (holds_of_status ((coh.evicting i).mp evicting) rfl) (free i)

/-- A promise is kept towards the holder or towards a session that can take over. -/
theorem grantable_of_pending (h : a.pending = some i) : a.Holds i ∨ a.Grantable i := by
  obtain ⟨st, status, known⟩ := coh.known i h
  have settled := coh.settled i
  cases st <;>
    simp_all [Holds, Grantable, SessionState.holdsRt, SessionState.grantable]

end Coherent

end Views

section Operations

variable {ι : Type*}

/-- Withdraw the promise, whoever it was made to. -/
def clearPending (a : Arbiter ι) : Arbiter ι :=
  { a with pending := none }

/-- Promise the RT slot. -/
def park (a : Arbiter ι) (i : ι) : Arbiter ι :=
  { a with pending := some i }

/-- Revoke the current generation. -/
def bump (a : Arbiter ι) : Arbiter ι :=
  { a with generation := a.generation + 1, log := a.log ++ [.bump] }

/-- Answer an admin switch. -/
def reply (a : Arbiter ι) (ok : Bool) : Arbiter ι :=
  { a with log := a.log ++ [.answer ok] }

/-- Start a new step. -/
def quiet (a : Arbiter ι) : Arbiter ι :=
  { a with log := [] }

section Fields

variable (a : Arbiter ι) (i j : ι) (ok : Bool)

@[simp, grind =] theorem clearPending_status : a.clearPending.status j = a.status j := rfl

@[simp, grind =] theorem clearPending_active : a.clearPending.active = a.active := rfl

@[simp, grind =] theorem clearPending_pending : a.clearPending.pending = none := rfl

@[simp, grind =] theorem clearPending_generation :
    a.clearPending.generation = a.generation := rfl

@[simp, grind =] theorem clearPending_log : a.clearPending.log = a.log := rfl

@[simp, grind =] theorem park_status : (a.park i).status j = a.status j := rfl

@[simp, grind =] theorem park_active : (a.park i).active = a.active := rfl

@[simp, grind =] theorem park_pending : (a.park i).pending = some i := rfl

@[simp, grind =] theorem park_generation : (a.park i).generation = a.generation := rfl

@[simp, grind =] theorem park_log : (a.park i).log = a.log := rfl

@[simp, grind =] theorem bump_status : a.bump.status j = a.status j := rfl

@[simp, grind =] theorem bump_active : a.bump.active = a.active := rfl

@[simp, grind =] theorem bump_pending : a.bump.pending = a.pending := rfl

@[simp, grind =] theorem bump_generation : a.bump.generation = a.generation + 1 := rfl

@[simp, grind =] theorem bump_log : a.bump.log = a.log ++ [.bump] := rfl

@[simp, grind =] theorem reply_status : (a.reply ok).status j = a.status j := rfl

@[simp, grind =] theorem reply_active : (a.reply ok).active = a.active := rfl

@[simp, grind =] theorem reply_pending : (a.reply ok).pending = a.pending := rfl

@[simp, grind =] theorem reply_generation : (a.reply ok).generation = a.generation := rfl

@[simp, grind =] theorem reply_log : (a.reply ok).log = a.log ++ [.answer ok] := rfl

@[simp, grind =] theorem quiet_status : a.quiet.status j = a.status j := rfl

@[simp, grind =] theorem quiet_active : a.quiet.active = a.active := rfl

@[simp, grind =] theorem quiet_pending : a.quiet.pending = a.pending := rfl

@[simp, grind =] theorem quiet_generation : a.quiet.generation = a.generation := rfl

@[simp, grind =] theorem quiet_log : a.quiet.log = [] := rfl

end Fields

variable {a : Arbiter ι} {i j : ι}

@[simp, grind =] theorem holds_clearPending : a.clearPending.Holds j ↔ a.Holds j := .rfl

@[simp, grind =] theorem holds_bump : a.bump.Holds j ↔ a.Holds j := .rfl

@[simp, grind =] theorem holds_park : (a.park i).Holds j ↔ a.Holds j := .rfl

@[simp, grind =] theorem holds_reply (ok : Bool) : (a.reply ok).Holds j ↔ a.Holds j := .rfl

@[simp, grind =] theorem holds_quiet : a.quiet.Holds j ↔ a.Holds j := .rfl

namespace Coherent

variable (coh : a.Coherent)
include coh

theorem bump (free : a.Free) : a.bump.Coherent :=
  { coh with current := fun i holds => absurd holds (free i) }

theorem reply (ok : Bool) : (a.reply ok).Coherent :=
  { coh with }

theorem quiet : a.quiet.Coherent :=
  { coh with }

theorem clearPending : a.clearPending.Coherent :=
  { coh with known := by simp [Arbiter.clearPending], forward := by simp [Arbiter.clearPending] }

theorem park (can : a.Grantable i) : (a.park i).Coherent := by
  refine { coh with known := ?_, forward := ?_ }
  · rintro j ⟨⟩
    rcases grantable_iff.mp can with status | status <;> exact ⟨_, status, by simp⟩
  · rintro j evicting ⟨⟩
    exact can.not_holds (holds_of_status ((coh.evicting i).mp evicting) rfl)

end Coherent

variable [DecidableEq ι]

/-- Put a session into a state outside the RT slot, or drop it. A cache that names
it is cleared. -/
def move (a : Arbiter ι) (i : ι) (state : Option SessionState) : Arbiter ι :=
  { a with
    status := Function.update a.status i state
    active := if a.active = some i then none else a.active
    evicting := if a.evicting = some i then none else a.evicting }

/-- A new connection starts without a granted generation. -/
def join (a : Arbiter ι) (i : ι) : Arbiter ι :=
  { a.move i (some .connected) with stamp := Function.update a.stamp i 0 }

/-- Withdraw the promise to one session. -/
def forget (a : Arbiter ι) (i : ι) : Arbiter ι :=
  { a with pending := if a.pending = some i then none else a.pending }

/-- A session closes its connection. An active one has its generation revoked. -/
def leave (a : Arbiter ι) (i : ι) : Arbiter ι :=
  if a.active = some i then ((a.forget i).move i none).bump else (a.forget i).move i none

/-- Revoke the current generation and grant the next one. -/
def grant (a : Arbiter ι) (i : ι) : Arbiter ι :=
  { a with
    status := Function.update a.status i (some .grantedWarmup)
    stamp := Function.update a.stamp i (a.generation + 1)
    generation := a.generation + 1
    log := a.log ++ [.bump, .grant i (a.generation + 1)] }

/-- Grant to the successor, if there is one. -/
def handOver (a : Arbiter ι) : Option ι → Arbiter ι
  | none => a
  | some i => a.grant i

/-- The warm-up of a session is complete. -/
def activate (a : Arbiter ι) (i : ι) : Arbiter ι :=
  { a with status := Function.update a.status i (some .activeRt), active := some i }

/-- Ask the active session to wind down in favour of another one. -/
def evict (a : Arbiter ι) (h target : ι) : Arbiter ι :=
  { a with
    status := Function.update a.status h (some .evictingCooperative)
    active := none
    evicting := some h
    pending := some target }

section Fields

variable (a : Arbiter ι) (i j h t : ι) (state : Option SessionState)

@[simp, grind =] theorem move_status :
    (a.move i state).status j = if j = i then state else a.status j :=
  Function.update_apply ..

@[simp, grind =] theorem move_stamp : (a.move i state).stamp j = a.stamp j := rfl

@[simp, grind =] theorem move_active :
    (a.move i state).active = if a.active = some i then none else a.active := rfl

@[simp, grind =] theorem move_evicting :
    (a.move i state).evicting = if a.evicting = some i then none else a.evicting := rfl

@[simp, grind =] theorem move_pending : (a.move i state).pending = a.pending := rfl

@[simp, grind =] theorem move_generation : (a.move i state).generation = a.generation := rfl

@[simp, grind =] theorem move_log : (a.move i state).log = a.log := rfl

@[simp, grind =] theorem grant_status :
    (a.grant i).status j = if j = i then some .grantedWarmup else a.status j :=
  Function.update_apply ..

@[simp, grind =] theorem grant_stamp :
    (a.grant i).stamp j = if j = i then a.generation + 1 else a.stamp j :=
  Function.update_apply ..

@[simp, grind =] theorem grant_active : (a.grant i).active = a.active := rfl

@[simp, grind =] theorem grant_evicting : (a.grant i).evicting = a.evicting := rfl

@[simp, grind =] theorem grant_pending : (a.grant i).pending = a.pending := rfl

@[simp, grind =] theorem grant_generation : (a.grant i).generation = a.generation + 1 := rfl

@[simp, grind =] theorem leave_status :
    (a.leave i).status j = if j = i then none else a.status j := by
  unfold leave
  split <;> exact a.move_status i j none

@[simp, grind =] theorem leave_pending :
    (a.leave i).pending = if a.pending = some i then none else a.pending := by
  unfold leave
  split <;> rfl

@[simp, grind =] theorem leave_active :
    (a.leave i).active = if a.active = some i then none else a.active := by
  unfold leave
  split <;> simp_all [bump, move, forget]

@[simp, grind =] theorem leave_generation :
    (a.leave i).generation = if a.active = some i then a.generation + 1 else a.generation := by
  unfold leave
  split <;> rfl

@[simp, grind =] theorem leave_log :
    (a.leave i).log = if a.active = some i then a.log ++ [.bump] else a.log := by
  unfold leave
  split <;> rfl

@[simp, grind =] theorem grant_log :
    (a.grant i).log = a.log ++ [.bump, .grant i (a.generation + 1)] := rfl

@[simp, grind =] theorem handOver_status (next : Option ι) :
    (a.handOver next).status j = if next = some j then some .grantedWarmup else a.status j := by
  cases next with
  | none => rfl
  | some k => simp [handOver, eq_comm]

@[simp, grind =] theorem handOver_active (next : Option ι) :
    (a.handOver next).active = a.active := by
  cases next <;> rfl

@[simp, grind =] theorem handOver_generation (next : Option ι) :
    (a.handOver next).generation = if next = none then a.generation else a.generation + 1 := by
  cases next <;> rfl

@[simp, grind =] theorem handOver_pending (next : Option ι) :
    (a.handOver next).pending = a.pending := by
  cases next <;> rfl

@[simp, grind =] theorem forget_status : (a.forget i).status j = a.status j := rfl

@[simp, grind =] theorem forget_pending :
    (a.forget i).pending = if a.pending = some i then none else a.pending := rfl

@[simp, grind =] theorem join_status :
    (a.join i).status j = if j = i then some .connected else a.status j :=
  Function.update_apply ..

@[simp, grind =] theorem join_stamp :
    (a.join i).stamp j = if j = i then 0 else a.stamp j :=
  Function.update_apply ..

@[simp, grind =] theorem join_active :
    (a.join i).active = if a.active = some i then none else a.active := rfl

@[simp, grind =] theorem join_pending : (a.join i).pending = a.pending := rfl

@[simp, grind =] theorem join_log : (a.join i).log = a.log := rfl

@[simp, grind =] theorem join_generation : (a.join i).generation = a.generation := rfl

@[simp, grind =] theorem activate_status :
    (a.activate i).status j = if j = i then some .activeRt else a.status j :=
  Function.update_apply ..

@[simp, grind =] theorem activate_stamp : (a.activate i).stamp = a.stamp := rfl

@[simp, grind =] theorem activate_active : (a.activate i).active = some i := rfl

@[simp, grind =] theorem activate_evicting : (a.activate i).evicting = a.evicting := rfl

@[simp, grind =] theorem activate_pending : (a.activate i).pending = a.pending := rfl

@[simp, grind =] theorem activate_generation : (a.activate i).generation = a.generation := rfl

@[simp, grind =] theorem evict_stamp : (a.evict h t).stamp = a.stamp := rfl

@[simp, grind =] theorem evict_active : (a.evict h t).active = none := rfl

@[simp, grind =] theorem evict_evicting : (a.evict h t).evicting = some h := rfl

@[simp, grind =] theorem evict_pending : (a.evict h t).pending = some t := rfl

@[simp, grind =] theorem evict_generation : (a.evict h t).generation = a.generation := rfl

@[simp, grind =] theorem activate_log : (a.activate i).log = a.log := rfl

@[simp, grind =] theorem evict_log : (a.evict h t).log = a.log := rfl

@[simp, grind =] theorem evict_status :
    (a.evict h t).status j = if j = h then some .evictingCooperative else a.status j :=
  Function.update_apply ..

end Fields

section Holders

variable {a : Arbiter ι} {i j h t : ι} {state : Option SessionState}

theorem holds_move (idle : state.any SessionState.holdsRt = false) :
    (a.move i state).Holds j ↔ j ≠ i ∧ a.Holds j := by
  by_cases same : j = i <;> simp [Holds, same, idle]

@[simp, grind =] theorem holds_move_negotiated :
    (a.move i (some .negotiated)).Holds j ↔ j ≠ i ∧ a.Holds j :=
  holds_move rfl

@[simp, grind =] theorem holds_move_queued :
    (a.move i (some .queued)).Holds j ↔ j ≠ i ∧ a.Holds j :=
  holds_move rfl

@[simp, grind =] theorem holds_join : (a.join i).Holds j ↔ j ≠ i ∧ a.Holds j :=
  holds_move rfl

@[simp, grind =] theorem holds_leave : (a.leave i).Holds j ↔ j ≠ i ∧ a.Holds j := by
  by_cases same : j = i <;> simp [Holds, same]

@[simp, grind =] theorem holds_grant : (a.grant i).Holds j ↔ j = i ∨ a.Holds j := by
  by_cases same : j = i <;> simp [Holds, same, SessionState.holdsRt]

@[simp, grind =] theorem holds_handOver {next : Option ι} :
    (a.handOver next).Holds j ↔ next = some j ∨ a.Holds j := by
  cases next with
  | none => simp [handOver]
  | some k => simp [handOver, eq_comm]

@[simp, grind =] theorem holds_activate : (a.activate i).Holds j ↔ j = i ∨ a.Holds j := by
  by_cases same : j = i <;> simp [Holds, same, SessionState.holdsRt]

@[simp, grind =] theorem holds_evict : (a.evict h t).Holds j ↔ j = h ∨ a.Holds j := by
  by_cases same : j = h <;> simp [Holds, same, SessionState.holdsRt]

@[simp, grind =] theorem holds_forget : (a.forget i).Holds j ↔ a.Holds j := .rfl

end Holders

variable {a : Arbiter ι} {i j : ι} {state : Option SessionState}

theorem move_forget : (a.move i state).forget j = (a.forget j).move i state := rfl

theorem move_move (last : Option SessionState) :
    (a.move i state).move i last = a.move i last := by
  ext j <;> simp [Arbiter.move]

namespace Coherent

variable (coh : a.Coherent)
include coh

/-- Moving the holder leaves the slot free, since there is no other. -/
theorem free_move (idle : state.any SessionState.holdsRt = false) (holds : a.Holds i) :
    (a.move i state).Free := by
  intro j held
  obtain ⟨other, held⟩ := (holds_move idle).mp held
  exact other (coh.exclusive j i held holds)

theorem free_leave (holds : a.Holds i) : (a.leave i).Free := by
  intro j held
  obtain ⟨other, held⟩ := holds_leave.mp held
  exact other (coh.exclusive j i held holds)

theorem move (idle : state.any SessionState.holdsRt = false)
    (settled : state ≠ some .rejected)
    (known : a.pending = some i → ∃ st, state = some st ∧ st ≠ .connected) :
    (a.move i state).Coherent := by
  have notActive : state ≠ some .activeRt := by rintro rfl; cases idle
  have notEvicting : state ≠ some .evictingCooperative := by rintro rfl; cases idle
  have notForced : state ≠ some .evictingForced := by rintro rfl; cases idle
  refine ⟨?_, ?_, ?_, ?_, ?_, ?_, ?_⟩
  · intro j k hj hk
    exact coh.exclusive j k ((holds_move idle).mp hj).2 ((holds_move idle).mp hk).2
  · intro j
    have := coh.active j
    grind
  · intro j
    have := coh.evicting j
    grind
  · intro j
    have := coh.settled j
    grind
  · intro j holds
    exact coh.current j ((holds_move idle).mp holds).2
  · intro j promised
    have := coh.known j
    grind
  · intro j evicting
    have := coh.forward j
    grind

/-- The session is connected and no more. -/
theorem yield : (a.move i (some .negotiated)).Coherent :=
  coh.move rfl (by simp) fun _ => ⟨_, rfl, by simp⟩

/-- The one place where the RT slot is given away: nobody may hold it. -/
theorem grant (free : a.Free) : (a.grant i).Coherent := by
  have inactive := coh.not_active_of_free free
  have unevicted := coh.not_evicting_of_free free
  have only : ∀ j, (a.grant i).Holds j → j = i := by
    intro j holds
    exact (holds_grant.mp holds).resolve_right (free j)
  refine ⟨?_, ?_, ?_, ?_, ?_, ?_, ?_⟩
  · intro j k hj hk
    rw [only j hj, only k hk]
  · intro j
    have := coh.active j
    grind
  · intro j
    have := coh.evicting j
    grind
  · intro j
    have := coh.settled j
    grind
  · intro j holds
    simp [only j holds]
  · intro j promised
    have := coh.known j
    grind
  · exact coh.forward

theorem handOver (free : a.Free) (next : Option ι) : (a.handOver next).Coherent := by
  cases next with
  | none => exact coh
  | some i => exact coh.grant free

theorem forget : (a.forget i).Coherent := by
  refine { coh with known := ?_, forward := ?_ }
  · intro j promised
    exact coh.known j (by grind)
  · intro j evicting promised
    exact coh.forward j evicting (by grind)

theorem leave : (a.leave i).Coherent := by
  have moved : ((a.forget i).move i none).Coherent := by
    refine coh.forget.move rfl (by simp) ?_
    simp
  unfold Arbiter.leave
  split
  · rename_i active
    have holds : a.Holds i := holds_of_status ((coh.active i).mp active) rfl
    exact moved.bump (coh.forget.free_move rfl holds)
  · exact moved

theorem join (absent : a.status i = none) : (a.join i).Coherent := by
  have moved : (a.move i (some .connected)).Coherent := by
    refine coh.move rfl (by simp) ?_
    intro pending
    obtain ⟨st, status, _⟩ := coh.known i pending
    simp [absent] at status
  refine { moved with current := ?_ }
  intro j holds
  obtain ⟨other, held⟩ := holds_join.mp holds
  simpa [other] using coh.current j held

/-- The holder changes its state and keeps the slot. -/
theorem activate (warm : a.status i = some .grantedWarmup) : (a.activate i).Coherent := by
  have holds : a.Holds i := holds_of_status warm rfl
  have kept : ∀ j, (a.activate i).Holds j → j = i := by
    intro j hj
    rcases holds_activate.mp hj with rfl | held
    · rfl
    · exact coh.exclusive j i held holds
  refine ⟨?_, ?_, ?_, ?_, ?_, ?_, ?_⟩
  · intro j k hj hk
    rw [kept j hj, kept k hk]
  · intro j
    have := kept j
    have := coh.active j
    grind [holds_iff]
  · intro j
    have := coh.evicting j
    grind
  · intro j
    have := coh.settled j
    grind
  · intro j hj
    rw [kept j hj]
    exact coh.current i holds
  · intro j promised
    have := coh.known j
    grind
  · exact coh.forward

theorem evict {h t : ι} (active : a.active = some h) (can : a.Grantable t) :
    (a.evict h t).Coherent := by
  have holds : a.Holds h := holds_of_status ((coh.active h).mp active) rfl
  have other : t ≠ h := by
    rintro rfl
    exact can.not_holds holds
  have kept : ∀ j, (a.evict h t).Holds j → j = h := by
    intro j hj
    rcases holds_evict.mp hj with rfl | held
    · rfl
    · exact coh.exclusive j h held holds
  refine ⟨?_, ?_, ?_, ?_, ?_, ?_, ?_⟩
  · intro j k hj hk
    rw [kept j hj, kept k hk]
  · intro j
    have := coh.active j
    grind
  · intro j
    have := kept j
    grind [holds_iff]
  · intro j
    have := coh.settled j
    grind
  · intro j hj
    rw [kept j hj]
    exact coh.current h holds
  · rintro j ⟨⟩
    have := grantable_iff.mp can
    grind
  · rintro j ⟨⟩ ⟨⟩
    exact other rfl

end Coherent

end Operations

end Arbiter

end Wisp
