import Wisp.Control.Arbitration

/-!
# The history of a run

Claims about requests, promises and revoked generations speak about what happened
earlier. `History` records just that, and `observe` updates it from the bookkeeping
before and after a step. Nothing here influences the control plane.

A session is one connection. It is numbered by its arrival, so it keeps its number
when its slot is given to a later connection.
-/

namespace Wisp

/-- What earlier steps did. -/
structure History (ι : Type*) where
  /-- The connection in the slot has sent CONNECT. -/
  connectSent : ι → Bool
  /-- The connection in the slot has asked for the RT slot, or was named by an accepted
  switch, since its mode was accepted and since it last held the RT slot. -/
  asked : ι → Bool
  /-- The slot named by the last accepted switch, until it is granted or gone. -/
  owed : Option ι
  /-- The number of the connection that is or was last in the slot. -/
  session : ι → Nat
  /-- The number of the next connection. -/
  arrivals : Nat
  /-- The generation last granted to a session. -/
  lastGrant : Nat → Option UInt32
  /-- How often the generation was bumped. -/
  bumps : Nat

/-- The session an effect grants to. -/
def Entry.target {ι : Type*} : Entry ι → Option ι
  | .grant i _ => some i
  | .bump | .answer _ => none

namespace Arbiter

variable {ι : Type*}

instance (a : Arbiter ι) (i : ι) : Decidable (a.Holds i) :=
  inferInstanceAs (Decidable (_ = true))

instance (a : Arbiter ι) (i : ι) : Decidable (a.Grantable i) :=
  inferInstanceAs (Decidable (_ = true))

/-- A connection took the slot in this step. -/
def Arrived (a a' : Arbiter ι) (i : ι) : Prop :=
  a.status i = none ∧ a'.status i ≠ none

/-- The session held the RT slot before the step and does not after it. -/
def Loses (a a' : Arbiter ι) (i : ι) : Prop :=
  a.Holds i ∧ ¬ a'.Holds i

/-- An ACTIVATE_GRANT was sent to the session in the last step. -/
def Granted (a : Arbiter ι) (i : ι) : Prop :=
  ∃ entry ∈ a.log, entry.target = some i

/-- The last step answered a switch with `ok = 1`. -/
def Approved (a : Arbiter ι) : Prop :=
  .answer true ∈ a.log

/-- The session asked for the RT slot in this step, or was named by a switch that was
answered with `ok = 1`. -/
def Asks (cause : Cause ι) (a' : Arbiter ι) (i : ι) : Prop :=
  cause = .request i ∨ cause = .switch i ∧ a'.Approved

/-- The mode of the session was accepted in this step. -/
def Negotiates (cause : Cause ι) (a' : Arbiter ι) (i : ι) : Prop :=
  cause = .connect i ∧ a'.status i = some .negotiated

section Logs

variable {a : Arbiter ι} {i j : ι}

@[simp, grind =] theorem granted_quiet : a.quiet.Granted j ↔ False := by simp [Granted]

@[simp, grind =] theorem granted_bump : a.bump.Granted j ↔ a.Granted j := by
  simp [Granted, Entry.target]

@[simp, grind =] theorem granted_reply (ok : Bool) : (a.reply ok).Granted j ↔ a.Granted j := by
  simp [Granted, Entry.target]

@[simp, grind =] theorem granted_park : (a.park i).Granted j ↔ a.Granted j := .rfl

@[simp, grind =] theorem granted_clearPending : a.clearPending.Granted j ↔ a.Granted j := .rfl

@[simp, grind =] theorem approved_quiet : a.quiet.Approved ↔ False := by simp [Approved]

@[simp, grind =] theorem approved_reply (ok : Bool) :
    (a.reply ok).Approved ↔ a.Approved ∨ ok = true := by
  simp [Approved, eq_comm]

variable [DecidableEq ι]

@[simp, grind =] theorem granted_move (state : Option SessionState) :
    (a.move i state).Granted j ↔ a.Granted j := .rfl

@[simp, grind =] theorem granted_join : (a.join i).Granted j ↔ a.Granted j := .rfl

@[simp, grind =] theorem granted_activate : (a.activate i).Granted j ↔ a.Granted j := .rfl

@[simp, grind =] theorem granted_evict (h t : ι) : (a.evict h t).Granted j ↔ a.Granted j := .rfl

@[simp, grind =] theorem granted_leave : (a.leave i).Granted j ↔ a.Granted j := by
  unfold leave
  split
  · exact granted_bump
  · rfl

@[simp, grind =] theorem granted_grant : (a.grant i).Granted j ↔ a.Granted j ∨ j = i := by
  simp [Granted, Entry.target, or_and_right, exists_or, eq_comm]

@[simp, grind =] theorem granted_handOver (next : Option ι) :
    (a.handOver next).Granted j ↔ a.Granted j ∨ next = some j := by
  cases next <;> simp [handOver, eq_comm]

end Logs

variable [DecidableEq ι]

instance (a a' : Arbiter ι) (i : ι) : Decidable (Arrived a a' i) :=
  inferInstanceAs (Decidable (_ ∧ _))

instance (a a' : Arbiter ι) (i : ι) : Decidable (Loses a a' i) :=
  inferInstanceAs (Decidable (_ ∧ _))

instance (a : Arbiter ι) (i : ι) : Decidable (a.Granted i) :=
  inferInstanceAs (Decidable (∃ entry ∈ a.log, entry.target = some i))

instance (a : Arbiter ι) : Decidable a.Approved :=
  inferInstanceAs (Decidable (_ ∈ a.log))

instance (cause : Cause ι) (a' : Arbiter ι) (i : ι) : Decidable (Asks cause a' i) :=
  inferInstanceAs (Decidable (_ ∨ _ ∧ _))

instance (cause : Cause ι) (a' : Arbiter ι) (i : ι) : Decidable (Negotiates cause a' i) :=
  inferInstanceAs (Decidable (_ ∧ _))

end Arbiter

namespace History

open Arbiter

variable {ι : Type*}

/-- Nothing has happened yet. -/
def empty : History ι where
  connectSent := fun _ => false
  asked := fun _ => false
  owed := none
  session := fun _ => 0
  arrivals := 0
  lastGrant := fun _ => none
  bumps := 0

variable [DecidableEq ι]

/-- Who is owed the RT slot after a step. An accepted switch to a session that can
take over replaces the debt, one to the active session cancels it. The debt ends
when it is paid or the session is gone. -/
def owedAfter (h : History ι) (a : Arbiter ι) (cause : Cause ι) (a' : Arbiter ι) : Option ι :=
  let debt := match cause with
    | .switch i => if ¬ a'.Approved then h.owed else if a.Grantable i then some i else none
    | _ => h.owed
  debt.filter fun i => ¬ a'.Granted i ∧ a'.status i ≠ none

/-- What the step itself says, its log aside. -/
def note (h : History ι) (a : Arbiter ι) (cause : Cause ι) (a' : Arbiter ι) : History ι :=
  { h with
    connectSent := fun i =>
      if Arrived a a' i then false else h.connectSent i || decide (cause = .connect i)
    asked := fun i =>
      if Asks cause a' i then true
      else if Arrived a a' i ∨ Negotiates cause a' i ∨ Loses a a' i then false
      else h.asked i
    owed := h.owedAfter a cause a'
    session := fun i => if Arrived a a' i then h.arrivals else h.session i
    arrivals := if cause = .arrive then h.arrivals + 1 else h.arrivals }

/-- Enter one logged effect. -/
def enter (h : History ι) : Entry ι → History ι
  | .bump => { h with bumps := h.bumps + 1 }
  | .grant i generation =>
      { h with lastGrant := Function.update h.lastGrant (h.session i) (some generation) }
  | .answer _ => h

/-- The history after a step from `a` to `a'`. -/
def observe (h : History ι) (a : Arbiter ι) (cause : Cause ι) (a' : Arbiter ι) : History ι :=
  a'.log.foldl enter (h.note a cause a')

section Fields

variable (h : History ι) (a a' : Arbiter ι) (cause : Cause ι)

omit [DecidableEq ι] in
/-- The log does not concern what is noted about requests and debts. -/
theorem foldl_enter (log : List (Entry ι)) :
    (log.foldl enter h).connectSent = h.connectSent ∧ (log.foldl enter h).asked = h.asked ∧
      (log.foldl enter h).owed = h.owed := by
  induction log generalizing h with
  | nil => exact ⟨rfl, rfl, rfl⟩
  | cons entry rest ih =>
      rw [List.foldl_cons]
      cases entry <;> exact ih _

omit [DecidableEq ι] in
theorem bumps_le_foldl_enter (log : List (Entry ι)) : h.bumps ≤ (log.foldl enter h).bumps := by
  induction log generalizing h with
  | nil => exact Nat.le_refl _
  | cons entry rest ih =>
      rw [List.foldl_cons]
      refine Nat.le_trans ?_ (ih _)
      cases entry <;> simp [enter]

theorem bumps_le_observe : h.bumps ≤ (h.observe a cause a').bumps :=
  bumps_le_foldl_enter (h.note a cause a') _

theorem observe_connectSent : (h.observe a cause a').connectSent = (h.note a cause a').connectSent :=
  (foldl_enter _ _).1

theorem observe_asked : (h.observe a cause a').asked = (h.note a cause a').asked :=
  (foldl_enter _ _).2.1

theorem observe_owed : (h.observe a cause a').owed = h.owedAfter a cause a' :=
  (foldl_enter _ _).2.2

end Fields

/-- A connection that has not sent CONNECT is still CONNECTED. -/
def Fresh (h : History ι) (a : Arbiter ι) : Prop :=
  ∀ i st, a.status i = some st → h.connectSent i = false → st = .connected

/-- Only a CONNECT takes a session out of CONNECTED. -/
theorem Fresh.step {h : History ι} {a a' : Arbiter ι} {cause : Cause ι} (fresh : h.Fresh a)
    (coh : a.Coherent) (step : a.Step cause a') : (h.observe a cause a').Fresh a' := by
  intro i st status unsent
  rw [observe_connectSent] at unsent
  have before := fresh i
  have known := coh.known i
  cases step with
  | evicted active =>
      have held := (coh.active _).mp active
      simp only [note, Arrived] at unsent
      grind
  | switched _ can =>
      have ready := grantable_iff.mp can
      simp only [note, Arrived] at unsent
      grind
  | declined _ elects | timedOut _ elects | expired _ elects | dropped _ elects =>
      have waits := elects.1 i
      simp only [note, Arrived] at unsent
      grind [Option.or_eq_some_iff]
  | _ =>
      simp only [note, Arrived] at unsent
      grind

end History

end Wisp
