import Wisp.Lib.Transition

/-!
# Operations under a robust mutex

Threads that run operations under one mutex, and some of which may be killed at any moment. An
operation is what a thread does between taking the mutex and giving it back, one access of the
shared state after the other. Outside of operations threads act on parts of the state that no
operation looks at.

The mutex is a robust one. When its owner dies, the thread that gets it next is told so, and
has to declare the state consistent before it gives the mutex back; otherwise nobody ever gets
it again. In that case the call returns without the mutex, and here the thread goes on all the
same, as code does that does not look for this outcome.

`Program.system` takes an access at a time. `Program.atomic` takes an operation in one step, or
the first part of an operation whose thread has been killed. The first one is simulated by the
second: `Program.simulates`.
-/

namespace Critical

open Transition System

/-- What threads `τ` do to a state `σ`: the operations `ο`, whose local states are `ℓ` and whose
results are `ρ`, and the acts `ε` outside of them. A thread chooses what it does by what it has
seen so far, of type `ν`. -/
structure Program (τ σ ο ℓ ρ ε ν : Type) where
  enter : ο → ℓ
  access : ℓ → σ → (ℓ × σ) ⊕ ρ
  calls : τ → ν → ο → Bool
  returns : ν → ο → ρ → ν
  acts : τ → ν → ε → Bool
  act : ε → σ → σ
  mortal : τ → Bool
  rank : ℓ → Nat
  falls : ∀ l s l' s', access l s = .inl (l', s') → rank l' < rank l
  apart : ∀ e l s, access l (act e s) = (access l s).map (Prod.map id (act e)) id

/-- A robust mutex. -/
inductive Mutex (τ : Type) where
  | free
  | held (owner : τ) (consistent : Bool)
  | abandoned
  | unrecoverable
  deriving DecidableEq, Repr

namespace Mutex

variable {τ : Type} [DecidableEq τ]

/-- `pthread_mutex_consistent` by thread `t`. -/
def recover (m : Mutex τ) (t : τ) : Mutex τ :=
  match m with
  | .held owner _ => if owner = t then .held owner true else m
  | .free | .abandoned | .unrecoverable => m

/-- `pthread_mutex_unlock` by thread `t`. -/
def unlock (m : Mutex τ) (t : τ) : Mutex τ :=
  match m with
  | .held owner consistent =>
      if owner = t then (if consistent then .free else .unrecoverable) else m
  | .free | .abandoned | .unrecoverable => m

/-- Thread `t` dies. -/
def die (m : Mutex τ) (t : τ) : Mutex τ :=
  match m with
  | .held owner _ => if owner = t then .abandoned else m
  | .free | .abandoned | .unrecoverable => m

end Mutex

/-- Where a thread stands. -/
inductive Place (ο ℓ : Type) where
  | away
  | waits (op : ο)
  | recovers (op : ο)
  | within (op : ο) (l : ℓ)
  | dead
  deriving DecidableEq

namespace Place

variable {ο ℓ : Type}

/-- The operation that a thread has called. -/
def called : Place ο ℓ → Option ο
  | .away | .dead => none
  | .waits op | .recovers op | .within op _ => some op

/-- What a thread that stands here knows of the mutex: whether it has it, and in what state. -/
def holds : Place ο ℓ → Option Bool
  | .away | .waits _ | .dead => none
  | .recovers _ => some false
  | .within _ _ => some true

end Place

/-- The threads, the mutex and the state it protects. -/
structure State (τ σ ο ℓ ν : Type) where
  mutex : Mutex τ
  shared : σ
  place : τ → Place ο ℓ
  view : τ → ν

/-- Nobody is in an operation. -/
def State.start {τ σ ο ℓ ν : Type} (shared : σ) (view : τ → ν) : State τ σ ο ℓ ν where
  mutex := .free
  shared
  place := fun _ => .away
  view

/-- A step of a thread. -/
inductive Event (τ ο ε : Type) where
  | call (t : τ) (op : ο)
  | lock (t : τ)
  | consistent (t : τ)
  | access (t : τ)
  | unlock (t : τ)
  | act (t : τ) (e : ε)
  | die (t : τ)

/-- The thread that takes a step. -/
def Event.thread {τ ο ε : Type} : Event τ ο ε → τ
  | .call t _ | .lock t | .consistent t | .access t | .unlock t | .act t _ | .die t => t

/-- The state without the threads' places. -/
structure Atomic (τ σ ν : Type) where
  shared : σ
  view : τ → ν

/-- An operation in one step, with its result, or as far as it has come, or an act. -/
inductive AtomicEvent (τ ο ℓ ρ ε : Type) where
  | whole (t : τ) (op : ο) (r : ρ)
  | cut (t : τ) (op : ο) (l : ℓ)
  | act (t : τ) (e : ε)

namespace Program

variable {τ σ ο ℓ ρ ε ν : Type} (P : Program τ σ ο ℓ ρ ε ν)

/-- The rest of an operation in one step. -/
def exec (l : ℓ) (s : σ) : ρ × σ :=
  match _ : P.access l s with
  | .inl (l', s') => exec l' s'
  | .inr r => (r, s)
termination_by P.rank l
decreasing_by exact P.falls _ _ _ _ ‹_›

/-- The state when an operation has come from one local state to another one. -/
def upTo [DecidableEq ℓ] (stop l : ℓ) (s : σ) : Option σ :=
  if l = stop then some s
  else
    match _ : P.access l s with
    | .inl (l', s') => upTo stop l' s'
    | .inr _ => none
termination_by P.rank l
decreasing_by exact P.falls _ _ _ _ ‹_›

section Meaning

variable {P} {l l' stop stop' : ℓ} {s s' s'' : σ} {r : ρ}

theorem exec_step (taken : P.access l s = .inl (l', s')) : P.exec l s = P.exec l' s' := by
  rw [exec]
  split
  · rename_i taken'
    cases taken.symm.trans taken'
    rfl
  · rename_i taken'
    cases taken.symm.trans taken'

theorem exec_done (taken : P.access l s = .inr r) : P.exec l s = (r, s) := by
  rw [exec]
  split
  · rename_i taken'
    cases taken.symm.trans taken'
  · rename_i taken'
    cases taken.symm.trans taken'
    rfl

/-- What every access of an operation keeps holds at its end. -/
theorem invariant_of_exec {I : ℓ → σ → Prop} (kept : ∀ l s l' s', I l s →
    P.access l s = .inl (l', s') → I l' s') (holds : I l s) :
    ∃ last, I last (P.exec l s).2 ∧ P.access last (P.exec l s).2 = .inr (P.exec l s).1 := by
  induction bound : P.rank l using Nat.strongRecOn generalizing l s with
  | ind n ih =>
  cases taken : P.access l s with
  | inl next =>
      have fall := P.falls l s next.1 next.2 taken
      rw [exec_step taken]
      exact ih _ (bound ▸ fall) (kept l s _ _ holds taken) rfl
  | inr r =>
      rw [exec_done taken]
      exact ⟨l, holds, taken⟩

variable [DecidableEq ℓ]

theorem upTo_self : P.upTo l l s = some s := by
  rw [upTo, if_pos rfl]

theorem upTo_step (other : l ≠ stop) (taken : P.access l s = .inl (l', s')) :
    P.upTo stop l s = P.upTo stop l' s' := by
  rw [upTo, if_neg other]
  split
  · rename_i taken'
    cases taken.symm.trans taken'
    rfl
  · rename_i taken'
    cases taken.symm.trans taken'

theorem upTo_done (other : l ≠ stop) (taken : P.access l s = .inr r) : P.upTo stop l s = none := by
  rw [upTo, if_neg other]
  split
  · rename_i taken'
    cases taken.symm.trans taken'
  · rfl

/-- The rule for `upTo`: an operation that gets somewhere is there already, or one access
away from where it gets there. -/
theorem upTo_induction {motive : ℓ → σ → Prop} (here : ∀ s, P.upTo stop stop s = some s' →
      s = s' → motive stop s)
    (step : ∀ l s l₁ s₁, l ≠ stop → P.access l s = .inl (l₁, s₁) →
      P.upTo stop l₁ s₁ = some s' → motive l₁ s₁ → motive l s)
    (gets : P.upTo stop l s = some s') : motive l s := by
  induction bound : P.rank l using Nat.strongRecOn generalizing l s with
  | ind n ih =>
  by_cases same : l = stop
  · subst same
    rw [upTo_self] at gets
    exact here s (by rw [upTo_self, gets]) (Option.some.inj gets)
  · cases taken : P.access l s with
    | inl next =>
        have fall := P.falls l s next.1 next.2 taken
        rw [upTo_step same taken] at gets
        exact step l s _ _ same taken gets (ih _ (bound ▸ fall) gets rfl)
    | inr r =>
        rw [upTo_done same taken] at gets
        cases gets

/-- What every access of an operation keeps holds where it has got. -/
theorem invariant_of_upTo {I : ℓ → σ → Prop} (kept : ∀ l s l' s', I l s →
    P.access l s = .inl (l', s') → I l' s') (gets : P.upTo stop l s = some s') (holds : I l s) :
    I stop s' := by
  refine upTo_induction (motive := fun l s => I l s → I stop s') ?_ ?_ gets holds
  · rintro s - rfl holds
    exact holds
  · intro l s l₁ s₁ _ taken _ ih holds
    exact ih (kept l s l₁ s₁ holds taken)

/-- The rest of an operation that has come this far is what was to be done. -/
theorem exec_of_upTo (gets : P.upTo stop l s = some s') : P.exec l s = P.exec stop s' := by
  refine upTo_induction (motive := fun l s => P.exec l s = P.exec stop s') ?_ ?_ gets
  · rintro s - rfl
    rfl
  · intro l s l₁ s₁ _ taken _ ih
    rw [exec_step taken, ih]

theorem rank_of_upTo (gets : P.upTo stop l s = some s') : P.rank stop ≤ P.rank l := by
  refine upTo_induction (motive := fun l _ => P.rank stop ≤ P.rank l) ?_ ?_ gets
  · intro _ _ _
    exact Nat.le_refl _
  · intro l s l₁ s₁ _ taken _ ih
    have fall := P.falls _ _ _ _ taken
    omega

/-- An access more. -/
theorem upTo_access (gets : P.upTo stop l s = some s')
    (taken : P.access stop s' = .inl (stop', s'')) : P.upTo stop' l s = some s'' := by
  have fall := P.falls _ _ _ _ taken
  refine upTo_induction (motive := fun l s => P.upTo stop' l s = some s'') ?_ ?_ gets
  · rintro s - rfl
    rw [upTo_step (by rintro rfl; omega) taken, upTo_self]
  · intro l s l₁ s₁ _ taken' gets' ih
    have before := rank_of_upTo gets'
    have fall' := P.falls _ _ _ _ taken'
    rw [upTo_step (by rintro rfl; omega) taken', ih]

/-- An act of somebody else. -/
theorem upTo_act (e : ε) (gets : P.upTo stop l s = some s') :
    P.upTo stop l (P.act e s) = some (P.act e s') := by
  refine upTo_induction
    (motive := fun l s => P.upTo stop l (P.act e s) = some (P.act e s')) ?_ ?_ gets
  · rintro s - rfl
    exact upTo_self
  · intro l s l₁ s₁ other taken _ ih
    have taken' : P.access l (P.act e s) = .inl (l₁, P.act e s₁) := by rw [P.apart, taken]; rfl
    rw [upTo_step other taken', ih]

end Meaning

end Program

section Steps

variable {τ σ ο ℓ ρ ε ν : Type} [DecidableEq τ]

/-- A thread moves on. -/
def State.goto (s : State τ σ ο ℓ ν) (t : τ) (place : Place ο ℓ) : State τ σ ο ℓ ν :=
  { s with place := Function.update s.place t place }

namespace Program

variable (P : Program τ σ ο ℓ ρ ε ν)

/-- The call that takes the mutex returns. -/
def lock (s : State τ σ ο ℓ ν) (t : τ) (op : ο) : Option (State τ σ ο ℓ ν) :=
  match s.mutex with
  | .free => some ({ s with mutex := .held t true }.goto t (.within op (P.enter op)))
  | .abandoned => some ({ s with mutex := .held t false }.goto t (.recovers op))
  | .unrecoverable => some (s.goto t (.within op (P.enter op)))
  | .held _ _ => none

/-- The thread has its result and gives the mutex back. -/
def leave (s : State τ σ ο ℓ ν) (t : τ) (op : ο) (r : ρ) : State τ σ ο ℓ ν :=
  { s with
    mutex := s.mutex.unlock t
    view := Function.update s.view t (P.returns (s.view t) op r) }.goto t .away

/-- A step of a thread. -/
def step (s : State τ σ ο ℓ ν) : Event τ ο ε → Option (State τ σ ο ℓ ν)
  | .call t op =>
      match s.place t with
      | .away => if P.calls t (s.view t) op then some (s.goto t (.waits op)) else none
      | _ => none
  | .lock t =>
      match s.place t with
      | .waits op => P.lock s t op
      | _ => none
  | .consistent t =>
      match s.place t with
      | .recovers op =>
          some ({ s with mutex := s.mutex.recover t }.goto t (.within op (P.enter op)))
      | _ => none
  | .access t =>
      match s.place t with
      | .within op l =>
          match P.access l s.shared with
          | .inl (l', shared) => some ({ s with shared }.goto t (.within op l'))
          | .inr _ => none
      | _ => none
  | .unlock t =>
      match s.place t with
      | .within op l =>
          match P.access l s.shared with
          | .inl _ => none
          | .inr r => some (P.leave s t op r)
      | _ => none
  | .act t e =>
      match s.place t with
      | .away => if P.acts t (s.view t) e then some { s with shared := P.act e s.shared } else none
      | _ => none
  | .die t =>
      match s.place t with
      | .dead => none
      | _ =>
          if P.mortal t then some ({ s with mutex := s.mutex.die t }.goto t .dead) else none

/-- The threads as a transition system, an access at a time. -/
def system : System (State τ σ ο ℓ ν) (Event τ ο ε) where
  step := P.step

/-- The event that an operation is seen as, when it ends. -/
def label (s : State τ σ ο ℓ ν) : Event τ ο ε → Option (AtomicEvent τ ο ℓ ρ ε)
  | .unlock t =>
      match s.place t with
      | .within op l =>
          match P.access l s.shared with
          | .inl _ => none
          | .inr r => some (.whole t op r)
      | _ => none
  | .act t e => some (.act t e)
  | .die t =>
      match s.place t with
      | .within op l => some (.cut t op l)
      | _ => none
  | .call _ _ | .lock _ | .consistent _ | .access _ => none

/-- An operation in one step, or an act. -/
def atomicStep [DecidableEq ℓ] [DecidableEq ρ] (a : Atomic τ σ ν) :
    AtomicEvent τ ο ℓ ρ ε → Option (Atomic τ σ ν)
  | .whole t op r =>
      if P.calls t (a.view t) op ∧ (P.exec (P.enter op) a.shared).1 = r then
        some
          { shared := (P.exec (P.enter op) a.shared).2
            view := Function.update a.view t (P.returns (a.view t) op r) }
      else none
  | .cut t op l =>
      if P.mortal t ∧ P.calls t (a.view t) op then
        (P.upTo l (P.enter op) a.shared).map fun shared => { a with shared }
      else none
  | .act t e =>
      if P.acts t (a.view t) e then some { a with shared := P.act e a.shared } else none

/-- The same threads, an operation at a time. -/
def atomic [DecidableEq ℓ] [DecidableEq ρ] :
    System (Atomic τ σ ν) (AtomicEvent τ ο ℓ ρ ε) where
  step := P.atomicStep

/-- What a step does. -/
inductive Goes (s : State τ σ ο ℓ ν) : Event τ ο ε → State τ σ ο ℓ ν → Prop where
  | call {t op} (away : s.place t = .away) (calls : P.calls t (s.view t) op = true) :
      Goes s (.call t op) (s.goto t (.waits op))
  | lock {t op s'} (waits : s.place t = .waits op) (taken : P.lock s t op = some s') :
      Goes s (.lock t) s'
  | consistent {t op} (recovers : s.place t = .recovers op) :
      Goes s (.consistent t)
        ({ s with mutex := s.mutex.recover t }.goto t (.within op (P.enter op)))
  | access {t op l l' shared} (within : s.place t = .within op l)
      (taken : P.access l s.shared = .inl (l', shared)) :
      Goes s (.access t) ({ s with shared }.goto t (.within op l'))
  | unlock {t op l r} (within : s.place t = .within op l)
      (taken : P.access l s.shared = .inr r) : Goes s (.unlock t) (P.leave s t op r)
  | act {t e} (away : s.place t = .away) (acts : P.acts t (s.view t) e = true) :
      Goes s (.act t e) { s with shared := P.act e s.shared }
  | die {t} (mortal : P.mortal t = true) :
      Goes s (.die t) ({ s with mutex := s.mutex.die t }.goto t .dead)

variable {P} {s s' : State τ σ ο ℓ ν} {t t' : τ} {op op' : ο} {l l' : ℓ}

theorem goes_of_step {e : Event τ ο ε} (taken : P.step s e = some s') : P.Goes s e s' := by
  cases e with
  | call t op =>
      simp only [step] at taken
      split at taken
      · rename_i away
        obtain ⟨calls, same⟩ := Option.ite_none_right_eq_some.mp taken
        cases same
        exact .call away calls
      · cases taken
  | lock t =>
      simp only [step] at taken
      split at taken
      · rename_i waits
        exact .lock waits taken
      · cases taken
  | consistent t =>
      simp only [step] at taken
      split at taken
      · rename_i recovers
        cases taken
        exact .consistent recovers
      · cases taken
  | access t =>
      simp only [step] at taken
      split at taken
      · rename_i within
        split at taken
        · rename_i accessed
          cases taken
          exact .access within accessed
        · cases taken
      · cases taken
  | unlock t =>
      simp only [step] at taken
      split at taken
      · rename_i within
        split at taken
        · cases taken
        · rename_i accessed
          cases taken
          exact .unlock within accessed
      · cases taken
  | act t e =>
      simp only [step] at taken
      split at taken
      · rename_i away
        obtain ⟨acts, same⟩ := Option.ite_none_right_eq_some.mp taken
        cases same
        exact .act away acts
      · cases taken
  | die t =>
      simp only [step] at taken
      split at taken
      · cases taken
      · obtain ⟨mortal, same⟩ := Option.ite_none_right_eq_some.mp taken
        cases same
        exact .die mortal

/-- The threads know who has the mutex and in what state, it can be recovered, and an operation
under way is one that its thread may call. -/
structure Coherent (P : Program τ σ ο ℓ ρ ε ν) (s : State τ σ ο ℓ ν) : Prop where
  held : ∀ t b, (s.place t).holds = some b ↔ s.mutex = .held t b
  recoverable : s.mutex ≠ .unrecoverable
  called : ∀ t op, (s.place t).called = some op → P.calls t (s.view t) op = true

namespace Coherent

omit [DecidableEq τ] in
theorem start (shared : σ) (view : τ → ν) : P.Coherent (.start shared view) where
  held _ _ := ⟨nofun, nofun⟩
  recoverable := nofun
  called _ _ := nofun

/-- One thread moves, and nobody else's hold on the mutex changes. -/
theorem goto (coherent : P.Coherent s) {mutex : Mutex τ} {shared : σ} {view : τ → ν}
    {place : Place ο ℓ} (own : ∀ b, place.holds = some b ↔ mutex = .held t b)
    (others : ∀ t', t' ≠ t → ∀ b, mutex = .held t' b ↔ s.mutex = .held t' b)
    (recoverable : mutex ≠ .unrecoverable)
    (called : ∀ op, place.called = some op → P.calls t (view t) op = true)
    (same : ∀ t', t' ≠ t → view t' = s.view t') :
    P.Coherent (State.goto ⟨mutex, shared, s.place, view⟩ t place) := by
  refine ⟨fun t' b => ?_, recoverable, fun t' op => ?_⟩
  · show (Function.update s.place t place t').holds = some b ↔ mutex = .held t' b
    by_cases it : t' = t
    · subst it
      rw [Function.update_self]
      exact own b
    · rw [Function.update_of_ne it, others t' it b]
      exact coherent.held t' b
  · show (Function.update s.place t place t').called = some op → P.calls t' (view t') op = true
    by_cases it : t' = t
    · subst it
      rw [Function.update_self]
      exact called op
    · rw [Function.update_of_ne it, same t' it]
      exact coherent.called t' op

omit [DecidableEq τ] in
/-- Only the owner is in an operation. -/
theorem of_within (coherent : P.Coherent s) (within : s.place t = .within op l) :
    s.mutex = .held t true :=
  (coherent.held t true).mp (by rw [within]; rfl)

omit [DecidableEq τ] in
theorem of_recovers (coherent : P.Coherent s) (recovers : s.place t = .recovers op) :
    s.mutex = .held t false :=
  (coherent.held t false).mp (by rw [recovers]; rfl)

/-- A step keeps the threads coherent. -/
theorem step (coherent : P.Coherent s) {e : Event τ ο ε} (goes : P.Goes s e s') :
    P.Coherent s' := by
  cases goes with
  | @call t op away calls =>
      refine coherent.goto (fun b => ?_) (fun _ _ _ => .rfl) coherent.recoverable ?_
        fun _ _ => rfl
      · rw [← coherent.held t b, away]
        exact .rfl
      · rintro _ ⟨⟩
        exact calls
  | @lock t op _ waits taken =>
      have calls : P.calls t (s.view t) op = true := coherent.called t op (by rw [waits]; rfl)
      have own : ∀ op', (Place.waits op : Place ο ℓ).called = some op' →
          P.calls t (s.view t) op' = true := by
        rintro _ ⟨⟩
        exact calls
      unfold lock at taken
      split at taken
      · rename_i free
        cases taken
        refine coherent.goto (fun b => ?_) (fun t' other b => ?_) nofun own fun _ _ => rfl
        · simp [Place.holds]
        · simp [free, Ne.symm other]
      · rename_i abandoned
        cases taken
        refine coherent.goto (fun b => ?_) (fun t' other b => ?_) nofun own fun _ _ => rfl
        · simp [Place.holds]
        · simp [abandoned, Ne.symm other]
      · rename_i broken
        exact absurd broken coherent.recoverable
      · cases taken
  | @consistent t op recovers =>
      have mine := coherent.of_recovers recovers
      have calls : P.calls t (s.view t) op = true := coherent.called t op (by rw [recovers]; rfl)
      refine coherent.goto (fun b => ?_) (fun t' other b => ?_) ?_ ?_ fun _ _ => rfl
      · simp [mine, Mutex.recover, Place.holds]
      · simp [mine, Mutex.recover, Ne.symm other]
      · simp [mine, Mutex.recover]
      · rintro _ ⟨⟩
        exact calls
  | @access t op l l' shared within taken =>
      have mine := coherent.of_within within
      have calls : P.calls t (s.view t) op = true := coherent.called t op (by rw [within]; rfl)
      refine coherent.goto (fun b => ?_) (fun _ _ _ => .rfl) coherent.recoverable ?_
        fun _ _ => rfl
      · rw [← coherent.held t b, within]
        exact .rfl
      · rintro _ ⟨⟩
        exact calls
  | @unlock t op l r within taken =>
      have mine := coherent.of_within within
      refine coherent.goto (fun b => ?_) (fun t' other b => ?_) ?_ nofun
        fun t' other => Function.update_of_ne other _ _
      · simp [mine, Mutex.unlock, Place.holds]
      · simp [mine, Mutex.unlock, Ne.symm other]
      · simp [mine, Mutex.unlock]
  | @act t e away acts => exact ⟨coherent.held, coherent.recoverable, coherent.called⟩
  | @die t mortal =>
      cases mine : s.mutex with
      | held owner b =>
          by_cases it : owner = t
          · subst it
            refine coherent.goto (fun b => ?_) (fun t' other b => ?_) ?_ nofun fun _ _ => rfl
            · simp [Mutex.die, Place.holds]
            · simp [mine, Mutex.die, Ne.symm other]
            · simp [Mutex.die]
          · refine coherent.goto (fun b' => ?_) (fun t' other b => ?_) ?_ nofun fun _ _ => rfl
            · simp [Mutex.die, Place.holds, it]
            · simp [mine, Mutex.die, it]
            · simp [Mutex.die, it]
      | free | abandoned =>
          refine coherent.goto (fun b => ?_) (fun t' other b => ?_) nofun nofun fun _ _ => rfl
          · simp [Mutex.die, Place.holds]
          · simp [mine, Mutex.die]
      | unrecoverable => exact absurd mine coherent.recoverable

end Coherent

section Simulation

variable [DecidableEq ℓ] {a : Atomic τ σ ν}

/-- The state as seen by the threads that run an operation in one step: what the owner of the
mutex has done so far has not happened yet. -/
structure Matches (P : Program τ σ ο ℓ ρ ε ν) (s : State τ σ ο ℓ ν) (a : Atomic τ σ ν) : Prop where
  coherent : P.Coherent s
  view : s.view = a.view
  within : ∀ t op l, s.place t = .within op l → P.upTo l (P.enter op) a.shared = some s.shared
  outside : (∀ t op l, s.place t ≠ .within op l) → s.shared = a.shared

namespace Matches

omit [DecidableEq τ] in
theorem start (shared : σ) (view : τ → ν) : P.Matches (.start shared view) ⟨shared, view⟩ where
  coherent := .start shared view
  view := rfl
  within _ _ _ := nofun
  outside _ := rfl

omit [DecidableEq τ] in
/-- Unless the mutex is held and the state consistent, nobody is in an operation. -/
theorem shared_eq (known : P.Matches s a) (idle : ∀ t, s.mutex ≠ .held t true) :
    s.shared = a.shared :=
  known.outside fun t _ _ within => idle t (known.coherent.of_within within)

/-- A step that leaves the shared state alone, by a thread that is in no operation before or
after it. -/
theorem silent (known : P.Matches s a) (coherent : P.Coherent s') (place : Place ο ℓ)
    (moves : s'.place = Function.update s.place t place) (shared : s'.shared = s.shared)
    (view : s'.view = s.view) (before : ∀ op l, s.place t ≠ .within op l)
    (after : ∀ op l, place ≠ .within op l) : P.Matches s' a where
  coherent
  view := view.trans known.view
  within t' op l within := by
    rw [moves] at within
    by_cases it : t' = t
    · subst it
      rw [Function.update_self] at within
      exact absurd within (after op l)
    · rw [Function.update_of_ne it] at within
      rw [shared]
      exact known.within t' op l within
  outside idle := by
    rw [shared]
    refine known.outside fun t' op l within => ?_
    by_cases it : t' = t
    · subst it
      exact before op l within
    · exact idle t' op l (by rw [moves, Function.update_of_ne it, within])

omit [DecidableEq τ] in
/-- A thread enters its operation, or goes on in it. -/
theorem enters (coherent : P.Coherent s') (view : s'.view = a.view)
    (here : s'.place t = .within op l)
    (comes : P.upTo l (P.enter op) a.shared = some s'.shared) : P.Matches s' a where
  coherent
  view
  within t' op' l' within := by
    have mine := coherent.of_within here
    have theirs := coherent.of_within within
    obtain rfl : t = t' := by simpa using mine.symm.trans theirs
    cases here.symm.trans within
    exact comes
  outside idle := absurd here (idle t op l)

omit [DecidableEq τ] in
/-- The owner of the mutex is done. -/
theorem leaves {shared : σ} {view : τ → ν} (coherent : P.Coherent s')
    (idle : ∀ t, s'.mutex ≠ .held t true) (same : s'.shared = shared) (sees : s'.view = view) :
    P.Matches s' ⟨shared, view⟩ where
  coherent
  view := sees
  within t _ _ within := absurd (coherent.of_within within) (idle t)
  outside _ := same

end Matches

variable [DecidableEq ρ]

/-- An access at a time is as good as an operation at a time, and nobody sees an operation
half done unless its thread has been killed. -/
theorem simulates : P.system.Simulates P.atomic P.Matches P.label := by
  intro s e s' a known taken
  have goes := goes_of_step taken
  have coherent := known.coherent.step goes
  cases goes with
  | @call t op away calls =>
      refine .inr ⟨rfl, known.silent coherent (.waits op) rfl rfl rfl ?_ nofun⟩
      intro op' l within
      cases away.symm.trans within
  | @lock t op _ waits taken =>
      refine .inr ⟨rfl, ?_⟩
      unfold lock at taken
      split at taken
      · rename_i free
        cases taken
        refine .enters coherent known.view (Function.update_self t _ s.place) ?_
        have same := known.shared_eq (by simp [free])
        show _ = some s.shared
        rw [same, upTo_self]
      · cases taken
        refine known.silent coherent (.recovers op) rfl rfl rfl ?_ nofun
        intro op' l within
        cases waits.symm.trans within
      · rename_i broken
        exact absurd broken known.coherent.recoverable
      · cases taken
  | @consistent t op recovers =>
      refine .inr ⟨rfl, .enters coherent known.view (Function.update_self t _ s.place) ?_⟩
      have same := known.shared_eq (by simp [known.coherent.of_recovers recovers])
      show _ = some s.shared
      rw [same, upTo_self]
  | @access t op l l' shared within accessed =>
      refine .inr ⟨rfl, .enters coherent known.view (Function.update_self t _ s.place) ?_⟩
      exact upTo_access (known.within t op l within) accessed
  | @unlock t op l r within accessed =>
      have calls := known.coherent.called t op (by rw [within]; rfl)
      have done : P.exec (P.enter op) a.shared = (r, s.shared) :=
        (exec_of_upTo (known.within t op l within)).trans (exec_done accessed)
      have seen : P.label s (.unlock t) = some (.whole t op r) := by
        simp only [label, within, accessed]
      have mine : (P.leave s t op r).mutex = .free := by
        simp [leave, State.goto, known.coherent.of_within within, Mutex.unlock]
      have sees : (P.leave s t op r).view =
          Function.update a.view t (P.returns (a.view t) op r) := by
        rw [← known.view]
        rfl
      refine .inl ⟨_, _, seen, ?_, .leaves coherent (by simp [mine]) rfl sees⟩
      rw [known.view] at calls
      show P.atomicStep a (.whole t op r) = some ⟨s.shared, _⟩
      simp only [atomicStep, done, calls, and_self, if_true]
  | @act t e away acts =>
      have step : P.atomicStep a (.act t e) = some { a with shared := P.act e a.shared } := by
        rw [known.view] at acts
        simp only [atomicStep, acts, if_true]
      refine .inl ⟨_, _, rfl, step, coherent, known.view, ?_, ?_⟩
      · intro t' op l within
        exact upTo_act e (known.within t' op l within)
      · intro idle
        exact congrArg (P.act e) (known.outside idle)
  | @die t mortal =>
      cases place : s.place t with
      | within op l =>
          -- the first part of the operation happens now, the rest never
          have calls := known.coherent.called t op (by rw [place]; rfl)
          have seen : P.label s (.die t) = some (.cut t op l) := by simp only [label, place]
          have mine : (s.mutex.die t) = .abandoned := by
            simp [known.coherent.of_within place, Mutex.die]
          refine .inl ⟨_, ⟨s.shared, a.view⟩, seen, ?_,
            .leaves coherent (by simp [State.goto, mine]) rfl known.view⟩
          show P.atomicStep a (.cut t op l) = _
          rw [known.view] at calls
          simp [atomicStep, mortal, calls, known.within t op l place]
      | away | waits | recovers | dead =>
          have unseen : P.label s (.die t) = none := by simp only [label, place]
          exact .inr ⟨unseen, known.silent coherent .dead rfl rfl rfl (by simp [place]) nofun⟩

end Simulation

section Progress

/-- From within its operation the owner of the mutex gets to the end of it. -/
theorem leaves_of_within (within : s.place t = .within op l) (mine : s.mutex = .held t true) :
    ∃ trace finish, P.system.Run s trace finish ∧ (∀ p ∈ trace, p.2.thread = t) ∧
      finish.mutex = .free ∧ ∀ t', t' ≠ t → finish.place t' = s.place t' := by
  induction bound : P.rank l using Nat.strongRecOn generalizing s l with
  | ind n ih =>
  cases taken : P.access l s.shared with
  | inl next =>
      have fall := P.falls l s.shared next.1 next.2 taken
      have step : P.system.step s (.access t) =
          some ({ s with shared := next.2 }.goto t (.within op next.1)) := by
        show P.step s (.access t) = _
        simp only [Program.step, within, taken]
      obtain ⟨trace, finish, run, own, free, others⟩ :=
        ih _ (bound ▸ fall) (s := { s with shared := next.2 }.goto t (.within op next.1))
          (Function.update_self t _ s.place) mine rfl
      refine ⟨_, finish, .cons step run, ?_, free, fun t' other => ?_⟩
      · rintro p (_ | ⟨_, member⟩)
        · rfl
        · exact own p member
      · rw [others t' other]
        exact Function.update_of_ne other _ _
  | inr r =>
      have step : P.system.step s (.unlock t) = some (P.leave s t op r) := by
        show P.step s (.unlock t) = _
        simp only [Program.step, within, taken]
      refine ⟨_, _, .snoc .nil step, ?_, ?_, fun t' other => Function.update_of_ne other _ _⟩
      · rintro p (_ | ⟨_, ⟨⟩⟩)
        rfl
      · simp [leave, State.goto, mine, Mutex.unlock]

/-- The owner of the mutex gives it back by steps of its own. -/
theorem leaves_of_held (coherent : P.Coherent s) {b : Bool} (held : s.mutex = .held t b) :
    ∃ trace finish, P.system.Run s trace finish ∧ (∀ p ∈ trace, p.2.thread = t) ∧
      finish.mutex = .free ∧ ∀ t', t' ≠ t → finish.place t' = s.place t' := by
  have knows := (coherent.held t b).mpr held
  cases place : s.place t with
  | within op l =>
      exact leaves_of_within place (coherent.of_within place)
  | recovers op =>
      have mine := coherent.of_recovers place
      have step : P.system.step s (.consistent t) =
          some ({ s with mutex := s.mutex.recover t }.goto t (.within op (P.enter op))) := by
        show P.step s (.consistent t) = _
        simp only [Program.step, place]
      obtain ⟨trace, finish, run, own, free, others⟩ :=
        leaves_of_within (P := P)
          (s := { s with mutex := s.mutex.recover t }.goto t (.within op (P.enter op)))
          (Function.update_self t _ s.place) (by simp [State.goto, mine, Mutex.recover])
      refine ⟨_, finish, .cons step run, ?_, free, fun t' other => ?_⟩
      · rintro p (_ | ⟨_, member⟩)
        · rfl
        · exact own p member
      · rw [others t' other]
        exact Function.update_of_ne other _ _
  | away | waits | dead => simp [place, Place.holds] at knows

/-- Nobody waits for a mutex that cannot be had: a thread that waits gets it after steps of its
owner, if it has one, and none but its own otherwise. -/
theorem locks_of_waits (coherent : P.Coherent s) (waits : s.place t = .waits op) :
    ∃ trace finish, P.system.Run s trace finish ∧
      (∀ p ∈ trace, ∃ b, s.mutex = .held p.2.thread b) ∧
      ∃ next b, P.system.step finish (.lock t) = some next ∧ next.mutex = .held t b := by
  have locks {s : State τ σ ο ℓ ν} (waits : s.place t = .waits op)
      (available : s.mutex = .free ∨ s.mutex = .abandoned) :
      ∃ next b, P.system.step s (.lock t) = some next ∧ next.mutex = .held t b := by
    have step : P.system.step s (.lock t) = P.lock s t op := by
      show P.step s (.lock t) = _
      simp only [Program.step, waits]
    rw [step]
    rcases available with free | abandoned
    · exact ⟨{ s with mutex := .held t true }.goto t (.within op (P.enter op)), true,
        by simp only [lock, free], rfl⟩
    · exact ⟨{ s with mutex := .held t false }.goto t (.recovers op), false,
        by simp only [lock, abandoned], rfl⟩
  cases mutex : s.mutex with
  | free => exact ⟨[], s, .nil, nofun, locks waits (.inl mutex)⟩
  | abandoned => exact ⟨[], s, .nil, nofun, locks waits (.inr mutex)⟩
  | held owner b =>
      obtain ⟨trace, finish, run, own, free, others⟩ := leaves_of_held coherent mutex
      have other : t ≠ owner := by
        rintro rfl
        have knows := (coherent.held t b).mpr mutex
        simp [waits, Place.holds] at knows
      refine ⟨trace, finish, run, fun p member => ⟨b, ?_⟩, locks ?_ (.inl free)⟩
      · rw [own p member]
      · rw [others t other, waits]
  | unrecoverable => exact absurd mutex coherent.recoverable

end Progress

end Program

end Steps

end Critical
