import Mathlib.Logic.Function.Basic

/-!
# Transition systems with recorded traces

A system is an executable partial step function. `Run` keeps the state before
every step next to the event taken there, so a hypothesis on the inputs of a run
and a property of the states it passes through are both statements about the
members of one list.

`Run.invariant` is the rule most safety results rest on. `Run.exact` is its
two-sided form: when a step is good exactly if it meets a condition, a run is good
throughout exactly if all its steps meet it.

A system `Projects` to a smaller one when each of its steps is a step of the smaller
one or none at all; runs and conditions on them then carry over. It is simulated by another
one when related states answer each other's steps.

`record` adds a history variable. The history never influences a step, so it can
be read off any run after the fact; `Run.record` states this.
-/

namespace Transition

universe u v w

/-- A labelled transition system given by an executable partial step function.
`none` means that the event cannot happen in that state. -/
structure System (σ : Type u) (ε : Type v) where
  step : σ → ε → Option σ

namespace System

variable {σ : Type u} {ε : Type v} {η : Type w}

/-- A finite run. The trace lists the state before each step with the event. -/
inductive Run (M : System σ ε) (start : σ) : List (σ × ε) → σ → Prop where
  | nil : Run M start [] start
  | snoc {trace s e t} (prior : Run M start trace s) (taken : M.step s e = some t) :
      Run M start (trace ++ [(s, e)]) t

/-- Every step of a trace meets a condition on the state before it and its event. -/
def Meets (C : σ → ε → Prop) (trace : List (σ × ε)) : Prop :=
  ∀ p ∈ trace, C p.1 p.2

instance (C : σ → ε → Prop) [∀ s e, Decidable (C s e)] (trace : List (σ × ε)) :
    Decidable (Meets C trace) :=
  inferInstanceAs (Decidable (∀ p ∈ trace, C p.1 p.2))

/-- Every state passed through before a step has the property. -/
def Through (P : σ → Prop) (trace : List (σ × ε)) : Prop :=
  Meets (fun s _ => P s) trace

/-- The weight of a trace: the weights of its steps added up. -/
def tally (weight : σ → ε → Nat) : List (σ × ε) → Nat
  | [] => 0
  | p :: rest => weight p.1 p.2 + tally weight rest

theorem tally_snoc (weight : σ → ε → Nat) (trace : List (σ × ε)) (s : σ) (e : ε) :
    tally weight (trace ++ [(s, e)]) = tally weight trace + weight s e := by
  induction trace with
  | nil => simp [tally]
  | cons p rest ih =>
      simp only [List.cons_append, tally, ih]
      omega

section Traces

variable {C D : σ → ε → Prop} {P Q : σ → Prop} {trace : List (σ × ε)} {s : σ} {e : ε}

@[simp] theorem meets_nil : Meets C ([] : List (σ × ε)) := by
  intro p member
  cases member

@[simp] theorem meets_snoc : Meets C (trace ++ [(s, e)]) ↔ Meets C trace ∧ C s e := by
  simp only [Meets, List.mem_append, List.mem_singleton]
  constructor
  · intro h
    exact ⟨fun p member => h p (.inl member), h (s, e) (.inr rfl)⟩
  · rintro ⟨before, last⟩ p (member | rfl)
    · exact before p member
    · exact last

@[simp] theorem through_nil : Through P ([] : List (σ × ε)) := meets_nil

@[simp] theorem through_snoc : Through P (trace ++ [(s, e)]) ↔ Through P trace ∧ P s :=
  meets_snoc

theorem Meets.mono (h : Meets C trace) (weaken : ∀ s e, C s e → D s e) : Meets D trace :=
  fun p member => weaken p.1 p.2 (h p member)

end Traces

namespace Run

variable {M : System σ ε} {start finish : σ} {trace : List (σ × ε)}
variable {C : σ → ε → Prop} {I P : σ → Prop}

/-- The invariant rule. A step has to keep the invariant only where it meets the
condition imposed on the run. -/
theorem invariant (run : M.Run start trace finish) (meets : Meets C trace)
    (initial : I start)
    (preserved : ∀ s e t, I s → C s e → M.step s e = some t → I t) : I finish := by
  induction run with
  | nil => exact initial
  | snoc prior taken ih =>
      obtain ⟨before, last⟩ := meets_snoc.mp meets
      exact preserved _ _ _ (ih before) last taken

/-- The same rule for the states strictly inside the run. -/
theorem through (run : M.Run start trace finish) (meets : Meets C trace)
    (initial : I start)
    (preserved : ∀ s e t, I s → C s e → M.step s e = some t → I t) : Through I trace := by
  induction run with
  | nil => exact through_nil
  | snoc prior taken ih =>
      obtain ⟨before, _⟩ := meets_snoc.mp meets
      exact through_snoc.mpr ⟨ih before, prior.invariant before initial preserved⟩

/-- What holds of every step follows from what holds of every state. -/
theorem meets {G : σ → ε → Prop} (run : M.Run start trace finish) (met : Meets C trace)
    (initial : I start)
    (preserved : ∀ s e t, I s → C s e → M.step s e = some t → I t)
    (step : ∀ s e t, I s → C s e → M.step s e = some t → G s e) : Meets G trace := by
  induction run with
  | nil => exact meets_nil
  | snoc prior taken ih =>
      obtain ⟨before, last⟩ := meets_snoc.mp met
      have known := prior.invariant before initial preserved
      exact meets_snoc.mpr ⟨ih before, step _ _ _ known last taken⟩

/-- The exact rule. If under an invariant a step is good exactly when it meets a
condition, and the condition keeps the invariant, then all steps of a run are good
exactly when all of them meet the condition. -/
theorem exact {A G : σ → ε → Prop} (run : M.Run start trace finish) (allowed : Meets A trace)
    (initial : I start)
    (preserved : ∀ s e t, I s → A s e → C s e → M.step s e = some t → I t)
    (step : ∀ s e t, I s → A s e → M.step s e = some t → (G s e ↔ C s e)) :
    Meets G trace ↔ Meets C trace := by
  induction run with
  | nil => simp
  | @snoc trace s e t prior taken ih =>
      obtain ⟨before, last⟩ := meets_snoc.mp allowed
      rw [meets_snoc, meets_snoc, ih before]
      refine and_congr_right fun met => ?_
      have known : I s := prior.invariant (C := fun s e => A s e ∧ C s e)
        (fun p member => ⟨before p member, met p member⟩) initial
        fun s e t known both => preserved s e t known both.1 both.2
      exact step s e t known last taken

/-- A measure that never falls stays within the bound it ends with. -/
theorem bounded {bound : Nat} (measure : σ → Nat) (run : M.Run start trace finish)
    (grows : ∀ s e t, M.step s e = some t → measure s ≤ measure t)
    (last : measure finish < bound) :
    Meets (fun s e => ∀ t, M.step s e = some t → measure t < bound) trace := by
  induction run with
  | nil => exact meets_nil
  | snoc prior taken ih =>
      refine meets_snoc.mpr ⟨ih (Nat.lt_of_le_of_lt (grows _ _ _ taken) last), ?_⟩
      intro t other
      cases taken.symm.trans other
      exact last

/-- A measure that every counted step lowers, and no step raises, bounds their number. -/
theorem count_le {counts : ε → Bool} (measure : σ → Nat) (run : M.Run start trace finish)
    (falls : ∀ s e t, M.step s e = some t →
      measure t + (if counts e then 1 else 0) ≤ measure s) :
    trace.countP (fun p => counts p.2) + measure finish ≤ measure start := by
  induction run with
  | nil => simp
  | @snoc trace s e t prior taken ih =>
      have fall := falls s e t taken
      rw [List.countP_append, List.countP_singleton]
      split at fall <;> simp_all <;> omega

/-- All states of a run are good exactly when the first one is and every step reaches
a good one. -/
theorem through_iff (run : M.Run start trace finish) (good : P start) :
    (Through P trace ∧ P finish) ↔ Meets (fun s e => ∀ t, M.step s e = some t → P t) trace := by
  induction run with
  | nil => simp [good]
  | @snoc trace s e t prior taken ih =>
      rw [through_snoc, meets_snoc, ← ih]
      refine and_congr_right fun _ => ?_
      simp [taken]

/-- The exact rule for a property of states. -/
theorem exact_states {A : σ → ε → Prop} (run : M.Run start trace finish)
    (allowed : Meets A trace) (initial : I start) (good : P start)
    (preserved : ∀ s e t, I s → A s e → M.step s e = some t → I t)
    (step : ∀ s e t, I s → A s e → P s → M.step s e = some t → (P t ↔ C s e)) :
    (Through P trace ∧ P finish) ↔ Meets C trace := by
  rw [run.through_iff good]
  refine run.exact (I := fun s => I s ∧ P s) allowed ⟨initial, good⟩ ?_ ?_
  · intro s e t known ok condition taken
    exact ⟨preserved s e t known.1 ok taken, (step s e t known.1 ok known.2 taken).mpr condition⟩
  · intro s e t known ok taken
    simpa [taken] using step s e t known.1 ok known.2 taken

end Run

/-- Replay a list of events, keeping the trace. -/
def replay (M : System σ ε) : σ → List ε → Option (List (σ × ε) × σ)
  | s, [] => some ([], s)
  | s, e :: es => (M.step s e).bind fun t =>
      (M.replay t es).map fun r => ((s, e) :: r.1, r.2)

/-- A run can be extended at its front. -/
theorem Run.cons {M : System σ ε} {s t finish : σ} {e : ε} {trace : List (σ × ε)}
    (taken : M.step s e = some t) (run : M.Run t trace finish) :
    M.Run s ((s, e) :: trace) finish := by
  induction run with
  | nil => exact .snoc .nil taken
  | snoc _ step ih => exact .snoc ih step

/-- Runs compose. -/
theorem Run.trans {M : System σ ε} {s t u : σ} {first second : List (σ × ε)}
    (run : M.Run s first t) (later : M.Run t second u) : M.Run s (first ++ second) u := by
  induction later with
  | nil => simpa using run
  | snoc _ taken ih => exact List.append_assoc _ _ _ ▸ .snoc ih taken

/-- A run can be cut anywhere. -/
theorem Run.split {M : System σ ε} {start finish : σ} {trace before after : List (σ × ε)}
    (run : M.Run start trace finish) (cut : trace = before ++ after) :
    ∃ mid, M.Run start before mid ∧ M.Run mid after finish := by
  induction run generalizing after with
  | nil =>
      obtain ⟨rfl, rfl⟩ := List.append_eq_nil_iff.mp cut.symm
      exact ⟨start, .nil, .nil⟩
  | @snoc trace s e t prior taken ih =>
      rcases List.eq_nil_or_concat after with rfl | ⟨rest, last, rfl⟩
      · rw [List.append_nil] at cut
        exact ⟨t, cut ▸ .snoc prior taken, .nil⟩
      · rw [List.concat_eq_append, ← List.append_assoc] at cut
        obtain ⟨same, one⟩ := List.append_inj' cut rfl
        cases one
        obtain ⟨mid, first, second⟩ := ih same
        exact ⟨mid, first, List.concat_eq_append ▸ .snoc second taken⟩

theorem Run.of_nil {M : System σ ε} {start finish : σ} (run : M.Run start [] finish) :
    finish = start := by
  generalize nothing : ([] : List (σ × ε)) = trace at run
  cases run with
  | nil => rfl
  | snoc => simp at nothing

/-- A run begins in the state recorded first, with the step recorded first. -/
theorem Run.uncons {M : System σ ε} {start finish s : σ} {e : ε} {rest : List (σ × ε)}
    (run : M.Run start ((s, e) :: rest) finish) :
    s = start ∧ ∃ t, M.step s e = some t ∧ M.Run t rest finish := by
  obtain ⟨t, one, rest⟩ := run.split (List.singleton_append (x := (s, e))).symm
  generalize single : [(s, e)] = trace at one
  cases one with
  | nil => cases single
  | @snoc trace s' e' _ prior taken =>
      have both : [] ++ [(s, e)] = trace ++ [(s', e')] := single
      obtain ⟨nothing, last⟩ := List.append_inj' both rfl
      cases last
      subst nothing
      exact ⟨prior.of_nil, t, taken, rest⟩

/-- What `replay` computes is a run on these events. -/
theorem run_of_replay {M : System σ ε} {events : List ε} {start finish : σ}
    {trace : List (σ × ε)} (h : M.replay start events = some (trace, finish)) :
    M.Run start trace finish ∧ trace.map Prod.snd = events := by
  induction events generalizing start trace with
  | nil =>
      cases h
      exact ⟨.nil, rfl⟩
  | cons e es ih =>
      obtain ⟨t, taken, rest⟩ := Option.bind_eq_some_iff.mp h
      obtain ⟨⟨tail, last⟩, replayed, same⟩ := Option.map_eq_some_iff.mp rest
      cases same
      obtain ⟨run, events⟩ := ih replayed
      exact ⟨.cons taken run, by simp [events]⟩

/-- A closed run together with a check of its trace and its last state. The check
is decidable wherever the conditions are, so a concrete run is found by evaluation. -/
def Demonstrates (M : System σ ε) (start : σ) (events : List ε)
    (Q : List (σ × ε) → σ → Prop) : Prop :=
  match M.replay start events with
  | none => False
  | some (trace, finish) => Q trace finish

instance (M : System σ ε) (start : σ) (events : List ε) (Q : List (σ × ε) → σ → Prop)
    [∀ trace s, Decidable (Q trace s)] : Decidable (M.Demonstrates start events Q) :=
  match replayed : M.replay start events with
  | none => isFalse (by simp [Demonstrates, replayed])
  | some r => decidable_of_iff (Q r.1 r.2) (by simp [Demonstrates, replayed])

theorem Demonstrates.run {M : System σ ε} {start : σ} {events : List ε}
    {Q : List (σ × ε) → σ → Prop} (h : M.Demonstrates start events Q) :
    ∃ trace finish, M.Run start trace finish ∧ trace.map Prod.snd = events ∧ Q trace finish := by
  unfold Demonstrates at h
  cases replayed : M.replay start events with
  | none => simp [replayed] at h
  | some r =>
      obtain ⟨trace, finish⟩ := r
      obtain ⟨run, same⟩ := run_of_replay replayed
      exact ⟨trace, finish, run, same, by simpa [replayed] using h⟩

/-- A demonstrated run, with what follows from the check. -/
theorem Demonstrates.exists_run {M : System σ ε} {start : σ} {events : List ε}
    {P Q : List (σ × ε) → σ → Prop} (h : M.Demonstrates start events P)
    (follows : ∀ trace finish, M.Run start trace finish → P trace finish → Q trace finish) :
    ∃ trace finish, M.Run start trace finish ∧ trace.map Prod.snd = events ∧ Q trace finish := by
  obtain ⟨trace, finish, run, same, checked⟩ := h.run
  exact ⟨trace, finish, run, same, follows trace finish run checked⟩

/-- Add a history variable, updated from the states around each step. -/
def record (M : System σ ε) (update : η → σ → ε → σ → η) : System (σ × η) ε where
  step x e := (M.step x.1 e).map fun t => (t, update x.2 x.1 e t)

@[simp] theorem record_step {M : System σ ε} {update : η → σ → ε → σ → η}
    {x y : σ × η} {e : ε} :
    (M.record update).step x e = some y ↔
      M.step x.1 e = some y.1 ∧ y.2 = update x.2 x.1 e y.1 := by
  simp only [record, Option.map_eq_some_iff]
  constructor
  · rintro ⟨t, taken, rfl⟩
    exact ⟨taken, rfl⟩
  · rintro ⟨taken, same⟩
    exact ⟨y.1, taken, Prod.ext rfl same.symm⟩

section Projection

universe u' v'

variable {τ : Type u'} {δ : Type v'} {M : System σ ε} {N : System τ δ}

/-- The trace of a projection: `g` names the projected event of a step, if it has one. -/
def project (f : σ → τ) (g : σ → ε → Option δ) (trace : List (σ × ε)) : List (τ × δ) :=
  trace.filterMap fun p => (g p.1 p.2).map fun d => (f p.1, d)

theorem project_snoc {f : σ → τ} {g : σ → ε → Option δ} (trace : List (σ × ε)) (s : σ) (e : ε) :
    project f g (trace ++ [(s, e)]) =
      project f g trace ++ ((g s e).map fun d => (f s, d)).toList := by
  cases event : g s e <;> simp [project, event]

/-- Every step is one step of the projection, or leaves the projected state alone. -/
def Projects (M : System σ ε) (N : System τ δ) (f : σ → τ) (g : σ → ε → Option δ) : Prop :=
  ∀ s e t, M.step s e = some t → (∃ d, g s e = some d ∧ N.step (f s) d = some (f t)) ∨
    g s e = none ∧ f t = f s

/-- A run projects to a run. -/
theorem Run.project {f : σ → τ} {g : σ → ε → Option δ} (projects : M.Projects N f g)
    {start finish : σ} {trace : List (σ × ε)} (run : M.Run start trace finish) :
    N.Run (f start) (project f g trace) (f finish) := by
  induction run with
  | nil => exact .nil
  | @snoc trace s e t _ taken ih =>
      rw [project_snoc]
      rcases projects s e t taken with ⟨d, event, step⟩ | ⟨event, same⟩
      · rw [event]
        exact .snoc ih step
      · rw [event, same]
        simpa using ih

/-- A condition on the projected steps is one on the steps that project. -/
theorem meets_project {f : σ → τ} {g : σ → ε → Option δ} {C : τ → δ → Prop}
    {trace : List (σ × ε)} :
    Meets C (project f g trace) ↔ Meets (fun s e => ∀ d, g s e = some d → C (f s) d) trace := by
  simp only [Meets, project, List.mem_filterMap, Option.map_eq_some_iff]
  constructor
  · intro h p member d event
    exact h (f p.1, d) ⟨p, member, d, event, rfl⟩
  · rintro h _ ⟨p, member, d, event, rfl⟩
    exact h p member d event

end Projection

section Simulation

universe u' v' u'' v''

variable {τ : Type u'} {δ : Type v'} {υ : Type u''} {κ : Type v''}
variable {M : System σ ε} {N : System τ δ} {O : System υ κ}

/-- Every step from a related state is answered by a step on the event that `g` names, if it
names one, and the states stay related. -/
def Simulates (M : System σ ε) (N : System τ δ) (R : σ → τ → Prop) (g : σ → ε → Option δ) :
    Prop :=
  ∀ s e t a, R s a → M.step s e = some t →
    (∃ d b, g s e = some d ∧ N.step a d = some b ∧ R t b) ∨ g s e = none ∧ R t a

/-- The events that answer a trace. -/
def answers (g : σ → ε → Option δ) (trace : List (σ × ε)) : List δ :=
  trace.filterMap fun p => g p.1 p.2

theorem answers_snoc (g : σ → ε → Option δ) (trace : List (σ × ε)) (s : σ) (e : ε) :
    answers g (trace ++ [(s, e)]) = answers g trace ++ (g s e).toList := by
  cases event : g s e <;> simp [answers, event]

/-- The events that answer a projection. -/
theorem answers_project {f : σ → τ} {g : σ → ε → Option δ} {h : τ → δ → Option κ}
    (trace : List (σ × ε)) :
    answers h (project f g trace) = answers (fun s e => (g s e).bind (h (f s))) trace := by
  simp only [answers, project, List.filterMap_filterMap, Option.bind_map]
  rfl

/-- A run is answered by a run. What holds of each of its steps may be carried over to the
step that answers it. -/
theorem Run.simulate {R : σ → τ → Prop} {g : σ → ε → Option δ} {C : σ → ε → Prop}
    {D : τ → δ → Prop} (simulates : M.Simulates N R g)
    (carries : ∀ s e a d, R s a → C s e → g s e = some d → D a d)
    {start finish : σ} {trace : List (σ × ε)} (run : M.Run start trace finish)
    (meets : Meets C trace) {a : τ} (related : R start a) :
    ∃ trace' b, N.Run a trace' b ∧ R finish b ∧ Meets D trace' ∧
      trace'.map Prod.snd = answers g trace := by
  induction run with
  | nil => exact ⟨[], a, .nil, related, meets_nil, rfl⟩
  | @snoc trace s e t prior taken ih =>
      obtain ⟨before, last⟩ := meets_snoc.mp meets
      obtain ⟨trace', b, run', related', met, same⟩ := ih before
      rw [answers_snoc]
      rcases simulates s e t b related' taken with ⟨d, c, event, step, after⟩ | ⟨event, after⟩
      · refine ⟨trace' ++ [(b, d)], c, .snoc run' step, after, ?_, ?_⟩
        · exact meets_snoc.mpr ⟨met, carries s e b d related' last event⟩
        · simp [same, event]
      · exact ⟨trace', b, run', after, met, by simp [same, event]⟩

/-- Simulations compose when the second one names its events after the first one's. -/
theorem Simulates.trans {R : σ → τ → Prop} {S : τ → υ → Prop} {g : σ → ε → Option δ}
    {h : δ → Option κ} (first : M.Simulates N R g) (second : N.Simulates O S fun _ d => h d) :
    M.Simulates O (fun s c => ∃ a, R s a ∧ S a c) fun s e => (g s e).bind h := by
  rintro s e t c ⟨a, related, related'⟩ taken
  rcases first s e t a related taken with ⟨d, b, event, step, after⟩ | ⟨event, after⟩
  · have named : (g s e).bind h = h d := by rw [event, Option.bind_some]
    rcases second a d b c related' step with ⟨k, c', event', step', after'⟩ | ⟨event', after'⟩
    · exact .inl ⟨k, c', named.trans event', step', b, after, after'⟩
    · exact .inr ⟨named.trans event', b, after, after'⟩
  · have unnamed : (g s e).bind h = none := by rw [event, Option.bind_none]
    exact .inr ⟨unnamed, a, after, related'⟩

/-- The system without the steps that break a condition. -/
def restrict (M : System σ ε) (C : σ → ε → Prop) [∀ s e, Decidable (C s e)] : System σ ε where
  step s e := if C s e then M.step s e else none

/-- Two systems side by side. -/
def pair (M : System σ ε) (N : System τ δ) : System (σ × τ) (ε ⊕ δ) where
  step x
    | .inl e => (M.step x.1 e).map fun s => (s, x.2)
    | .inr d => (N.step x.2 d).map fun a => (x.1, a)

/-- A run of two systems side by side whose steps meet the conditions is one of what is left
of them. -/
theorem Run.pair_restrict {C : σ → ε → Prop} {D : τ → δ → Prop} [∀ s e, Decidable (C s e)]
    [∀ t d, Decidable (D t d)] {start finish : σ × τ} {trace : List ((σ × τ) × (ε ⊕ δ))}
    (run : (M.pair N).Run start trace finish)
    (meets : Meets (fun x e => e.elim (C x.1) (D x.2)) trace) :
    ((M.restrict C).pair (N.restrict D)).Run start trace finish := by
  induction run with
  | nil => exact .nil
  | @snoc trace x e y prior taken ih =>
      obtain ⟨before, last⟩ := meets_snoc.mp meets
      refine .snoc (ih before) ?_
      cases e with
      | inl e =>
          have allowed : C x.1 e := last
          show (if C x.1 e then M.step x.1 e else none).map _ = some y
          rw [if_pos allowed]
          exact taken
      | inr d =>
          have allowed : D x.2 d := last
          show (if D x.2 d then N.step x.2 d else none).map _ = some y
          rw [if_pos allowed]
          exact taken

/-- Systems side by side are simulated side by side. -/
theorem Simulates.pair {υ' : Type u''} {κ' : Type v''} {N' : System υ' κ'} {R : σ → υ → Prop}
    {S : τ → υ' → Prop} {g : σ → ε → Option κ} {h : τ → δ → Option κ'}
    (left : M.Simulates O R g) (right : N.Simulates N' S h) :
    (M.pair N).Simulates (O.pair N') (fun x y => R x.1 y.1 ∧ S x.2 y.2) fun x e =>
      e.elim (fun e => (g x.1 e).map .inl) fun d => (h x.2 d).map .inr := by
  rintro x (e | d) y a ⟨relatedL, relatedR⟩ taken
  · obtain ⟨s, stepped, rfl⟩ := Option.map_eq_some_iff.mp taken
    rcases left x.1 e s a.1 relatedL stepped with ⟨k, b, event, step, after⟩ | ⟨event, after⟩
    · refine .inl ⟨.inl k, (b, a.2), ?_, ?_, after, relatedR⟩
      · show (g x.1 e).map _ = _
        rw [event, Option.map_some]
      · show (O.step a.1 k).map _ = _
        rw [step, Option.map_some]
    · refine .inr ⟨?_, after, relatedR⟩
      show (g x.1 e).map _ = _
      rw [event, Option.map_none]
  · obtain ⟨t, stepped, rfl⟩ := Option.map_eq_some_iff.mp taken
    rcases right x.2 d t a.2 relatedR stepped with ⟨k, b, event, step, after⟩ | ⟨event, after⟩
    · refine .inl ⟨.inr k, (a.1, b), ?_, ?_, relatedL, after⟩
      · show (h x.2 d).map _ = _
        rw [event, Option.map_some]
      · show (N'.step a.2 k).map _ = _
        rw [step, Option.map_some]
    · refine .inr ⟨?_, relatedL, after⟩
      show (h x.2 d).map _ = _
      rw [event, Option.map_none]

end Simulation

/-- Forgetting the history leaves a run of the original system. -/
theorem Run.forget {M : System σ ε} {update : η → σ → ε → σ → η} {x y : σ × η}
    {trace : List ((σ × η) × ε)} (run : (M.record update).Run x trace y) :
    M.Run x.1 (trace.map fun p => (p.1.1, p.2)) y.1 := by
  have projects : (M.record update).Projects M Prod.fst fun _ e => some e :=
    fun x e y taken => .inl ⟨e, rfl, (record_step.mp taken).1⟩
  simpa [System.project] using run.project projects

/-- Every run has a history: recording restricts nothing. -/
theorem Run.record {M : System σ ε} (update : η → σ → ε → σ → η) {start finish : σ}
    {trace : List (σ × ε)} (run : M.Run start trace finish) (h : η) :
    ∃ trace' h', (M.record update).Run (start, h) trace' (finish, h') ∧
      trace'.map (fun p => (p.1.1, p.2)) = trace := by
  induction run with
  | nil => exact ⟨[], h, .nil, rfl⟩
  | @snoc trace s e t _ taken ih =>
      obtain ⟨trace', h', run', same⟩ := ih
      refine ⟨trace' ++ [((s, h'), e)], update h' s e t, .snoc run' ?_, ?_⟩
      · exact record_step.mpr ⟨taken, rfl⟩
      · simp [same]

end System

end Transition
