import Mathlib.Order.WellFounded
import Wisp.Lib.Transition

/-!
# Fair executions

An execution goes on for ever; at some moments nothing happens. Every event belongs to an
actor, and an execution is fair to an actor that is not kept waiting for ever while it could
take a step.

Safety is about runs and carries over to executions. The rule for what happens in the end is
`Execution.eventually`: in every state some helper can take a step, this step lowers a measure,
and what the others do either lowers the measure as well, or leaves it and the helper as they
are.
-/

namespace Transition

namespace System

universe u v w

variable {σ : Type u} {ε : Type v} {α : Type w}

/-- An infinite execution. The event at a moment leads to the state at the next one. -/
structure Execution (M : System σ ε) (start : σ) where
  state : Nat → σ
  event : Nat → Option ε
  first : state 0 = start
  taken : ∀ n e, event n = some e → M.step (state n) e = some (state (n + 1))
  idle : ∀ n, event n = none → state (n + 1) = state n

/-- The actor can take a step. -/
def Ready (M : System σ ε) (owner : ε → α) (a : α) (s : σ) : Prop :=
  ∃ e t, owner e = a ∧ M.step s e = some t

namespace Execution

variable {M : System σ ε} {start : σ} {owner : ε → α} {a : α}

/-- The actor takes a step again and again, or again and again cannot take one. -/
def Fair (x : M.Execution start) (owner : ε → α) (a : α) : Prop :=
  ∀ n, ∃ m, n ≤ m ∧ (¬ M.Ready owner a (x.state m) ∨ ∃ e, x.event m = some e ∧ owner e = a)

/-- Every event from this moment on meets a condition. -/
def MeetsFrom (x : M.Execution start) (C : σ → ε → Prop) (n : Nat) : Prop :=
  ∀ m, n ≤ m → ∀ e, x.event m = some e → C (x.state m) e

variable {C D : σ → ε → Prop} {n : Nat}

theorem MeetsFrom.mono {x : M.Execution start} (met : x.MeetsFrom C n) {m : Nat} (later : n ≤ m) :
    x.MeetsFrom C m :=
  fun k after => met k (Nat.le_trans later after)

theorem MeetsFrom.and {x : M.Execution start} (met : x.MeetsFrom C n) (also : x.MeetsFrom D n) :
    x.MeetsFrom (fun s e => C s e ∧ D s e) n :=
  fun k after e happens => ⟨met k after e happens, also k after e happens⟩

/-- What every step keeps holds from this moment on. -/
theorem invariant {I : σ → Prop} (x : M.Execution start) (met : x.MeetsFrom C n)
    (initial : I (x.state n))
    (preserved : ∀ s e t, I s → C s e → M.step s e = some t → I t) {m : Nat} (later : n ≤ m) :
    I (x.state m) := by
  induction m, later using Nat.le_induction with
  | base => exact initial
  | succ m after ih =>
      cases happens : x.event m with
      | none =>
          rw [x.idle m happens]
          exact ih
      | some e => exact preserved _ e _ ih (met m after e happens) (x.taken m e happens)

/-- What an execution has done up to a moment is a run. -/
theorem run (x : M.Execution start) (n : Nat) :
    ∃ trace, M.Run start trace (x.state n) ∧
      ∀ p ∈ trace, ∃ m, m < n ∧ x.state m = p.1 ∧ x.event m = some p.2 := by
  induction n with
  | zero =>
      refine ⟨[], ?_, by simp⟩
      rw [x.first]
      exact .nil
  | succ n ih =>
      obtain ⟨trace, run, known⟩ := ih
      have before : ∀ p ∈ trace, ∃ m, m < n + 1 ∧ x.state m = p.1 ∧ x.event m = some p.2 := by
        intro p member
        obtain ⟨m, less, same⟩ := known p member
        exact ⟨m, Nat.lt_succ_of_lt less, same⟩
      cases happens : x.event n with
      | none =>
          rw [x.idle n happens]
          exact ⟨trace, run, before⟩
      | some e =>
          refine ⟨trace ++ [(x.state n, e)], .snoc run (x.taken n e happens), ?_⟩
          intro p member
          rcases List.mem_append.mp member with member | member
          · exact before p member
          · rw [List.mem_singleton.mp member]
            exact ⟨n, Nat.lt_succ_self n, rfl, happens⟩

section Progress

variable {ω : Type*} [LT ω] {P Q : σ → Prop} {helper : σ → α} {measure : σ → ω}

/-- From a state in the region to the next: the goal is reached, or the region is not left, and
the measure has fallen, or somebody else has left it and the helper as they are. -/
def Advances (P Q : σ → Prop) (helper : σ → α) (measure : σ → ω) (owner : ε → α) (s : σ) (e : ε)
    (t : σ) : Prop :=
  Q t ∨ P t ∧ (measure t < measure s ∨
    measure t = measure s ∧ helper t = helper s ∧ owner e ≠ helper s)

/-- Until the measure falls or the goal is reached, nothing that matters changes. -/
theorem stays (x : M.Execution start) (met : x.MeetsFrom C n) (here : P (x.state n))
    (step : ∀ s e t, P s → C s e → M.step s e = some t →
      Advances P Q helper measure owner s e t) (k : Nat) :
    (∃ m, n ≤ m ∧ (Q (x.state m) ∨ P (x.state m) ∧ measure (x.state m) < measure (x.state n))) ∨
      P (x.state (n + k)) ∧ measure (x.state (n + k)) = measure (x.state n) ∧
        helper (x.state (n + k)) = helper (x.state n) := by
  induction k with
  | zero => exact .inr ⟨here, rfl, rfl⟩
  | succ k ih =>
      rcases ih with done | ⟨still, same, kept⟩
      · exact .inl done
      · cases happens : x.event (n + k) with
        | none =>
            have idle : x.state (n + (k + 1)) = x.state (n + k) := x.idle (n + k) happens
            rw [idle]
            exact .inr ⟨still, same, kept⟩
        | some e =>
            have later : n ≤ n + (k + 1) := Nat.le_add_right n (k + 1)
            have moved := step _ e _ still (met (n + k) (Nat.le_add_right n k) e happens)
              (x.taken (n + k) e happens)
            rcases moved with goal | ⟨region, falls | ⟨equal, helps, -⟩⟩
            · exact .inl ⟨n + (k + 1), later, .inl goal⟩
            · exact .inl ⟨n + (k + 1), later, .inr ⟨region, same ▸ falls⟩⟩
            · exact .inr ⟨region, equal.trans same, helps.trans kept⟩

/-- The measure falls at some later moment, unless the goal is reached. -/
theorem falls (x : M.Execution start) (met : x.MeetsFrom C n) (here : P (x.state n))
    (fair : ∀ s, P s → x.Fair owner (helper s))
    (ready : ∀ s, P s → ¬ Q s → M.Ready owner (helper s) s)
    (step : ∀ s e t, P s → C s e → M.step s e = some t →
      Advances P Q helper measure owner s e t) :
    ∃ m, n ≤ m ∧
      (Q (x.state m) ∨ P (x.state m) ∧ measure (x.state m) < measure (x.state n)) := by
  by_contra never
  have constant k := (x.stays met here step k).resolve_left never
  obtain ⟨m, later, turn⟩ := fair _ here n
  obtain ⟨k, rfl⟩ := Nat.exists_eq_add_of_le later
  obtain ⟨still, same, kept⟩ := constant k
  rcases turn with stuck | ⟨e, happens, owned⟩
  · have unreached : ¬ Q (x.state (n + k)) := fun goal => never ⟨n + k, later, .inl goal⟩
    exact stuck (kept ▸ ready _ still unreached)
  · have moved := step _ e _ still (met (n + k) later e happens) (x.taken (n + k) e happens)
    have after : n ≤ n + k + 1 := Nat.le_succ_of_le later
    rcases moved with goal | ⟨region, falls | ⟨-, -, other⟩⟩
    · exact never ⟨n + k + 1, after, .inl goal⟩
    · exact never ⟨n + k + 1, after, .inr ⟨region, same ▸ falls⟩⟩
    · exact other (owned.trans kept.symm)

/-- The rule for what happens in the end. -/
theorem eventually [WellFoundedLT ω] (x : M.Execution start) (met : x.MeetsFrom C n)
    (here : P (x.state n)) (fair : ∀ s, P s → x.Fair owner (helper s))
    (ready : ∀ s, P s → ¬ Q s → M.Ready owner (helper s) s)
    (step : ∀ s e t, P s → C s e → M.step s e = some t →
      Advances P Q helper measure owner s e t) :
    ∃ m, n ≤ m ∧ Q (x.state m) := by
  generalize level : measure (x.state n) = bound
  induction bound using WellFoundedLT.induction generalizing n with
  | ind bound ih =>
      obtain ⟨m, later, goal | ⟨region, less⟩⟩ := x.falls met here fair ready step
      · exact ⟨m, later, goal⟩
      · obtain ⟨k, after, goal⟩ := ih _ (level ▸ less) (met.mono later) region rfl
        exact ⟨k, Nat.le_trans later after, goal⟩

end Progress

/-! ### Runs that come to an end -/

/-- The state of a finished run at a moment, and the event that happens there. -/
def moment (steps : List (σ × ε)) (finish : σ) (n : Nat) : σ :=
  (steps[n]?.map Prod.fst).getD finish

theorem moment_snoc {steps : List (σ × ε)} {s t : σ} {e : ε} {n : Nat} :
    moment (steps ++ [(s, e)]) t n = if n ≤ steps.length then moment steps s n else t := by
  unfold moment
  rcases Nat.lt_trichotomy n steps.length with less | rfl | more
  · rw [List.getElem?_append_left less, if_pos (Nat.le_of_lt less)]
    simp [less]
  · simp
  · rw [if_neg (Nat.not_le.mpr more), List.getElem?_eq_none (by simp; omega)]
    rfl

theorem exists_moments {steps : List (σ × ε)} {finish : σ} (run : M.Run start steps finish) :
    ∃ x : M.Execution start, (∀ n, x.state n = moment steps finish n) ∧
      ∀ n, x.event n = steps[n]?.map Prod.snd := by
  induction run with
  | nil => exact ⟨⟨fun _ => start, fun _ => none, rfl, nofun, fun _ _ => rfl⟩, by simp [moment]⟩
  | @snoc steps s e t prior taken ih =>
      obtain ⟨x, states, events⟩ := ih
      have state n (before : n ≤ steps.length) : moment (steps ++ [(s, e)]) t n = x.state n := by
        rw [moment_snoc, if_pos before, states]
      refine ⟨⟨moment (steps ++ [(s, e)]) t, fun n => (steps ++ [(s, e)])[n]?.map Prod.snd, ?_, ?_,
        ?_⟩, fun n => rfl, fun n => rfl⟩
      · rw [state 0 (Nat.zero_le _), x.first]
      · intro n ev happens
        rcases Nat.lt_trichotomy n steps.length with less | rfl | more
        · rw [state n (Nat.le_of_lt less), state (n + 1) less]
          rw [List.getElem?_append_left less, ← events] at happens
          exact x.taken n ev happens
        · have last : e = ev := by simpa using happens
          have here : x.state steps.length = s := by simp [states, moment]
          rw [state _ (Nat.le_refl _), here, moment_snoc,
            if_neg (Nat.not_le.mpr (Nat.lt_succ_self _)), ← last]
          exact taken
        · rw [List.getElem?_eq_none (by simp; omega)] at happens
          cases happens
      · intro n nothing
        have after : steps.length < n := by
          by_contra before
          have inside : n < (steps ++ [(s, e)]).length := by simp; omega
          simp [List.getElem?_eq_getElem inside] at nothing
        rw [moment_snoc, moment_snoc, if_neg (Nat.not_le.mpr after),
          if_neg (Nat.not_le.mpr (Nat.lt_succ_of_lt after))]

/-- A run after which nothing happens any more is an execution. -/
theorem exists_of_run {steps : List (σ × ε)} {finish : σ} (run : M.Run start steps finish) :
    ∃ x : M.Execution start,
      (∀ n, steps.length ≤ n → x.state n = finish ∧ x.event n = none) ∧
      (∀ n e, x.event n = some e → (x.state n, e) ∈ steps) ∧
      ∀ p ∈ steps, ∃ n, x.event n = some p.2 := by
  obtain ⟨x, states, events⟩ := exists_moments run
  refine ⟨x, fun n after => ?_, fun n e happens => ?_, fun p member => ?_⟩
  · rw [states, events, moment, List.getElem?_eq_none after]
    exact ⟨rfl, rfl⟩
  · rw [events] at happens
    obtain ⟨p, here, rfl⟩ := Option.map_eq_some_iff.mp happens
    rw [states, moment, here]
    exact List.mem_of_getElem? here
  · obtain ⟨n, here⟩ := List.mem_iff_getElem?.mp member
    exact ⟨n, by rw [events, here]; rfl⟩

/-- An actor that cannot take a step any more is not kept waiting. -/
theorem fair_of_halted (x : M.Execution start) {N : Nat}
    (halted : ∀ n, N ≤ n → ¬ M.Ready owner a (x.state n)) : x.Fair owner a :=
  fun n => ⟨max n N, Nat.le_max_left n N, .inl (halted _ (Nat.le_max_right n N))⟩

end Execution

end System

end Transition
