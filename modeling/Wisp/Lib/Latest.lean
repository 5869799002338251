import Wisp.Lib.Transition

/-!
# Sampling the latest published value

A register to which values are published, and a reader that samples it and delivers what it
sampled. Delivery takes time: values may be published in between, and the reader still
delivers the one that was the latest when it sampled. A reader may also discard its sample.

Values are referred to by their number in the order of publication, starting from one, so
equal values stay apart.
-/

namespace Transition

universe u

/-- The values published so far, the number of the value sampled and not yet delivered, and
the numbers of the delivered values. -/
structure Latest (α : Type u) where
  published : List α
  sampled : Option Nat
  delivered : List Nat

namespace Latest

variable {α : Type u}

/-- What can happen to the register. -/
inductive Action (α : Type u) where
  | publish (a : α)
  | sample
  | deliver
  | discard

/-- Nothing is published yet. -/
def empty : Latest α :=
  ⟨[], none, []⟩

/-- A sample names the last value published, if there is one. -/
def step (l : Latest α) : Action α → Option (Latest α)
  | .publish a => some { l with published := l.published ++ [a] }
  | .sample =>
      if l.sampled.isSome then none
      else if l.published.isEmpty then some l
      else some { l with sampled := some l.published.length }
  | .deliver => l.sampled.map fun n => { l with sampled := none, delivered := l.delivered ++ [n] }
  | .discard => l.sampled.map fun _ => { l with sampled := none }

/-- The register as a transition system. -/
def system (α : Type u) : System (Latest α) (Action α) where
  step := step

/-- The value with this number. -/
def value (l : Latest α) (n : Nat) : Option α :=
  if n = 0 then none else l.published[n - 1]?

/-- Samples are numbers of published values, and they are delivered in order. -/
structure Ordered (l : Latest α) : Prop where
  delivered : l.delivered.Pairwise (· ≤ ·)
  bounded : ∀ n ∈ l.delivered, n ≤ l.published.length
  sampled : ∀ n, l.sampled = some n → 0 < n ∧ n ≤ l.published.length ∧ ∀ m ∈ l.delivered, m ≤ n

theorem ordered_empty : (empty : Latest α).Ordered :=
  ⟨.nil, by simp [empty], by simp [empty]⟩

theorem Ordered.step {l l' : Latest α} {action : Action α} (ordered : l.Ordered)
    (taken : (system α).step l action = some l') : l'.Ordered := by
  obtain ⟨delivered, bounded, sampled⟩ := ordered
  change l.step action = some l' at taken
  cases action with
  | publish a =>
      cases taken
      refine ⟨delivered, fun n member => ?_, fun n named => ?_⟩
      · have := bounded n member
        simp only [List.length_append, List.length_singleton]
        omega
      · obtain ⟨positive, within, later⟩ := sampled n named
        simp only [List.length_append, List.length_singleton]
        exact ⟨positive, by omega, later⟩
  | sample =>
      simp only [Latest.step] at taken
      split at taken
      · cases taken
      · split at taken
        · cases taken
          exact ⟨delivered, bounded, sampled⟩
        · rename_i some
          cases taken
          refine ⟨delivered, bounded, ?_⟩
          rintro n ⟨⟩
          refine ⟨?_, Nat.le_refl _, bounded⟩
          exact List.length_pos_iff.mpr (by simpa using some)
  | deliver =>
      obtain ⟨n, named, rfl⟩ := Option.map_eq_some_iff.mp taken
      obtain ⟨-, within, later⟩ := sampled n named
      refine ⟨?_, ?_, by simp⟩
      · rw [List.pairwise_append]
        refine ⟨delivered, List.pairwise_singleton _ _, ?_⟩
        intro m member k last
        rw [List.mem_singleton.mp last]
        exact later m member
      · intro m member
        rcases List.mem_append.mp member with earlier | last
        · exact bounded m earlier
        · rw [List.mem_singleton.mp last]
          exact within
  | discard =>
      obtain ⟨n, named, rfl⟩ := Option.map_eq_some_iff.mp taken
      exact ⟨delivered, bounded, by simp⟩

/-- Publishing does not renumber. -/
theorem value_publish {l : Latest α} {n : Nat} {a b : α} (known : l.value n = some a) :
    ({ l with published := l.published ++ [b] } : Latest α).value n = some a := by
  unfold value at known ⊢
  split at known
  · cases known
  · rename_i positive
    rw [if_neg positive, List.getElem?_append_left (List.getElem?_eq_some_iff.mp known).1]
    exact known

theorem value_length {l : Latest α} {a : α} (last : l.published.getLast? = some a) :
    l.value l.published.length = some a := by
  have some : l.published ≠ [] := by
    rintro none
    simp [none] at last
  rw [value, if_neg (by simpa using some), ← List.getLast?_eq_getElem?]
  exact last

end Latest

end Transition
