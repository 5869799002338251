import Mathlib.Algebra.BigOperators.Group.Finset.Basic
import Mathlib.Algebra.Order.Group.Multiset
import Mathlib.Tactic.Abel

/-!
# Programs that hold resources

A program asks an environment for resources, which it may or may not get, and gives them back.
The ledger numbers the calls and records what is held; a release of something that is not held
is a stray one.

`Keeps held m Q` is total correctness for such programs: started with `held` in its hands, `m`
ends with a result and holdings that satisfy `Q`, whatever the environment answers, and no
release in it is a stray one. What a function does not touch is a variable of its specification,
so that no frame rule is needed.
-/

namespace Custody

universe u v

/-- A resource: its kind, and the number of the call that has returned it. -/
structure Resource (κ : Type u) where
  kind : κ
  number : Nat
  deriving DecidableEq, Repr

/-- What has happened so far. `answer n` says whether call `n` succeeds. -/
structure Ledger (κ : Type u) where
  answer : Nat → Bool
  asked : Nat
  held : Multiset (Resource κ)
  strays : Nat

/-- Nothing has been asked for. -/
def Ledger.start {κ : Type u} (answer : Nat → Bool) : Ledger κ where
  answer
  asked := 0
  held := 0
  strays := 0

/-- A program over resources of these kinds. -/
abbrev Prog (κ : Type u) (α : Type u) : Type u :=
  StateM (Ledger κ) α

section Primitives

variable {κ : Type}

/-- A call that succeeds or fails and returns no resource. -/
def call : Prog κ Bool := fun l =>
  (l.answer l.asked, { l with asked := l.asked + 1 })

/-- A call that returns a resource if it succeeds. -/
def acquire (kind : κ) : Prog κ (Option (Resource κ)) := fun l =>
  if l.answer l.asked then
    (some ⟨kind, l.asked⟩,
      { l with asked := l.asked + 1, held := {⟨kind, l.asked⟩} + l.held })
  else (none, { l with asked := l.asked + 1 })

/-- A call that returns two resources if it succeeds. -/
def acquireBoth (first second : κ) : Prog κ (Option (Resource κ × Resource κ)) := fun l =>
  if l.answer l.asked then
    (some (⟨first, l.asked⟩, ⟨second, l.asked + 1⟩),
      { l with
        asked := l.asked + 2
        held := {⟨first, l.asked⟩} + {⟨second, l.asked + 1⟩} + l.held })
  else (none, { l with asked := l.asked + 1 })

variable [DecidableEq κ]

/-- Give a resource back. -/
def release (r : Resource κ) : Prog κ Unit := fun l =>
  if r ∈ l.held then ((), { l with held := l.held.erase r })
  else ((), { l with strays := l.strays + 1 })

/-- Give back a resource if there is one. -/
def releaseIf : Option (Resource κ) → Prog κ Unit
  | none => pure ()
  | some r => release r

/-- Give back one resource after the other. -/
def releaseAll : List (Resource κ) → Prog κ Unit
  | [] => pure ()
  | r :: rest => do
      release r
      releaseAll rest

end Primitives

/-- The holdings that a reference stands for. -/
def owned {κ : Type u} (r : Option (Resource κ)) : Multiset (Resource κ) :=
  r.elim 0 fun r => {r}

@[simp] theorem owned_none {κ : Type u} : owned (none : Option (Resource κ)) = 0 := rfl

@[simp] theorem owned_some {κ : Type u} (r : Resource κ) : owned (some r) = {r} := rfl

section OwnedBy

variable {κ : Type u} {ι : Type v} [Fintype ι]

/-- The holdings that an array of references stands for. -/
def ownedBy (f : ι → Option (Resource κ)) : Multiset (Resource κ) :=
  ∑ i, owned (f i)

theorem ownedBy_none {f : ι → Option (Resource κ)} (none : ∀ i, f i = none) : ownedBy f = 0 :=
  Finset.sum_eq_zero fun i _ => by rw [none, owned_none]

/-- An entry is exchanged. -/
theorem ownedBy_update [DecidableEq ι] (f : ι → Option (Resource κ)) (i : ι) :
    ∃ others, ownedBy f = owned (f i) + others ∧
      ∀ r, ownedBy (Function.update f i r) = owned r + others := by
  refine ⟨∑ j ∈ Finset.univ.erase i, owned (f j), ?_, fun r => ?_⟩
  · exact (Finset.add_sum_erase _ _ (Finset.mem_univ i)).symm
  · rw [ownedBy, ← Finset.add_sum_erase _ _ (Finset.mem_univ i), Function.update_self]
    refine congrArg _ (Finset.sum_congr rfl fun j member => ?_)
    rw [Function.update_of_ne (Finset.ne_of_mem_erase member)]

end OwnedBy

variable {κ α β : Type} {held F : Multiset (Resource κ)} {m : Prog κ α} {f : α → Prog κ β}

/-- Whatever the environment answers: from `held` the program gets to holdings and a result that
satisfy `Q`, without a stray release. -/
def Keeps (held : Multiset (Resource κ)) (m : Prog κ α)
    (Q : α → Multiset (Resource κ) → Prop) : Prop :=
  ∀ l : Ledger κ, l.held = held →
    Q (m.run l).1 (m.run l).2.held ∧ (m.run l).2.strays = l.strays

namespace Keeps

variable {Q R : α → Multiset (Resource κ) → Prop} {S : β → Multiset (Resource κ) → Prop}

theorem pure {a : α} (done : Q a held) : Keeps held (Pure.pure a) Q := by
  intro l holds
  exact ⟨by rw [← holds] at done; exact done, rfl⟩

/-- The rest of the program is what the first part has to establish. -/
theorem bind (first : Keeps held m fun a held' => Keeps held' (f a) S) :
    Keeps held (m >>= f) S := by
  intro l holds
  obtain ⟨rest, same⟩ := first l holds
  obtain ⟨last, same'⟩ := rest (m.run l).2 rfl
  exact ⟨last, same'.trans same⟩

theorem mono (keeps : Keeps held m R) (weaken : ∀ a held', R a held' → Q a held') :
    Keeps held m Q := by
  intro l holds
  obtain ⟨ends, same⟩ := keeps l holds
  exact ⟨weaken _ _ ends, same⟩

/-- A program that is started with nothing. -/
theorem start (keeps : Keeps 0 m Q) (answer : Nat → Bool) :
    Q (m.run (.start answer)).1 (m.run (.start answer)).2.held ∧
      (m.run (.start answer)).2.strays = 0 :=
  keeps (.start answer) rfl

theorem call {Q : Bool → Multiset (Resource κ) → Prop} (ok : Q true held) (failed : Q false held) :
    Keeps held call Q := by
  rintro l rfl
  refine ⟨?_, rfl⟩
  show Q (l.answer l.asked) l.held
  cases l.answer l.asked with
  | true => exact ok
  | false => exact failed

theorem acquire {kind : κ} {Q : Option (Resource κ) → Multiset (Resource κ) → Prop}
    (failed : Q none held) (got : ∀ r, r.kind = kind → Q (some r) ({r} + held)) :
    Keeps held (acquire kind) Q := by
  rintro l rfl
  simp only [Custody.acquire, StateT.run]
  split
  · exact ⟨got _ rfl, rfl⟩
  · exact ⟨failed, rfl⟩

/-- A call that returns a reference, wherever the caller looks at it. -/
theorem acquire_owned {kind : κ} {Q : Option (Resource κ) → Multiset (Resource κ) → Prop}
    (done : ∀ r, Q r (owned r + held)) : Keeps held (Custody.acquire kind) Q :=
  .acquire (by simpa using done none) fun r _ => done (some r)

theorem acquireBoth {first second : κ}
    {Q : Option (Resource κ × Resource κ) → Multiset (Resource κ) → Prop} (failed : Q none held)
    (got : ∀ r s, r.kind = first → s.kind = second → Q (some (r, s)) ({r} + {s} + held)) :
    Keeps held (acquireBoth first second) Q := by
  rintro l rfl
  simp only [Custody.acquireBoth, StateT.run]
  split
  · exact ⟨got _ _ rfl rfl, rfl⟩
  · exact ⟨failed, rfl⟩

variable [DecidableEq κ] {Q : Unit → Multiset (Resource κ) → Prop}

theorem release {r : Resource κ} (holds : held = {r} + F) (done : Q () F) :
    Keeps held (release r) Q := by
  rintro l rfl
  have member : r ∈ l.held := by simp [holds]
  simp only [Custody.release, StateT.run, if_pos member, and_true]
  rwa [holds, Multiset.singleton_add, Multiset.erase_cons_head]

theorem releaseIf {r : Option (Resource κ)} (holds : held = owned r + F)
    (done : Q () F) : Keeps held (releaseIf r) Q := by
  cases r with
  | none =>
      rw [owned_none, zero_add] at holds
      exact .pure (holds ▸ done)
  | some r => exact .release holds done

theorem releaseAll {rs : List (Resource κ)} (holds : held = ↑rs + F) (done : Q () F) :
    Keeps held (releaseAll rs) Q := by
  induction rs generalizing held with
  | nil =>
      rw [Multiset.coe_nil, zero_add] at holds
      exact .pure (holds ▸ done)
  | cons r rs ih =>
      rw [← Multiset.cons_coe, ← Multiset.singleton_add, add_assoc] at holds
      exact .bind (.release holds (ih rfl))

end Keeps

end Custody
