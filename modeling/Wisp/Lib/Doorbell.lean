import Mathlib.Data.Set.Insert

/-!
# Posting and ringing

Posters leave an item in a place that holds one, and ring a bell afterwards. One consumer
answers the bell and then looks at the place. Any number of rings are answered at once, and
an item that is overwritten before the consumer looks is not missed.

An item that nobody has looked at is `Heard` of: its poster has still to ring, the bell is
ringing, or the consumer has answered and is on its way to look.
-/

/-- The posters, the bell and the consumer. -/
structure Doorbell (ι : Type*) where
  /-- Who posted the item, unless it has been looked at. -/
  unseen : Option ι
  /-- Who has posted and not rung yet. -/
  silent : Set ι
  rings : Nat
  /-- The consumer has answered the bell and not looked yet. -/
  answering : Prop

namespace Doorbell

variable {ι : Type*} {d d' : Doorbell ι}

/-- No item that is still to be looked at has been forgotten. -/
def Heard (d : Doorbell ι) : Prop :=
  ∀ p, d.unseen = some p → 0 < d.rings ∨ p ∈ d.silent ∨ d.answering

/-- What the parties can do. -/
inductive Step (d : Doorbell ι) : Doorbell ι → Prop where
  | post {p : ι} : Step d { d with unseen := some p, silent := insert p d.silent }
  | ring {p : ι} {rings : Nat} (positive : 0 < rings) :
      Step d { d with silent := d.silent \ {p}, rings }
  | answer {rings : Nat} {answering : Prop} (answers : answering) :
      Step d { d with rings, answering }
  | look {answering : Prop} : Step d { d with unseen := none, answering }
  | rest : Step d d

/-- A step forgets no item. -/
theorem Heard.step (heard : d.Heard) (step : d.Step d') : d'.Heard := by
  cases step with
  | post =>
      intro q unseen
      cases unseen
      exact .inr (.inl (Set.mem_insert _ _))
  | ring positive =>
      intro q _
      exact .inl positive
  | answer answers =>
      intro q _
      exact .inr (.inr answers)
  | look =>
      intro q unseen
      cases unseen
  | rest => exact heard

end Doorbell
