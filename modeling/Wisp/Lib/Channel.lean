import Wisp.Lib.Transition

/-!
# A queue from one process to another

What a connection is to the processes at its two ends: one of them puts whole messages in,
the other one takes them out in the same order. Nothing is lost, doubled or changed on the
way, so what has been taken out, what is in the queue and what is still to be put in are the
messages from first to last.
-/

namespace Transition

universe u

/-- The messages still to be put in, those in the queue, and those that were taken out. -/
structure Channel (α : Type u) where
  unsent : List α
  queue : List α
  received : List α
  deriving DecidableEq

namespace Channel

variable {α : Type u}

/-- What the two processes do. -/
inductive Action where
  | put
  | take
  deriving DecidableEq

/-- Nothing is sent yet. -/
def start (msgs : List α) : Channel α :=
  ⟨msgs, [], []⟩

def step (c : Channel α) : Action → Option (Channel α)
  | .put =>
      match c.unsent with
      | [] => none
      | msg :: rest => some { c with unsent := rest, queue := c.queue ++ [msg] }
  | .take =>
      match c.queue with
      | [] => none
      | msg :: rest => some { c with queue := rest, received := c.received ++ [msg] }

/-- The queue as a transition system. -/
def system (α : Type u) : System (Channel α) Action where
  step := step

/-- The messages from first to last. -/
def all (c : Channel α) : List α :=
  c.received ++ (c.queue ++ c.unsent)

theorem all_start (msgs : List α) : (start msgs).all = msgs := rfl

/-- The two processes move messages on, and that is all they do. -/
theorem all_step {c c' : Channel α} {action : Action}
    (taken : (system α).step c action = some c') : c'.all = c.all := by
  cases action with
  | put =>
      simp only [system, step] at taken
      split at taken
      · cases taken
      · rename_i msg rest ahead
        cases taken
        simp [all, ahead]
  | take =>
      simp only [system, step] at taken
      split at taken
      · cases taken
      · rename_i msg rest ahead
        cases taken
        simp [all, ahead]

end Channel

end Transition
