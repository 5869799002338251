import Mathlib.Algebra.Group.Nat.Defs
import Mathlib.Data.List.Nodup

/-!
# Epochs of a wrapping counter

A 32-bit counter that starts anywhere and is only ever incremented. The value after
`n` increments is `epoch base n`. As long as fewer than `2 ^ 32` increments have
happened, different increments have different values, so a value that was once read
identifies the increment it was read after.

A `Ledger` records to whom a value of the counter was issued. When a value is issued
only while it is current and only once, no two owners ever share a value.
-/

namespace Epoch

/-- The value of the counter after `n` increments. -/
def epoch (base : UInt32) (n : Nat) : UInt32 :=
  base + UInt32.ofNat n

@[simp] theorem epoch_zero (base : UInt32) : epoch base 0 = base := by
  simp [epoch]

theorem epoch_succ (base : UInt32) (n : Nat) : epoch base (n + 1) = epoch base n + 1 := by
  simp only [epoch, UInt32.ofNat_add, UInt32.add_assoc]
  rfl

/-- The counter has not yet come round. -/
theorem epoch_inj {base : UInt32} {m n : Nat} (hm : m < 2 ^ 32) (hn : n < 2 ^ 32) :
    epoch base m = epoch base n ↔ m = n := by
  refine ⟨fun same => ?_, fun same => by rw [same]⟩
  have values : UInt32.ofNat m = UInt32.ofNat n := (UInt32.add_right_inj base).mp same
  have := congrArg UInt32.toNat values
  rwa [UInt32.toNat_ofNat_of_lt' hm, UInt32.toNat_ofNat_of_lt' hn] at this

theorem succ_ne (g : UInt32) : g + 1 ≠ g := by
  rw [← epoch_zero g, ← epoch_succ]
  exact mt (epoch_inj (by decide) (by decide)).mp (by decide)

theorem succ_succ_ne (g : UInt32) : g + 1 + 1 ≠ g := by
  rw [← epoch_zero g, ← epoch_succ, ← epoch_succ]
  exact mt (epoch_inj (by decide) (by decide)).mp (by decide)

/-- The number of increments after which the counter first shows a value. -/
def age (base g : UInt32) : Nat :=
  (g - base).toNat

theorem age_epoch {base : UInt32} {n : Nat} (hn : n < 2 ^ 32) : age base (epoch base n) = n := by
  rw [age, epoch, UInt32.add_comm, UInt32.add_sub_cancel, UInt32.toNat_ofNat_of_lt' hn]

theorem age_inj {base g h : UInt32} : age base g = age base h ↔ g = h := by
  refine ⟨fun same => ?_, fun same => by rw [same]⟩
  have differences : g - base = h - base := UInt32.toNat_inj.mp same
  rw [← UInt32.sub_add_cancel g base, differences, UInt32.sub_add_cancel]

universe u

/-- The increments of the counter, and the values issued so far with their owners, in
order. -/
structure Ledger (α : Type u) where
  base : UInt32
  bumps : Nat
  issued : List (α × UInt32)

namespace Ledger

variable {α : Type u} {l : Ledger α} {a b : α} {g : UInt32}

/-- An empty ledger for a counter with the given value. -/
def opened (base : UInt32) : Ledger α :=
  ⟨base, 0, []⟩

/-- The present value of the counter. -/
def current (l : Ledger α) : UInt32 :=
  epoch l.base l.bumps

/-- The counter is incremented. -/
def bump (l : Ledger α) : Ledger α :=
  { l with bumps := l.bumps + 1 }

/-- A value is issued. -/
def issue (l : Ledger α) (a : α) (g : UInt32) : Ledger α :=
  { l with issued := l.issued ++ [(a, g)] }

@[simp] theorem bump_base : l.bump.base = l.base := rfl

theorem bump_current : l.bump.current = l.current + 1 :=
  epoch_succ l.base l.bumps

@[simp] theorem issue_current : (l.issue a g).current = l.current := rfl

theorem mem_issue {p : α × UInt32} : p ∈ (l.issue a g).issued ↔ p ∈ l.issued ∨ p = (a, g) := by
  simp [issue]

/-- The value is already in the ledger. -/
def Issued (l : Ledger α) (g : UInt32) : Prop :=
  ∃ p ∈ l.issued, p.2 = g

instance (l : Ledger α) (g : UInt32) : Decidable (l.Issued g) :=
  inferInstanceAs (Decidable (∃ p ∈ l.issued, p.2 = g))

/-- Values were issued in the order in which the counter showed them, each at most
once, and none of them lies ahead. -/
structure Ordered (l : Ledger α) : Prop where
  rising : l.issued.Pairwise fun p q => age l.base p.2 < age l.base q.2
  past : ∀ p ∈ l.issued, age l.base p.2 ≤ l.bumps

theorem ordered_opened (base : UInt32) : (opened base : Ledger α).Ordered :=
  ⟨List.Pairwise.nil, by simp [opened]⟩

theorem age_current (few : l.bumps < 2 ^ 32) : age l.base l.current = l.bumps :=
  age_epoch few

namespace Ordered

variable (ordered : l.Ordered)
include ordered

theorem bump : l.bump.Ordered :=
  ⟨ordered.rising, fun p member => Nat.le_succ_of_le (ordered.past p member)⟩

/-- What an increment brings up has not been issued. -/
theorem unissued_bump (few : l.bump.bumps < 2 ^ 32) : ¬ l.bump.Issued l.bump.current := by
  rintro ⟨p, member, same⟩
  have before := ordered.past p member
  have now := age_current few
  rw [bump_base, ← same] at now
  change age l.base p.2 = l.bumps + 1 at now
  omega

/-- What is issued now lies after everything issued before. -/
theorem age_lt_current (few : l.bumps < 2 ^ 32) (unissued : ¬ l.Issued l.current)
    {p : α × UInt32} (member : p ∈ l.issued) : age l.base p.2 < age l.base l.current := by
  have before := ordered.past p member
  have other : age l.base p.2 ≠ age l.base l.current :=
    fun same => unissued ⟨p, member, age_inj.mp same⟩
  have now := age_current few
  omega

theorem issue (few : l.bumps < 2 ^ 32) (unissued : ¬ l.Issued l.current) :
    (l.issue a l.current).Ordered := by
  constructor
  · refine List.pairwise_append.mpr ⟨ordered.rising, List.pairwise_singleton _ _, ?_⟩
    intro p member q last
    rw [List.mem_singleton.mp last]
    exact ordered.age_lt_current few unissued member
  · intro p member
    rcases mem_issue.mp member with old | rfl
    · exact ordered.past p old
    · exact Nat.le_of_eq (age_current few)

/-- No value is issued twice. -/
theorem nodup : (l.issued.map Prod.snd).Nodup := by
  rw [List.Nodup, List.pairwise_map]
  exact ordered.rising.imp fun rises same => by simp [same] at rises

/-- A value has one owner. -/
theorem owner_unique (ha : (a, g) ∈ l.issued) (hb : (b, g) ∈ l.issued) : a = b :=
  congrArg Prod.fst (List.inj_on_of_nodup_map ordered.nodup ha hb rfl)

end Ordered

end Ledger

end Epoch
