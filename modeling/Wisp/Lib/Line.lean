import Mathlib.Data.Finset.Card
import Mathlib.Order.Interval.Finset.Nat

/-!
# Places in a line

The members of a finite set stand in line by a key from a linear order. The place of a
member is one more than the number of members with a smaller key. When no two members share
a key, the places are the numbers from one to the length of the line, and each time the
first in line goes everybody else moves up by one.
-/

namespace Line

variable {α β : Type*} [LinearOrder β] {S : Finset α} {key : α → β} {i j : α}

/-- The place in line. -/
def place (S : Finset α) (key : α → β) (i : α) : Nat :=
  1 + (S.filter fun j => key j < key i).card

theorem place_pos : 0 < place S key i := Nat.lt_add_right _ Nat.one_pos

theorem place_le_card (member : i ∈ S) : place S key i ≤ S.card := by
  have behind : (S.filter fun j => key j < key i) ⊂ S :=
    Finset.filter_ssubset.mpr ⟨i, member, lt_irrefl _⟩
  have fewer := Finset.card_lt_card behind
  rw [place]
  omega

theorem place_le_place (le : key i ≤ key j) : place S key i ≤ place S key j := by
  apply Nat.add_le_add_left
  apply Finset.card_le_card
  exact Finset.monotone_filter_right S fun _ _ less => lt_of_lt_of_le less le

/-- A member does not stand before itself, but before everyone with a greater key. -/
theorem place_lt_place (member : i ∈ S) (less : key i < key j) :
    place S key i < place S key j := by
  have fewer : (S.filter fun h => key h < key i) ⊂ S.filter fun h => key h < key j := by
    rw [Finset.ssubset_iff_of_subset
      (Finset.monotone_filter_right S fun _ _ before => lt_trans before less)]
    exact ⟨i, Finset.mem_filter.mpr ⟨member, less⟩, by simp⟩
  exact Nat.add_lt_add_left (Finset.card_lt_card fewer) 1

theorem place_lt_place_iff (member : i ∈ S) :
    place S key i < place S key j ↔ key i < key j := by
  constructor
  · intro less
    by_contra notLess
    exact absurd (place_le_place (not_lt.mp notLess)) (Nat.not_le_of_lt less)
  · exact place_lt_place member

/-- First in line is the member with the least key. -/
theorem place_eq_one_iff : place S key i = 1 ↔ ∀ j ∈ S, key i ≤ key j := by
  have empty : place S key i = 1 ↔ (S.filter fun j => key j < key i).card = 0 := by
    rw [place]
    omega
  rw [empty, Finset.card_eq_zero, Finset.filter_eq_empty_iff]
  simp only [not_lt]

theorem place_congr {key' : α → β} (same : ∀ h ∈ S, key' h = key h) (member : i ∈ S) :
    place S key' i = place S key i := by
  have filtered : (S.filter fun h => key' h < key' i) = S.filter fun h => key h < key i := by
    apply Finset.filter_congr
    intro h inside
    rw [same h inside, same i member]
  rw [place, place, filtered]

section Distinct

variable (distinct : Set.InjOn key S)

include distinct

theorem place_injOn : Set.InjOn (place S key) S := by
  intro i memberI j memberJ same
  apply distinct memberI memberJ
  by_contra differ
  rcases lt_or_gt_of_ne differ with less | less
  · exact absurd same (Nat.ne_of_lt (place_lt_place memberI less))
  · exact absurd same.symm (Nat.ne_of_lt (place_lt_place memberJ less))

/-- The places are `1, ..., S.card`, each taken by one member. -/
theorem place_bijOn : Set.BijOn (place S key) S (Set.Icc 1 S.card) := by
  have inside : Set.MapsTo (place S key) S (Set.Icc 1 S.card) := by
    intro i member
    exact ⟨place_pos, place_le_card member⟩
  refine ⟨inside, place_injOn distinct, ?_⟩
  rw [← Finset.coe_Icc] at inside ⊢
  apply Finset.surjOn_of_injOn_of_card_le _ inside (place_injOn distinct)
  rw [Nat.card_Icc, Nat.add_sub_cancel]

variable [DecidableEq α]

/-- When the first in line goes, everybody else moves up. -/
theorem place_erase (memberI : i ∈ S) (first : ∀ h ∈ S, key i ≤ key h) (memberJ : j ∈ S)
    (other : j ≠ i) : place (S.erase i) key j + 1 = place S key j := by
  have before : key i < key j :=
    lt_of_le_of_ne (first j memberJ) fun same => other (distinct memberJ memberI same.symm)
  have counted : i ∈ S.filter fun h => key h < key j :=
    Finset.mem_filter.mpr ⟨memberI, before⟩
  have positive := Finset.card_pos.mpr ⟨i, counted⟩
  rw [place, place, Finset.filter_erase, Finset.card_erase_of_mem counted]
  omega

end Distinct

/-- The members are taken one by one, the first in line each time. -/
inductive Served [DecidableEq α] (key : α → β) : Finset α → List α → Prop where
  | done : Served key ∅ []
  | next {S : Finset α} {i : α} {order : List α} (member : i ∈ S)
      (first : ∀ h ∈ S, key i ≤ key h) (rest : Served key (S.erase i) order) :
      Served key S (i :: order)

namespace Served

variable [DecidableEq α] {order : List α}

/-- Nobody else is served. -/
theorem mem (served : Served key S order) : ∀ j ∈ order, j ∈ S := by
  induction served with
  | done => simp
  | next member _ _ ih =>
      intro j listed
      rcases List.mem_cons.mp listed with rfl | later
      · exact member
      · exact Finset.mem_of_mem_erase (ih j later)

theorem congr {key' : α → β} (served : Served key S order) (same : ∀ h ∈ S, key' h = key h) :
    Served key' S order := by
  induction served with
  | done => exact .done
  | next member first _ ih =>
      refine .next member (fun h inside => ?_) (ih fun h inside => ?_)
      · rw [same h inside, same _ member]
        exact first h inside
      · exact same h (Finset.mem_of_mem_erase inside)

/-- Everybody is served, in the order of the places. -/
theorem map_place (served : Served key S order) (distinct : Set.InjOn key S) :
    order.map (place S key) = List.range' 1 S.card := by
  induction served with
  | done => rfl
  | @next S i order member first rest ih =>
      have remaining : Set.InjOn key (S.erase i) :=
        distinct.mono (Finset.coe_subset.mpr (Finset.erase_subset i S))
      have length : S.card = (S.erase i).card + 1 :=
        (Finset.card_erase_add_one member).symm
      have moved : order.map (place S key) = (order.map (place (S.erase i) key)).map (· + 1) := by
        rw [List.map_map]
        apply List.map_congr_left
        intro j listed
        have left := rest.mem j listed
        exact (place_erase distinct member first (Finset.mem_of_mem_erase left)
          (Finset.ne_of_mem_erase left)).symm
      calc (i :: order).map (place S key)
          = 1 :: (List.range' 1 (S.erase i).card).map (· + 1) := by
            rw [List.map_cons, place_eq_one_iff.mpr first, moved, ih remaining]
        _ = List.range' 1 S.card := by
            rw [length, List.range'_succ, ← List.range'_succ_left]

end Served

end Line
