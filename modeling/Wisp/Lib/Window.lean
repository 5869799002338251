import Mathlib.Data.List.Rotate

/-!
# The last items of a sequence

`recent m` of a list keeps its last `m` items. A circular buffer of that size holds them from
its head on, that is, rotated; `rotate_set` is what overwriting the oldest item does.
-/

namespace Window

variable {α : Type*} {m : Nat} {items : List α}

/-- The last `m` items. -/
def recent (m : Nat) (items : List α) : List α :=
  items.drop (items.length - m)

@[simp] theorem recent_length : (recent m items).length = min m items.length := by
  rw [recent, List.length_drop]
  omega

/-- Room is left. -/
theorem recent_snoc_of_lt (room : items.length < m) (a : α) :
    recent m (items ++ [a]) = recent m items ++ [a] := by
  have none : items.length - m = 0 := by omega
  have none' : (items ++ [a]).length - m = 0 := by
    rw [List.length_append, List.length_singleton]
    omega
  rw [recent, recent, none, none', List.drop_zero, List.drop_zero]

/-- The oldest item goes. -/
theorem recent_snoc_of_le (positive : 0 < m) (full : m ≤ items.length) (a : α) :
    recent m (items ++ [a]) = (recent m items).tail ++ [a] := by
  have one : (items ++ [a]).length - m = items.length - m + 1 := by
    rw [List.length_append, List.length_singleton]
    omega
  rw [recent, recent, one, List.tail_drop, List.drop_append_of_le_length (by omega)]

/-- Overwriting the head of a circular buffer drops the oldest item and appends the new one. -/
theorem rotate_set {n : Nat} (inside : n < items.length) (a : α) :
    (items.set n a).rotate ((n + 1) % items.length) = (items.rotate n).tail ++ [a] := by
  have written : items.set n a = items.take n ++ a :: items.drop (n + 1) := by
    rw [List.set_eq_take_append_cons_drop, if_pos inside]
  have front : (items.take n).length = n := List.length_take_of_le (Nat.le_of_lt inside)
  have oldest : items.drop n = items[n] :: items.drop (n + 1) := List.drop_eq_getElem_cons inside
  calc (items.set n a).rotate ((n + 1) % items.length)
      = (items.set n a).rotate (n + 1) := by
        rw [← List.length_set (a := a) (i := n), List.rotate_mod]
    _ = (items.set n a).drop (n + 1) ++ (items.set n a).take (n + 1) :=
        List.rotate_eq_drop_append_take (by rw [List.length_set]; omega)
    _ = items.drop (n + 1) ++ (items.take n ++ [a]) := by
        rw [List.drop_set_of_lt (Nat.lt_succ_self n), written]
        simp [List.take_append, front]
    _ = (items.rotate n).tail ++ [a] := by
        rw [List.rotate_eq_drop_append_take (Nat.le_of_lt inside), oldest, List.cons_append,
          List.tail_cons, List.append_assoc]

end Window
