import Mathlib.Algebra.Order.Ring.Int

/-!
# Differences in a coarser unit

A quantity is kept as a number of wholes and a rest, and one whole is `coarse * fine` of the
rest's unit. The difference of two quantities is wanted in units of `fine`. The wholes and
the rests are subtracted separately, and the division of the rests truncates. So the result
is rounded down where the rest has grown and rounded up where it has shrunk, but either way
it is on the right side of every full number of units.
-/

namespace Truncation

/-- The difference in the rest's unit. -/
def difference (coarse fine wholes rest : Int) : Int :=
  wholes * (coarse * fine) + rest

/-- The difference in units of `fine`. -/
def count (coarse fine wholes rest : Int) : Int :=
  wholes * coarse + rest.tdiv fine

variable {coarse fine wholes rest n : Int}

/-- Where the rest has grown, the count is rounded down. -/
theorem count_eq_ediv (positive : 0 < fine) (grown : 0 ≤ rest) :
    count coarse fine wholes rest = difference coarse fine wholes rest / fine := by
  have split : difference coarse fine wholes rest = rest + wholes * coarse * fine := by
    rw [difference, Int.mul_assoc, Int.add_comm]
  rw [split, Int.add_mul_ediv_right _ _ (ne_of_gt positive), count,
    Int.tdiv_eq_ediv_of_nonneg grown, Int.add_comm]

/-- Where the rest has shrunk, the count is rounded up. -/
theorem count_eq_neg_ediv (positive : 0 < fine) (shrunk : rest ≤ 0) :
    count coarse fine wholes rest = -(-difference coarse fine wholes rest / fine) := by
  have flipped : count coarse fine wholes rest = -count coarse fine (-wholes) (-rest) := by
    rw [count, count, Int.neg_tdiv, Int.neg_mul]
    omega
  have mirrored : difference coarse fine (-wholes) (-rest) =
      -difference coarse fine wholes rest := by
    rw [difference, difference, Int.neg_mul]
    omega
  rw [flipped, count_eq_ediv positive (Int.neg_nonneg_of_nonpos shrunk), mirrored]

theorem count_le (positive : 0 < fine) (le : difference coarse fine wholes rest ≤ n * fine) :
    count coarse fine wholes rest ≤ n := by
  by_cases grown : 0 ≤ rest
  · rw [count_eq_ediv positive grown]
    apply Int.ediv_le_of_le_mul positive
    exact le
  · rw [count_eq_neg_ediv positive (by omega)]
    have above : -n ≤ -difference coarse fine wholes rest / fine := by
      apply Int.le_ediv_of_mul_le positive
      rw [Int.neg_mul]
      exact Int.neg_le_neg le
    omega

theorem le_count (positive : 0 < fine) (le : n * fine ≤ difference coarse fine wholes rest) :
    n ≤ count coarse fine wholes rest := by
  by_cases grown : 0 ≤ rest
  · rw [count_eq_ediv positive grown]
    exact Int.le_ediv_of_mul_le positive le
  · rw [count_eq_neg_ediv positive (by omega)]
    have below : -difference coarse fine wholes rest / fine ≤ -n := by
      apply Int.ediv_le_of_le_mul positive
      rw [Int.neg_mul]
      exact Int.neg_le_neg le
    omega

end Truncation
