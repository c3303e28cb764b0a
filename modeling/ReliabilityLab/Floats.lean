import Mathlib.Algebra.Order.Round
import Mathlib.Data.Int.Log
import Mathlib.Data.Rat.Floor
import Mathlib.Tactic.Linarith
import Mathlib.Tactic.NormNum
import Mathlib.Tactic.Positivity

/-!
# True division

`p / n` of two integers is the double nearest to the quotient. `trueDiv_eq_one` : a rate of
at most `2 ^ 53` items is `1.0` only if all of them count. Beyond that it is not so, since
the doubles below one have 53 bits.
-/

namespace ReliabilityLab

/-- The nearest integer, of two the even one. -/
def roundHalfEven (q : ℚ) : ℤ :=
  let low := ⌊q⌋
  if q - low < 1 / 2 ∨ q - low = 1 / 2 ∧ low % 2 = 0 then low else low + 1

/-- The distance of the doubles around `q`. -/
def doubleUnit (q : ℚ) : ℚ :=
  2 ^ max (Int.log 2 |q| - 52) (-1074)

/-- The nearest double, for a value in their range. -/
def toDouble (q : ℚ) : ℚ :=
  roundHalfEven (q / doubleUnit q) * doubleUnit q

/-- `p / n`, for counts with `p` at most `n`. -/
def trueDiv (p n : ℕ) : ℚ :=
  toDouble (p / n)

theorem roundHalfEven_le (q : ℚ) : (roundHalfEven q : ℚ) ≤ q + 1 / 2 := by
  have hlow := Int.floor_le q
  unfold roundHalfEven
  dsimp only
  split_ifs with h
  · linarith
  · push Not at h
    push_cast
    linarith [h.1]

theorem roundHalfEven_intCast (n : ℤ) : roundHalfEven n = n := by
  simp [roundHalfEven]

theorem doubleUnit_pos (q : ℚ) : 0 < doubleUnit q :=
  zpow_pos (by norm_num) _

theorem toDouble_le (q : ℚ) : toDouble q ≤ q + doubleUnit q / 2 := by
  have hpos := doubleUnit_pos q
  calc toDouble q ≤ (q / doubleUnit q + 1 / 2) * doubleUnit q :=
        mul_le_mul_of_nonneg_right (roundHalfEven_le _) hpos.le
    _ = q + doubleUnit q / 2 := by
        rw [add_mul, div_mul_cancel₀ _ hpos.ne']
        ring

/-- The doubles below one are not further apart than `2 ^ -53`. -/
theorem doubleUnit_le {q : ℚ} (hpos : 0 < q) (hlt : q < 1) : doubleUnit q ≤ 2 ^ (-53 : ℤ) := by
  unfold doubleUnit
  refine zpow_le_zpow_right₀ (by norm_num) ?_
  rw [abs_of_pos hpos]
  have hlog : Int.log 2 q < 0 := by
    rw [← Int.lt_zpow_iff_log_lt (by norm_num) hpos]
    simpa using hlt
  omega

theorem doubleUnit_one : doubleUnit 1 = 2 ^ (-52 : ℤ) := by
  simp [doubleUnit]

theorem toDouble_one : toDouble 1 = 1 := by
  have hscaled : (1 : ℚ) / 2 ^ (-52 : ℤ) = ((2 ^ 52 : ℤ) : ℚ) := by norm_num
  rw [toDouble, doubleUnit_one, hscaled, roundHalfEven_intCast]
  norm_num

/-- The rate of all items is one. -/
theorem trueDiv_self {n : ℕ} (h : 0 < n) : trueDiv n n = 1 := by
  have hn : (n : ℚ) ≠ 0 := by positivity
  rw [trueDiv, div_self hn, toDouble_one]

/-- A rate of few enough items is one only if all of them count. -/
theorem trueDiv_eq_one {p n : ℕ} (hle : p ≤ n) (hn : n ≤ 2 ^ 53) (h : trueDiv p n = 1) :
    p = n := by
  by_contra hne
  have hlt : p + 1 ≤ n := by omega
  have hnpos : (0 : ℚ) < n := by
    exact_mod_cast (show 0 < n by omega)
  have hq : (p : ℚ) / n ≤ 1 - 2 ^ (-53 : ℤ) := by
    have hp : (p : ℚ) ≤ n - 1 := by
      have : ((p + 1 : ℕ) : ℚ) ≤ n := by exact_mod_cast hlt
      push_cast at this
      linarith
    have hinv : (2 : ℚ) ^ (-53 : ℤ) * n ≤ 1 := by
      have : (n : ℚ) ≤ 2 ^ 53 := by exact_mod_cast hn
      rw [zpow_neg, inv_mul_le_iff₀ (by positivity)]
      simpa using this
    rw [div_le_iff₀ hnpos]
    linarith
  rcases Nat.eq_zero_or_pos p with hp | hp
  · subst hp
    have : trueDiv 0 n = 0 := by simp [trueDiv, toDouble, roundHalfEven]
    rw [this] at h
    norm_num at h
  · have hpos : (0 : ℚ) < p / n := by
      have : (0 : ℚ) < p := by exact_mod_cast hp
      positivity
    have hunit : doubleUnit ((p : ℚ) / n) ≤ 2 ^ (-53 : ℤ) := by
      refine doubleUnit_le hpos (lt_of_le_of_lt hq ?_)
      norm_num
    have hdouble := toDouble_le ((p : ℚ) / n)
    rw [← trueDiv, h] at hdouble
    have hsmall : (0 : ℚ) < 2 ^ (-53 : ℤ) := by positivity
    linarith

end ReliabilityLab
