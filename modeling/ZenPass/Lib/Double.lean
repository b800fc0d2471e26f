import Mathlib.Algebra.Group.Nat.Defs
import Mathlib.Data.Nat.Log
import Mathlib.Tactic.Common

set_option autoImplicit false

-- The double nearest to an integer, and the numeral that JavaScript writes for it. Integers of 64
-- bits only, so that no double overflows.

namespace ZenPass.Double

def unit (n : Nat) : Nat := 2 ^ (Nat.log 2 n - 52)

theorem unit_pos (n : Nat) : 0 < unit n := Nat.pow_pos (by decide)

/-- The double nearest to `n`; of two, the one with the even mantissa. -/
def roundNat (n : Nat) : Nat :=
  let below := n / unit n
  let rest := n % unit n
  if 2 * rest < unit n ∨ 2 * rest = unit n ∧ below % 2 = 0 then below * unit n
  else (below + 1) * unit n

theorem roundNat_of_dvd {n : Nat} (whole : unit n ∣ n) : roundNat n = n := by
  have rest := Nat.mod_eq_zero_of_dvd whole
  simp only [roundNat, rest, Nat.mul_zero, unit_pos, true_or, if_true]
  exact Nat.div_mul_cancel whole

theorem roundNat_scaled {mantissa : Nat} (exponent : Nat) (small : mantissa < 2 ^ 53) :
    roundNat (mantissa * 2 ^ exponent) = mantissa * 2 ^ exponent := by
  apply roundNat_of_dvd
  have log : Nat.log 2 (mantissa * 2 ^ exponent) ≤ 52 + exponent := by
    rcases Nat.eq_zero_or_pos mantissa with rfl | positive
    · simp
    · have power : 0 < 2 ^ exponent := Nat.pow_pos (by decide)
      have below : mantissa * 2 ^ exponent < 2 ^ (52 + exponent + 1) := by
        rw [show 52 + exponent + 1 = 53 + exponent by omega, Nat.pow_add]
        exact Nat.mul_lt_mul_of_pos_right small power
      exact Nat.lt_succ_iff.mp (Nat.log_lt_of_lt_pow (Nat.mul_pos positive power).ne' below)
  have unit_dvd : unit (mantissa * 2 ^ exponent) ∣ 2 ^ exponent := Nat.pow_dvd_pow 2 (by omega)
  exact Nat.dvd_trans unit_dvd (Nat.dvd_mul_left _ _)

theorem roundNat_small {n : Nat} (small : n < 2 ^ 53) : roundNat n = n := by
  have scaled := roundNat_scaled 0 small
  rwa [Nat.pow_zero, Nat.mul_one] at scaled

theorem roundNat_mantissa {mantissa : Nat} (exponent : Nat) (high : mantissa ≤ 2 ^ 53) :
    roundNat (mantissa * 2 ^ exponent) = mantissa * 2 ^ exponent := by
  rcases Nat.lt_or_eq_of_le high with inside | rfl
  · exact roundNat_scaled exponent inside
  · rw [show 2 ^ 53 * 2 ^ exponent = 2 ^ 52 * 2 ^ (exponent + 1) by rw [Nat.pow_succ 2 exponent]; omega]
    exact roundNat_scaled (exponent + 1) (by decide)

theorem mantissa_lt (n : Nat) : n / unit n < 2 ^ 53 := by
  rw [Nat.div_lt_iff_lt_mul (unit_pos n), unit, ← Nat.pow_add]
  calc n
    _ < 2 ^ (Nat.log 2 n + 1) := Nat.lt_pow_succ_log_self (by decide) n
    _ ≤ 2 ^ (53 + (Nat.log 2 n - 52)) := Nat.pow_le_pow_right (by decide) (by omega)

theorem le_mantissa {n : Nat} (large : 2 ^ 52 ≤ n) : 2 ^ 52 * unit n ≤ n := by
  have log : 52 ≤ Nat.log 2 n := Nat.le_log_of_pow_le (by decide) large
  rw [unit, ← Nat.pow_add, Nat.add_sub_cancel' log]
  exact Nat.pow_log_le_self 2 (by omega)

theorem le_roundNat_mantissa (n : Nat) : n / unit n * unit n ≤ roundNat n := by
  simp only [roundNat]
  split
  · exact Nat.le_refl _
  · exact Nat.mul_le_mul_right _ (Nat.le_succ _)

theorem le_roundNat {mantissa n : Nat} (exponent : Nat) (small : mantissa < 2 ^ 53)
    (below : mantissa * 2 ^ exponent ≤ n) : mantissa * 2 ^ exponent ≤ roundNat n := by
  rcases Nat.lt_or_ge exponent (Nat.log 2 n - 52) with coarse | fine
  · -- `n` has more bits than the double
    have positive : n ≠ 0 := by
      rintro rfl
      rw [Nat.log_zero_right] at coarse
      contradiction
    have large : 2 ^ 52 ≤ n := Nat.pow_le_of_le_log positive (by omega)
    calc mantissa * 2 ^ exponent
      _ ≤ 2 ^ 53 * 2 ^ exponent := Nat.mul_le_mul_right _ small.le
      _ = 2 ^ (53 + exponent) := (Nat.pow_add 2 53 exponent).symm
      _ ≤ 2 ^ (52 + (Nat.log 2 n - 52)) := Nat.pow_le_pow_right (by decide) (by omega)
      _ = 2 ^ 52 * unit n := Nat.pow_add 2 52 _
      _ ≤ n / unit n * unit n := Nat.mul_le_mul_right _ ((Nat.le_div_iff_mul_le (unit_pos n)).mpr (le_mantissa large))
      _ ≤ roundNat n := le_roundNat_mantissa n
  · have whole : unit n ∣ mantissa * 2 ^ exponent :=
      Nat.dvd_trans (Nat.pow_dvd_pow 2 fine) (Nat.dvd_mul_left _ _)
    calc mantissa * 2 ^ exponent
      _ = mantissa * 2 ^ exponent / unit n * unit n := (Nat.div_mul_cancel whole).symm
      _ ≤ n / unit n * unit n := Nat.mul_le_mul_right _ (Nat.div_le_div_right below)
      _ ≤ roundNat n := le_roundNat_mantissa n

theorem roundNat_le (n : Nat) : 2 ^ 53 * roundNat n ≤ (2 ^ 53 + 1) * n := by
  rcases Nat.lt_or_ge n (2 ^ 53) with small | large
  · rw [roundNat_small small]
    omega
  · have half := le_mantissa (n := n) (by omega)
    have parts := Nat.div_add_mod' n (unit n)
    simp only [roundNat]
    split
    · omega
    · rw [Nat.add_mul]
      omega

theorem roundNat_roundNat (n : Nat) : roundNat (roundNat n) = roundNat n := by
  have high := mantissa_lt n
  simp only [roundNat.eq_def n]
  split
  · exact roundNat_mantissa _ (by omega)
  · exact roundNat_mantissa _ (by omega)

def toNumber : Int → Int
  | .ofNat n => roundNat n
  | .negSucc n => -roundNat (n + 1)

theorem toNumber_negSucc (n : Nat) : toNumber (.negSucc n) = -roundNat (n + 1) := rfl

theorem toNumber_neg (n : Nat) : toNumber (-n) = -roundNat n := by
  cases n with
  | zero => rfl
  | succ n => rfl

def nearTen (zeros n : Nat) : Nat :=
  let below := n / 10 ^ zeros
  let rest := n % 10 ^ zeros
  if 2 * rest < 10 ^ zeros ∨ 2 * rest = 10 ^ zeros ∧ below % 2 = 0 then below * 10 ^ zeros
  else (below + 1) * 10 ^ zeros

/-- The numeral of `Number::toString`: as few digits as still denote the double, then zeros. -/
def numeralNat (double : Nat) : Nat :=
  ((List.range 20).reverse.find? fun zeros => roundNat (nearTen zeros double) = double).elim double
    fun zeros => nearTen zeros double

theorem roundNat_numeralNat (n : Nat) : roundNat (numeralNat (roundNat n)) = roundNat n := by
  rw [numeralNat]
  cases found : (List.range 20).reverse.find? fun zeros =>
      roundNat (nearTen zeros (roundNat n)) = roundNat n with
  | none => exact roundNat_roundNat n
  | some zeros =>
      have same := List.find?_some found
      exact of_decide_eq_true same

theorem nearTen_le (zeros n : Nat) : nearTen zeros n ≤ 2 * n := by
  have parts := Nat.div_add_mod' n (10 ^ zeros)
  simp only [nearTen]
  split
  · omega
  · rw [Nat.add_mul]
    omega

theorem numeralNat_small {n : Nat} (small : n < 2 ^ 52) : numeralNat n = n := by
  rw [numeralNat]
  cases found : (List.range 20).reverse.find? fun zeros => roundNat (nearTen zeros n) = n with
  | none => rfl
  | some zeros =>
      have same := List.find?_some found
      have near := nearTen_le zeros n
      rwa [decide_eq_true_iff, roundNat_small (by omega)] at same

/-- The integer that the text of `Number::toString` denotes. -/
def numeral : Int → Int
  | .ofNat n => numeralNat n
  | .negSucc n => -numeralNat (n + 1)

theorem numeral_neg (n : Nat) : numeral (-n) = -numeralNat n := by
  cases n with
  | zero => decide +kernel
  | succ n => rfl

theorem toNumber_numeral (n : Int) : toNumber (numeral (toNumber n)) = toNumber n := by
  cases n with
  | ofNat n => exact congrArg Int.ofNat (roundNat_numeralNat n)
  | negSucc n =>
      rw [toNumber_negSucc, numeral_neg, toNumber_neg, roundNat_numeralNat]

example : toNumber 9007199254740993 = 9007199254740992 ∧
    numeral (toNumber 9223372036854775807) = 9223372036854776000 := by decide +kernel

end ZenPass.Double
