import Mathlib.Algebra.Order.Floor.Ring
import Mathlib.Data.Nat.Prime.Basic
import Mathlib.Data.Rat.Floor
import Mathlib.Data.Rat.Lemmas
import Mathlib.Tactic.FieldSimp
import Mathlib.Tactic.Positivity
import ZenPass.Lib.NumberText

set_option autoImplicit false

namespace ZenPass.Double

open NumberText (roundFraction)

def nearest (value : Rat) : Rat :=
  if value < 0 then -roundFraction value.num.natAbs value.den else roundFraction value.num.natAbs value.den

def divide (x y : Rat) : Rat := nearest (x / y)

theorem roundFraction_two_pow {n : Nat} (small : n < 2 ^ 53) (k : Nat) :
    roundFraction n (2 ^ k) = n / 2 ^ k := by
  have log : Nat.log 2 (2 ^ k) = k := Nat.log_pow (by decide) k
  have shifted : n * 2 ^ (54 + k) = n * 2 ^ 54 * 2 ^ k := by rw [Nat.pow_add, Nat.mul_assoc]
  have power : 0 < 2 ^ k := Nat.pow_pos (by decide)
  have whole : 2 * (n * 2 ^ 54) + 0 = n * 2 ^ 55 := by omega
  simp only [roundFraction, log, shifted, Nat.mul_mod_left, if_true, Nat.mul_div_cancel _ power, whole,
    roundNat_scaled 55 small]
  rw [Nat.cast_mul, Nat.cast_pow, Nat.cast_ofNat, show 54 + k + 1 = k + 55 by omega, pow_add]
  exact mul_div_mul_right _ _ (by positivity)

theorem nearest_of_nonneg {value : Rat} (positive : 0 ≤ value) :
    nearest value = roundFraction value.num.natAbs value.den := if_neg (not_lt.mpr positive)

theorem natAbs_num_div_den {value : Rat} (positive : 0 ≤ value) : (value.num.natAbs : Rat) / value.den = value := by
  have numerator : ((value.num.natAbs : Int) : Rat) = value.num :=
    congrArg _ (Int.natAbs_of_nonneg (Rat.num_nonneg.mpr positive))
  rw [← Int.cast_natCast value.num.natAbs, numerator]
  exact Rat.num_div_den value

theorem nearest_two_pow {n : Nat} (small : n < 2 ^ 53) (k : Nat) : nearest (n / 2 ^ k) = n / 2 ^ k := by
  have fraction : (n : Rat) / 2 ^ k = Rat.divInt n (2 ^ k : Nat) := by
    rw [Rat.divInt_eq_div]
    push_cast
    rfl
  have positive : (0 : Rat) ≤ n / 2 ^ k := by positivity
  have den : ((n : Rat) / 2 ^ k).den ∣ 2 ^ k := by
    rw [fraction]
    exact Int.natCast_dvd_natCast.mp (Rat.den_dvd n (2 ^ k : Nat))
  have num : ((n : Rat) / 2 ^ k).num.natAbs ≤ n := by
    rcases Nat.eq_zero_or_pos n with rfl | some'
    · simp
    · rw [fraction]
      have divides := Rat.num_dvd n (b := (2 ^ k : Nat)) (by positivity)
      exact Nat.le_of_dvd some' (Int.natAbs_dvd_natAbs.mpr divides)
  -- the reduced fraction is one over a power of two as well
  obtain ⟨i, -, den⟩ := (Nat.dvd_prime_pow Nat.prime_two).mp den
  have reduced := natAbs_num_div_den positive
  rw [den, Nat.cast_pow, Nat.cast_ofNat] at reduced
  rw [nearest_of_nonneg positive, den, roundFraction_two_pow (by omega), reduced]

theorem le_roundFraction {mantissa numerator denominator : Nat} (small : mantissa < 2 ^ 53)
    (positive : 0 < denominator) (below : mantissa * denominator ≤ numerator) :
    (mantissa : Rat) ≤ roundFraction numerator denominator := by
  have scaled (shift : Nat) : mantissa * 2 ^ shift ≤ numerator * 2 ^ shift / denominator := by
    rw [Nat.le_div_iff_mul_le positive, Nat.mul_right_comm]
    exact Nat.mul_le_mul_right _ below
  simp only [roundFraction]
  generalize 54 + Nat.log 2 denominator = shift
  rw [le_div_iff₀ (by positivity)]
  have least := scaled shift
  have rounded := le_roundNat (n := 2 * (numerator * 2 ^ shift / denominator) +
    if numerator * 2 ^ shift % denominator = 0 then 0 else 1) (shift + 1) small (by rw [Nat.pow_succ, ← Nat.mul_assoc]; omega)
  exact_mod_cast rounded

theorem roundFraction_le {numerator denominator : Nat} (positive : 0 < denominator) :
    roundFraction numerator denominator ≤ numerator / denominator * (1 + 1 / 2 ^ 52) := by
  have bits : 2 ^ 54 * denominator ≤ 2 ^ (54 + Nat.log 2 denominator + 1) :=
    calc 2 ^ 54 * denominator
      _ ≤ 2 ^ 54 * 2 ^ (Nat.log 2 denominator + 1) :=
        Nat.mul_le_mul_left _ (Nat.lt_pow_succ_log_self (by decide) denominator).le
      _ = 2 ^ (54 + Nat.log 2 denominator + 1) := (Nat.pow_add 2 54 _).symm
  have value : (numerator : Rat) / denominator * (1 + 1 / 2 ^ 52) =
      ((2 ^ 52 + 1) * numerator : Nat) / (2 ^ 52 * denominator : Nat) := by
    push_cast
    field_simp
    ring
  simp only [roundFraction]
  generalize 54 + Nat.log 2 denominator = shift at bits ⊢
  generalize whole : 2 * (numerator * 2 ^ shift / denominator) +
    (if numerator * 2 ^ shift % denominator = 0 then 0 else 1) = scaled
  have upper : scaled * denominator ≤ numerator * 2 ^ (shift + 1) + denominator := by
    have below := Nat.div_mul_le_self (numerator * 2 ^ shift) denominator
    have one : scaled ≤ 2 * (numerator * 2 ^ shift / denominator) + 1 := by
      rw [← whole]
      split <;> omega
    have grown := Nat.mul_le_mul_right denominator one
    rw [Nat.add_mul, Nat.mul_assoc, Nat.one_mul] at grown
    rw [Nat.pow_succ, ← Nat.mul_assoc]
    omega
  have rounded := Nat.mul_le_mul_right denominator (roundNat_le scaled)
  rw [Nat.mul_assoc, Nat.mul_assoc] at rounded
  have key : roundNat scaled * denominator * 2 ^ 52 ≤ (2 ^ 52 + 1) * (numerator * 2 ^ (shift + 1)) := by
    rcases Nat.eq_zero_or_pos numerator with rfl | some'
    · have nothing : scaled = 0 := by simpa using whole.symm
      rw [nothing, roundNat_small (by decide)]
      omega
    · have enough := Nat.le_trans bits (Nat.le_mul_of_pos_left _ some')
      omega
  rw [value, div_le_div_iff₀ (by positivity) (by positivity)]
  have cross : roundNat scaled * (2 ^ 52 * denominator) ≤ (2 ^ 52 + 1) * numerator * 2 ^ (shift + 1) := by
    rw [Nat.mul_assoc (2 ^ 52 + 1), Nat.mul_left_comm]
    omega
  exact_mod_cast cross

theorem le_nearest {mantissa : Nat} {value : Rat} (small : mantissa < 2 ^ 53) (below : (mantissa : Rat) ≤ value) :
    (mantissa : Rat) ≤ nearest value := by
  have positive : 0 ≤ value := le_trans (by positivity) below
  rw [← natAbs_num_div_den positive, le_div_iff₀ (by positivity)] at below
  rw [nearest_of_nonneg positive]
  exact le_roundFraction small value.den_pos (by exact_mod_cast below)

theorem nearest_le {value : Rat} (positive : 0 ≤ value) : nearest value ≤ value * (1 + 1 / 2 ^ 52) := by
  have fraction := natAbs_num_div_den positive
  rw [nearest_of_nonneg positive]
  calc roundFraction value.num.natAbs value.den
    _ ≤ value.num.natAbs / value.den * (1 + 1 / 2 ^ 52) := roundFraction_le value.den_pos
    _ = value * (1 + 1 / 2 ^ 52) := by rw [fraction]

theorem floor_divide_divide {n d e : Nat} (small : n < 2 ^ 50) (divides : 0 < d) (divides' : 0 < e) :
    ⌊divide (divide n d) e⌋ = (n / (d * e) : Nat) := by
  generalize quotient : n / (d * e) = k
  have product : 0 < d * e := Nat.mul_pos divides divides'
  have below : k * e * d ≤ n := by
    rw [← quotient, Nat.mul_assoc, Nat.mul_comm e d]
    exact Nat.div_mul_le_self n (d * e)
  have above : n + 1 ≤ (k + 1) * (d * e) := by
    rw [← quotient]
    exact (Nat.div_lt_iff_lt_mul product).mp (Nat.lt_succ_self _)
  have steps : k ≤ k * e ∧ k * e ≤ k * e * d :=
    ⟨Nat.le_mul_of_pos_right k divides', Nat.le_mul_of_pos_right (k * e) divides⟩
  have first : ((k * e : Nat) : Rat) ≤ divide n d := by
    apply le_nearest (by omega)
    rw [le_div_iff₀ (by positivity)]
    exact_mod_cast below
  rw [Int.floor_eq_iff]
  constructor
  · have second : (k : Rat) ≤ divide (divide n d) e := by
      apply le_nearest (by omega)
      rw [le_div_iff₀ (by positivity)]
      exact_mod_cast first
    exact_mod_cast second
  · have positive : 0 ≤ divide n d := le_trans (by positivity) first
    have growth : (n : Rat) * ((1 + 1 / 2 ^ 52) * (1 + 1 / 2 ^ 52)) < n + 1 := by
      have bound : (n : Rat) < 2 ^ 50 := by exact_mod_cast small
      linarith
    calc divide (divide n d) e
      _ ≤ divide n d / e * (1 + 1 / 2 ^ 52) := nearest_le (by positivity)
      _ ≤ n / d * (1 + 1 / 2 ^ 52) / e * (1 + 1 / 2 ^ 52) := by
        gcongr
        exact nearest_le (by positivity)
      _ = n * ((1 + 1 / 2 ^ 52) * (1 + 1 / 2 ^ 52)) / (d * e : Nat) := by
        push_cast
        field_simp
      _ < (n + 1 : Nat) / (d * e : Nat) := by
        gcongr
        exact_mod_cast growth
      _ ≤ ((k : Int) : Rat) + 1 := by
        rw [div_le_iff₀ (by positivity)]
        exact_mod_cast above

end ZenPass.Double
