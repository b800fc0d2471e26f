import Mathlib.Algebra.Group.Nat.Defs
import Mathlib.Data.List.Basic
import Mathlib.Tactic.Common

set_option autoImplicit false

namespace ZenPass.Calendar

def digits : Nat → Nat → List Char
  | 0, _ => []
  | width + 1, n => digits width (n / 10) ++ [Nat.digitChar (n % 10)]

@[simp] theorem length_digits (width n : Nat) : (digits width n).length = width := by
  induction width generalizing n with
  | zero => rfl
  | succ width ih => simp [digits, ih]

def trimmed : Nat → Nat → List Char
  | 0, _ => []
  | width + 1, n => if n % 10 = 0 then trimmed width (n / 10) else digits (width + 1) n

theorem length_trimmed_le (width n : Nat) : (trimmed width n).length ≤ width := by
  induction width generalizing n with
  | zero => exact Nat.le_refl 0
  | succ width ih =>
      rw [trimmed]
      split
      · exact Nat.le_succ_of_le (ih (n / 10))
      · exact Nat.le_of_eq (length_digits (width + 1) n)

theorem mod_ten_pow_succ (n k : Nat) :
    n % 10 ^ (k + 1) = 0 ↔ n % 10 = 0 ∧ n / 10 % 10 ^ k = 0 := by
  rw [Nat.pow_succ', Nat.mod_mul]
  omega

theorem trimmed_eq_digits_iff (width k n : Nat) :
    trimmed (width + 1 + k) n = digits (width + 1) (n / 10 ^ k) ↔
      n % 10 ^ k = 0 ∧ n / 10 ^ k % 10 ≠ 0 := by
  induction k generalizing n with
  | zero =>
      simp only [Nat.pow_zero, Nat.div_one, Nat.mod_one, true_and, trimmed]
      constructor
      · intro same zero
        rw [if_pos zero] at same
        have short := length_trimmed_le width (n / 10)
        rw [same, length_digits] at short
        omega
      · intro nonzero
        rw [if_neg nonzero]
  | succ k ih =>
      rw [mod_ten_pow_succ, Nat.pow_succ', ← Nat.div_div_eq_div_mul]
      rw [show width + 1 + (k + 1) = (width + 1 + k) + 1 by omega, trimmed]
      by_cases zero : n % 10 = 0
      · rw [if_pos zero, ih]
        simp only [zero, true_and]
      · rw [if_neg zero]
        simp only [zero, false_and, iff_false]
        intro same
        have lengths := congrArg List.length same
        rw [length_digits, length_digits] at lengths
        omega

structure Date where
  year : Int
  month : Nat
  day : Nat
deriving DecidableEq, Repr

/-- The date of a day counted from 1970-01-01. Years begin in March here, so that the leap day is
the last one, and 400 of them have 146097 days. -/
def civil (days : Int) : Date :=
  let shifted := days + 719468
  let era := shifted / 146097
  let dayOfEra := (shifted % 146097).toNat
  let yearOfEra :=
    (dayOfEra - dayOfEra / 1460 + dayOfEra / 36524 - dayOfEra / 146096) / 365
  let dayOfYear := dayOfEra - (365 * yearOfEra + yearOfEra / 4 - yearOfEra / 100)
  let march := (5 * dayOfYear + 2) / 153
  { year := yearOfEra + era * 400 + if march < 10 then 0 else 1
    month := if march < 10 then march + 3 else march - 9
    day := dayOfYear - (153 * march + 2) / 5 + 1 }

example : civil 0 = ⟨1970, 1, 1⟩ ∧ civil 11016 = ⟨2000, 2, 29⟩ ∧ civil (-1) = ⟨1969, 12, 31⟩ := by
  decide

theorem march_lt_ten (dayOfYear : Nat) : (5 * dayOfYear + 2) / 153 < 10 ↔ dayOfYear < 306 := by
  omega

theorem civil_year_iff (days : Int) :
    0 ≤ (civil days).year ∧ (civil days).year ≤ 9999 ↔ -719528 ≤ days ∧ days < 2932897 := by
  simp only [civil, march_lt_ten]
  generalize eraEq : (days + 719468) / 146097 = era
  generalize dayEq : ((days + 719468) % 146097).toNat = dayOfEra
  have day_lt : dayOfEra < 146097 := by omega
  have split : days + 719468 = era * 146097 + dayOfEra := by omega
  generalize yearEq :
    (dayOfEra - dayOfEra / 1460 + dayOfEra / 36524 - dayOfEra / 146096) / 365 = yearOfEra
  have year_le : yearOfEra ≤ 399 := by omega
  have last_year : yearOfEra = 399 ↔ 145731 ≤ dayOfEra := by omega
  by_cases late : 145731 ≤ dayOfEra
  -- in the last year of an era the turn of the year decides
  · have last := last_year.mpr late
    subst last
    split <;> omega
  · split <;> omega

def monthDay (date : Date) : List Char :=
  '-' :: digits 2 date.month ++ '-' :: digits 2 date.day

def clock (second : Nat) : List Char :=
  digits 2 (second / 3600) ++ ':' :: digits 2 (second / 60 % 60) ++ ':' :: digits 2 (second % 60)

def isoYear (year : Int) : List Char :=
  if 0 ≤ year ∧ year ≤ 9999 then digits 4 year.toNat
  else (if year < 0 then '-' else '+') :: digits 6 year.natAbs

/-- ECMAScript's `Date.prototype.toISOString` of a time value in milliseconds since 1970; a time
outside of the range of a `Date` is a `RangeError`. -/
def toISOString (milliseconds : Int) : Option String :=
  let date := civil (milliseconds / 86400000)
  let ofDay := (milliseconds % 86400000).toNat
  if milliseconds.natAbs ≤ 8640000000000000 then
    some (String.ofList (isoYear date.year ++ monthDay date ++ 'T' :: clock (ofDay / 1000) ++
      '.' :: digits 3 (ofDay % 1000) ++ ['Z']))
  else none

def subsecond (nanosecond : Nat) : List Char :=
  if nanosecond = 0 then [] else '.' :: trimmed 9 nanosecond

/-- The `time` crate's `Rfc3339` of a UTC time in microseconds since 1970; years outside of four
digits are an error. -/
def rfc3339 (microseconds : Int) : Option String :=
  let date := civil (microseconds / 86400000000)
  let ofDay := (microseconds % 86400000000).toNat
  if 0 ≤ date.year ∧ date.year ≤ 9999 then
    some (String.ofList (digits 4 date.year.toNat ++ monthDay date ++
      'T' :: clock (ofDay / 1000000) ++ subsecond (ofDay % 1000000 * 1000) ++ ['Z']))
  else none

example : toISOString 1714979289123 = some "2024-05-06T07:08:09.123Z" ∧
    rfc3339 1714979289123456 = some "2024-05-06T07:08:09.123456Z" ∧
    rfc3339 1714979289000000 = some "2024-05-06T07:08:09Z" := by
  decide +kernel

theorem subsecond_eq_iff (micros : Nat) :
    subsecond (micros * 1000) = '.' :: digits 3 (micros / 1000) ↔
      micros % 1000 = 0 ∧ micros % 10000 ≠ 0 := by
  have low : micros * 1000 % 10 ^ 6 = 0 ∧ micros / 1000 % 10 ≠ 0 ↔
      micros % 1000 = 0 ∧ micros % 10000 ≠ 0 := by omega
  rw [subsecond]
  by_cases zero : micros * 1000 = 0
  · rw [if_pos zero]
    have : micros = 0 := by omega
    subst this
    simp
  · rw [if_neg zero, List.cons.injEq]
    have split := trimmed_eq_digits_iff 2 6 (micros * 1000)
    rw [show micros * 1000 / 10 ^ 6 = micros / 1000 by omega] at split
    rw [show (9 : Nat) = 2 + 1 + 6 by rfl, split, low]
    simp only [true_and]

theorem iso_eq_rfc3339_iff (micros : Int) :
    (∃ text, toISOString (micros / 1000) = some text ∧ rfc3339 micros = some text) ↔
      (-62167219200000000 ≤ micros ∧ micros < 253402300800000000) ∧
        micros % 1000 = 0 ∧ micros % 10000 ≠ 0 := by
  have sameDay : micros / 1000 / 86400000 = micros / 86400000000 := by omega
  have sameTime : (micros / 1000 % 86400000).toNat = (micros % 86400000000).toNat / 1000 := by omega
  have years := civil_year_iff (micros / 86400000000)
  simp only [toISOString, rfc3339, sameDay, sameTime]
  generalize civil (micros / 86400000000) = date at years
  by_cases range : 0 ≤ date.year ∧ date.year ≤ 9999
  · obtain ⟨above, below⟩ := years.mp range
    have inDate : (micros / 1000).natAbs ≤ 8640000000000000 := by omega
    have fraction := subsecond_eq_iff ((micros % 86400000000).toNat % 1000000)
    generalize ofDayEq : (micros % 86400000000).toNat = ofDay at fraction
    have second : ofDay / 1000 / 1000 = ofDay / 1000000 := by omega
    have millisecond : ofDay / 1000 % 1000 = ofDay % 1000000 / 1000 := by omega
    have span : -62167219200000000 ≤ micros ∧ micros < 253402300800000000 := by omega
    have low : ofDay % 1000000 % 1000 = 0 ∧ ofDay % 1000000 % 10000 ≠ 0 ↔
        micros % 1000 = 0 ∧ micros % 10000 ≠ 0 := by omega
    rw [if_pos inDate, if_pos range, isoYear, if_pos range, second, millisecond]
    simp only [span, true_and, ← low, ← fraction, exists_eq_left', Option.some.injEq]
    rw [String.ofList_inj]
    simp only [List.append_assoc, List.cons_append, List.append_cancel_left_eq, List.cons.injEq,
      true_and]
    rw [← List.cons_append, List.append_cancel_right_eq]
  · have outside : ¬ (-62167219200000000 ≤ micros ∧ micros < 253402300800000000) := by omega
    rw [if_neg range]
    simp only [outside, false_and, reduceCtorEq, and_false, exists_false]

end ZenPass.Calendar
