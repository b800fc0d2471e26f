import Mathlib.Data.List.TakeWhile
import Mathlib.Data.Rat.Defs
import ZenPass.Lib.Double

set_option autoImplicit false

namespace ZenPass.NumberText

open Double

def IsDigits (text : List Char) : Prop := text ≠ [] ∧ ∀ c ∈ text, c.isDigit = true

def digitsValue (text : List Char) : Nat := Nat.ofDigitChars 10 text 0

def whiteSpace : List Char :=
  ['\t', '\n', '\x0b', '\x0c', '\r', ' ', '\u00a0', '\u1680', '\u2000', '\u2001', '\u2002',
    '\u2003', '\u2004', '\u2005', '\u2006', '\u2007', '\u2008', '\u2009', '\u200a', '\u2028',
    '\u2029', '\u202f', '\u205f', '\u3000', '\ufeff']

def trimmed (text : List Char) : List Char :=
  ((text.dropWhile whiteSpace.contains).reverse.dropWhile whiteSpace.contains).reverse

/-- The double nearest to a fraction. One bit stands for everything below the 54 that decide. -/
def roundFraction (numerator denominator : Nat) : Rat :=
  let shift := 54 + Nat.log 2 denominator
  let scaled := numerator * 2 ^ shift
  let sticky := if scaled % denominator = 0 then 0 else 1
  (roundNat (2 * (scaled / denominator) + sticky) : Rat) / 2 ^ (shift + 1)

/-- The digits times a power of ten. The range of the exponents is left out: what overflows or
underflows is no number from 1 on that a program asks for. -/
def decimalValue (digits : List Char) : Int → Rat
  | .ofNat exponent => roundNat (digitsValue digits * 10 ^ exponent)
  | .negSucc exponent => roundFraction (digitsValue digits) (10 ^ (exponent + 1))

def exponentDigits (text : List Char) : Option Int :=
  if text ≠ [] ∧ text.all Char.isDigit then some (digitsValue text) else none

def exponentPart : List Char → Option Int
  | [] => some 0
  | mark :: text =>
      if mark = 'e' ∨ mark = 'E' then
        match text with
        | '+' :: digits => exponentDigits digits
        | '-' :: digits => (exponentDigits digits).map fun exponent => -exponent
        | digits => exponentDigits digits
      else none

def unsignedDecimal (text : List Char) : Option Rat :=
  let whole := text.takeWhile Char.isDigit
  match text.dropWhile Char.isDigit with
  | '.' :: rest =>
      let fraction := rest.takeWhile Char.isDigit
      if whole = [] ∧ fraction = [] then none
      else
        (exponentPart (rest.dropWhile Char.isDigit)).map fun exponent =>
          decimalValue (whole ++ fraction) (exponent - fraction.length)
  | rest => if whole = [] then none else (exponentPart rest).map (decimalValue whole)

def radixDigit (radix : Nat) (c : Char) : Option Nat :=
  let value :=
    if c.isDigit then c.toNat - 48
    else if 'a' ≤ c ∧ c ≤ 'f' then c.toNat - 87
    else if 'A' ≤ c ∧ c ≤ 'F' then c.toNat - 55
    else radix
  if value < radix then some value else none

def radixLiteral (radix : Nat) (text : List Char) : Option Rat :=
  if text = [] then none
  else
    (text.mapM (radixDigit radix)).map fun digits =>
      (roundNat (digits.foldl (fun value digit => value * radix + digit) 0) : Rat)

def stringToNumber (text : String) : Option Rat :=
  match trimmed text.toList with
  | [] => some 0
  | '0' :: mark :: rest =>
      if mark = 'x' ∨ mark = 'X' then radixLiteral 16 rest
      else if mark = 'o' ∨ mark = 'O' then radixLiteral 8 rest
      else if mark = 'b' ∨ mark = 'B' then radixLiteral 2 rest
      else unsignedDecimal ('0' :: mark :: rest)
  | '+' :: rest => unsignedDecimal rest
  | '-' :: rest => (unsignedDecimal rest).map fun value => -value
  | rest => unsignedDecimal rest

example : stringToNumber " 5 " = some 5 ∧ stringToNumber "0x10" = some 16 ∧
    stringToNumber "1e2" = some 100 ∧ stringToNumber "5.0" = some 5 ∧ stringToNumber "" = some 0 ∧
    stringToNumber "199.99999999999999999999" = some 200 ∧ stringToNumber "5,6" = none ∧
    stringToNumber "1_0" = none := by
  decide +kernel

theorem exists_of_isDigit {c : Char} (digit : c.isDigit = true) :
    ∃ i : Fin 10, c = Char.ofNat (48 + i.val) := by
  have range : 48 ≤ c.toNat ∧ c.toNat ≤ 57 := by
    simp only [Char.isDigit, Bool.and_eq_true, decide_eq_true_eq, ge_iff_le,
      UInt32.le_iff_toNat_le] at digit
    exact digit
  refine ⟨⟨c.toNat - 48, by omega⟩, ?_⟩
  rw [Nat.add_sub_cancel' range.1]
  exact (Char.ofNat_toNat c).symm

theorem no_radix_of_isDigit {c : Char} (digit : c.isDigit = true) :
    ¬ (c = 'x' ∨ c = 'X') ∧ ¬ (c = 'o' ∨ c = 'O') ∧ ¬ (c = 'b' ∨ c = 'B') := by
  obtain ⟨i, rfl⟩ := exists_of_isDigit digit
  revert i
  decide +kernel

theorem not_whiteSpace_of_isDigit {c : Char} (digit : c.isDigit = true) :
    whiteSpace.contains c = false := by
  obtain ⟨i, rfl⟩ := exists_of_isDigit digit
  have each : ∀ i : Fin 10, whiteSpace.contains (Char.ofNat (48 + i.val)) = false := by
    decide +kernel
  exact each i

theorem trimmed_digits {text : List Char} (digits : ∀ c ∈ text, c.isDigit = true) :
    trimmed text = text := by
  have kept (chars : List Char) (digits : ∀ c ∈ chars, c.isDigit = true) :
      chars.dropWhile whiteSpace.contains = chars := by
    rw [List.dropWhile_eq_self_iff]
    intro inside
    rw [not_whiteSpace_of_isDigit (digits _ (List.getElem_mem inside))]
    decide
  rw [trimmed, kept text digits, kept _ fun c member => digits c (List.mem_reverse.mp member),
    List.reverse_reverse]

theorem decimalValue_zero (digits : List Char) :
    decimalValue digits 0 = roundNat (digitsValue digits) := by
  change ((roundNat (digitsValue digits * 10 ^ 0) : Nat) : Rat) = _
  rw [Nat.pow_zero, Nat.mul_one]

theorem unsignedDecimal_digits {text : List Char} (digits : IsDigits text) :
    unsignedDecimal text = some (roundNat (digitsValue text) : Rat) := by
  have taken : text.takeWhile Char.isDigit = text := List.takeWhile_eq_self_iff.mpr digits.2
  have dropped : text.dropWhile Char.isDigit = [] := List.dropWhile_eq_nil_iff.mpr digits.2
  simp only [unsignedDecimal, taken, dropped, digits.1, if_false, exponentPart, Option.map_some,
    decimalValue_zero]

theorem stringToNumber_digits {text : String} (digits : IsDigits text.toList) :
    stringToNumber text = some (roundNat (digitsValue text.toList) : Rat) := by
  have value := unsignedDecimal_digits digits
  rw [stringToNumber, trimmed_digits digits.2]
  generalize text.toList = chars at digits value
  split
  · exact absurd rfl digits.1
  · rename_i mark rest
    have digit : mark.isDigit = true := digits.2 mark (by simp)
    have plain := no_radix_of_isDigit digit
    rw [if_neg plain.1, if_neg plain.2.1, if_neg plain.2.2]
    exact value
  · exact absurd (digits.2 '+' List.mem_cons_self) (by decide)
  · exact absurd (digits.2 '-' List.mem_cons_self) (by decide)
  · exact value

def inI64 (value : Int) : Option Int :=
  if -9223372036854775808 ≤ value ∧ value ≤ 9223372036854775807 then some value else none

def parseDigits (text : List Char) : Option Nat :=
  if text ≠ [] ∧ text.all Char.isDigit then some (digitsValue text) else none

def parseI64 : List Char → Option Int
  | '+' :: digits => (parseDigits digits).bind fun value => inI64 value
  | '-' :: digits => (parseDigits digits).bind fun value => inI64 (-value)
  | digits => (parseDigits digits).bind fun value => inI64 value

theorem parseI64_digits {text : List Char} (digits : IsDigits text) :
    parseI64 text = inI64 (digitsValue text) := by
  have read : parseDigits text = some (digitsValue text) := by
    rw [parseDigits, if_pos ⟨digits.1, List.all_eq_true.mpr digits.2⟩]
  unfold parseI64
  split
  · exact absurd (digits.2 '+' List.mem_cons_self) (by decide)
  · exact absurd (digits.2 '-' List.mem_cons_self) (by decide)
  · rw [read, Option.bind_some]

end ZenPass.NumberText
