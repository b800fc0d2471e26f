import Mathlib.Data.List.Lex
import Mathlib.Order.Lattice
import Mathlib.Tactic.Common

set_option autoImplicit false

namespace ZenPass.Utf16

def unitsOfChar (c : Char) : List Nat :=
  if c.toNat < 0x10000 then [c.toNat]
  else [0xD800 + (c.toNat - 0x10000) / 0x400, 0xDC00 + (c.toNat - 0x10000) % 0x400]

def codeUnits (value : String) : List Nat := value.toList.flatMap unitsOfChar

theorem toNat_not_surrogate (c : Char) (basic : c.toNat < 0x10000) :
    c.toNat < 0xD800 ∨ 0xE000 ≤ c.toNat := by
  have valid := c.valid
  simp only [UInt32.isValidChar, Nat.isValidChar] at valid
  have same : c.val.toNat = c.toNat := rfl
  omega

theorem toNat_lt (c : Char) : c.toNat < 0x110000 := by
  have valid := c.valid
  simp only [UInt32.isValidChar, Nat.isValidChar] at valid
  have same : c.val.toNat = c.toNat := rfl
  omega

theorem unitsOfChar_append_injective (c d : Char) (rest rest' : List Nat)
    (same : unitsOfChar c ++ rest = unitsOfChar d ++ rest') : c = d ∧ rest = rest' := by
  have boundC := toNat_lt c
  have boundD := toNat_lt d
  unfold unitsOfChar at same
  by_cases basicC : c.toNat < 0x10000 <;> by_cases basicD : d.toNat < 0x10000 <;>
    simp only [basicC, basicD, if_true, if_false, List.cons_append, List.nil_append,
      List.cons.injEq] at same
  · exact ⟨Char.toNat_inj.mp same.1, same.2⟩
  · have notSurrogate := toNat_not_surrogate c basicC
    omega
  · have notSurrogate := toNat_not_surrogate d basicD
    omega
  · have value : c.toNat = d.toNat := by omega
    exact ⟨Char.toNat_inj.mp value, same.2.2⟩

theorem unitsOfChar_ne_nil (c : Char) : unitsOfChar c ≠ [] := by
  unfold unitsOfChar
  split <;> simp

theorem flatMap_unitsOfChar_injective (xs ys : List Char)
    (same : xs.flatMap unitsOfChar = ys.flatMap unitsOfChar) : xs = ys := by
  induction xs generalizing ys with
  | nil =>
      cases ys with
      | nil => rfl
      | cons d ds =>
          rw [List.flatMap_nil, List.flatMap_cons] at same
          exact absurd (List.append_eq_nil_iff.mp same.symm).1 (unitsOfChar_ne_nil d)
  | cons c cs ih =>
      cases ys with
      | nil =>
          rw [List.flatMap_nil, List.flatMap_cons] at same
          exact absurd (List.append_eq_nil_iff.mp same).1 (unitsOfChar_ne_nil c)
      | cons d ds =>
          rw [List.flatMap_cons, List.flatMap_cons] at same
          obtain ⟨rfl, rest⟩ := unitsOfChar_append_injective c d _ _ same
          rw [ih ds rest]

theorem codeUnits_injective : Function.Injective codeUnits := by
  intro a b same
  exact String.ext (flatMap_unitsOfChar_injective a.toList b.toList same)

structure DomString where
  value : String
deriving DecidableEq, Repr

theorem DomString.mk_injective : Function.Injective DomString.mk := fun _ _ => DomString.mk.inj

theorem DomString.codeUnits_injective :
    Function.Injective fun key : DomString => codeUnits key.value := by
  intro a b same
  obtain ⟨value⟩ := a
  obtain ⟨other⟩ := b
  exact congrArg DomString.mk (Utf16.codeUnits_injective same)

instance : LinearOrder DomString := LinearOrder.lift' _ DomString.codeUnits_injective

end ZenPass.Utf16
