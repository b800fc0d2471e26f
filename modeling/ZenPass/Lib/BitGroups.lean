import Mathlib.Data.List.Basic
import Mathlib.Data.Nat.Bits
import Mathlib.Algebra.Order.Ring.Nat
import Mathlib.Tactic.Ring

set_option autoImplicit false

namespace ZenPass.BitGroups

def toBits : Nat → Nat → List Bool
  | 0, _ => []
  | width + 1, n => n.testBit width :: toBits width n

def fromBits (bits : List Bool) : Nat := bits.foldl (fun n bit => 2 * n + bit.toNat) 0

def groups (size : Nat) (bits : List Bool) : List (List Bool) :=
  (List.range (bits.length / size)).map fun i => (bits.drop (i * size)).take size

def regroup (width size : Nat) (values : List Nat) : List Nat :=
  (groups size (values.flatMap (toBits width))).map fromBits

theorem length_toBits (width n : Nat) : (toBits width n).length = width := by
  induction width with
  | zero => rfl
  | succ width ih => rw [toBits, List.length_cons, ih]

theorem foldl_fromBits (bits : List Bool) (n : Nat) :
    bits.foldl (fun n bit => 2 * n + bit.toNat) n = n * 2 ^ bits.length + fromBits bits := by
  induction bits generalizing n with
  | nil => simp [fromBits]
  | cons bit bits ih =>
    have whole : fromBits (bit :: bits) = (2 * 0 + bit.toNat) * 2 ^ bits.length + fromBits bits := ih _
    rw [List.foldl_cons, ih, whole, List.length_cons, Nat.pow_succ]
    ring

theorem fromBits_append (first second : List Bool) :
    fromBits (first ++ second) = fromBits first * 2 ^ second.length + fromBits second :=
  calc fromBits (first ++ second)
    _ = second.foldl (fun n bit => 2 * n + bit.toNat) (fromBits first) := List.foldl_append
    _ = fromBits first * 2 ^ second.length + fromBits second := foldl_fromBits second _

theorem fromBits_cons (bit : Bool) (bits : List Bool) :
    fromBits (bit :: bits) = bit.toNat * 2 ^ bits.length + fromBits bits := by
  have one : fromBits [bit] = bit.toNat := by simp [fromBits]
  rw [← List.singleton_append, fromBits_append, one]

theorem fromBits_lt (bits : List Bool) : fromBits bits < 2 ^ bits.length := by
  induction bits with
  | nil => decide
  | cons bit bits ih =>
    rw [fromBits_cons, List.length_cons, Nat.pow_succ]
    cases bit <;> simp <;> omega

theorem fromBits_toBits (width n : Nat) : fromBits (toBits width n) = n % 2 ^ width := by
  induction width with
  | zero => simp [toBits, fromBits, Nat.mod_one]
  | succ width ih =>
    rw [toBits, fromBits_cons, ih, length_toBits, Nat.testBit_eq_decide_div_mod_eq, Nat.pow_succ,
      Nat.mod_mul]
    have bit := Nat.mod_two_eq_zero_or_one (n / 2 ^ width)
    obtain zero | one := bit
    · simp [zero]
    · simp [one, Nat.add_comm]

theorem fromBits_take (bits : List Bool) (i : Nat) :
    fromBits (bits.take i) = fromBits bits / 2 ^ (bits.length - i) := by
  have split := fromBits_append (bits.take i) (bits.drop i)
  have small := fromBits_lt (bits.drop i)
  rw [List.take_append_drop] at split
  rw [List.length_drop] at split small
  rw [split, Nat.add_comm, Nat.add_mul_div_right _ _ (Nat.two_pow_pos _), Nat.div_eq_of_lt small, Nat.zero_add]

theorem fromBits_drop (bits : List Bool) (i : Nat) :
    fromBits (bits.drop i) = fromBits bits % 2 ^ (bits.length - i) := by
  have split := fromBits_append (bits.take i) (bits.drop i)
  have small := fromBits_lt (bits.drop i)
  rw [List.take_append_drop] at split
  rw [List.length_drop] at split small
  rw [split, Nat.add_comm, Nat.add_mul_mod_self_right, Nat.mod_eq_of_lt small]

theorem fromBits_slice (bits : List Bool) {i size rest : Nat} (length : bits.length = i + size + rest) :
    fromBits ((bits.drop i).take size) = fromBits bits / 2 ^ rest % 2 ^ size := by
  have behind : bits.length - i = rest + size := by omega
  rw [fromBits_take, fromBits_drop, List.length_drop, behind, Nat.add_sub_cancel, Nat.pow_add,
    Nat.mod_mul_right_div_self]

theorem low_bits {n shift size width : Nat} (within : shift + size ≤ width) :
    n % 2 ^ width / 2 ^ shift % 2 ^ size = n / 2 ^ shift % 2 ^ size := by
  obtain ⟨rest, rfl⟩ := Nat.exists_eq_add_of_le within
  rw [Nat.add_assoc, Nat.pow_add, Nat.mod_mul_right_div_self]
  exact Nat.mod_mod_of_dvd _ (Nat.pow_dvd_pow 2 (Nat.le_add_right _ _))

theorem group_append {size i : Nat} {bits more : List Bool} (within : (i + 1) * size ≤ bits.length) :
    ((bits ++ more).drop (i * size)).take size = (bits.drop (i * size)).take size := by
  rw [Nat.add_mul, Nat.one_mul] at within
  have start : i * size ≤ bits.length := by omega
  have enough : size ≤ (bits.drop (i * size)).length := by
    rw [List.length_drop]
    omega
  rw [List.drop_append_of_le_length start, List.take_append_of_le_length enough]

theorem groups_append_same {size : Nat} {bits more : List Bool}
    (same : (bits ++ more).length / size = bits.length / size) : groups size (bits ++ more) = groups size bits := by
  rw [groups, groups, same]
  apply List.map_congr_left
  intro i mem
  apply group_append
  calc (i + 1) * size
    _ ≤ bits.length / size * size := Nat.mul_le_mul_right _ (List.mem_range.mp mem)
    _ ≤ bits.length := Nat.div_mul_le_self _ _

theorem groups_append_next {size : Nat} {bits more : List Bool}
    (next : (bits ++ more).length / size = bits.length / size + 1) :
    groups size (bits ++ more) =
      groups size bits ++ [((bits ++ more).drop (bits.length / size * size)).take size] := by
  rw [groups, groups, next, List.range_succ, List.map_append, List.map_singleton]
  congr 1
  apply List.map_congr_left
  intro i mem
  apply group_append
  calc (i + 1) * size
    _ ≤ bits.length / size * size := Nat.mul_le_mul_right _ (List.mem_range.mp mem)
    _ ≤ bits.length := Nat.div_mul_le_self _ _

end ZenPass.BitGroups
