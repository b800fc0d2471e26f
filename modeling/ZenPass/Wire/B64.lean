import Mathlib.Data.List.Basic
import Mathlib.Data.Fintype.Basic
import Mathlib.Tactic.Common

set_option autoImplicit false

namespace ZenPass.Wire

abbrev Bytes := List UInt8

def alphabet : List Char :=
  "ABCDEFGHIJKLMNOPQRSTUVWXYZabcdefghijklmnopqrstuvwxyz0123456789+/".toList

def sextetChar (sextet : Nat) : Char := alphabet.getD sextet 'A'

def charSextet (c : Char) : Option Nat := alphabet.idxOf? c

theorem charSextet_sextetChar (sextet : Nat) (bound : sextet < 64) :
    charSextet (sextetChar sextet) = some sextet := by
  have each : ∀ i : Fin 64, charSextet (sextetChar i) = some i.val := by decide +kernel
  exact each ⟨sextet, bound⟩

theorem sextetChar_ne_pad (sextet : Nat) (bound : sextet < 64) : sextetChar sextet ≠ '=' := by
  have each : ∀ i : Fin 64, sextetChar i ≠ '=' := by decide +kernel
  exact each ⟨sextet, bound⟩

def encodeBase64 : Bytes → List Char
  | [] => []
  | [a] => [sextetChar (a.toNat / 4), sextetChar (a.toNat % 4 * 16), '=', '=']
  | [a, b] =>
      [sextetChar (a.toNat / 4), sextetChar (a.toNat % 4 * 16 + b.toNat / 16),
        sextetChar (b.toNat % 16 * 4), '=']
  | a :: b :: c :: rest =>
      sextetChar (a.toNat / 4) :: sextetChar (a.toNat % 4 * 16 + b.toNat / 16) ::
        sextetChar (b.toNat % 16 * 4 + c.toNat / 64) :: sextetChar (c.toNat % 64) ::
        encodeBase64 rest

/-- Decodes groups of four. A lenient decoder drops the unused bits of a padded last group, a
strict one refuses them unless they are zero. -/
def decodeBase64 (strict : Bool) : List Char → Option Bytes
  | [] => some []
  | [w, x, '=', '='] => do
      let w ← charSextet w
      let x ← charSextet x
      if strict && x % 16 ≠ 0 then none else some [UInt8.ofNat (w * 4 + x / 16)]
  | [w, x, y, '='] => do
      let w ← charSextet w
      let x ← charSextet x
      let y ← charSextet y
      if strict && y % 4 ≠ 0 then none
        else some [UInt8.ofNat (w * 4 + x / 16), UInt8.ofNat (x % 16 * 16 + y / 4)]
  | w :: x :: y :: z :: rest => do
      let w ← charSextet w
      let x ← charSextet x
      let y ← charSextet y
      let z ← charSextet z
      let later ← decodeBase64 strict rest
      some (UInt8.ofNat (w * 4 + x / 16) :: UInt8.ofNat (x % 16 * 16 + y / 4) ::
        UInt8.ofNat (y % 4 * 64 + z) :: later)
  | _ => none

theorem ofNat_toNat (byte : UInt8) (n : Nat) (same : n = byte.toNat) : UInt8.ofNat n = byte := by
  subst same
  exact UInt8.ofNat_toNat

theorem decodeBase64_encodeBase64 (strict : Bool) (bytes : Bytes) :
    decodeBase64 strict (encodeBase64 bytes) = some bytes := by
  fun_induction encodeBase64 bytes with
  | case1 => rfl
  | case2 a =>
      have ha := a.toNat_lt
      simp only [decodeBase64, charSextet_sextetChar (a.toNat / 4) (by omega),
        charSextet_sextetChar (a.toNat % 4 * 16) (by omega), Option.bind_eq_bind, Option.bind_some]
      have trailing : a.toNat % 4 * 16 % 16 = 0 := by omega
      simp only [trailing, ne_eq, not_true_eq_false, decide_false, Bool.and_false,
        Bool.false_eq_true, if_false]
      rw [ofNat_toNat a _ (by omega)]
  | case3 a b =>
      have ha := a.toNat_lt
      have hb := b.toNat_lt
      have unpadded := sextetChar_ne_pad (b.toNat % 16 * 4) (by omega)
      rw [decodeBase64.eq_3 _ _ _ _ (by simpa using unpadded)]
      simp only [charSextet_sextetChar (a.toNat / 4) (by omega),
        charSextet_sextetChar (a.toNat % 4 * 16 + b.toNat / 16) (by omega),
        charSextet_sextetChar (b.toNat % 16 * 4) (by omega), Option.bind_eq_bind, Option.bind_some]
      have trailing : b.toNat % 16 * 4 % 4 = 0 := by omega
      simp only [trailing, ne_eq, not_true_eq_false, decide_false, Bool.and_false,
        Bool.false_eq_true, if_false]
      rw [ofNat_toNat a _ (by omega), ofNat_toNat b _ (by omega)]
  | case4 a b c rest ih =>
      have ha := a.toNat_lt
      have hb := b.toNat_lt
      have hc := c.toNat_lt
      have unpadded := sextetChar_ne_pad (c.toNat % 64) (by omega)
      rw [decodeBase64.eq_4 _ _ _ _ _ _ (by intros; simp_all) (by intros; simp_all)]
      simp only [charSextet_sextetChar (a.toNat / 4) (by omega),
        charSextet_sextetChar (a.toNat % 4 * 16 + b.toNat / 16) (by omega),
        charSextet_sextetChar (b.toNat % 16 * 4 + c.toNat / 64) (by omega),
        charSextet_sextetChar (c.toNat % 64) (by omega), ih, Option.bind_eq_bind, Option.bind_some]
      rw [ofNat_toNat a _ (by omega), ofNat_toNat b _ (by omega), ofNat_toNat c _ (by omega)]

theorem toNat_ofNat {n : Nat} (bound : n < 256) : (UInt8.ofNat n).toNat = n :=
  UInt8.toNat_ofNat_of_lt' bound

theorem getD_of_idxOf? {letters : List Char} {c : Char} {sextet : Nat}
    (found : letters.idxOf? c = some sextet) (other : Char) :
    sextet < letters.length ∧ letters.getD sextet other = c := by
  obtain ⟨inside, same, -⟩ := List.findIdx?_eq_some_iff_getElem.mp found
  refine ⟨inside, ?_⟩
  rw [List.getD_eq_getElem?_getD, List.getElem?_eq_getElem inside, Option.getD_some]
  exact beq_iff_eq.mp same

theorem mapM_letters {known : Char → Option Nat} {letter : Nat → Char}
    (read : ∀ c sextet, known c = some sextet ↔ sextet < 64 ∧ letter sextet = c)
    {chars : List Char} {sextets : List Nat} :
    chars.mapM known = some sextets ↔
      (∀ sextet ∈ sextets, sextet < 64) ∧ chars = sextets.map letter := by
  induction chars generalizing sextets with
  | nil => cases sextets <;> simp
  | cons c rest ih =>
      simp only [List.mapM_cons, Option.bind_eq_bind, Option.bind_eq_some_iff, Option.pure_def,
        Option.some.injEq, read, ih]
      constructor
      · rintro ⟨sextet, ⟨bound, rfl⟩, others, ⟨bounds, rfl⟩, rfl⟩
        exact ⟨by simpa using ⟨bound, bounds⟩, rfl⟩
      · rintro ⟨bounds, same⟩
        cases sextets with
        | nil => cases same
        | cons sextet others =>
            simp only [List.mem_cons, forall_eq_or_imp] at bounds
            obtain ⟨rfl, rfl⟩ := List.cons.inj same
            exact ⟨sextet, ⟨bounds.1, rfl⟩, others, ⟨bounds.2, rfl⟩, rfl⟩

theorem charSextet_eq_some {c : Char} {sextet : Nat} :
    charSextet c = some sextet ↔ sextet < 64 ∧ sextetChar sextet = c := by
  constructor
  · intro known
    exact getD_of_idxOf? known 'A'
  · rintro ⟨bound, rfl⟩
    exact charSextet_sextetChar sextet bound

def encodeB64 (bytes : Bytes) : String := "b64:" ++ String.ofList (encodeBase64 bytes)

/-- `decodeB64` of the Node backend (`Buffer.from` is lenient) and `decode_b64` of the Rust one
(the standard engine is strict). The alphabet, padding and length checks are those of the groups. -/
def decodeB64 (strict : Bool) (value : String) : Option Bytes :=
  match value.toList with
  | 'b' :: '6' :: '4' :: ':' :: body => decodeBase64 strict body
  | _ => none

theorem decodeB64_encodeB64 (strict : Bool) (bytes : Bytes) :
    decodeB64 strict (encodeB64 bytes) = some bytes := by
  have chars : (encodeB64 bytes).toList = 'b' :: '6' :: '4' :: ':' :: encodeBase64 bytes := by
    simp [encodeB64]
  simp only [decodeB64, chars, decodeBase64_encodeBase64]

example : encodeB64 [104, 105] = "b64:aGk=" := by decide

end ZenPass.Wire
