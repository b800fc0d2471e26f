import ZenPass.Client.Base32
import ZenPass.Lib.Calendar
import ZenPass.Lib.Cbor
import ZenPass.Lib.Quotient

set_option autoImplicit false

namespace ZenPass.Client.Totp

open Cbor (bigEndian ofBigEndian)
open Double (divide numeral toNumber)
open JsonText (Units)

section Loop

variable {State : Type} (byte : State → UInt8) (next : State → State)

def fillDown : Nat → State → List UInt8 → List UInt8
  | 0, _, bytes => bytes
  | i + 1, remaining, bytes => fillDown i (next remaining) (bytes.set i (byte remaining))

end Loop

def element (bytes : List UInt8) (index : Int) : Option UInt8 :=
  match index with
  | .ofNat i => bytes[i]?
  | .negSucc _ => none

-- One expression in all three.
def assembled (first second third fourth : BitVec 32) : BitVec 32 :=
  ((first &&& 0x7F) <<< 24) ||| ((second &&& 0xFF) <<< 16) ||| ((third &&& 0xFF) <<< 8) ||| (fourth &&& 0xFF)

def decimal : Int → List Char
  | .ofNat n => Nat.toDigits 10 n
  | .negSucc n => '-' :: Nat.toDigits 10 (n + 1)

def padStart (length : Nat) (text : List Char) : List Char := text.leftpad length '0'

inductive TotpAlgorithm where
  | sha1 | sha256 | sha512
  deriving DecidableEq

-- `SUBTLE_ALGORITHM`
def TotpAlgorithm.subtleAlgorithm : TotpAlgorithm → String
  | .sha1 => "SHA-1"
  | .sha256 => "SHA-256"
  | .sha512 => "SHA-512"

def TotpAlgorithm.macAlgorithm : TotpAlgorithm → String
  | .sha1 => "HmacSHA1"
  | .sha256 => "HmacSHA256"
  | .sha512 => "HmacSHA512"

structure TotpOptions where
  algorithm : TotpAlgorithm := .sha1
  digits : Nat := 6
  periodSeconds : Nat := 30
  period_pos : 0 < periodSeconds := by decide

inductive Failure where
  | invalidSecret | emptySecret | indexOutOfBounds | divisionByZero
  deriving DecidableEq

-- JavaScript: one text in two packages
-- `%` is exact and the array takes an integer modulo 256; the division is rounded before `Math.floor`.
def counterBytesJs (counter : Int) : List UInt8 :=
  fillDown (fun remaining => UInt8.ofNat (remaining.tmod 256 % 256).toNat) (fun remaining => ⌊divide remaining 256⌋) 8
    counter (List.replicate 8 0)

/-- An element as the operand of `&`, which takes `undefined` for 0. The state has the indices that have
been read. -/
def read (bytes : List UInt8) (index : Int) : StateM (List Int) (BitVec 32) := do
  modify fun indices => indices ++ [index]
  return ((element bytes index).elim 0 fun byte => byte.toBitVec.setWidth 32)

-- `10 ** digits` is a double, the result of `|` an `int32`
def dynamicTruncateJs (hmacResult : List UInt8) (digits : Nat) : StateM (List Int) (List Char) := do
  let last ← read hmacResult (hmacResult.length - 1)
  let offset := (last &&& 0x0F).toInt
  let first ← read hmacResult offset
  let second ← read hmacResult (offset + 1)
  let third ← read hmacResult (offset + 2)
  let fourth ← read hmacResult (offset + 3)
  let binary := assembled first second third fourth
  let code := binary.toInt.tmod (toNumber (10 ^ digits))
  return padStart digits (decimal (numeral code))

def computeTotpJs (upperOf : Nat → Units) (sign : String → List UInt8 → List UInt8 → List UInt8)
    (secretBase32 : Units) (options : TotpOptions) (atEpochMs : Int) : Except Failure (List Char) :=
  match Base32.base32DecodeJs upperOf secretBase32 with
  | none => .error .invalidSecret
  | some secret =>
    if secret.length = 0 then .error .emptySecret
    else
      let counter := ⌊divide (divide atEpochMs 1000) options.periodSeconds⌋
      let digest := sign options.algorithm.subtleAlgorithm secret (counterBytesJs counter)
      .ok ((dynamicTruncateJs digest options.digits).run []).1

def Web.counterBytes (counter : Int) : List UInt8 := counterBytesJs counter
def Web.dynamicTruncate (hmacResult : List UInt8) (digits : Nat) : StateM (List Int) (List Char) :=
  dynamicTruncateJs hmacResult digits
def Web.computeTotp (upperOf : Nat → Units) (sign : String → List UInt8 → List UInt8 → List UInt8)
    (secretBase32 : Units) (options : TotpOptions) (atEpochMs : Int) : Except Failure (List Char) :=
  computeTotpJs upperOf sign secretBase32 options atEpochMs

def Extension.counterBytes (counter : Int) : List UInt8 := counterBytesJs counter
def Extension.dynamicTruncate (hmacResult : List UInt8) (digits : Nat) : StateM (List Int) (List Char) :=
  dynamicTruncateJs hmacResult digits
def Extension.computeTotp (upperOf : Nat → Units) (sign : String → List UInt8 → List UInt8 → List UInt8)
    (secretBase32 : Units) (options : TotpOptions) (atEpochMs : Int) : Except Failure (List Char) :=
  computeTotpJs upperOf sign secretBase32 options atEpochMs

-- Kotlin: a `Long` of 64 bits, and `Int`s of 32 bits that go around
namespace Android

def counterBytes (counter : BitVec 64) : List UInt8 :=
  fillDown (fun remaining : BitVec 64 => UInt8.ofBitVec ((remaining &&& 0xFF).setWidth 8))
    (fun remaining => remaining >>> 8) 8 counter (List.replicate 8 0)

-- `bytes[index].toInt()`: a byte has a sign.
def read (bytes : List UInt8) (index : Int) : Except Failure (BitVec 32) :=
  match element bytes index with
  | none => .error .indexOutOfBounds
  | some byte => .ok (byte.toBitVec.signExtend 32)

def dynamicTruncate (hmacResult : List UInt8) (digits : Nat) : Except Failure (List Char) := do
  let last ← read hmacResult (hmacResult.length - 1)
  let offset := (last &&& 0x0F).toInt
  let first ← read hmacResult offset
  let second ← read hmacResult (offset + 1)
  let third ← read hmacResult (offset + 2)
  let fourth ← read hmacResult (offset + 3)
  let binary := assembled first second third fourth
  let mod := Nat.iterate (fun mod : BitVec 32 => mod * 10) digits 1
  if mod = 0 then throw .divisionByZero
  let code := binary.srem mod
  return padStart digits (decimal code.toInt)

/-- `mac` is `javax.crypto.Mac`, which may refuse a key. -/
def computeTotp (upperOf : Nat → Units) (regexSpace : UInt16 → Bool)
    (mac : String → List UInt8 → List UInt8 → Option (List UInt8)) (secretBase32 : Units)
    (options : TotpOptions) (atEpochMs : Int) : Except Failure (List Char) :=
  match Base32.Android.base32Decode upperOf regexSpace secretBase32 with
  | none => .error .invalidSecret
  | some secret =>
    if secret.isEmpty then .error .emptySecret
    else
      let counter := (atEpochMs.tdiv 1000).fdiv options.periodSeconds
      match mac options.algorithm.macAlgorithm secret (counterBytes (BitVec.ofInt 64 counter)) with
      | none => .error .invalidSecret
      | some digest => dynamicTruncate digest options.digits

end Android

def truncated (digest : List UInt8) : Nat :=
  let offset := (digest.getLast?.getD 0).toNat % 16
  ofBigEndian ((digest.drop offset).take 4) % 2 ^ 31

def hotp (digest : List UInt8) (digits : Nat) : List Char := Calendar.digits digits (truncated digest % 10 ^ digits)

section Loop

variable {State : Type} {byte : State → UInt8} {next : State → State}

theorem fillDown_eq {Stands : State → Nat → Prop}
    (step : ∀ remaining n, Stands remaining n →
      byte remaining = UInt8.ofNat (n % 256) ∧ Stands (next remaining) (n / 256))
    {remaining : State} {n : Nat} (stands : Stands remaining n) (front back : List UInt8) :
    fillDown byte next front.length remaining (front ++ back) = bigEndian front.length n ++ back := by
  induction front using List.reverseRecOn generalizing remaining n back with
  | nil => rfl
  | append_singleton front last ih =>
    obtain ⟨written, rest⟩ := step remaining n stands
    have set : (front ++ [last] ++ back).set front.length (byte remaining) = front ++ byte remaining :: back := by
      simp
    rw [List.length_append, List.length_singleton, fillDown, set, ih rest, bigEndian, written]
    simp

end Loop

theorem floor_divide {n : Nat} (exact : n < 2 ^ 53) : ⌊divide (n : Int) 256⌋ = n / 256 := by
  have quotient : divide (n : Int) 256 = (n : Rat) / (256 : Nat) := by
    have rounded := Double.nearest_two_pow exact 8
    norm_num at rounded
    simpa [divide] using rounded
  rw [quotient]
  exact Rat.floor_natCast_div_natCast n 256

theorem counterBytesJs_eq {counter : Nat} (exact : counter < 2 ^ 53) :
    counterBytesJs counter = bigEndian 8 counter := by
  have zeros := @fillDown_eq Int (fun remaining => UInt8.ofNat (remaining.tmod 256 % 256).toNat)
    (fun remaining => ⌊divide remaining 256⌋) (fun remaining n => remaining = n ∧ n < 2 ^ 53) ?_
    counter counter ⟨rfl, exact⟩ (List.replicate 8 0) []
  · rwa [List.append_nil, List.append_nil, List.length_replicate] at zeros
  · rintro _ n ⟨rfl, small⟩
    have rest : ((n : Int).tmod 256 % 256).toNat = n % 256 := by
      rw [Int.tmod_eq_emod_of_nonneg (by omega)]
      omega
    have shorter : n / 256 < 2 ^ 53 := by omega
    exact ⟨congrArg UInt8.ofNat rest, floor_divide small, shorter⟩

namespace Android

theorem counterBytes_eq (counter : BitVec 64) : counterBytes counter = bigEndian 8 counter.toNat := by
  have zeros := @fillDown_eq (BitVec 64) (fun remaining => UInt8.ofBitVec ((remaining &&& 0xFF).setWidth 8))
    (fun remaining => remaining >>> 8) (fun remaining n => remaining.toNat = n) ?_ counter counter.toNat rfl
    (List.replicate 8 0) []
  · rwa [List.append_nil, List.append_nil, List.length_replicate] at zeros
  · rintro remaining _ rfl
    constructor
    · have mask : (0xFF : BitVec 64).toNat = 2 ^ 8 - 1 := by decide
      rw [← UInt8.toNat_inj, UInt8.toNat_ofBitVec, BitVec.toNat_setWidth, BitVec.toNat_and, mask,
        Nat.and_two_pow_sub_one_eq_mod, UInt8.toNat_ofNat']
    · rw [BitVec.toNat_ushiftRight, Nat.shiftRight_eq_div_pow]

end Android

theorem or_eq_add {high low : Nat} (i : Nat) (whole : 2 ^ i ∣ high) (small : low < 2 ^ i) : high ||| low = high + low := by
  obtain ⟨k, rfl⟩ := whole
  rw [Nat.mul_comm, ← Nat.shiftLeft_eq, Nat.shiftLeft_add_eq_or_of_lt small]

theorem signExtend_and (byte : BitVec 8) {mask : BitVec 32} (small : mask.toNat < 2 ^ 8) :
    byte.signExtend 32 &&& mask = byte.setWidth 32 &&& mask := by
  apply BitVec.eq_of_getLsbD_eq
  intro i _
  rw [BitVec.getLsbD_and, BitVec.getLsbD_and, BitVec.getLsbD_signExtend, BitVec.getLsbD_setWidth]
  by_cases low : i < 8
  · simp [low]
  · have above : mask.getLsbD i = false :=
      Nat.testBit_lt_two_pow (Nat.lt_of_lt_of_le small (Nat.pow_le_pow_right (by decide) (by omega)))
    rw [above, Bool.and_false, Bool.and_false]

theorem assembled_signExtend (first second third fourth : BitVec 8) :
    assembled (first.signExtend 32) (second.signExtend 32) (third.signExtend 32) (fourth.signExtend 32) =
      assembled (first.setWidth 32) (second.setWidth 32) (third.setWidth 32) (fourth.setWidth 32) := by
  have sign : (0x7F : BitVec 32).toNat < 2 ^ 8 := by decide
  have byte : (0xFF : BitVec 32).toNat < 2 ^ 8 := by decide
  simp only [assembled, signExtend_and _ sign, signExtend_and _ byte]

theorem toNat_masked (b : UInt8) (bits : Nat) {mask : BitVec 32} (ones : mask.toNat = 2 ^ bits - 1) :
    (b.toBitVec.setWidth 32 &&& mask).toNat = b.toNat % 2 ^ bits := by
  have small := b.toNat_lt
  have whole : b.toNat % 2 ^ 32 = b.toNat := Nat.mod_eq_of_lt (by omega)
  rw [BitVec.toNat_and, BitVec.toNat_setWidth, ones, Nat.and_two_pow_sub_one_eq_mod, UInt8.toNat_toBitVec, whole]

theorem toNat_assembled (first second third fourth : UInt8) :
    (assembled (first.toBitVec.setWidth 32) (second.toBitVec.setWidth 32) (third.toBitVec.setWidth 32)
      (fourth.toBitVec.setWidth 32)).toNat = ofBigEndian [first, second, third, fourth] % 2 ^ 31 := by
  have bounds := And.intro first.toNat_lt (And.intro second.toNat_lt (And.intro third.toNat_lt fourth.toNat_lt))
  have masked (b : UInt8) : (b.toBitVec.setWidth 32 &&& (0xFF : BitVec 32)).toNat = b.toNat := by
    rw [toNat_masked b 8 (by decide), Nat.mod_eq_of_lt b.toNat_lt]
  have unsigned : (first.toBitVec.setWidth 32 &&& (0x7F : BitVec 32)).toNat = first.toNat % 2 ^ 7 :=
    toNat_masked first 7 (by decide)
  have shifted (x : BitVec 32) (i : Nat) (room : x.toNat * 2 ^ i < 2 ^ 32) : (x <<< i).toNat = x.toNat * 2 ^ i := by
    rw [BitVec.toNat_shiftLeft, Nat.shiftLeft_eq, Nat.mod_eq_of_lt room]
  have value : ofBigEndian [first, second, third, fourth] =
      first.toNat * 2 ^ 24 + second.toNat * 2 ^ 16 + third.toNat * 2 ^ 8 + fourth.toNat := by
    simp only [ofBigEndian, List.foldl_cons, List.foldl_nil]
    omega
  have front : first.toNat % 2 ^ 7 * 2 ^ 24 ||| second.toNat * 2 ^ 16 = _ := or_eq_add 24 (by omega) (by omega)
  have middle : first.toNat % 2 ^ 7 * 2 ^ 24 + second.toNat * 2 ^ 16 ||| third.toNat * 2 ^ 8 = _ :=
    or_eq_add 16 (by omega) (by omega)
  have back : first.toNat % 2 ^ 7 * 2 ^ 24 + second.toNat * 2 ^ 16 + third.toNat * 2 ^ 8 ||| fourth.toNat = _ :=
    or_eq_add 8 (by omega) (by omega)
  rw [assembled, BitVec.toNat_or, BitVec.toNat_or, BitVec.toNat_or, shifted _ 24 (by omega),
    shifted _ 16 (by rw [masked]; omega), shifted _ 8 (by rw [masked]; omega), unsigned, masked, masked, masked,
    front, middle, back, value]
  omega

/-- What is read of a digest, and what it makes. -/
structure Window (digest : List UInt8) (offset : Nat) (last first second third fourth : UInt8) : Prop where
  start : offset = last.toNat % 16
  inside : offset + 3 < digest.length
  lastRead : element digest (digest.length - 1) = some last
  firstRead : element digest offset = some first
  secondRead : element digest (offset + 1) = some second
  thirdRead : element digest (offset + 2) = some third
  fourthRead : element digest (offset + 3) = some fourth
  value : truncated digest = ofBigEndian [first, second, third, fourth] % 2 ^ 31

theorem exists_window {digest : List UInt8} (long : 20 ≤ digest.length) :
    ∃ offset last first second third fourth, Window digest offset last first second third fourth := by
  have some' : digest ≠ [] := by
    rintro rfl
    contradiction
  have last : digest.getLast? = some (digest.getLast some') := List.getLast?_eq_some_getLast some'
  generalize same : (digest.getLast some').toNat % 16 = offset
  have inside : offset + 3 < digest.length := by omega
  have ends : (digest.length : Int) - 1 = (digest.length - 1 : Nat) := by omega
  refine ⟨offset, digest.getLast some', digest[offset], digest[offset + 1], digest[offset + 2], digest[offset + 3],
    same.symm, inside, ?_, List.getElem?_eq_getElem _, List.getElem?_eq_getElem _, List.getElem?_eq_getElem _,
    List.getElem?_eq_getElem inside, ?_⟩
  · rw [ends, ← last, List.getLast?_eq_getElem?]
    rfl
  · have four : (digest.drop offset).take 4 =
        [digest[offset], digest[offset + 1], digest[offset + 2], digest[offset + 3]] := by
      rw [List.drop_eq_getElem_cons (by omega), List.drop_eq_getElem_cons (by omega),
        List.drop_eq_getElem_cons (by omega), List.drop_eq_getElem_cons (by omega)]
      rfl
    simp only [truncated, last, Option.getD_some, same, four]

theorem digits_zero (width : Nat) : Calendar.digits width 0 = List.replicate width '0' := by
  induction width with
  | zero => rfl
  | succ width ih =>
    rw [Calendar.digits, List.replicate_succ', ← ih]
    rfl

theorem padStart_append (length : Nat) (text : List Char) (c : Char) :
    padStart (length + 1) (text ++ [c]) = padStart length text ++ [c] := by
  simp only [padStart, List.leftpad, List.length_append, List.length_singleton, Nat.add_sub_add_right,
    List.append_assoc]

theorem padStart_toDigits {width n : Nat} (some' : 0 < width) (room : n < 10 ^ width) :
    padStart width (Nat.toDigits 10 n) = Calendar.digits width n := by
  induction width generalizing n with
  | zero => contradiction
  | succ width ih =>
    rw [Calendar.digits]
    by_cases one : n < 10
    · -- the last digit, behind zeros only
      have front : n / 10 = 0 := by omega
      have last : n % 10 = n := by omega
      rw [Nat.toDigits_of_lt_base one, front, last, digits_zero]
      simp [padStart, List.leftpad]
    · have shorter : n / 10 < 10 ^ width := by omega
      have positive : 0 < width := by
        by_contra none'
        obtain rfl : width = 0 := by omega
        omega
      rw [Nat.toDigits_of_base_le (by decide) (by omega), padStart_append, ih positive shorter]

theorem toInt_assembled {digest : List UInt8} {offset : Nat} {last first second third fourth : UInt8}
    (window : Window digest offset last first second third fourth) :
    (assembled (first.toBitVec.setWidth 32) (second.toBitVec.setWidth 32) (third.toBitVec.setWidth 32)
      (fourth.toBitVec.setWidth 32)).toInt = truncated digest := by
  have value := toNat_assembled first second third fourth
  have small : ofBigEndian [first, second, third, fourth] % 2 ^ 31 < 2 ^ 31 := Nat.mod_lt _ (by decide)
  rw [BitVec.toInt_eq_toNat_of_lt (by omega), value, window.value]

theorem toInt_offset {offset : Nat} {last : UInt8} (start : offset = last.toNat % 16) :
    (last.toBitVec.setWidth 32 &&& (0x0F : BitVec 32)).toInt = offset := by
  have value : (last.toBitVec.setWidth 32 &&& (0x0F : BitVec 32)).toNat = offset := by
    rw [start]
    exact toNat_masked last 4 (by decide)
  rw [BitVec.toInt_eq_toNat_of_lt (by omega), value]

theorem hotp_eq (digest : List UInt8) {digits : Nat} (some' : 1 ≤ digits) :
    hotp digest digits = padStart digits (decimal ((truncated digest : Int).tmod (10 ^ digits : Nat))) := by
  have room : truncated digest % 10 ^ digits < 10 ^ digits := Nat.mod_lt _ (Nat.pow_pos (by decide))
  rw [hotp, ← padStart_toDigits some' room]
  rfl

theorem pow_digits_lt {digits : Nat} (few : digits ≤ 9) : 10 ^ digits < 2 ^ 31 :=
  Nat.lt_of_le_of_lt (Nat.pow_le_pow_right (by decide) few) (by decide)

theorem toNumber_pow {digits : Nat} (few : digits ≤ 9) : toNumber (10 ^ digits) = (10 ^ digits : Nat) := by
  have small := pow_digits_lt few
  have double := Double.roundNat_small (n := 10 ^ digits) (by omega)
  have power : (10 : Int) ^ digits = Int.ofNat (10 ^ digits) := by norm_cast
  rw [power, toNumber, double]

theorem numeral_truncated (digest : List UInt8) (power : Nat) :
    numeral ((truncated digest : Int).tmod power) = (truncated digest : Int).tmod power := by
  have small : truncated digest < 2 ^ 31 := Nat.mod_lt _ (by decide)
  have less := Nat.mod_le (truncated digest) power
  exact congrArg Int.ofNat (Double.numeralNat_small (n := truncated digest % power) (by omega))

theorem run_read {bytes : List UInt8} {index : Int} {byte : UInt8} (found : element bytes index = some byte)
    (indices : List Int) :
    (read bytes index).run indices = pure (byte.toBitVec.setWidth 32, indices ++ [index]) := by
  simp [read, found]

theorem dynamicTruncateJs_eq {digest : List UInt8} {offset : Nat} {last first second third fourth : UInt8}
    (window : Window digest offset last first second third fourth) {digits : Nat} (some' : 1 ≤ digits)
    (few : digits ≤ 9) :
    (dynamicTruncateJs digest digits).run [] =
      (hotp digest digits, [(digest.length - 1 : Int), offset, offset + 1, offset + 2, offset + 3]) := by
  simp only [dynamicTruncateJs, StateT.run_bind, run_read window.lastRead, pure_bind, toInt_offset window.start,
    run_read window.firstRead, run_read window.secondRead, run_read window.thirdRead, run_read window.fourthRead,
    toInt_assembled window, toNumber_pow few, numeral_truncated, hotp_eq digest some']
  rfl

theorem toNat_iterate (digits : Nat) :
    (Nat.iterate (fun mod : BitVec 32 => mod * 10) digits 1).toNat = 10 ^ digits % 2 ^ 32 := by
  induction digits with
  | zero => rfl
  | succ digits ih =>
    have ten : (10 : BitVec 32).toNat = 10 := by decide
    rw [Function.iterate_succ_apply', BitVec.toNat_mul, ih, ten, Nat.mod_mul_mod]
    rfl

namespace Android

theorem read_eq {bytes : List UInt8} {index : Int} {byte : UInt8} (found : element bytes index = some byte) :
    read bytes index = pure (byte.toBitVec.signExtend 32) := by
  rw [read, found]
  rfl

theorem dynamicTruncate_eq {digest : List UInt8} {offset : Nat} {last first second third fourth : UInt8}
    (window : Window digest offset last first second third fourth) {digits : Nat} (some' : 1 ≤ digits)
    (few : digits ≤ 9) : dynamicTruncate digest digits = .ok (hotp digest digits) := by
  have small := pow_digits_lt few
  have positive : 0 < 10 ^ digits := Nat.pow_pos (by decide)
  have start : (last.toBitVec.signExtend 32 &&& (0x0F : BitVec 32)).toInt = offset := by
    rw [signExtend_and _ (by decide), toInt_offset window.start]
  have power : (Nat.iterate (fun mod : BitVec 32 => mod * 10) digits 1).toNat = 10 ^ digits := by
    rw [toNat_iterate, Nat.mod_eq_of_lt (by omega)]
  have nonzero : Nat.iterate (fun mod : BitVec 32 => mod * 10) digits 1 ≠ 0 := by
    intro zero
    rw [zero] at power
    exact absurd power positive.ne
  have mod : (Nat.iterate (fun mod : BitVec 32 => mod * 10) digits 1).toInt = (10 ^ digits : Nat) := by
    rw [BitVec.toInt_eq_toNat_of_lt (by omega), power]
  simp only [dynamicTruncate, read_eq window.lastRead, pure_bind, start, read_eq window.firstRead, read_eq window.secondRead,
    read_eq window.thirdRead, read_eq window.fourthRead, assembled_signExtend, BitVec.toInt_srem,
    toInt_assembled window, mod, hotp_eq digest some', if_neg nonzero]
  rfl

end Android

/-- Counter, truncation and code are those of RFC 4226 in all three. -/
theorem totp_arithmetic {counter : Nat} (exact : counter < 2 ^ 53) {digest : List UInt8}
    (long : 20 ≤ digest.length) {digits : Nat} (some' : 1 ≤ digits) (few : digits ≤ 9) :
    Web.counterBytes counter = bigEndian 8 counter ∧
      Extension.counterBytes counter = bigEndian 8 counter ∧
      Android.counterBytes (BitVec.ofNat 64 counter) = bigEndian 8 counter ∧
    (∀ index ∈ ((Web.dynamicTruncate digest digits).run []).2, 0 ≤ index ∧ index < digest.length) ∧
      (∀ index ∈ ((Extension.dynamicTruncate digest digits).run []).2, 0 ≤ index ∧ index < digest.length) ∧
    ((Web.dynamicTruncate digest digits).run []).1 = hotp digest digits ∧
      ((Extension.dynamicTruncate digest digits).run []).1 = hotp digest digits ∧
      -- a read outside would be an error
      Android.dynamicTruncate digest digits = .ok (hotp digest digits) := by
  obtain ⟨offset, last, first, second, third, fourth, window⟩ := exists_window long
  have bytes := counterBytesJs_eq exact
  have run := dynamicTruncateJs_eq window some' few
  have inside : ∀ index ∈ ((dynamicTruncateJs digest digits).run []).2, 0 ≤ index ∧ index < digest.length := by
    have reads := window.inside
    intro index mem
    simp only [run, List.mem_cons, List.not_mem_nil, or_false] at mem
    omega
  have code : ((dynamicTruncateJs digest digits).run []).1 = hotp digest digits := by rw [run]
  have android : Android.counterBytes (BitVec.ofNat 64 counter) = bigEndian 8 counter := by
    rw [Android.counterBytes_eq, BitVec.toNat_ofNat, Nat.mod_eq_of_lt (by omega)]
  exact ⟨bytes, bytes, android, inside, inside, code, code, Android.dynamicTruncate_eq window some' few⟩

-- the digest of the example in RFC 4226
def sampleDigest : List UInt8 :=
  [0x1F, 0x86, 0x98, 0x69, 0x0E, 0x02, 0xCA, 0x16, 0x61, 0x85, 0x50, 0xEF, 0x7F, 0x19, 0xDA, 0x8E, 0x94, 0x5B,
    0x55, 0x5A]

/-- A counter of more than 32 bits. -/
theorem totp_arithmetic_872921 :
    Web.counterBytes 4294967298 = [0, 0, 0, 1, 0, 0, 0, 2] ∧
      Extension.counterBytes 4294967298 = [0, 0, 0, 1, 0, 0, 0, 2] ∧
      Android.counterBytes 4294967298 = [0, 0, 0, 1, 0, 0, 0, 2] ∧
    (∀ index ∈ ((Web.dynamicTruncate sampleDigest 6).run []).2, 0 ≤ index ∧ index < 20) ∧
      (∀ index ∈ ((Extension.dynamicTruncate sampleDigest 6).run []).2, 0 ≤ index ∧ index < 20) ∧
    ((Web.dynamicTruncate sampleDigest 6).run []).1 = "872921".toList ∧
      ((Extension.dynamicTruncate sampleDigest 6).run []).1 = "872921".toList ∧
      Android.dynamicTruncate sampleDigest 6 = .ok "872921".toList := by
  have bytes : bigEndian 8 4294967298 = [0, 0, 0, 1, 0, 0, 0, 2] := by decide +kernel
  have code : hotp sampleDigest 6 = "872921".toList := by decide +kernel
  rw [← bytes, ← code]
  exact @totp_arithmetic 4294967298 (by decide) sampleDigest (by decide) 6 (by decide) (by decide)

structure Computes (hmac : TotpAlgorithm → List UInt8 → List UInt8 → List UInt8)
    (sign : String → List UInt8 → List UInt8 → List UInt8)
    (mac : String → List UInt8 → List UInt8 → Option (List UInt8)) : Prop where
  sign : ∀ algorithm secret message, sign algorithm.subtleAlgorithm secret message = hmac algorithm secret message
  mac : ∀ algorithm secret message, secret ≠ [] →
    mac algorithm.macAlgorithm secret message = some (hmac algorithm secret message)
  long : ∀ algorithm secret message, 20 ≤ (hmac algorithm secret message).length

def codeAt (hmac : TotpAlgorithm → List UInt8 → List UInt8 → List UInt8) (secret : Option (List UInt8))
    (options : TotpOptions) (atEpochMs : Nat) : Except Failure (List Char) :=
  match secret with
  | none => .error .invalidSecret
  | some [] => .error .emptySecret
  | some secret =>
    let counter := atEpochMs / (1000 * options.periodSeconds)
    .ok (hotp (hmac options.algorithm secret (bigEndian 8 counter)) options.digits)

section Times

variable {hmac : TotpAlgorithm → List UInt8 → List UInt8 → List UInt8}
  {sign : String → List UInt8 → List UInt8 → List UInt8}
  {mac : String → List UInt8 → List UInt8 → Option (List UInt8)}

theorem computeTotpJs_eq (computes : Computes hmac sign mac) (upperOf : Nat → Units) (secretBase32 : Units)
    {options : TotpOptions} (some' : 1 ≤ options.digits) (few : options.digits ≤ 9) {atEpochMs : Nat}
    (early : atEpochMs < 2 ^ 50) :
    computeTotpJs upperOf sign secretBase32 options atEpochMs =
      codeAt hmac (Base32.base32DecodeJs upperOf secretBase32) options atEpochMs := by
  rw [computeTotpJs]
  cases Base32.base32DecodeJs upperOf secretBase32 with
  | none => rfl
  | some secret =>
    cases secret with
    | nil => rfl
    | cons byte rest =>
      have seconds := Double.floor_divide_divide early (d := 1000) (by decide) options.period_pos
      have counter := Nat.div_le_self atEpochMs (1000 * options.periodSeconds)
      obtain ⟨_, _, _, _, _, _, window⟩ := exists_window (computes.long options.algorithm (byte :: rest)
        (bigEndian 8 (atEpochMs / (1000 * options.periodSeconds))))
      have run := dynamicTruncateJs_eq window some' few
      simp only [List.length_cons, Nat.add_one_ne_zero, if_false]
      rw [Int.cast_natCast, ← Nat.cast_ofNat, seconds, counterBytesJs_eq (by omega), computes.sign, run]
      rfl

theorem Android.computeTotp_eq (computes : Computes hmac sign mac) (upperOf : Nat → Units)
    (regexSpace : UInt16 → Bool) (secretBase32 : Units) {options : TotpOptions} (some' : 1 ≤ options.digits)
    (few : options.digits ≤ 9) {atEpochMs : Nat} (early : atEpochMs < 2 ^ 50) :
    computeTotp upperOf regexSpace mac secretBase32 options atEpochMs =
      codeAt hmac (Base32.Android.base32Decode upperOf regexSpace secretBase32) options atEpochMs := by
  rw [computeTotp]
  cases Base32.Android.base32Decode upperOf regexSpace secretBase32 with
  | none => rfl
  | some secret =>
    cases secret with
    | nil => rfl
    | cons byte rest =>
      have seconds : ((atEpochMs : Int).tdiv 1000).fdiv options.periodSeconds =
          (atEpochMs / (1000 * options.periodSeconds) : Nat) := by
        rw [Int.tdiv_eq_ediv_of_nonneg (by omega), Int.fdiv_eq_ediv_of_nonneg _ (by omega),
          ← Nat.div_div_eq_div_mul]
        norm_cast
      have counter := Nat.div_le_self atEpochMs (1000 * options.periodSeconds)
      have long : (BitVec.ofInt 64 (atEpochMs / (1000 * options.periodSeconds) : Nat)).toNat =
          atEpochMs / (1000 * options.periodSeconds) := by
        rw [BitVec.ofInt_natCast, BitVec.toNat_ofNat, Nat.mod_eq_of_lt (by omega)]
      obtain ⟨_, _, _, _, _, _, window⟩ := exists_window (computes.long options.algorithm (byte :: rest)
        (bigEndian 8 (atEpochMs / (1000 * options.periodSeconds))))
      simp only [List.isEmpty_cons, Bool.false_eq_true, if_false, seconds, counterBytes_eq, long,
        computes.mac _ _ _ (List.cons_ne_nil byte rest), dynamicTruncate_eq window some' few]
      rfl

theorem computeTotp_agree (computes : Computes hmac sign mac) {upperOf : Nat → Units}
    {regexSpace : UInt16 → Bool} {secretBase32 : Units}
    (same : Base32.base32DecodeJs upperOf secretBase32 =
      Base32.Android.base32Decode upperOf regexSpace secretBase32)
    {options : TotpOptions} (some' : 1 ≤ options.digits) (few : options.digits ≤ 9) {atEpochMs : Nat}
    (early : atEpochMs < 2 ^ 50) :
    Web.computeTotp upperOf sign secretBase32 options atEpochMs =
        Android.computeTotp upperOf regexSpace mac secretBase32 options atEpochMs ∧
      Extension.computeTotp upperOf sign secretBase32 options atEpochMs =
        Android.computeTotp upperOf regexSpace mac secretBase32 options atEpochMs := by
  have js := computeTotpJs_eq computes upperOf secretBase32 some' few early
  rw [same, ← Android.computeTotp_eq computes upperOf regexSpace secretBase32 some' few early] at js
  exact ⟨js, js⟩

end Times

end ZenPass.Client.Totp
