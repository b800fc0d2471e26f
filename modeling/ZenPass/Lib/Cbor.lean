import Mathlib.Data.Nat.Basic
import Mathlib.Tactic.Ring

set_option autoImplicit false

namespace ZenPass.Cbor

abbrev Bytes := List UInt8

def bigEndian : Nat → Nat → Bytes
  | 0, _ => []
  | width + 1, n => bigEndian width (n / 256) ++ [UInt8.ofNat (n % 256)]

def ofBigEndian (bytes : Bytes) : Nat :=
  bytes.foldl (fun n byte => 256 * n + byte.toNat) 0

@[simp] theorem bigEndian_length (width n : Nat) : (bigEndian width n).length = width := by
  induction width generalizing n with
  | zero => rfl
  | succ width ih => simp [bigEndian, ih]

theorem ofBigEndian_bigEndian (width n : Nat) (fits : n < 256 ^ width) :
    ofBigEndian (bigEndian width n) = n := by
  induction width generalizing n with
  | zero =>
    have zero : n = 0 := by simpa using fits
    subst zero
    rfl
  | succ width ih =>
    have quotient : n / 256 < 256 ^ width := by
      apply Nat.div_lt_of_lt_mul
      rwa [Nat.pow_succ, Nat.mul_comm] at fits
    have before := ih (n / 256) quotient
    simp only [ofBigEndian] at before
    simp only [ofBigEndian, bigEndian, List.foldl_append, List.foldl_cons, List.foldl_nil, before]
    have digit : (UInt8.ofNat (n % 256)).toNat = n % 256 := by simp
    omega

inductive Major where
  | unsigned | negative | bytes | text | array | map | tag | simple
  deriving DecidableEq

def Major.code : Major → Nat
  | .unsigned => 0
  | .negative => 1
  | .bytes => 2
  | .text => 3
  | .array => 4
  | .map => 5
  | .tag => 6
  | .simple => 7

def Major.ofCode : Nat → Major
  | 0 => .unsigned
  | 1 => .negative
  | 2 => .bytes
  | 3 => .text
  | 4 => .array
  | 5 => .map
  | 6 => .tag
  | _ => .simple

@[simp] theorem Major.ofCode_code (major : Major) : Major.ofCode major.code = major := by
  cases major <;> rfl

theorem Major.code_lt (major : Major) : major.code < 8 := by
  cases major <;> decide

def initial (major : Major) (info : Nat) : UInt8 :=
  UInt8.ofNat (32 * major.code + info)

theorem initial_toNat (major : Major) (info : Nat) (small : info < 32) :
    (initial major info).toNat = 32 * major.code + info := by
  have bound := major.code_lt
  simp only [initial, UInt8.toNat_ofNat']
  omega

def head (major : Major) (argument : Nat) : Bytes :=
  if argument < 24 then [initial major argument]
  else if argument < 2 ^ 8 then initial major 24 :: bigEndian 1 argument
  else if argument < 2 ^ 16 then initial major 25 :: bigEndian 2 argument
  else if argument < 2 ^ 32 then initial major 26 :: bigEndian 4 argument
  else initial major 27 :: bigEndian 8 argument

def headLength (argument : Nat) : Nat :=
  if argument < 24 then 1
  else if argument < 2 ^ 8 then 2
  else if argument < 2 ^ 16 then 3
  else if argument < 2 ^ 32 then 5
  else 9

@[simp] theorem head_length (major : Major) (argument : Nat) :
    (head major argument).length = headLength argument := by
  unfold head headLength
  split_ifs <;> simp

theorem head_eq_cons (major : Major) (argument : Nat) :
    ∃ info after, info < 28 ∧ head major argument = initial major info :: after := by
  unfold head
  split_ifs with small byte short word
  · exact ⟨argument, [], by omega, rfl⟩
  · exact ⟨24, _, by omega, rfl⟩
  · exact ⟨25, _, by omega, rfl⟩
  · exact ⟨26, _, by omega, rfl⟩
  · exact ⟨27, _, by omega, rfl⟩

theorem headLength_le (argument : Nat) : headLength argument ≤ 9 := by
  unfold headLength
  split_ifs <;> omega

theorem headLength_mono {a b : Nat} (le : a ≤ b) : headLength a ≤ headLength b := by
  unfold headLength
  split_ifs <;> omega

def argumentWidth : Nat → Option Nat
  | 24 => some 1
  | 25 => some 2
  | 26 => some 4
  | 27 => some 8
  | _ => none

def readArgument (info : Nat) (rest : Bytes) : Option (Nat × Bytes) :=
  if info < 24 then some (info, rest)
  else match argumentWidth info with
    | some width =>
      if width ≤ rest.length then
        some (ofBigEndian (rest.take width), rest.drop width)
      else none
    | none => none

def readHead : Bytes → Option (Major × Nat × Bytes)
  | [] => none
  | byte :: rest =>
    (readArgument (byte.toNat % 32) rest).map fun read =>
      (Major.ofCode (byte.toNat / 32), read.1, read.2)

theorem readHead_initial (major : Major) (info : Nat) (small : info < 32) (rest : Bytes) :
    readHead (initial major info :: rest)
      = (readArgument info rest).map fun read => (major, read.1, read.2) := by
  have byte := initial_toNat major info small
  have low : (32 * major.code + info) % 32 = info := by omega
  have high : (32 * major.code + info) / 32 = major.code := by omega
  simp only [readHead, byte, low, high, Major.ofCode_code]

theorem readArgument_wide {info width : Nat} (wide : 24 ≤ info)
    (known : argumentWidth info = some width) (argument : Nat) (fits : argument < 256 ^ width)
    (rest : Bytes) :
    readArgument info (bigEndian width argument ++ rest) = some (argument, rest) := by
  have there : width ≤ (bigEndian width argument ++ rest).length := by simp
  have digits : (bigEndian width argument ++ rest).take width = bigEndian width argument := by
    apply List.take_left'
    simp
  have after : (bigEndian width argument ++ rest).drop width = rest := by
    apply List.drop_left'
    simp
  simp only [readArgument, known, if_pos there, digits, after,
    ofBigEndian_bigEndian width argument fits]
  rw [if_neg (by omega)]

theorem readHead_head (major : Major) (argument : Nat) (fits : argument < 2 ^ 64)
    (rest : Bytes) :
    readHead (head major argument ++ rest) = some (major, argument, rest) := by
  -- one case for each width the argument may take
  unfold head
  split_ifs with small byte short word
  · simp only [List.singleton_append]
    rw [readHead_initial major argument (by omega)]
    simp [readArgument, small]
  · rw [List.cons_append, readHead_initial major 24 (by omega),
      readArgument_wide (by omega) rfl argument (by omega)]
    rfl
  · rw [List.cons_append, readHead_initial major 25 (by omega),
      readArgument_wide (by omega) rfl argument (by omega)]
    rfl
  · rw [List.cons_append, readHead_initial major 26 (by omega),
      readArgument_wide (by omega) rfl argument (by omega)]
    rfl
  · rw [List.cons_append, readHead_initial major 27 (by omega),
      readArgument_wide (by omega) rfl argument (by omega)]
    rfl

def utf8 (text : String) : Bytes := text.toByteArray.data.toList

def ofUtf8 (bytes : Bytes) : Option String := String.fromUTF8? ⟨bytes.toArray⟩

@[simp] theorem ofUtf8_utf8 (text : String) : ofUtf8 (utf8 text) = some text := by
  have valid := text.isValidUTF8
  simp [ofUtf8, utf8, String.fromUTF8?, valid, String.fromUTF8]

inductive Item where
  | int (value : Int)
  | bytes (value : Bytes)
  | text (value : String)
  | null

def encodeInt (value : Int) : Bytes :=
  if 0 ≤ value then head .unsigned value.toNat else head .negative (-1 - value).toNat

def encodeNull : Bytes := [initial .simple 22]

def Item.encode : Item → Bytes
  | .int value => encodeInt value
  | .bytes value => head .bytes value.length ++ value
  | .text value => head .text (utf8 value).length ++ utf8 value
  | .null => encodeNull

def encodeEntry (entry : Nat × Item) : Bytes := head .unsigned entry.1 ++ entry.2.encode

def encodeMap (entries : List (Nat × Item)) : Bytes :=
  head .map entries.length ++ entries.flatMap encodeEntry

end ZenPass.Cbor
