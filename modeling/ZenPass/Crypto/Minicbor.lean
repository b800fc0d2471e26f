import ZenPass.Lib.Cbor

set_option autoImplicit false

-- The CBOR library of the crypto core is a parameter: the calls `canon.rs` makes, and what it
-- relies on them for. A decoder is given by the bytes it has still to read.

namespace ZenPass.Crypto

open Cbor (Bytes)

-- `minicbor::data::Type`; what the strict reader never asks about is one constructor
inductive CborType where
  | u8 | u16 | u32 | u64 | i8 | i16 | i32 | i64 | int
  | tag | f16 | f32 | f64
  | string | bytes | null
  | stringIndef | bytesIndef
  | other
  deriving DecidableEq

def CborType.isInteger : CborType → Bool
  | .u8 | .u16 | .u32 | .u64 | .i8 | .i16 | .i32 | .i64 | .int => true
  | _ => false

structure Minicbor where
  datatype : Bytes → Option CborType
  -- `none` inside is an indefinite length
  map : Bytes → Option (Option UInt64 × Bytes)
  i64 : Bytes → Option (Int64 × Bytes)
  str : Bytes → Option (String × Bytes)
  bytes : Bytes → Option (Bytes × Bytes)
  skip : Bytes → Option Bytes
  -- what a call of the encoder appends to its buffer
  writeMap : UInt64 → Option Bytes
  writeU64 : UInt64 → Option Bytes
  writeI64 : Int64 → Option Bytes
  writeStr : String → Option Bytes
  writeBytes : Bytes → Option Bytes
  writeNull : Option Bytes

-- Nothing is said about what the decoder does on bytes the encoder does not write.
structure Minicbor.Conforms (cbor : Minicbor) : Prop where
  writeMap : ∀ entries, cbor.writeMap entries = some (Cbor.head .map entries.toNat)
  writeU64 : ∀ value, cbor.writeU64 value = some (Cbor.head .unsigned value.toNat)
  writeI64 : ∀ value, cbor.writeI64 value = some (Cbor.encodeInt value.toInt)
  writeStr : ∀ value, cbor.writeStr value = some (Cbor.Item.text value).encode
  writeBytes : ∀ value, cbor.writeBytes value = some (Cbor.Item.bytes value).encode
  writeNull : cbor.writeNull = some Cbor.encodeNull
  map : ∀ (entries : UInt64) rest,
    cbor.map (Cbor.head .map entries.toNat ++ rest) = some (some entries, rest)
  integer : ∀ (value : Int64) rest, ∃ type, type.isInteger = true ∧
    cbor.datatype (Cbor.encodeInt value.toInt ++ rest) = some type
  i64 : ∀ (value : Int64) rest,
    cbor.i64 (Cbor.encodeInt value.toInt ++ rest) = some (value, rest)
  string : ∀ value rest, (Cbor.utf8 value).length < 2 ^ 64 →
    cbor.datatype ((Cbor.Item.text value).encode ++ rest) = some .string
  str : ∀ value rest, (Cbor.utf8 value).length < 2 ^ 64 →
    cbor.str ((Cbor.Item.text value).encode ++ rest) = some (value, rest)
  byteString : ∀ value rest, value.length < 2 ^ 64 →
    cbor.datatype ((Cbor.Item.bytes value).encode ++ rest) = some .bytes
  bytes : ∀ value rest, value.length < 2 ^ 64 →
    cbor.bytes ((Cbor.Item.bytes value).encode ++ rest) = some (value, rest)
  null : ∀ rest, cbor.datatype (Cbor.encodeNull ++ rest) = some .null
  skip : ∀ rest, cbor.skip (Cbor.encodeNull ++ rest) = some rest

-- a negative number needs one bit more than its argument
def integerType (info : Nat) (signed wide : Bool) : CborType :=
  match info with
  | 24 => if wide then .i16 else if signed then .i8 else .u8
  | 25 => if wide then .i32 else if signed then .i16 else .u16
  | 26 => if wide then .i64 else if signed then .i32 else .u32
  | 27 => if wide then .int else if signed then .i64 else .u64
  | _ => if signed then .i8 else .u8

def highBit : Bytes → Bool
  | [] => false
  | byte :: _ => decide (0x80 ≤ byte.toNat)

def simpleType (info : Nat) : CborType :=
  match info with
  | 22 => .null
  | 25 => .f16
  | 26 => .f32
  | 27 => .f64
  | _ => .other

def typeOf (major : Cbor.Major) (info : Nat) (rest : Bytes) : CborType :=
  match major with
  | .unsigned => if info < 28 then integerType info false false else .other
  | .negative => if info < 28 then integerType info true (highBit rest) else .other
  | .bytes => if info < 28 then .bytes else if info = 31 then .bytesIndef else .other
  | .text => if info < 28 then .string else if info = 31 then .stringIndef else .other
  | .tag => if info < 28 then .tag else .other
  | .simple => simpleType info
  | .array | .map => .other

def readType : Bytes → Option CborType
  | [] => none
  | byte :: rest => some (typeOf (Cbor.Major.ofCode (byte.toNat / 32)) (byte.toNat % 32) rest)

def readMap (input : Bytes) : Option (Option UInt64 × Bytes) :=
  match input, Cbor.readHead input with
  | 0xbf :: rest, _ => some (none, rest)
  | _, some (.map, entries, rest) => some (some (UInt64.ofNat entries), rest)
  | _, _ => none

def readI64 (input : Bytes) : Option (Int64 × Bytes) :=
  match Cbor.readHead input with
  | some (.unsigned, argument, rest) =>
    if argument < 2 ^ 63 then some (Int64.ofInt argument, rest) else none
  | some (.negative, argument, rest) =>
    if argument < 2 ^ 63 then some (Int64.ofInt (-1 - argument), rest) else none
  | _ => none

def readSlice (major : Cbor.Major) (input : Bytes) : Option (Bytes × Bytes) :=
  match Cbor.readHead input with
  | some (found, length, rest) =>
    if found = major ∧ length ≤ rest.length then
      some (rest.take length, rest.drop length)
    else none
  | none => none

def readStr (input : Bytes) : Option (String × Bytes) :=
  (readSlice .text input).bind fun (slice, rest) =>
    (Cbor.ofUtf8 slice).map fun text => (text, rest)

def skipSimple : Bytes → Option Bytes
  | [] => none
  | byte :: rest => if byte = Cbor.initial .simple 22 then some rest else none

def Minicbor.rfc8949 : Minicbor where
  datatype := readType
  map := readMap
  i64 := readI64
  str := readStr
  bytes := readSlice .bytes
  skip := skipSimple
  writeMap entries := some (Cbor.head .map entries.toNat)
  writeU64 value := some (Cbor.head .unsigned value.toNat)
  writeI64 value := some (Cbor.encodeInt value.toInt)
  writeStr value := some (Cbor.Item.text value).encode
  writeBytes value := some (Cbor.Item.bytes value).encode
  writeNull := some Cbor.encodeNull

theorem readType_head (major : Cbor.Major) (argument : Nat) (rest : Bytes) :
    ∃ info after, info < 28 ∧
      readType (Cbor.head major argument ++ rest) = some (typeOf major info after) := by
  rcases Cbor.head_eq_cons major argument with ⟨info, after, small, head⟩
  refine ⟨info, after ++ rest, small, ?_⟩
  have byte := Cbor.initial_toNat major info (by omega)
  have low : (32 * major.code + info) % 32 = info := by omega
  have high : (32 * major.code + info) / 32 = major.code := by omega
  simp only [head, List.cons_append, readType, byte, low, high, Cbor.Major.ofCode_code]

theorem integerType_isInteger (info : Nat) (signed wide : Bool) :
    (integerType info signed wide).isInteger = true := by
  unfold integerType
  split <;> split_ifs <;> rfl

-- A definite length never leaves 31 in the initial byte.
theorem readMap_head (entries : UInt64) (rest : Bytes) :
    readMap (Cbor.head .map entries.toNat ++ rest) = some (some entries, rest) := by
  have read := Cbor.readHead_head .map entries.toNat entries.toNat_lt rest
  rcases Cbor.head_eq_cons .map entries.toNat with ⟨info, after, small, head⟩
  have byte := Cbor.initial_toNat .map info (by omega)
  have definite : Cbor.initial .map info ≠ 0xbf := by
    intro same
    rw [same] at byte
    simp only [Cbor.Major.code] at byte
    have value : (0xbf : UInt8).toNat = 191 := rfl
    omega
  rw [head, List.cons_append] at read ⊢
  simp only [readMap, read]
  simp [definite]

theorem readSlice_head (major : Cbor.Major) (value rest : Bytes)
    (fits : value.length < 2 ^ 64) :
    readSlice major (Cbor.head major value.length ++ value ++ rest) = some (value, rest) := by
  simp only [readSlice, List.append_assoc, Cbor.readHead_head major value.length fits]
  simp

theorem int64_bounds (value : Int64) : -2 ^ 63 ≤ value.toInt ∧ value.toInt < 2 ^ 63 :=
  ⟨value.le_toInt, value.toInt_lt⟩

theorem Minicbor.rfc8949_conforms : Minicbor.rfc8949.Conforms where
  writeMap _ := rfl
  writeU64 _ := rfl
  writeI64 _ := rfl
  writeStr _ := rfl
  writeBytes _ := rfl
  writeNull := rfl
  map := readMap_head
  integer value rest := by
    simp only [rfc8949, Cbor.encodeInt]
    split_ifs with positive
    · rcases readType_head .unsigned value.toInt.toNat rest with ⟨info, after, small, type⟩
      rw [type]
      exact ⟨_, by simp [typeOf, small, integerType_isInteger], rfl⟩
    · rcases readType_head .negative (-1 - value.toInt).toNat rest with ⟨info, after, small, type⟩
      rw [type]
      exact ⟨_, by simp [typeOf, small, integerType_isInteger], rfl⟩
  i64 value rest := by
    have bounds := int64_bounds value
    simp only [rfc8949, readI64, Cbor.encodeInt]
    split_ifs with positive
    · have exact : (value.toInt.toNat : Int) = value.toInt := by omega
      simp only [Cbor.readHead_head .unsigned value.toInt.toNat (by omega), exact]
      rw [if_pos (by omega), Int64.ofInt_toInt]
    · have exact : -1 - ((-1 - value.toInt).toNat : Int) = value.toInt := by omega
      simp only [Cbor.readHead_head .negative (-1 - value.toInt).toNat (by omega), exact]
      rw [if_pos (by omega), Int64.ofInt_toInt]
  string value rest _ := by
    simp only [rfc8949, Cbor.Item.encode, List.append_assoc]
    rcases readType_head .text (Cbor.utf8 value).length (Cbor.utf8 value ++ rest)
      with ⟨info, after, small, type⟩
    simp [type, typeOf, small]
  str value rest fits := by
    simp only [rfc8949, readStr, Cbor.Item.encode, readSlice_head .text (Cbor.utf8 value) rest fits]
    simp
  byteString value rest _ := by
    simp only [rfc8949, Cbor.Item.encode, List.append_assoc]
    rcases readType_head .bytes value.length (value ++ rest) with ⟨info, after, small, type⟩
    simp [type, typeOf, small]
  bytes value rest fits := readSlice_head .bytes value rest fits
  null _ := rfl
  skip _ := rfl

end ZenPass.Crypto
