import Mathlib.Data.FinEnum
import ZenPass.Client.ItemCodec
import ZenPass.Lib.BitGroups

set_option autoImplicit false

namespace ZenPass.Client.Base32

open BitGroups
open ItemCodec (isTrimmed isWhitespace trim)
open JsonText (IsHigh IsLow Units units)

def base32Alphabet : Units := units "ABCDEFGHIJKLMNOPQRSTUVWXYZ234567"

def hyphen : UInt16 := 0x2D
def padding : UInt16 := 0x3D

def codePoint (high low : UInt16) : Nat := 0x10000 + (high.toNat - 0xD800) * 0x400 + (low.toNat - 0xDC00)

/-- `toUpperCase` and `uppercase(Locale.ROOT)` convert code point by code point; `upperOf` is the table. -/
def toUpperCase (upperOf : Nat → Units) : Units → Units
  | [] => []
  | [c] => upperOf c.toNat
  | c :: d :: rest =>
    if IsHigh c ∧ IsLow d then upperOf (codePoint c d) ++ toUpperCase upperOf rest
    else upperOf c.toNat ++ toUpperCase upperOf (d :: rest)

-- `replace(/[\s-]+/g, "")`, where `space` is the class of `\s`
def without (space : UInt16 → Bool) (text : Units) : Units :=
  text.filter fun c => !(space c || c == hyphen)

-- `replace(/=+$/, "")`, `trimEnd('=')`
def unpadded (text : Units) : Units := text.rdropWhile (· == padding)

-- the variables of the loop; `value` is an `int32`
structure Accumulator where
  bits : Nat
  value : BitVec 32
  bytes : List UInt8

namespace Accumulator

def empty : Accumulator := { bits := 0, value := 0, bytes := [] }

def push (state : Accumulator) (index : Nat) : Accumulator :=
  let value := (state.value <<< 5) ||| BitVec.ofNat 32 index
  let bits := state.bits + 5
  if bits ≥ 8 then
    let bits := bits - 8
    let byte := (value.sshiftRight bits) &&& 0xFF
    { bits, value, bytes := state.bytes ++ [UInt8.ofNat byte.toNat] }
  else { state with bits, value }

-- `none` is a character that the alphabet does not have, which throws.
def pushAll : Accumulator → List (Option Nat) → Option (List UInt8)
  | state, [] => some state.bytes
  | _, none :: _ => none
  | state, some index :: rest => (state.push index).pushAll rest

end Accumulator

-- what `for (const char of text)` goes through
def chars : Units → List Units
  | [] => []
  | [c] => [[c]]
  | c :: d :: rest => if IsHigh c ∧ IsLow d then [c, d] :: chars rest else [c] :: chars (d :: rest)

-- `BASE32_ALPHABET.indexOf(char)`
def indexOf (char : Units) : Option Nat :=
  match char with
  | [c] => base32Alphabet.idxOf? c
  | _ => none

-- one text in two packages
def base32DecodeJs (upperOf : Nat → Units) (input : Units) : Option (List UInt8) :=
  let cleaned := unpadded (without isTrimmed (toUpperCase upperOf (trim input)))
  if cleaned.length = 0 then some [] else Accumulator.empty.pushAll ((chars cleaned).map indexOf)

def Web.base32Decode (upperOf : Nat → Units) (input : Units) : Option (List UInt8) :=
  base32DecodeJs upperOf input

def Extension.base32Decode (upperOf : Nat → Units) (input : Units) : Option (List UInt8) :=
  base32DecodeJs upperOf input

namespace Android

-- `trim()` of Kotlin
def trim (text : Units) : Units := (text.dropWhile isWhitespace).rdropWhile isWhitespace

/-- `regexSpace` is `\s` of `java.util.regex`, which has six characters on a desktop and all of Unicode's
white space on a device. -/
def base32Decode (upperOf : Nat → Units) (regexSpace : UInt16 → Bool) (input : Units) :
    Option (List UInt8) :=
  let cleaned := unpadded (without regexSpace (toUpperCase upperOf (trim input)))
  if cleaned.isEmpty then some []
  else Accumulator.empty.pushAll (cleaned.map fun char => base32Alphabet.idxOf? char)

end Android

def letterValue (c : UInt16) : Option Nat :=
  if 0x41 ≤ c ∧ c ≤ 0x5A then some (c.toNat - 0x41)
  else if 0x61 ≤ c ∧ c ≤ 0x7A then some (c.toNat - 0x61)
  else if 0x32 ≤ c ∧ c ≤ 0x37 then some (c.toNat - 0x32 + 26)
  else none

def remaining (input : Units) : Units := unpadded (without isTrimmed input)

def decoded (input : Units) : Option (List UInt8) :=
  ((remaining input).mapM letterValue).map fun values => (regroup 5 8 values).map UInt8.ofNat

namespace Accumulator

structure Holds (state : Accumulator) (seen : List Bool) : Prop where
  bits : state.bits = seen.length % 8
  value : state.value.toNat = fromBits seen % 2 ^ 32
  bytes : state.bytes = ((groups 8 seen).map fromBits).map UInt8.ofNat

theorem holds_empty : empty.Holds [] where
  bits := rfl
  value := rfl
  bytes := rfl

theorem toNat_shifted (value : BitVec 32) {index : Nat} (small : index < 32) :
    ((value <<< 5) ||| BitVec.ofNat 32 index).toNat = (value.toNat * 32 + index) % 2 ^ 32 := by
  have shifted : (value <<< 5).toNat = (value.toNat % 2 ^ 27) <<< 5 := by
    rw [BitVec.toNat_shiftLeft, Nat.shiftLeft_eq, Nat.shiftLeft_eq]
    omega
  have own : (BitVec.ofNat 32 index).toNat = index := by
    rw [BitVec.toNat_ofNat]
    omega
  rw [BitVec.toNat_or, shifted, own, ← Nat.shiftLeft_add_eq_or_of_lt small, Nat.shiftLeft_eq]
  omega

theorem toNat_byte (value : BitVec 32) {bits : Nat} (few : bits + 8 ≤ 32) :
    ((value.sshiftRight bits) &&& 0xFF).toNat = value.toNat / 2 ^ bits % 2 ^ 8 := by
  apply Nat.eq_of_testBit_eq
  intro i
  have mask : (0xFF : BitVec 32).getLsbD i = decide (i < 8) := Nat.testBit_two_pow_sub_one 8 i
  rw [BitVec.testBit_toNat, BitVec.getLsbD_and, mask, BitVec.getLsbD_sshiftRight, Nat.testBit_mod_two_pow,
    Nat.testBit_div_two_pow, BitVec.testBit_toNat]
  by_cases low : i < 8
  · have inside : bits + i < 32 := by omega
    have narrow : ¬32 ≤ i := by omega
    simp [low, inside, narrow, Nat.add_comm]
  · simp [low]

theorem holds_push {state : Accumulator} {seen : List Bool} (holds : state.Holds seen) {index : Nat}
    (small : index < 32) : (state.push index).Holds (seen ++ toBits 5 index) := by
  have length : (seen ++ toBits 5 index).length = seen.length + 5 := by
    rw [List.length_append, length_toBits]
  have value : ((state.value <<< 5) ||| BitVec.ofNat 32 index).toNat =
      fromBits (seen ++ toBits 5 index) % 2 ^ 32 := by
    rw [toNat_shifted _ small, holds.value, fromBits_append, fromBits_toBits, length_toBits]
    omega
  have bits := holds.bits
  by_cases full : state.bits + 5 ≥ 8
  · have next : (seen ++ toBits 5 index).length / 8 = seen.length / 8 + 1 := by omega
    have slice := @fromBits_slice (seen ++ toBits 5 index) (seen.length / 8 * 8) 8 (state.bits + 5 - 8)
      (by omega)
    have byte : (((state.value <<< 5) ||| BitVec.ofNat 32 index).sshiftRight (state.bits + 5 - 8) &&&
        0xFF).toNat = fromBits (((seen ++ toBits 5 index).drop (seen.length / 8 * 8)).take 8) := by
      rw [toNat_byte _ (by omega), value, slice, low_bits (by omega)]
    simp only [push, if_pos full]
    constructor
    · rw [length]
      dsimp only
      omega
    · exact value
    · simp only [groups_append_next next, List.map_append, List.map_singleton, ← holds.bytes, byte]
  · have same : (seen ++ toBits 5 index).length / 8 = seen.length / 8 := by omega
    simp only [push, if_neg full]
    constructor
    · rw [length]
      dsimp only
      omega
    · exact value
    · exact holds.bytes.trans (by rw [groups_append_same same])

theorem pushAll_some {state : Accumulator} {seen : List Bool} (holds : state.Holds seen)
    {indices : List Nat} (small : ∀ index ∈ indices, index < 32) :
    state.pushAll (indices.map some) =
      some (((groups 8 (seen ++ indices.flatMap (toBits 5))).map fromBits).map UInt8.ofNat) := by
  induction indices generalizing state seen with
  | nil => simp [pushAll, holds.bytes]
  | cons index indices ih =>
    obtain ⟨first, later⟩ := List.forall_mem_cons.mp small
    rw [List.map_cons, pushAll, ih (holds_push holds first) later, List.flatMap_cons, List.append_assoc]

theorem pushAll_none {state : Accumulator} {indices : List (Option Nat)} (bad : none ∈ indices) :
    state.pushAll indices = none := by
  induction indices generalizing state with
  | nil => cases bad
  | cons index indices ih =>
    cases index with
    | none => rfl
    | some index => exact ih ((List.mem_cons.mp bad).resolve_left (by simp))

end Accumulator

def bytesOf (text : Units) : List UInt8 :=
  (regroup 5 8 (text.map fun c => base32Alphabet.idxOf c)).map UInt8.ofNat

theorem idxOf_lt {c : UInt16} (known : c ∈ base32Alphabet) : base32Alphabet.idxOf c < 32 :=
  List.idxOf_lt_length_of_mem known

theorem idxOf?_eq {c : UInt16} :
    base32Alphabet.idxOf? c = if c ∈ base32Alphabet then some (base32Alphabet.idxOf c) else none := by
  split_ifs with known
  · obtain ⟨i, found⟩ := Option.isSome_iff_exists.mp (List.isSome_idxOf?.mpr known)
    rw [List.idxOf_eq_getD_idxOf?, found, Option.getD_some]
  · exact List.idxOf?_eq_none_iff.mpr known

theorem pushAll_units (text : Units) :
    Accumulator.empty.pushAll (text.map fun c => base32Alphabet.idxOf? c) =
      if ∀ c ∈ text, c ∈ base32Alphabet then some (bytesOf text) else none := by
  split_ifs with known
  · have indices : (text.map fun c => base32Alphabet.idxOf? c) =
        (text.map fun c => base32Alphabet.idxOf c).map some := by
      rw [List.map_map]
      apply List.map_congr_left
      intro c mem
      rw [idxOf?_eq, if_pos (known c mem)]
      rfl
    rw [indices, Accumulator.pushAll_some Accumulator.holds_empty]
    · rfl
    · intro index mem
      obtain ⟨c, unit, rfl⟩ := List.mem_map.mp mem
      exact idxOf_lt (known c unit)
  · push Not at known
    obtain ⟨c, mem, unknown⟩ := known
    exact Accumulator.pushAll_none (List.mem_map.mpr ⟨c, mem, by rw [idxOf?_eq, if_neg unknown]⟩)

theorem ascii_of_mem {c : UInt16} (known : c ∈ base32Alphabet) : c.toNat < 0x80 := by
  have all : base32Alphabet.all (fun c => decide (c.toNat < 0x80)) = true := by decide +kernel
  exact of_decide_eq_true (List.all_eq_true.mp all c known)

theorem pushAll_chars (state : Accumulator) (text : Units) :
    state.pushAll ((chars text).map indexOf) =
      state.pushAll (text.map fun c => base32Alphabet.idxOf? c) := by
  induction text using chars.induct generalizing state with
  | case1 => rfl
  | case2 c => rfl
  | case3 c d rest pair ih =>
    have unknown : c ∉ base32Alphabet := by
      intro known
      have ascii := ascii_of_mem known
      have high := pair.1.1
      omega
    rw [chars, if_pos pair, List.map_cons, List.map_cons, idxOf?_eq, if_neg unknown]
    rfl
  | case4 c d rest single ih =>
    rw [chars, if_neg single, List.map_cons, List.map_cons, indexOf]
    cases base32Alphabet.idxOf? c with
    | none => rfl
    | some index => exact ih (state.push index)

def capital (c : UInt16) : UInt16 := if 0x61 ≤ c ∧ c ≤ 0x7A then c - 0x20 else c

def foldings : List (UInt16 × Units) :=
  [(0x00DF, units "SS"), (0x0131, units "I"), (0x017F, units "S"), (0xFB00, units "FF"),
    (0xFB01, units "FI"), (0xFB02, units "FL"), (0xFB03, units "FFI"), (0xFB04, units "FFL"),
    (0xFB05, units "ST"), (0xFB06, units "ST")]

def isFolding (c : UInt16) : Bool := (foldings.map Prod.fst).contains c

def isSpace (c : UInt16) : Bool := isTrimmed c || isWhitespace c || c == 0x85

structure UpperCase (upperOf : Nat → Units) : Prop where
  ascii : ∀ c : UInt16, c.toNat < 0x80 → upperOf c.toNat = [capital c]
  folding : ∀ entry ∈ foldings, upperOf entry.1.toNat = entry.2
  space : ∀ c : UInt16, isSpace c = true → upperOf c.toNat = [c]
  other : ∀ c, 0x80 ≤ c → c < 0x110000 →
    (∀ unit : UInt16, unit.toNat = c → isFolding unit = false ∧ isSpace unit = false) →
    ∃ unit ∈ upperOf c, 0x80 ≤ unit.toNat ∧ isSpace unit = false

def Tame (c : UInt16) : Prop := c.toNat < 0x80 ∨ isSpace c = true ∨ isFolding c = true

theorem not_surrogate {c : UInt16} (tame : Tame c) : ¬IsHigh c := by
  rintro ⟨low, high⟩
  obtain ascii | space | folding := tame
  · omega
  · simp only [isSpace, isTrimmed, isWhitespace, Bool.or_eq_true, Bool.and_eq_true, decide_eq_true_eq,
      beq_iff_eq, UInt16.le_iff_toNat_le, ← UInt16.toNat_inj, UInt16.reduceToNat] at space
    omega
  · simp only [isFolding, foldings, List.map_cons, List.map_nil, List.contains_cons, List.contains_nil,
      Bool.or_eq_true, beq_iff_eq, ← UInt16.toNat_inj, UInt16.reduceToNat, Bool.false_eq_true, or_false]
      at folding
    omega

theorem codePoint_bounds {high low : UInt16} (isHigh : IsHigh high) (isLow : IsLow low) :
    0x10000 ≤ codePoint high low ∧ codePoint high low < 0x110000 := by
  have highMost := isHigh.2
  have lowMost := isLow.2
  have value : codePoint high low = 0x10000 + (high.toNat - 0xD800) * 0x400 + (low.toNat - 0xDC00) := rfl
  omega

def isBase32 (c : UInt16) : Bool := (letterValue c).isSome

def accepted (c : UInt16) : Bool := isBase32 c || isFolding c

theorem ascii_of_isBase32 {c : UInt16} (letter : isBase32 c = true) : c.toNat < 0x80 := by
  simp only [isBase32, letterValue] at letter
  split_ifs at letter with upper lower digit
  · exact Nat.lt_of_le_of_lt (UInt16.le_iff_toNat_le.mp upper.2) (by decide)
  · exact Nat.lt_of_le_of_lt (UInt16.le_iff_toNat_le.mp lower.2) (by decide)
  · exact Nat.lt_of_le_of_lt (UInt16.le_iff_toNat_le.mp digit.2) (by decide)
  · cases letter

theorem isSpace_letter {c : UInt16} (known : c ∈ base32Alphabet) :
    isSpace c = false ∧ c ≠ hyphen ∧ c ≠ padding := by
  have all : base32Alphabet.all (fun c => !isSpace c && c != hyphen && c != padding) = true := by
    decide +kernel
  simpa [and_assoc] using List.all_eq_true.mp all c known

theorem ascii_all {p : UInt16 → Bool} (all : (List.range 0x80).all (fun n => p (UInt16.ofNat n)) = true)
    {c : UInt16} (ascii : c.toNat < 0x80) : p c = true := by
  have own := List.all_eq_true.mp all c.toNat (List.mem_range.mpr ascii)
  rwa [UInt16.ofNat_toNat] at own

theorem folding_all {p : UInt16 → Bool} (all : (foldings.map Prod.fst).all p = true) {c : UInt16}
    (folding : isFolding c = true) : p c = true :=
  List.all_eq_true.mp all c (by simpa [isFolding] using folding)

theorem isSpace_accepted {c : UInt16} (taken : accepted c = true) :
    isSpace c = false ∧ c ≠ hyphen ∧ c ≠ padding := by
  have own : (!accepted c || (!isSpace c && c != hyphen && c != padding)) = true := by
    rw [accepted, Bool.or_eq_true] at taken
    obtain letter | folding := taken
    · exact @ascii_all (fun c => !accepted c || (!isSpace c && c != hyphen && c != padding))
        (by decide +kernel) c (ascii_of_isBase32 letter)
    · exact @folding_all (fun c => !accepted c || (!isSpace c && c != hyphen && c != padding))
        (by decide +kernel) c folding
  simpa [taken, and_assoc] using own

theorem capital_ascii {c : UInt16} (ascii : c.toNat < 0x80) :
    (capital c = c ∧ (accepted c = true ↔ c ∈ base32Alphabet)) ∨
      (accepted c = true ∧ capital c ∈ base32Alphabet) := by
  have own := @ascii_all (fun c => (capital c == c && accepted c == base32Alphabet.contains c) ||
    (accepted c && base32Alphabet.contains (capital c))) (by decide +kernel) c ascii
  simp only [Bool.or_eq_true, Bool.and_eq_true, beq_iff_eq, List.contains_iff_mem] at own
  refine own.imp_left fun same => ⟨same.1, ?_⟩
  rw [same.2, List.contains_iff_mem]

theorem letterValue_capital {c : UInt16} (letter : isBase32 c = true) :
    capital c ∈ base32Alphabet ∧ letterValue c = some (base32Alphabet.idxOf (capital c)) := by
  have own := @ascii_all (fun c => !isBase32 c || (base32Alphabet.contains (capital c) &&
    letterValue c == some (base32Alphabet.idxOf (capital c)))) (by decide +kernel) c
    (ascii_of_isBase32 letter)
  simpa [letter] using own

section Cleaning

variable {upperOf : Nat → Units}

theorem UpperCase.wild (upper : UpperCase upperOf) {c : UInt16} (wild : ¬Tame c) :
    ∃ unit ∈ upperOf c.toNat, 0x80 ≤ unit.toNat ∧ isSpace unit = false := by
  simp only [Tame, not_or, Bool.not_eq_true] at wild
  obtain ⟨notAscii, notSpace, notFolding⟩ := wild
  have bound := c.toNat_lt
  apply upper.other
  · omega
  · omega
  · intro unit same
    rw [UInt16.toNat_inj.mp same]
    exact ⟨notFolding, notSpace⟩

theorem toUpperCase_wild (upper : UpperCase upperOf) {text : Units} (wild : ∃ c ∈ text, ¬Tame c) :
    ∃ unit ∈ toUpperCase upperOf text, 0x80 ≤ unit.toNat ∧ isSpace unit = false := by
  induction text using toUpperCase.induct with
  | case1 => simp at wild
  | case2 c =>
    obtain ⟨c', mem, wild⟩ := wild
    rw [List.mem_singleton.mp mem] at wild
    exact upper.wild wild
  | case3 c d rest pair ih =>
    obtain ⟨least, most⟩ := codePoint_bounds pair.1 pair.2
    have beyond : ∀ unit : UInt16, unit.toNat = codePoint c d → isFolding unit = false ∧ isSpace unit = false := by
      intro unit same
      have small := unit.toNat_lt
      omega
    obtain ⟨unit, mem, high⟩ := upper.other (codePoint c d) (Nat.le_trans (by decide) least) most beyond
    refine ⟨unit, ?_, high⟩
    rw [toUpperCase, if_pos pair]
    exact List.mem_append_left _ mem
  | case4 c d rest single ih =>
    rw [toUpperCase, if_neg single]
    by_cases tame : Tame c
    · obtain ⟨c', mem, wild⟩ := wild
      have later : c' ∈ d :: rest := (List.mem_cons.mp mem).resolve_left fun same => wild (same ▸ tame)
      obtain ⟨unit, mem, high⟩ := ih ⟨c', later, wild⟩
      exact ⟨unit, List.mem_append_right _ mem, high⟩
    · obtain ⟨unit, mem, high⟩ := upper.wild tame
      exact ⟨unit, List.mem_append_left _ mem, high⟩

theorem toUpperCase_tame {text : Units} (tame : ∀ c ∈ text, Tame c) :
    toUpperCase upperOf text = text.flatMap fun c => upperOf c.toNat := by
  induction text using toUpperCase.induct with
  | case1 => rfl
  | case2 c => simp [toUpperCase]
  | case3 c d rest pair ih => exact absurd pair.1 (not_surrogate (tame c List.mem_cons_self))
  | case4 c d rest single ih =>
    rw [toUpperCase, if_neg single, ih fun c' mem => tame c' (List.mem_cons_of_mem _ mem)]
    rfl

/-- What becomes of a character: it stays, or it turns into letters of the alphabet. -/
theorem UpperCase.tame (upper : UpperCase upperOf) {c : UInt16} (tame : Tame c) :
    (upperOf c.toNat = [c] ∧ (accepted c = true ↔ c ∈ base32Alphabet)) ∨
      (accepted c = true ∧ upperOf c.toNat ≠ [] ∧ ∀ unit ∈ upperOf c.toNat, unit ∈ base32Alphabet) := by
  obtain ascii | space | folding := tame
  · rw [upper.ascii c ascii]
    obtain ⟨same, iff⟩ | ⟨taken, known⟩ := capital_ascii ascii
    · exact .inl ⟨by rw [same], iff⟩
    · exact .inr ⟨taken, by simp, by simpa using known⟩
  · refine .inl ⟨upper.space c space, fun taken => ?_, fun known => ?_⟩
    · rw [(isSpace_accepted taken).1] at space
      cases space
    · rw [(isSpace_letter known).1] at space
      cases space
  · have letters : foldings.all (fun entry => !entry.2.isEmpty && entry.2.all base32Alphabet.contains) = true := by
      decide +kernel
    have listed : c ∈ foldings.map Prod.fst := by simpa [isFolding] using folding
    obtain ⟨entry, mem, rfl⟩ := List.mem_map.mp listed
    have own := List.all_eq_true.mp letters entry mem
    rw [upper.folding entry mem]
    simp only [Bool.and_eq_true, Bool.not_eq_true', List.isEmpty_eq_false_iff, List.all_eq_true,
      List.contains_iff_mem] at own
    exact .inr ⟨by simp [accepted, folding], own⟩

theorem keep_letter {space : UInt16 → Bool} (known : ∀ c, space c = true → isSpace c = true) {c : UInt16}
    (visible : isSpace c = false) (other : c ≠ hyphen) : (!(space c || c == hyphen)) = true := by
  have notSpace : space c = false := by
    by_contra isSpace'
    rw [known c (by simpa using isSpace')] at visible
    cases visible
  simp [notSpace, other]

theorem without_flatMap (upper : UpperCase upperOf) {space : UInt16 → Bool}
    (known : ∀ c, space c = true → isSpace c = true) {text : Units} (tame : ∀ c ∈ text, Tame c) :
    without space (text.flatMap fun c => upperOf c.toNat) =
      (without space text).flatMap fun c => upperOf c.toNat := by
  induction text with
  | nil => rfl
  | cons c rest ih =>
    obtain ⟨first, later⟩ := List.forall_mem_cons.mp tame
    have next := ih later
    simp only [without] at next ⊢
    rw [List.flatMap_cons, List.filter_append, next, List.filter_cons]
    obtain ⟨same, -⟩ | ⟨taken, -, letters⟩ := upper.tame first
    · rw [same, List.filter_singleton]
      cases (!(space c || c == hyphen)) <;> simp [same]
    · obtain ⟨visible, other, -⟩ := isSpace_accepted taken
      have stay : (upperOf c.toNat).filter (fun c => !(space c || c == hyphen)) = upperOf c.toNat := by
        rw [List.filter_eq_self]
        intro unit mem
        obtain ⟨visible, other, -⟩ := isSpace_letter (letters unit mem)
        exact keep_letter known visible other
      rw [keep_letter known visible other, stay, if_pos rfl, List.flatMap_cons]

theorem unpadded_concat (text : Units) (c : UInt16) :
    unpadded (text ++ [c]) = if c = padding then unpadded text else text ++ [c] := by
  rw [unpadded, List.rdropWhile_concat]
  by_cases pad : c = padding
  · simp [pad, unpadded]
  · simp [pad]

theorem unpadded_flatMap (upper : UpperCase upperOf) {text : Units} (tame : ∀ c ∈ text, Tame c) :
    unpadded (text.flatMap fun c => upperOf c.toNat) = (unpadded text).flatMap fun c => upperOf c.toNat := by
  induction text using List.reverseRecOn with
  | nil => rfl
  | append_singleton text c ih =>
    have next := ih fun c mem => tame c (List.mem_append_left _ mem)
    rw [List.flatMap_append, List.flatMap_singleton, unpadded_concat]
    obtain ⟨same, -⟩ | ⟨taken, nonempty, letters⟩ := upper.tame (tame c (by simp))
    · rw [same, unpadded_concat]
      split_ifs with pad
      · exact next
      · rw [List.flatMap_append, List.flatMap_singleton, same]
    · obtain ⟨-, -, noPad⟩ := isSpace_accepted taken
      obtain ⟨init, last, split⟩ := (List.eq_nil_or_concat' _).resolve_left nonempty
      have lastLetter := letters last (by rw [split]; simp)
      rw [if_neg noPad, List.flatMap_append, List.flatMap_singleton, split, ← List.append_assoc,
        unpadded_concat, if_neg (isSpace_letter lastLetter).2.2]

theorem mem_unpadded {text : Units} {c : UInt16} (mem : c ∈ text) (other : c ≠ padding) : c ∈ unpadded text := by
  induction text using List.reverseRecOn with
  | nil => cases mem
  | append_singleton text d ih =>
    rw [unpadded_concat]
    split_ifs with pad
    · obtain earlier | last := List.mem_append.mp mem
      · exact ih earlier
      · exact absurd ((List.mem_singleton.mp last).trans pad) other
    · exact mem

theorem mem_of_unpadded {text : Units} {c : UInt16} (mem : c ∈ unpadded text) : c ∈ text :=
  (List.rdropWhile_prefix (· == padding) text).subset mem

theorem pushAll_cleaned (upper : UpperCase upperOf) {space : UInt16 → Bool}
    (known : ∀ c, space c = true → isSpace c = true) (text : Units) :
    Accumulator.empty.pushAll ((unpadded (without space (toUpperCase upperOf text))).map
        fun c => base32Alphabet.idxOf? c) =
      if ∀ c ∈ unpadded (without space text), accepted c = true then
        some (bytesOf ((unpadded (without space text)).flatMap fun c => upperOf c.toNat))
      else none := by
  rw [pushAll_units]
  by_cases tame : ∀ c ∈ text, Tame c
  · have kept : ∀ c ∈ without space text, Tame c := fun c mem => tame c (List.mem_of_mem_filter mem)
    have clean : unpadded (without space (toUpperCase upperOf text)) =
        (unpadded (without space text)).flatMap fun c => upperOf c.toNat := by
      rw [toUpperCase_tame tame, without_flatMap upper known tame, unpadded_flatMap upper kept]
    have all : (∀ unit ∈ unpadded (without space (toUpperCase upperOf text)), unit ∈ base32Alphabet) ↔
        ∀ c ∈ unpadded (without space text), accepted c = true := by
      rw [clean]
      constructor
      · intro letters c mem
        obtain ⟨same, iff⟩ | ⟨taken, -⟩ := upper.tame (kept c (mem_of_unpadded mem))
        · exact iff.mpr (letters c (List.mem_flatMap.mpr ⟨c, mem, by rw [same]; simp⟩))
        · exact taken
      · intro taken unit mem
        obtain ⟨c, mem, own⟩ := List.mem_flatMap.mp mem
        obtain ⟨same, iff⟩ | ⟨-, -, letters⟩ := upper.tame (kept c (mem_of_unpadded mem))
        · rw [same, List.mem_singleton] at own
          rw [own]
          exact iff.mp (taken c mem)
        · exact letters unit own
    rw [clean] at all ⊢
    exact if_congr all rfl rfl
  · -- What is left behind by the conversion, and the character itself, make both sides fail.
    push Not at tame
    obtain ⟨unit, mem, high, visible⟩ := toUpperCase_wild upper tame
    obtain ⟨c, member, wild⟩ := tame
    simp only [Tame, not_or, Bool.not_eq_true] at wild
    obtain ⟨notAscii, notSpace, notFolding⟩ := wild
    have stays : ∀ {text : Units} {c : UInt16}, c ∈ text → 0x80 ≤ c.toNat → isSpace c = false →
        c ∈ unpadded (without space text) := by
      intro text c mem high visible
      have noHyphen : c ≠ hyphen := fun same => by simp [same, hyphen] at high
      have noPad : c ≠ padding := fun same => by simp [same, padding] at high
      exact mem_unpadded (List.mem_filter.mpr ⟨mem, keep_letter known visible noHyphen⟩) noPad
    rw [if_neg, if_neg]
    · intro taken
      have own := taken c (stays member (Nat.le_of_not_lt notAscii) notSpace)
      rw [accepted, notFolding, Bool.or_false] at own
      exact notAscii (ascii_of_isBase32 own)
    · intro letters
      have ascii := ascii_of_mem (letters unit (stays mem high visible))
      omega

end Cleaning

theorem without_dropWhile {space drop : UInt16 → Bool} {text : Units}
    (gone : ∀ c ∈ text, drop c = true → space c = true) :
    without space (text.dropWhile drop) = without space text := by
  induction text with
  | nil => rfl
  | cons c rest ih =>
    rw [List.dropWhile_cons]
    split_ifs with dropped
    · rw [ih fun c mem => gone c (List.mem_cons_of_mem _ mem), without, without, List.filter_cons,
        gone c List.mem_cons_self dropped]
      simp
    · rfl

theorem without_reverse (space : UInt16 → Bool) (text : Units) :
    without space text.reverse = (without space text).reverse := by
  rw [without, without, List.filter_reverse]

theorem without_trimmed {space drop : UInt16 → Bool} {text : Units}
    (gone : ∀ c ∈ text, drop c = true → space c = true) :
    without space ((text.dropWhile drop).reverse.dropWhile drop).reverse = without space text := by
  have later : ∀ c ∈ (text.dropWhile drop).reverse, drop c = true → space c = true := fun c mem =>
    gone c ((List.dropWhile_sublist drop).subset (List.mem_reverse.mp mem))
  rw [without_reverse, without_dropWhile later, without_reverse, List.reverse_reverse, without_dropWhile gone]

theorem base32DecodeJs_eq {upperOf : Nat → Units} (upper : UpperCase upperOf) (input : Units) :
    base32DecodeJs upperOf input =
      if ∀ c ∈ remaining input, accepted c = true then
        some (bytesOf ((remaining input).flatMap fun c => upperOf c.toNat))
      else none := by
  have known : ∀ c, isTrimmed c = true → isSpace c = true := fun c space => by simp [isSpace, space]
  have run := pushAll_cleaned upper known (trim input)
  have trimmed : without isTrimmed (trim input) = without isTrimmed input := without_trimmed fun _ _ => id
  rw [trimmed] at run
  rw [base32DecodeJs, remaining, ← run, ← pushAll_chars]
  split_ifs with empty
  · rw [List.length_eq_zero_iff.mp empty]
    rfl
  · rfl

def Android.remaining (regexSpace : UInt16 → Bool) (input : Units) : Units :=
  unpadded (without regexSpace (Android.trim input))

theorem Android.base32Decode_eq {upperOf : Nat → Units} (upper : UpperCase upperOf)
    {regexSpace : UInt16 → Bool} (known : ∀ c, regexSpace c = true → isSpace c = true) (input : Units) :
    Android.base32Decode upperOf regexSpace input =
      if ∀ c ∈ Android.remaining regexSpace input, accepted c = true then
        some (bytesOf ((Android.remaining regexSpace input).flatMap fun c => upperOf c.toNat))
      else none := by
  have run := pushAll_cleaned upper known (Android.trim input)
  rw [Android.base32Decode, Android.remaining, ← run]
  split_ifs with empty
  · rw [List.isEmpty_iff.mp empty]
    rfl
  · rfl

theorem mapM_letterValue (text : Units) :
    text.mapM letterValue =
      if ∀ c ∈ text, isBase32 c = true then
        some ((text.map capital).map fun c => base32Alphabet.idxOf c)
      else none := by
  induction text with
  | nil => simp
  | cons c rest ih =>
    rw [List.mapM_cons, ih]
    by_cases letter : isBase32 c = true
    · rw [(letterValue_capital letter).2]
      by_cases later : ∀ c ∈ rest, isBase32 c = true
      · have all : ∀ d ∈ c :: rest, isBase32 d = true := List.forall_mem_cons.mpr ⟨letter, later⟩
        rw [if_pos later, if_pos all]
        rfl
      · have notAll : ¬∀ d ∈ c :: rest, isBase32 d = true := fun all => later (List.forall_mem_cons.mp all).2
        rw [if_neg later, if_neg notAll]
        rfl
    · have none' : letterValue c = none := by simpa [isBase32] using letter
      have notAll : ¬∀ d ∈ c :: rest, isBase32 d = true := fun all => letter (List.forall_mem_cons.mp all).1
      rw [none', if_neg notAll]
      rfl

theorem decoded_eq (input : Units) :
    decoded input =
      if ∀ c ∈ remaining input, isBase32 c = true then some (bytesOf ((remaining input).map capital))
      else none := by
  rw [decoded, mapM_letterValue]
  split_ifs <;> rfl

theorem flatMap_letters {upperOf : Nat → Units} (upper : UpperCase upperOf) {text : Units}
    (letters : ∀ c ∈ text, isBase32 c = true) :
    (text.flatMap fun c => upperOf c.toNat) = text.map capital := by
  induction text with
  | nil => rfl
  | cons c rest ih =>
    obtain ⟨first, later⟩ := List.forall_mem_cons.mp letters
    rw [List.flatMap_cons, upper.ascii c (ascii_of_isBase32 first), ih later]
    rfl

/-- No character folds into the alphabet, unless others make the text fail. -/
def NothingFolds (input : Units) : Prop :=
  (∀ c ∈ remaining input, isBase32 c = true ∨ isFolding c = true) → ∀ c ∈ remaining input, isBase32 c = true

def CleansAlike (regexSpace : UInt16 → Bool) (input : Units) : Prop :=
  (∀ c ∈ remaining input, isBase32 c = true) ↔
    ∀ c ∈ Android.remaining regexSpace input, isBase32 c = true ∨ isFolding c = true

theorem accepted_iff {text : Units} :
    (∀ c ∈ text, accepted c = true) ↔ ∀ c ∈ text, isBase32 c = true ∨ isFolding c = true := by
  simp only [accepted, Bool.or_eq_true]

theorem base32DecodeJs_decoded_iff {upperOf : Nat → Units} (upper : UpperCase upperOf) (input : Units) :
    base32DecodeJs upperOf input = decoded input ↔ NothingFolds input := by
  rw [base32DecodeJs_eq upper, decoded_eq, NothingFolds, ← accepted_iff]
  by_cases letters : ∀ c ∈ remaining input, isBase32 c = true
  · have taken : ∀ c ∈ remaining input, accepted c = true := fun c mem => by simp [accepted, letters c mem]
    rw [if_pos taken, if_pos letters, flatMap_letters upper letters]
    exact ⟨fun _ _ => letters, fun _ => rfl⟩
  · rw [if_neg letters]
    split_ifs with taken
    · exact ⟨fun same => (nomatch same), fun nothing => absurd (nothing taken) letters⟩
    · exact ⟨fun _ all => absurd all taken, fun _ => rfl⟩

theorem unpadded_filter {keep : UInt16 → Bool} (pad : keep padding = true) {text : Units}
    (kept : ∀ c ∈ unpadded text, keep c = true) : unpadded (text.filter keep) = unpadded text := by
  induction text using List.reverseRecOn with
  | nil => rfl
  | append_singleton text c ih =>
    rw [unpadded_concat] at kept ⊢
    rw [List.filter_append]
    split_ifs at kept ⊢ with same
    · rw [same, List.filter_singleton, pad, cond_true, unpadded_concat, if_pos rfl]
      exact ih kept
    · obtain ⟨before, last⟩ := List.forall_mem_append.mp kept
      rw [List.filter_eq_self.mpr before, List.filter_eq_self.mpr last, unpadded_concat, if_neg same]

theorem remaining_android {regexSpace : UInt16 → Bool}
    (known : ∀ c, regexSpace c = true → isSpace c = true) {input : Units}
    (letters : ∀ c ∈ remaining input, isBase32 c = true)
    (others : ∀ c ∈ Android.remaining regexSpace input, accepted c = true) :
    Android.remaining regexSpace input = remaining input := by
  have kinds : ∀ c ∈ input, isSpace c = true → isTrimmed c = true := by
    intro c mem space
    by_contra untrimmed
    have visible : c ≠ hyphen ∧ c ≠ padding :=
      ⟨fun same => by simp [same, hyphen, isSpace, isTrimmed, isWhitespace] at space,
        fun same => by simp [same, padding, isSpace, isTrimmed, isWhitespace] at space⟩
    have kept : c ∈ remaining input :=
      mem_unpadded (List.mem_filter.mpr ⟨mem, by simp [untrimmed, visible.1]⟩) visible.2
    have own := (isSpace_accepted (show accepted c = true by simp [accepted, letters c kept])).1
    rw [own] at space
    cases space
  have members : ∀ c ∈ Android.trim input, c ∈ input := fun c mem =>
    (List.dropWhile_sublist _).subset ((List.rdropWhile_prefix isWhitespace _).subset mem)
  have inner : without isTrimmed (without regexSpace (Android.trim input)) = without isTrimmed input := by
    have trimmed : without isTrimmed (Android.trim input) = without isTrimmed input :=
      without_trimmed fun c mem space => kinds c mem (by simp [isSpace, space])
    rw [← trimmed, without, without, without, List.filter_filter]
    apply List.filter_congr
    intro c mem
    cases space : regexSpace c with
    | false => cases isTrimmed c <;> simp
    | true => simp [kinds c (members c mem) (known c space)]
  have clean : ∀ c ∈ unpadded (without regexSpace (Android.trim input)), (!(isTrimmed c || c == hyphen)) = true := by
    intro c mem
    obtain ⟨visible, other, -⟩ := isSpace_accepted (others c mem)
    exact keep_letter (fun c space => by simp [isSpace, space]) visible other
  rw [remaining, ← inner, Android.remaining]
  exact (unpadded_filter (by decide) clean).symm

theorem android_decoded_iff {upperOf : Nat → Units} (upper : UpperCase upperOf) {regexSpace : UInt16 → Bool}
    (known : ∀ c, regexSpace c = true → isSpace c = true) (input : Units) :
    Android.base32Decode upperOf regexSpace input = decoded input ↔ CleansAlike regexSpace input := by
  rw [Android.base32Decode_eq upper known, decoded_eq, CleansAlike, ← accepted_iff]
  by_cases letters : ∀ c ∈ remaining input, isBase32 c = true
  · by_cases taken : ∀ c ∈ Android.remaining regexSpace input, accepted c = true
    · have same := remaining_android known letters taken
      rw [if_pos taken, if_pos letters, same, flatMap_letters upper letters]
      exact ⟨fun _ => ⟨fun _ => same ▸ taken, fun _ => letters⟩, fun _ => rfl⟩
    · rw [if_neg taken, if_pos letters]
      exact ⟨fun same => (nomatch same), fun alike => absurd (alike.mp letters) taken⟩
  · rw [if_neg letters]
    split_ifs with taken
    · exact ⟨fun same => (nomatch same), fun alike => absurd (alike.mpr taken) letters⟩
    · exact ⟨fun _ => ⟨fun all => absurd all letters, fun all => absurd all taken⟩, fun _ => rfl⟩

/-- The three functions decode a text as promised exactly if no character folds into the alphabet and both
ways of cleaning agree on the text. `webUpper` and `androidUpper` are the tables of the two languages. -/
theorem base32Decode_promised_iff {webUpper androidUpper : Nat → Units} (web : UpperCase webUpper)
    (android : UpperCase androidUpper) {regexSpace : UInt16 → Bool}
    (known : ∀ c, regexSpace c = true → isSpace c = true) (input : Units) :
    (Web.base32Decode webUpper input = decoded input ∧
      Extension.base32Decode webUpper input = decoded input ∧
      Android.base32Decode androidUpper regexSpace input = decoded input) ↔
      NothingFolds input ∧ CleansAlike regexSpace input := by
  rw [Web.base32Decode, Extension.base32Decode, base32DecodeJs_decoded_iff web,
    android_decoded_iff android known]
  tauto

def sampleUpper (c : Nat) : Units :=
  if 0x61 ≤ c ∧ c ≤ 0x7A then [UInt16.ofNat (c - 0x20)]
  else
    match foldings.find? fun entry => entry.1.toNat == c with
    | some entry => entry.2
    | none =>
      if c < 0x10000 then [UInt16.ofNat c]
      else [UInt16.ofNat (0xD800 + (c - 0x10000) / 0x400), UInt16.ofNat (0xDC00 + (c - 0x10000) % 0x400)]

theorem find?_foldings {c : Nat}
    (other : ∀ unit : UInt16, unit.toNat = c → isFolding unit = false) :
    (foldings.find? fun entry => entry.1.toNat == c) = none := by
  rw [List.find?_eq_none]
  intro entry mem same
  have listed : isFolding entry.1 = true := by simpa [isFolding] using ⟨entry.2, mem⟩
  rw [other entry.1 (by simpa using same)] at listed
  cases listed

theorem upperCase_sampleUpper : UpperCase sampleUpper where
  ascii c ascii := by
    have own := @ascii_all (fun c => sampleUpper c.toNat == [capital c]) (by decide +kernel) c ascii
    exact beq_iff_eq.mp own
  folding entry mem := by
    have all : foldings.all (fun entry => sampleUpper entry.1.toNat == entry.2) = true := by decide +kernel
    exact beq_iff_eq.mp (List.all_eq_true.mp all entry mem)
  space c space := by
    have notFolding : isFolding c = false := by
      by_contra folding
      rw [Bool.not_eq_false] at folding
      have taken : accepted c = true := by rw [accepted, folding, Bool.or_true]
      rw [(isSpace_accepted taken).1] at space
      cases space
    have notLower : ¬(0x61 ≤ c.toNat ∧ c.toNat ≤ 0x7A) := by
      rintro ⟨low, high⟩
      have own := @ascii_all (fun c => !isSpace c || !(decide (0x61 ≤ c.toNat) && decide (c.toNat ≤ 0x7A)))
        (by decide +kernel) c (by omega)
      simp [space, low, high] at own
    rw [sampleUpper, if_neg notLower, find?_foldings]
    · dsimp only
      rw [if_pos c.toNat_lt, UInt16.ofNat_toNat]
    · intro unit same
      rw [UInt16.toNat_inj.mp same]
      exact notFolding
  other c high most other := by
    have notLower : ¬(0x61 ≤ c ∧ c ≤ 0x7A) := by omega
    rw [sampleUpper, if_neg notLower, find?_foldings fun unit same => (other unit same).1]
    dsimp only
    split_ifs with small
    · have value : (UInt16.ofNat c).toNat = c := UInt16.toNat_ofNat_of_lt' small
      exact ⟨_, List.mem_cons_self, by rw [value]; exact high, (other _ value).2⟩
    · have value : (UInt16.ofNat (0xD800 + (c - 0x10000) / 0x400)).toNat = 0xD800 + (c - 0x10000) / 0x400 :=
        UInt16.toNat_ofNat_of_lt' (show 0xD800 + (c - 0x10000) / 0x400 < 0x10000 by omega)
      generalize UInt16.ofNat (0xD800 + (c - 0x10000) / 0x400) = unit at value ⊢
      have isHigh : IsHigh unit := by
        constructor
        · omega
        · omega
      refine ⟨unit, List.mem_cons_self, by omega, ?_⟩
      by_contra space
      rw [Bool.not_eq_false] at space
      exact not_surrogate (.inr (.inl space)) isHigh

-- `\s` of a desktop
def javaSpace (c : UInt16) : Bool := c == 0x20 || (0x09 ≤ c && c ≤ 0x0D)

theorem isSpace_javaSpace (c : UInt16) (space : javaSpace c = true) : isSpace c = true := by
  simp only [javaSpace, Bool.or_eq_true] at space
  simp only [isSpace, isTrimmed, Bool.or_eq_true]
  tauto

def spaced : Units := units " jbsw-y3dp EhPk3PXP=="

theorem base32Decode_promised_spaced :
    decoded spaced = some [72, 101, 108, 108, 111, 33, 222, 173, 190, 239] ∧
      Web.base32Decode sampleUpper spaced = decoded spaced ∧
      Extension.base32Decode sampleUpper spaced = decoded spaced ∧
      Android.base32Decode sampleUpper javaSpace spaced = decoded spaced := by
  have left : ∀ c ∈ remaining spaced, isBase32 c = true :=
    List.all_eq_true.mp (by decide +kernel : (remaining spaced).all isBase32 = true)
  have leftAndroid : ∀ c ∈ Android.remaining javaSpace spaced, isBase32 c = true :=
    List.all_eq_true.mp (by decide +kernel : (Android.remaining javaSpace spaced).all isBase32 = true)
  exact ⟨by decide +kernel, (base32Decode_promised_iff upperCase_sampleUpper upperCase_sampleUpper
    isSpace_javaSpace spaced).mpr ⟨fun _ => left, fun _ c mem => .inl (leftAndroid c mem), fun _ => left⟩⟩

/-- A long s is taken for an S, and a byte order mark only by two of the three. -/
theorem base32Decode_not_promised :
    (decoded [0x4A, 0x42, 0x17F, 0x57] = none ∧
      Web.base32Decode sampleUpper [0x4A, 0x42, 0x17F, 0x57] = some [72, 101] ∧
      Extension.base32Decode sampleUpper [0x4A, 0x42, 0x17F, 0x57] = some [72, 101] ∧
      Android.base32Decode sampleUpper javaSpace [0x4A, 0x42, 0x17F, 0x57] = some [72, 101]) ∧
    (decoded [0xFEFF, 0x4A, 0x42, 0x53, 0x57] = some [72, 101] ∧
      Web.base32Decode sampleUpper [0xFEFF, 0x4A, 0x42, 0x53, 0x57] = some [72, 101] ∧
      Android.base32Decode sampleUpper javaSpace [0xFEFF, 0x4A, 0x42, 0x53, 0x57] = none) := by
  decide +kernel

end ZenPass.Client.Base32
