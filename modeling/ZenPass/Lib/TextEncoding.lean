import ZenPass.Lib.Cbor
import ZenPass.Lib.JsonText

set_option autoImplicit false

namespace ZenPass.TextEncoding

open JsonText
open Cbor (Bytes utf8 ofUtf8)

def IsSurrogate (c : UInt16) : Prop := IsHigh c ∨ IsLow c

instance (c : UInt16) : Decidable (IsSurrogate c) := inferInstanceAs (Decidable (_ ∨ _))

def pairChar (c d : UInt16) : Char :=
  Char.ofNat (0x10000 + (c.toNat - 0xD800) * 0x400 + (d.toNat - 0xDC00))

def singleChar (replacement : Char) (c : UInt16) : Char :=
  if IsSurrogate c then replacement else Char.ofNat c.toNat

def scalars (replacement : Char) : Units → List Char
  | [] => []
  | [c] => [singleChar replacement c]
  | c :: d :: rest =>
      if IsHigh c ∧ IsLow d then pairChar c d :: scalars replacement rest
      else singleChar replacement c :: scalars replacement (d :: rest)

def encode (replacement : Char) (text : Units) : Bytes :=
  utf8 (String.ofList (scalars replacement text))

def textEncode : Units → Bytes := encode '\ufffd'

def javaEncode : Units → Bytes := encode '?'

def decode (bytes : Bytes) : Option Units := (ofUtf8 bytes).map units

def dropMark : Units → Units
  | [] => []
  | c :: rest => if c = 0xFEFF then rest else c :: rest

def WellFormed : Units → Prop
  | [] => True
  | [c] => ¬ IsSurrogate c
  | c :: d :: rest =>
      if IsHigh c ∧ IsLow d then WellFormed rest else ¬ IsSurrogate c ∧ WellFormed (d :: rest)

def replaced (replacement : UInt16) : Units → Units
  | [] => []
  | [c] => [if IsSurrogate c then replacement else c]
  | c :: d :: rest =>
      if IsHigh c ∧ IsLow d then c :: d :: replaced replacement rest
      else (if IsSurrogate c then replacement else c) :: replaced replacement (d :: rest)

theorem decode_utf8 (text : String) : decode (utf8 text) = some (units text) := by
  rw [decode, Cbor.ofUtf8_utf8, Option.map_some]

theorem units_ofList_cons (c : Char) (rest : List Char) :
    units (String.ofList (c :: rest)) =
      (Utf16.unitsOfChar c).map UInt16.ofNat ++ units (String.ofList rest) := by
  simp only [units, Utf16.codeUnits, String.toList_ofList, List.flatMap_cons, List.map_append]

theorem toNat_charOfNat {n : Nat} (valid : n.isValidChar) : (Char.ofNat n).toNat = n := by
  rw [Char.ofNat, dif_pos valid]
  rfl

theorem units_pairChar {c d : UInt16} (high : IsHigh c) (low : IsLow d) :
    (Utf16.unitsOfChar (pairChar c d)).map UInt16.ofNat = [c, d] := by
  obtain ⟨highLow, highMost⟩ := high
  obtain ⟨lowLow, lowMost⟩ := low
  have value : (pairChar c d).toNat =
      0x10000 + (c.toNat - 0xD800) * 0x400 + (d.toNat - 0xDC00) :=
    toNat_charOfNat (.inr ⟨by omega, by omega⟩)
  rw [Utf16.unitsOfChar, value, if_neg (by omega), List.map_cons, List.map_cons, List.map_nil]
  have first : 0xD800 + (0x10000 + (c.toNat - 0xD800) * 0x400 + (d.toNat - 0xDC00) - 0x10000) / 0x400
      = c.toNat := by omega
  have second : 0xDC00 + (0x10000 + (c.toNat - 0xD800) * 0x400 + (d.toNat - 0xDC00) - 0x10000) % 0x400
      = d.toNat := by omega
  rw [first, second, UInt16.ofNat_toNat, UInt16.ofNat_toNat]

theorem units_charOfNat {c : UInt16} (plain : ¬ IsSurrogate c) :
    (Utf16.unitsOfChar (Char.ofNat c.toNat)).map UInt16.ofNat = [c] := by
  have bound := c.toNat_lt
  simp only [IsSurrogate, IsHigh, IsLow] at plain
  have valid : c.toNat.isValidChar := by
    rw [Nat.isValidChar]
    omega
  rw [Utf16.unitsOfChar, toNat_charOfNat valid, if_pos (by omega), List.map_singleton,
    UInt16.ofNat_toNat]

section Replaced

variable {replacement : Char} {unit : UInt16}

theorem units_singleChar (single : (Utf16.unitsOfChar replacement).map UInt16.ofNat = [unit])
    (c : UInt16) :
    (Utf16.unitsOfChar (singleChar replacement c)).map UInt16.ofNat =
      [if IsSurrogate c then unit else c] := by
  rw [singleChar]
  split
  · exact single
  · rename_i plain
    exact units_charOfNat plain

theorem decode_encode (single : (Utf16.unitsOfChar replacement).map UInt16.ofNat = [unit])
    (text : Units) : decode (encode replacement text) = some (replaced unit text) := by
  rw [encode, decode_utf8, Option.some.injEq]
  fun_induction scalars replacement text with
  | case1 => rfl
  | case2 c => rw [units_ofList_cons, units_singleChar single, replaced]; rfl
  | case3 c d rest pair ih =>
      rw [units_ofList_cons, units_pairChar pair.1 pair.2, ih, replaced, if_pos pair]
      rfl
  | case4 c d rest apart ih =>
      rw [units_ofList_cons, units_singleChar single, ih, replaced, if_neg apart]
      rfl

end Replaced

theorem replaced_of_wellFormed {text : Units} (wellFormed : WellFormed text) (unit : UInt16) :
    replaced unit text = text := by
  fun_induction replaced unit text with
  | case1 => rfl
  | case2 c =>
      rw [WellFormed] at wellFormed
      rw [if_neg wellFormed]
  | case3 c d rest pair ih =>
      rw [WellFormed, if_pos pair] at wellFormed
      rw [ih wellFormed]
  | case4 c d rest apart ih =>
      rw [WellFormed, if_neg apart] at wellFormed
      rw [if_neg wellFormed.1, ih wellFormed.2]

theorem decode_textEncode {text : Units} (wellFormed : WellFormed text) :
    decode (textEncode text) = some text := by
  have single : (Utf16.unitsOfChar '\uFFFD').map UInt16.ofNat = [0xFFFD] := by decide
  rw [textEncode, decode_encode single, replaced_of_wellFormed wellFormed]

theorem wellFormed_of_replaced {unit : UInt16} (plain : ¬ IsSurrogate unit) {text : Units}
    (same : replaced unit text = text) : WellFormed text := by
  have kept {c : UInt16} (same : (if IsSurrogate c then unit else c) = c) : ¬ IsSurrogate c := by
    intro surrogate
    rw [if_pos surrogate] at same
    rw [same] at plain
    exact plain surrogate
  fun_induction replaced unit text with
  | case1 => trivial
  | case2 c => exact kept (List.cons.inj same).1
  | case3 c d rest pair ih =>
      rw [WellFormed, if_pos pair]
      exact ih (List.cons.inj (List.cons.inj same).2).2
  | case4 c d rest apart ih =>
      rw [WellFormed, if_neg apart]
      exact ⟨kept (List.cons.inj same).1, ih (List.cons.inj same).2⟩

theorem wellFormed_cons {c : UInt16} (plain : ¬ IsSurrogate c) {rest : Units}
    (wellFormed : WellFormed rest) : WellFormed (c :: rest) := by
  cases rest with
  | nil => exact plain
  | cons d rest =>
      rw [WellFormed, if_neg fun pair => plain (.inl pair.1)]
      exact ⟨plain, wellFormed⟩

theorem wellFormed_append {first second : Units} (one : WellFormed first)
    (two : WellFormed second) : WellFormed (first ++ second) := by
  fun_induction WellFormed first with
  | case1 => exact two
  | case2 c => exact wellFormed_cons one two
  | case3 c d rest pair ih =>
      rw [List.cons_append, List.cons_append, WellFormed, if_pos pair]
      exact ih one
  | case4 c d rest apart ih => exact wellFormed_cons one.1 (ih one.2)

theorem replaced_cons (unit : UInt16) {c : UInt16} (plain : ¬ IsSurrogate c) (rest : Units) :
    replaced unit (c :: rest) = c :: replaced unit rest := by
  cases rest with
  | nil => simp only [replaced, if_neg plain]
  | cons d rest => rw [replaced, if_neg fun pair => plain (.inl pair.1), if_neg plain]

theorem replaced_append_cons (unit : UInt16) (text : Units) {c : UInt16} (plain : ¬ IsSurrogate c)
    (rest : Units) :
    replaced unit (text ++ c :: rest) = replaced unit text ++ c :: replaced unit rest := by
  fun_induction replaced unit text with
  | case1 => exact replaced_cons unit plain rest
  | case2 d =>
      rw [List.cons_append, List.nil_append, replaced,
        if_neg fun pair => plain (.inr pair.2), replaced_cons unit plain]
      rfl
  | case3 d e later pair ih =>
      rw [List.cons_append, List.cons_append, replaced, if_pos pair, ih]
      rfl
  | case4 d e later apart ih =>
      rw [List.cons_append, List.cons_append, replaced, if_neg apart, ← List.cons_append, ih]
      rfl

theorem replaced_append_plain (unit : UInt16) {text : Units} (plain : ∀ c ∈ text, ¬ IsSurrogate c)
    (rest : Units) : replaced unit (text ++ rest) = text ++ replaced unit rest := by
  induction text with
  | nil => rfl
  | cons c later ih =>
      rw [List.cons_append, replaced_cons unit (plain c List.mem_cons_self),
        ih fun d member => plain d (List.mem_cons_of_mem _ member), List.cons_append]

theorem hexDigit_small (digit : Nat) (small : digit < 16) : ¬ IsSurrogate (hexDigit digit) := by
  have each : ∀ i : Fin 16, ¬ IsSurrogate (hexDigit i) := by decide
  exact each ⟨digit, small⟩

theorem unicodeEscape_plain (c : UInt16) : ∀ d ∈ unicodeEscape c, ¬ IsSurrogate d := by
  have bound := c.toNat_lt
  simp only [unicodeEscape, List.forall_mem_cons]
  exact ⟨by decide, by decide, hexDigit_small _ (by omega), hexDigit_small _ (by omega),
    hexDigit_small _ (by omega), hexDigit_small _ (by omega), by simp⟩

theorem escapeUnit_plain {c : UInt16} (plain : ¬ IsSurrogate c) :
    ∀ d ∈ escapeUnit c, ¬ IsSurrogate d := by
  have pair (mark : UInt16) (other : ¬ IsSurrogate mark) :
      ∀ d ∈ [backslash, mark], ¬ IsSurrogate d := by
    have first : ¬ IsSurrogate backslash := by decide
    simp [first, other]
  rw [escapeUnit]
  split_ifs
  · exact pair _ (by decide)
  · exact pair _ (by decide)
  · exact pair _ (by decide)
  · exact pair _ (by decide)
  · exact pair _ (by decide)
  · exact pair _ (by decide)
  · exact pair _ (by decide)
  · exact unicodeEscape_plain c
  · simpa using plain

theorem escapeUnit_surrogate {c : UInt16} (surrogate : IsSurrogate c) : escapeUnit c = [c] := by
  have large : 0xD800 ≤ c.toNat := by
    simp only [IsSurrogate, IsHigh, IsLow] at surrogate
    omega
  have other (d : UInt16) (small : d.toNat < 0xD800) : c ≠ d := by
    rintro rfl
    omega
  have visible : ¬ c < 0x20 := by
    rw [UInt16.lt_iff_toNat_lt]
    exact Nat.not_lt.mpr (Nat.le_trans (by decide) large)
  rw [escapeUnit, if_neg (other _ (by decide)), if_neg (other _ (by decide)),
    if_neg (other _ (by decide)), if_neg (other _ (by decide)), if_neg (other _ (by decide)),
    if_neg (other _ (by decide)), if_neg (other _ (by decide)), if_neg visible]

theorem escapeSingle_isPlain (c : UInt16) : ∀ d ∈ escapeSingle c, ¬ IsSurrogate d := by
  rw [escapeSingle]
  split
  · exact unicodeEscape_plain c
  · rename_i plain
    exact escapeUnit_plain plain

theorem wellFormed_plain {text : Units} (plain : ∀ c ∈ text, ¬ IsSurrogate c) :
    WellFormed text := by
  induction text with
  | nil => trivial
  | cons c rest ih =>
      exact wellFormed_cons (plain c List.mem_cons_self)
        (ih fun d member => plain d (List.mem_cons_of_mem _ member))

theorem wellFormed_escaped (text : Units) : WellFormed (escaped text) := by
  fun_induction escaped text with
  | case1 => trivial
  | case2 c => exact wellFormed_plain (escapeSingle_isPlain c)
  | case3 c d rest pair ih =>
      rw [WellFormed, if_pos pair]
      exact ih
  | case4 c d rest apart ih =>
      exact wellFormed_append (wellFormed_plain (escapeSingle_isPlain c)) ih

theorem wellFormed_quote (text : Units) : WellFormed (quote text) := by
  have mark : ¬ IsSurrogate quotationMark := by decide
  rw [quote, List.cons_append]
  exact wellFormed_cons mark (wellFormed_append (wellFormed_escaped text)
    (wellFormed_cons mark (show WellFormed [] from trivial)))

theorem wellFormed_stringify (members : List (Units × Units)) :
    WellFormed (stringify (.object (stringMembers members))) := by
  have colon : ¬ IsSurrogate 0x3A := by decide
  have comma : ¬ IsSurrogate 0x2C := by decide
  have close : ¬ IsSurrogate 0x7D := by decide
  have nothing : WellFormed [] := trivial
  rw [stringify, write]
  apply wellFormed_cons (by decide)
  induction members with
  | nil => exact wellFormed_cons close nothing
  | cons first rest ih =>
      cases rest with
      | nil =>
          simp only [stringMembers, List.map_cons, List.map_nil, writeMembers, write]
          exact wellFormed_append (wellFormed_quote _) (wellFormed_cons colon
            (wellFormed_append (wellFormed_quote _) (wellFormed_cons close nothing)))
      | cons second rest =>
          simp only [stringMembers, List.map_cons, writeMembers, write] at ih ⊢
          exact wellFormed_append (wellFormed_quote _) (wellFormed_cons colon
            (wellFormed_append (wellFormed_quote _) (wellFormed_cons comma ih)))

section Raw

variable {unit : UInt16} (itself : escapeUnit unit = [unit])

include itself

theorem replaced_escapeUnits (text : Units) :
    replaced unit (text.flatMap escapeUnit) = (replaced unit text).flatMap escapeUnit := by
  fun_induction replaced unit text with
  | case1 => rfl
  | case2 c =>
      rw [List.flatMap_cons, List.flatMap_nil, List.append_nil]
      split
      · rename_i surrogate
        rw [escapeUnit_surrogate surrogate, replaced, if_pos surrogate, List.flatMap_singleton,
          itself]
      · rename_i single
        have units := replaced_append_plain unit (escapeUnit_plain single) []
        rw [List.append_nil, replaced, List.append_nil] at units
        rw [units, List.flatMap_singleton]
  | case3 c d rest pair ih =>
      simp only [List.flatMap_cons, escapeUnit_surrogate (.inl pair.1),
        escapeUnit_surrogate (.inr pair.2), List.cons_append, List.nil_append]
      rw [replaced, if_pos pair, ih]
  | case4 c d rest apart ih =>
      change replaced unit (escapeUnit c ++ (d :: rest).flatMap escapeUnit) = _
      split
      · rename_i surrogate
        change _ = escapeUnit unit ++ (replaced unit (d :: rest)).flatMap escapeUnit
        rw [itself, ← ih, escapeUnit_surrogate surrogate]
        -- the unit after it makes no pair of it, escaped or not
        have next : ∃ e later, (d :: rest).flatMap escapeUnit = e :: later ∧
            ¬ (IsHigh c ∧ IsLow e) := by
          by_cases half : IsSurrogate d
          · refine ⟨d, rest.flatMap escapeUnit, ?_, apart⟩
            rw [List.flatMap_cons, escapeUnit_surrogate half, List.singleton_append]
          · have units := escapeUnit_plain half
            rw [List.flatMap_cons]
            cases escaped : escapeUnit d with
            | nil =>
                have empty : escapeUnit d ≠ [] := by
                  rw [escapeUnit]
                  split_ifs <;> simp [unicodeEscape]
                exact absurd escaped empty
            | cons e later =>
                rw [escaped] at units
                refine ⟨e, later ++ rest.flatMap escapeUnit, rfl, fun pair => ?_⟩
                exact units e List.mem_cons_self (.inr pair.2)
        obtain ⟨e, later, same, alone⟩ := next
        rw [same, List.singleton_append, replaced, if_neg alone, if_pos surrogate,
          List.singleton_append]
      · rename_i single
        rw [replaced_append_plain unit (escapeUnit_plain single), ih]
        rfl

theorem replaced_writeRaw (members : List (Units × Units)) :
    replaced unit (write quoteRaw (.object (stringMembers members))) =
      write quoteRaw (.object (stringMembers
        (members.map fun member => (replaced unit member.1, replaced unit member.2)))) := by
  have mark : ¬ IsSurrogate quotationMark := by decide
  have colon : ¬ IsSurrogate 0x3A := by decide
  have comma : ¬ IsSurrogate 0x2C := by decide
  have close : ¬ IsSurrogate 0x7D := by decide
  have quoted (text rest : Units) : replaced unit (quoteRaw text ++ rest) =
      quoteRaw (replaced unit text) ++ replaced unit rest := by
    simp only [quoteRaw, List.cons_append, List.append_assoc, List.nil_append]
    rw [replaced_cons unit mark, replaced_append_cons unit _ mark,
      replaced_escapeUnits itself]
  have nothing : replaced unit [] = [] := rfl
  rw [write, write, replaced_cons unit (by decide), List.cons_inj_right]
  induction members with
  | nil => exact replaced_cons unit close []
  | cons first rest ih =>
      cases rest with
      | nil =>
          simp only [stringMembers, List.map_cons, List.map_nil, writeMembers, write, quoted,
            replaced_cons unit colon, replaced_cons unit close, nothing]
      | cons second rest =>
          simp only [stringMembers, List.map_cons, writeMembers, write] at ih ⊢
          simp only [quoted, replaced_cons unit colon, replaced_cons unit comma, ih]

end Raw

def IsAscii (text : Units) : Prop := ∀ c ∈ text, c.toNat < 0x80

theorem utf8_length {chars : List Char} (ascii : ∀ c ∈ chars, c.toNat < 0x80) :
    (utf8 (String.ofList chars)).length = chars.length := by
  have bytes : utf8 (String.ofList chars) = chars.flatMap String.utf8EncodeChar := by
    simp [utf8, String.toByteArray_ofList, List.utf8Encode]
  rw [bytes]
  clear bytes
  induction chars with
  | nil => rfl
  | cons c rest ih =>
      have later := ih fun d member => ascii d (List.mem_cons_of_mem _ member)
      have one : c.utf8Size = 1 := by
        rw [Char.utf8Size_eq_one_iff, UInt32.le_iff_toNat_le]
        exact Nat.le_of_lt_succ (ascii c List.mem_cons_self)
      rw [List.flatMap_cons, List.length_append, String.length_utf8EncodeChar, one, later,
        List.length_cons]
      omega

theorem scalars_ascii {replacement : Char} {text : Units} (ascii : IsAscii text) :
    scalars replacement text = text.map fun c => Char.ofNat c.toNat := by
  have plain {c : UInt16} (small : c.toNat < 0x80) : ¬ IsSurrogate c := by
    simp only [IsSurrogate, IsHigh, IsLow]
    omega
  fun_induction scalars replacement text with
  | case1 => rfl
  | case2 c =>
      rw [singleChar, if_neg (plain (ascii c (by simp)))]
      rfl
  | case3 c d rest pair ih => exact absurd (.inl pair.1) (plain (ascii c (by simp)))
  | case4 c d rest apart ih =>
      rw [singleChar, if_neg (plain (ascii c (by simp))),
        ih fun e member => ascii e (List.mem_cons_of_mem _ member)]
      rfl

theorem length_encode {replacement : Char} {text : Units} (ascii : IsAscii text) :
    (encode replacement text).length = text.length := by
  rw [encode, scalars_ascii ascii, utf8_length, List.length_map]
  intro c member
  obtain ⟨unit, inside, rfl⟩ := List.mem_map.mp member
  have small := ascii unit inside
  rw [toNat_charOfNat (.inl (by omega))]
  exact small

theorem units_ascii {text : String} (ascii : ∀ c ∈ text.toList, c.toNat < 0x80) :
    units text = text.toList.map fun c => UInt16.ofNat c.toNat := by
  rw [units, Utf16.codeUnits]
  generalize text.toList = chars at ascii
  induction chars with
  | nil => rfl
  | cons c rest ih =>
      have small := ascii c List.mem_cons_self
      rw [List.flatMap_cons, List.map_append,
        ih fun d member => ascii d (List.mem_cons_of_mem _ member), Utf16.unitsOfChar,
        if_pos (by omega)]
      rfl

def PlainChar (c : Char) : Prop :=
  0x20 ≤ c.toNat ∧ c.toNat < 0x80 ∧ c.toNat ≠ 0x22 ∧ c.toNat ≠ 0x5C

instance (c : Char) : Decidable (PlainChar c) := inferInstanceAs (Decidable (_ ∧ _))

def PlainText (text : String) : Prop := ∀ c ∈ text.toList, PlainChar c

instance (text : String) : Decidable (PlainText text) :=
  List.decidableBAll PlainChar text.toList

theorem PlainText.units_eq {text : String} (plain : PlainText text) :
    units text = text.toList.map fun c => UInt16.ofNat c.toNat :=
  units_ascii fun c member => (plain c member).2.1

theorem PlainText.isPlain {text : String} (plain : PlainText text) :
    ∀ c ∈ units text, IsPlain c := by
  intro c member
  rw [plain.units_eq] at member
  obtain ⟨char, inside, rfl⟩ := List.mem_map.mp member
  have here := plain char inside
  have small : char.toNat < UInt16.size := Nat.lt_trans here.2.1 (by decide)
  rw [IsPlain, UInt16.toNat_ofNat_of_lt' small]
  exact here

theorem PlainText.length_units {text : String} (plain : PlainText text) :
    (units text).length = text.length := by
  rw [plain.units_eq, List.length_map, String.length_toList]

theorem PlainText.ascii {text : String} (plain : PlainText text) : IsAscii (units text) :=
  fun c member => (plain.isPlain c member).2.1

theorem PlainText.quote_eq {text : String} (plain : PlainText text) :
    quote (units text) = quotationMark :: units text ++ [quotationMark] := by
  rw [quote, escaped_plain plain.isPlain]

theorem PlainText.length_quote {text : String} (plain : PlainText text) :
    (quote (units text)).length = text.length + 2 := by
  rw [plain.quote_eq, List.length_append, List.length_cons, plain.length_units]
  rfl

theorem PlainText.length_utf8 {text : String} (plain : PlainText text) :
    (utf8 text).length = text.length := by
  have bytes := utf8_length fun c member => (plain c member).2.1
  rw [String.ofList_toList, String.length_toList] at bytes
  exact bytes

theorem ascii_nil : IsAscii [] := by simp [IsAscii]

theorem ascii_cons {c : UInt16} {rest : Units} :
    IsAscii (c :: rest) ↔ c.toNat < 0x80 ∧ IsAscii rest := by
  simp [IsAscii]

theorem ascii_append {first second : Units} :
    IsAscii (first ++ second) ↔ IsAscii first ∧ IsAscii second := by
  simp only [IsAscii, List.mem_append, or_imp, forall_and]

theorem PlainText.ascii_quote {text : String} (plain : PlainText text) :
    IsAscii (quote (units text)) := by
  have mark : quotationMark.toNat < 0x80 := by decide
  rw [plain.quote_eq, ascii_append, ascii_cons, ascii_cons]
  exact ⟨⟨mark, plain.ascii⟩, mark, ascii_nil⟩

theorem ascii_stringify {members : List (Units × Units)}
    (plain : ∀ member ∈ members, ∀ c ∈ member.1 ++ member.2, IsPlain c) :
    IsAscii (stringify (.object (stringMembers members))) := by
  have quoted {text : Units} (plain : ∀ c ∈ text, IsPlain c) : IsAscii (quote text) := by
    rw [quote, escaped_plain plain, ascii_append, ascii_cons, ascii_cons]
    exact ⟨⟨by decide, fun c member => (plain c member).2.1⟩, by decide, ascii_nil⟩
  rw [stringify, write, ascii_cons]
  refine ⟨by decide, ?_⟩
  induction members with
  | nil =>
      rw [stringMembers, List.map_nil, writeMembers, ascii_cons]
      exact ⟨by decide, ascii_nil⟩
  | cons first rest ih =>
      have here := plain first List.mem_cons_self
      have later := ih fun member inside => plain member (List.mem_cons_of_mem _ inside)
      have key := quoted fun c member => here c (List.mem_append_left _ member)
      have value := quoted fun c member => here c (List.mem_append_right _ member)
      cases rest with
      | nil =>
          simp only [stringMembers, List.map_cons, List.map_nil, writeMembers, write, ascii_append,
            ascii_cons]
          exact ⟨key, by decide, value, by decide, ascii_nil⟩
      | cons second rest =>
          simp only [stringMembers, List.map_cons, writeMembers, write, ascii_append,
            ascii_cons] at later ⊢
          exact ⟨key, by decide, value, by decide, later⟩

theorem length_stringify {first : Units × Units} {members : List (Units × Units)}
    (plain : ∀ member ∈ first :: members, ∀ c ∈ member.1 ++ member.2, IsPlain c) :
    (stringify (.object (stringMembers (first :: members)))).length =
      1 + ((first :: members).map fun member => member.1.length + member.2.length + 6).sum := by
  have quoted {text : Units} (plain : ∀ c ∈ text, IsPlain c) :
      (quote text).length = text.length + 2 := by
    rw [quote, escaped_plain plain, List.length_append, List.length_cons]
    rfl
  rw [stringify, write, List.length_cons, Nat.add_comm, Nat.add_left_cancel_iff]
  induction members generalizing first with
  | nil =>
      have here := plain first List.mem_cons_self
      have key := quoted fun c member => here c (List.mem_append_left _ member)
      have value := quoted fun c member => here c (List.mem_append_right _ member)
      simp only [stringMembers, List.map_cons, List.map_nil, writeMembers, write, key, value,
        List.length_append, List.length_cons, List.length_nil, List.sum_cons, List.sum_nil]
      omega
  | cons second rest ih =>
      have here := plain first List.mem_cons_self
      have key := quoted fun c member => here c (List.mem_append_left _ member)
      have value := quoted fun c member => here c (List.mem_append_right _ member)
      have later := ih fun member inside => plain member (List.mem_cons_of_mem _ inside)
      simp only [stringMembers, List.map_cons, writeMembers, write, key, value,
        List.length_append, List.length_cons, List.sum_cons] at later ⊢
      omega

/-- The characters of a text; a surrogate becomes one that is in no pattern. -/
def asText (text : Units) : String := String.ofList (text.map fun c => Char.ofNat c.toNat)

theorem PlainText.isPlain_of_asText {text : Units} (plain : PlainText (asText text)) :
    ∀ c ∈ text, IsPlain c := by
  intro c member
  have here := plain (Char.ofNat c.toNat) (by
    rw [asText, String.toList_ofList]
    exact List.mem_map_of_mem member)
  by_cases valid : c.toNat.isValidChar
  · rw [PlainChar, toNat_charOfNat valid] at here
    exact here
  · rw [Char.ofNat, dif_neg valid] at here
    exact absurd here (by decide)

theorem PlainText.asText_units {text : String} (plain : PlainText text) :
    asText (units text) = text := by
  rw [asText, plain.units_eq, List.map_map, ← String.toList_inj, String.toList_ofList]
  refine (List.map_congr_left fun c member => ?_).trans (List.map_id _)
  have small : c.toNat < UInt16.size := Nat.lt_trans (plain c member).2.1 (by decide)
  rw [Function.comp_apply, UInt16.toNat_ofNat_of_lt' small]
  exact Char.ofNat_toNat c

theorem PlainText.units_asText {text : Units} (plain : PlainText (asText text)) :
    units (asText text) = text := by
  have isPlain := plain.isPlain_of_asText
  rw [plain.units_eq, asText, String.toList_ofList, List.map_map]
  refine (List.map_congr_left fun c member => ?_).trans (List.map_id _)
  have small := (isPlain c member).2.1
  rw [Function.comp_apply, toNat_charOfNat (.inl (by omega)), UInt16.ofNat_toNat]
  rfl

end ZenPass.TextEncoding
