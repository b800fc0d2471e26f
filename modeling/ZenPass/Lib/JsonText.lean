import Mathlib.Data.List.Dedup
import ZenPass.Lib.Utf16

set_option autoImplicit false

namespace ZenPass.JsonText

abbrev Units := List UInt16

def units (text : String) : Units := (Utf16.codeUnits text).map UInt16.ofNat

def quotationMark : UInt16 := 0x22
def backslash : UInt16 := 0x5C

def IsHigh (c : UInt16) : Prop := 0xD800 ≤ c.toNat ∧ c.toNat ≤ 0xDBFF

def IsLow (c : UInt16) : Prop := 0xDC00 ≤ c.toNat ∧ c.toNat ≤ 0xDFFF

instance (c : UInt16) : Decidable (IsHigh c) := inferInstanceAs (Decidable (_ ∧ _))
instance (c : UInt16) : Decidable (IsLow c) := inferInstanceAs (Decidable (_ ∧ _))

def hexDigit (digit : Nat) : UInt16 := UInt16.ofNat (if digit < 10 then 48 + digit else 87 + digit)

def unicodeEscape (c : UInt16) : Units :=
  [backslash, 0x75, hexDigit (c.toNat / 4096), hexDigit (c.toNat / 256 % 16),
    hexDigit (c.toNat / 16 % 16), hexDigit (c.toNat % 16)]

def escapeUnit (c : UInt16) : Units :=
  if c = 0x08 then [backslash, 0x62]
  else if c = 0x09 then [backslash, 0x74]
  else if c = 0x0A then [backslash, 0x6E]
  else if c = 0x0C then [backslash, 0x66]
  else if c = 0x0D then [backslash, 0x72]
  else if c = quotationMark then [backslash, quotationMark]
  else if c = backslash then [backslash, backslash]
  else if c < 0x20 then unicodeEscape c
  else [c]

def escapeSingle (c : UInt16) : Units :=
  if IsHigh c ∨ IsLow c then unicodeEscape c else escapeUnit c

def escaped : Units → Units
  | [] => []
  | [c] => escapeSingle c
  | c :: d :: rest =>
      if IsHigh c ∧ IsLow d then c :: d :: escaped rest
      else escapeSingle c ++ escaped (d :: rest)

def quote (text : Units) : Units := quotationMark :: escaped text ++ [quotationMark]

def quoteRaw (text : Units) : Units :=
  quotationMark :: text.flatMap escapeUnit ++ [quotationMark]

def IsPlain (c : UInt16) : Prop :=
  0x20 ≤ c.toNat ∧ c.toNat < 0x80 ∧ c.toNat ≠ 0x22 ∧ c.toNat ≠ 0x5C

instance (c : UInt16) : Decidable (IsPlain c) := inferInstanceAs (Decidable (_ ∧ _))

theorem escapeSingle_plain {c : UInt16} (plain : IsPlain c) : escapeSingle c = [c] := by
  have each : ∀ i : Fin 128, IsPlain (UInt16.ofNat i.val) →
      escapeSingle (UInt16.ofNat i.val) = [UInt16.ofNat i.val] := by decide +kernel
  have here := each ⟨c.toNat, plain.2.1⟩
  simp only [UInt16.ofNat_toNat] at here
  exact here plain

theorem escaped_plain {text : Units} (plain : ∀ c ∈ text, IsPlain c) : escaped text = text := by
  fun_induction escaped text with
  | case1 => rfl
  | case2 c => exact escapeSingle_plain (plain c (by simp))
  | case3 c d rest pair ih =>
      have small := (plain c (by simp)).2.1
      have high := pair.1.1
      omega
  | case4 c d rest apart ih =>
      rw [escapeSingle_plain (plain c (by simp)),
        ih fun e member => plain e (List.mem_cons_of_mem _ member)]
      rfl

def hexValue (c : UInt16) : Option Nat :=
  if 48 ≤ c ∧ c ≤ 57 then some (c.toNat - 48)
  else if 97 ≤ c ∧ c ≤ 102 then some (c.toNat - 87)
  else if 65 ≤ c ∧ c ≤ 70 then some (c.toNat - 55)
  else none

def hexUnit (a b c d : UInt16) : Option UInt16 := do
  let a ← hexValue a
  let b ← hexValue b
  let c ← hexValue c
  let d ← hexValue d
  some (UInt16.ofNat (a * 4096 + b * 256 + c * 16 + d))

def simpleEscape (c : UInt16) : Option UInt16 :=
  if c = quotationMark ∨ c = backslash ∨ c = 0x2F then some c
  else if c = 0x62 then some 0x08
  else if c = 0x66 then some 0x0C
  else if c = 0x6E then some 0x0A
  else if c = 0x72 then some 0x0D
  else if c = 0x74 then some 0x09
  else none

def parseString : Units → Option (Units × Units)
  | [] => none
  | c :: rest =>
      if c = quotationMark then some ([], rest)
      else if c = backslash then
        match rest with
        | [] => none
        | mark :: rest =>
            if mark = 0x75 then
              match rest with
              | a :: b :: c :: d :: rest =>
                  (hexUnit a b c d).bind fun unit =>
                    (parseString rest).map fun (text, rest) => (unit :: text, rest)
              | _ => none
            else
              (simpleEscape mark).bind fun unit =>
                (parseString rest).map fun (text, rest) => (unit :: text, rest)
      else if c < 0x20 then none
      else (parseString rest).map fun (text, rest) => (c :: text, rest)

theorem parseString_cons (c : UInt16) (rest : Units) :
    parseString (c :: rest) =
      if c = quotationMark then some ([], rest)
      else if c = backslash then
        match rest with
        | [] => none
        | mark :: rest =>
            if mark = 0x75 then
              match rest with
              | a :: b :: c :: d :: rest =>
                  (hexUnit a b c d).bind fun unit =>
                    (parseString rest).map fun (text, rest) => (unit :: text, rest)
              | _ => none
            else
              (simpleEscape mark).bind fun unit =>
                (parseString rest).map fun (text, rest) => (unit :: text, rest)
      else if c < 0x20 then none
      else (parseString rest).map fun (text, rest) => (c :: text, rest) :=
  parseString.eq_def (c :: rest)

theorem parseString_plain {c : UInt16} (noQuote : c ≠ quotationMark) (noBackslash : c ≠ backslash)
    (visible : ¬ c < 0x20) (rest : Units) :
    parseString (c :: rest) = (parseString rest).map fun (text, rest) => (c :: text, rest) := by
  rw [parseString_cons, if_neg noQuote, if_neg noBackslash, if_neg visible]

theorem hexValue_hexDigit (digit : Nat) (small : digit < 16) : hexValue (hexDigit digit) = some digit := by
  have each : ∀ i : Fin 16, hexValue (hexDigit i.val) = some i.val := by decide
  exact each ⟨digit, small⟩

theorem parseString_unicodeEscape (c : UInt16) (rest : Units) :
    parseString (unicodeEscape c ++ rest) =
      (parseString rest).map fun (text, rest) => (c :: text, rest) := by
  have bound := c.toNat_lt
  have unit : hexUnit (hexDigit (c.toNat / 4096)) (hexDigit (c.toNat / 256 % 16))
      (hexDigit (c.toNat / 16 % 16)) (hexDigit (c.toNat % 16)) = some c := by
    simp only [hexUnit, hexValue_hexDigit _ (show c.toNat / 4096 < 16 by omega),
      hexValue_hexDigit _ (show c.toNat / 256 % 16 < 16 by omega),
      hexValue_hexDigit _ (show c.toNat / 16 % 16 < 16 by omega),
      hexValue_hexDigit _ (show c.toNat % 16 < 16 by omega), Option.bind_eq_bind, Option.bind_some]
    have same : c.toNat / 4096 * 4096 + c.toNat / 256 % 16 * 256 + c.toNat / 16 % 16 * 16 +
        c.toNat % 16 = c.toNat := by omega
    rw [same, UInt16.ofNat_toNat]
  simp only [unicodeEscape, List.cons_append, List.nil_append]
  rw [parseString_cons, if_neg (by decide), if_pos rfl]
  dsimp only
  rw [if_pos rfl, unit, Option.bind_some]

theorem parseString_escapeUnit (c : UInt16) (rest : Units) :
    parseString (escapeUnit c ++ rest) =
      (parseString rest).map fun (text, rest) => (c :: text, rest) := by
  have simple (mark unit : UInt16) (other : mark ≠ 0x75) (known : simpleEscape mark = some unit) :
      parseString ([backslash, mark] ++ rest) =
        (parseString rest).map fun (text, rest) => (unit :: text, rest) := by
    rw [List.cons_append, List.cons_append, List.nil_append, parseString_cons,
      if_neg (by decide), if_pos rfl]
    dsimp only
    rw [if_neg other, known, Option.bind_some]
  unfold escapeUnit
  split
  · rename_i same
    subst same
    exact simple _ _ (by decide) (by decide)
  split
  · rename_i same
    subst same
    exact simple _ _ (by decide) (by decide)
  split
  · rename_i same
    subst same
    exact simple _ _ (by decide) (by decide)
  split
  · rename_i same
    subst same
    exact simple _ _ (by decide) (by decide)
  split
  · rename_i same
    subst same
    exact simple _ _ (by decide) (by decide)
  split
  · rename_i same
    subst same
    exact simple _ _ (by decide) (by decide)
  split
  · rename_i same
    subst same
    exact simple _ _ (by decide) (by decide)
  split
  · exact parseString_unicodeEscape c rest
  · rename_i noQuote noBackslash visible
    rw [List.cons_append, List.nil_append, parseString_plain noQuote noBackslash visible]

theorem parseString_escapeSingle (c : UInt16) (rest : Units) :
    parseString (escapeSingle c ++ rest) =
      (parseString rest).map fun (text, rest) => (c :: text, rest) := by
  rw [escapeSingle]
  split
  · exact parseString_unicodeEscape c rest
  · exact parseString_escapeUnit c rest

theorem parseString_surrogate {c : UInt16} (surrogate : IsHigh c ∨ IsLow c) (rest : Units) :
    parseString (c :: rest) = (parseString rest).map fun (text, rest) => (c :: text, rest) := by
  have large : 0x20 ≤ c.toNat ∧ c.toNat ≠ 0x22 ∧ c.toNat ≠ 0x5C := by
    simp only [IsHigh, IsLow] at surrogate
    omega
  have noQuote : c ≠ quotationMark := fun same => large.2.1 (congrArg UInt16.toNat same)
  have noBackslash : c ≠ backslash := fun same => large.2.2 (congrArg UInt16.toNat same)
  have visible : ¬ c < 0x20 := by
    rw [UInt16.lt_iff_toNat_lt]
    exact Nat.not_lt.mpr large.1
  exact parseString_plain noQuote noBackslash visible rest

theorem parseString_end (rest : Units) :
    parseString (quotationMark :: rest) = some ([], rest) := by
  rw [parseString_cons, if_pos rfl]

theorem parseString_escaped (text rest : Units) :
    parseString (escaped text ++ quotationMark :: rest) = some (text, rest) := by
  fun_induction escaped text with
  | case1 => exact parseString_end rest
  | case2 c => rw [parseString_escapeSingle, parseString_end, Option.map_some]
  | case3 c d later pair ih =>
      rw [List.cons_append, List.cons_append, parseString_surrogate (.inl pair.1),
        parseString_surrogate (.inr pair.2), ih, Option.map_some, Option.map_some]
  | case4 c d later single ih =>
      rw [List.append_assoc, parseString_escapeSingle, ih, Option.map_some]

theorem parseString_escapedRaw (text rest : Units) :
    parseString (text.flatMap escapeUnit ++ quotationMark :: rest) = some (text, rest) := by
  induction text with
  | nil => exact parseString_end rest
  | cons c later ih =>
      rw [List.flatMap_cons, List.append_assoc, parseString_escapeUnit, ih, Option.map_some]

/-- A value as its text gives it: a number is its numeral, an object keeps all of its members in the
order of the text. -/
inductive Value where
  | null
  | bool (value : Bool)
  | number (numeral : Units)
  | string (text : Units)
  | array (items : List Value)
  | object (members : List (Units × Value))

def isSpace (c : UInt16) : Bool := c == 0x20 || c == 0x09 || c == 0x0A || c == 0x0D

def skipSpace (text : Units) : Units := text.dropWhile isSpace

def isDigit (c : UInt16) : Bool := 48 ≤ c && c ≤ 57

def parseDigits (text : Units) : Option (Units × Units) :=
  if text.takeWhile isDigit = [] then none
  else some (text.takeWhile isDigit, text.dropWhile isDigit)

def parseMarked (marks : List UInt16) (signed : Bool) (text : Units) : Option (Units × Units) :=
  match text with
  | mark :: rest =>
      if mark ∈ marks then
        match rest with
        | sign :: digits =>
            if signed ∧ (sign = 0x2B ∨ sign = 0x2D) then
              (parseDigits digits).map fun (digits, rest) => (mark :: sign :: digits, rest)
            else (parseDigits rest).map fun (digits, rest) => (mark :: digits, rest)
        | [] => none
      else some ([], text)
  | [] => some ([], [])

def parseInteger (text : Units) : Option (Units × Units) :=
  match text with
  | [] => none
  | c :: rest => if c = 48 then some ([c], rest) else parseDigits text

def parseUnsigned (text : Units) : Option (Units × Units) := do
  let (integer, rest) ← parseInteger text
  let (fraction, rest) ← parseMarked [0x2E] false rest
  let (exponent, rest) ← parseMarked [0x65, 0x45] true rest
  some (integer ++ fraction ++ exponent, rest)

def parseNumber (text : Units) : Option (Units × Units) :=
  match text with
  | [] => none
  | c :: rest =>
      if c = 0x2D then (parseUnsigned rest).map fun (numeral, rest) => (c :: numeral, rest)
      else parseUnsigned text

def parseWord (word : String) (value : Value) (text : Units) : Option (Value × Units) :=
  if (units word).isPrefixOf text then some (value, text.drop (units word).length) else none

mutual

/-- The value at the beginning of a text; `depth` bounds the nesting and the members. -/
def parseValue : Nat → Units → Option (Value × Units)
  | 0, _ => none
  | _ + 1, [] => none
  | depth + 1, c :: rest =>
      if c = quotationMark then (parseString rest).map fun (text, rest) => (.string text, rest)
      else if c = 0x7B then
        match skipSpace rest with
        | [] => none
        | d :: after =>
            if d = 0x7D then some (.object [], after)
            else
              (parseMembers depth (d :: after)).map fun (members, rest) => (.object members, rest)
      else if c = 0x5B then
        match skipSpace rest with
        | [] => none
        | d :: after =>
            if d = 0x5D then some (.array [], after)
            else (parseItems depth (d :: after)).map fun (items, rest) => (.array items, rest)
      else if c = 0x74 then parseWord "true" (.bool true) (c :: rest)
      else if c = 0x66 then parseWord "false" (.bool false) (c :: rest)
      else if c = 0x6E then parseWord "null" .null (c :: rest)
      else (parseNumber (c :: rest)).map fun (numeral, rest) => (.number numeral, rest)

def parseMembers : Nat → Units → Option (List (Units × Value) × Units)
  | 0, _ => none
  | _ + 1, [] => none
  | depth + 1, c :: rest =>
      if c = quotationMark then
        (parseString rest).bind fun (key, rest) =>
          match skipSpace rest with
          | [] => none
          | colon :: rest =>
              if colon = 0x3A then
                (parseValue depth (skipSpace rest)).bind fun (value, rest) =>
                  match skipSpace rest with
                  | [] => none
                  | d :: rest =>
                      if d = 0x7D then some ([(key, value)], rest)
                      else if d = 0x2C then
                        (parseMembers depth (skipSpace rest)).map fun (members, rest) =>
                          ((key, value) :: members, rest)
                      else none
              else none
      else none

def parseItems : Nat → Units → Option (List Value × Units)
  | 0, _ => none
  | depth + 1, text =>
      (parseValue depth text).bind fun (value, rest) =>
        match skipSpace rest with
        | [] => none
        | d :: rest =>
            if d = 0x5D then some ([value], rest)
            else if d = 0x2C then
              (parseItems depth (skipSpace rest)).map fun (items, rest) => (value :: items, rest)
            else none

end

/-- `JSON.parse`. A text of so many units has no more levels and members than are allowed here. -/
def parse (text : Units) : Option Value :=
  match parseValue (2 * text.length + 2) (skipSpace text) with
  | some (value, rest) => if skipSpace rest = [] then some value else none
  | none => none

section Writing

variable (quote : Units → Units)

mutual

def write : Value → Units
  | .null => units "null"
  | .bool value => if value then units "true" else units "false"
  | .number numeral => numeral
  | .string text => quote text
  | .array items => 0x5B :: writeItems items
  | .object members => 0x7B :: writeMembers members

def writeMembers : List (Units × Value) → Units
  | [] => [0x7D]
  | [(key, value)] => quote key ++ 0x3A :: (write value ++ [0x7D])
  | (key, value) :: next :: rest =>
      quote key ++ 0x3A :: (write value ++ 0x2C :: writeMembers (next :: rest))

def writeItems : List Value → Units
  | [] => [0x5D]
  | [value] => write value ++ [0x5D]
  | value :: next :: rest => write value ++ 0x2C :: writeItems (next :: rest)

end

def stringify : Value → Units := write JsonText.quote

structure Quotes : Prop where
  reads : ∀ text rest, ∃ body, quote text ++ rest = quotationMark :: body ∧
    parseString body = some (text, rest)

def stringMembers (members : List (Units × Units)) : List (Units × Value) :=
  members.map fun member => (member.1, .string member.2)

variable {quote}

theorem skipSpace_cons {c : UInt16} (visible : isSpace c = false) (rest : Units) :
    skipSpace (c :: rest) = c :: rest := by
  rw [skipSpace, List.dropWhile_cons, visible, if_neg (by decide)]

theorem parseValue_quote (law : Quotes quote) (depth : Nat) (text rest : Units) :
    parseValue (depth + 1) (skipSpace (quote text ++ rest)) = some (.string text, rest) := by
  obtain ⟨body, same, read⟩ := law.reads text rest
  rw [same, skipSpace_cons (by decide), parseValue, if_pos rfl, read, Option.map_some]

theorem skipSpace_quote (law : Quotes quote) (text rest : Units) :
    skipSpace (quote text ++ rest) = quote text ++ rest := by
  obtain ⟨body, same, -⟩ := law.reads text rest
  rw [same, skipSpace_cons (by decide)]

mutual

/-- Numerals are kept as they are written, so only values without numbers can be read back for sure. -/
def Value.numberFree : Value → Bool
  | .null => true
  | .bool _ => true
  | .number _ => false
  | .string _ => true
  | .array items => numberFreeItems items
  | .object members => numberFreeMembers members

def numberFreeItems : List Value → Bool
  | [] => true
  | value :: rest => value.numberFree && numberFreeItems rest

def numberFreeMembers : List (Units × Value) → Bool
  | [] => true
  | (_, value) :: rest => value.numberFree && numberFreeMembers rest

end

theorem write_begins (law : Quotes quote) {value : Value} (free : value.numberFree = true) (rest : Units) :
    ∃ c body, write quote value ++ rest = c :: body ∧ isSpace c = false ∧ c ≠ 0x5D ∧ c ≠ 0x7D := by
  cases value with
  | null => exact ⟨0x6E, _, rfl, by decide, by decide, by decide⟩
  | bool value =>
      cases value with
      | true => exact ⟨0x74, _, rfl, by decide, by decide, by decide⟩
      | false => exact ⟨0x66, _, rfl, by decide, by decide, by decide⟩
  | number numeral => cases free
  | string text =>
      obtain ⟨body, same, -⟩ := law.reads text rest
      exact ⟨quotationMark, body, same, by decide, by decide, by decide⟩
  | array items => exact ⟨0x5B, _, rfl, by decide, by decide, by decide⟩
  | object members => exact ⟨0x7B, _, rfl, by decide, by decide, by decide⟩

theorem skipSpace_write (law : Quotes quote) {value : Value} (free : value.numberFree = true) (rest : Units) :
    skipSpace (write quote value ++ rest) = write quote value ++ rest := by
  obtain ⟨c, body, same, visible, -⟩ := write_begins law free rest
  rw [same, skipSpace_cons visible]

theorem skipSpace_writeMembers (law : Quotes quote) (members : List (Units × Value)) (rest : Units) :
    skipSpace (writeMembers quote members ++ rest) = writeMembers quote members ++ rest := by
  match members with
  | [] => rfl
  | [(key, value)] =>
      simp only [writeMembers, List.append_assoc]
      exact skipSpace_quote law key _
  | (key, value) :: next :: later =>
      simp only [writeMembers, List.append_assoc]
      exact skipSpace_quote law key _

theorem skipSpace_writeItems (law : Quotes quote) {items : List Value} (free : numberFreeItems items = true)
    (rest : Units) : skipSpace (writeItems quote items ++ rest) = writeItems quote items ++ rest := by
  match items with
  | [] => rfl
  | [value] =>
      simp only [numberFreeItems, Bool.and_true] at free
      simp only [writeItems, List.append_assoc]
      exact skipSpace_write law free _
  | value :: next :: later =>
      simp only [numberFreeItems, Bool.and_eq_true] at free
      simp only [writeItems, List.append_assoc]
      exact skipSpace_write law free.1 _

/-- What is written with at most so many units is read back with that depth: every level and every further
member or item brings a sign of its own. -/
structure ReadsBack (quote : Units → Units) (depth : Nat) : Prop where
  value : ∀ value, value.numberFree = true → (write quote value).length ≤ depth → ∀ rest,
    parseValue depth (write quote value ++ rest) = some (value, rest)
  members : ∀ first members, numberFreeMembers (first :: members) = true →
    (writeMembers quote (first :: members)).length ≤ depth → ∀ rest,
    parseMembers depth (writeMembers quote (first :: members) ++ rest) = some (first :: members, rest)
  items : ∀ first items, numberFreeItems (first :: items) = true →
    (writeItems quote (first :: items)).length ≤ depth → ∀ rest,
    parseItems depth (writeItems quote (first :: items) ++ rest) = some (first :: items, rest)

theorem parseValue_write (law : Quotes quote) {depth : Nat} (below : ReadsBack quote depth) (value : Value)
    (free : value.numberFree = true) (enough : (write quote value).length ≤ depth + 1) (rest : Units) :
    parseValue (depth + 1) (write quote value ++ rest) = some (value, rest) := by
  cases value with
  | null =>
      have word : units "null" = [0x6E, 0x75, 0x6C, 0x6C] := by decide
      simp [write, parseValue, parseWord, word, quotationMark]
  | bool value =>
      have yes : units "true" = [0x74, 0x72, 0x75, 0x65] := by decide
      have no : units "false" = [0x66, 0x61, 0x6C, 0x73, 0x65] := by decide
      cases value <;> simp [write, parseValue, parseWord, yes, no, quotationMark]
  | number numeral => cases free
  | string text =>
      have read := parseValue_quote law depth text rest
      rwa [skipSpace_quote law] at read
  | array items =>
      cases items with
      | nil => rfl
      | cons first later =>
          simp only [write, List.length_cons] at enough
          have read := below.items first later free (by omega) rest
          have start := skipSpace_writeItems law free rest
          obtain ⟨d, after, begins, notClosed⟩ : ∃ d after,
              writeItems quote (first :: later) ++ rest = d :: after ∧ d ≠ 0x5D := by
            have free : first.numberFree = true ∧ numberFreeItems later = true := by
              simpa [Value.numberFree, numberFreeItems] using free
            cases later with
            | nil =>
                obtain ⟨d, after, same, -, other, -⟩ := write_begins law free.1 (0x5D :: rest)
                exact ⟨d, after, by simpa [writeItems] using same, other⟩
            | cons next later =>
                obtain ⟨d, after, same, -, other, -⟩ :=
                  write_begins law free.1 (0x2C :: (writeItems quote (next :: later) ++ rest))
                exact ⟨d, after, by simpa [writeItems] using same, other⟩
          rw [begins] at read start
          rw [write, List.cons_append, begins, parseValue, if_neg (by decide), if_neg (by decide), if_pos rfl,
            start]
          dsimp only
          rw [if_neg notClosed, read, Option.map_some]
  | object members =>
      cases members with
      | nil => rfl
      | cons first later =>
          simp only [write, List.length_cons] at enough
          have read := below.members first later free (by omega) rest
          have start := skipSpace_writeMembers law (first :: later) rest
          obtain ⟨body, begins⟩ : ∃ body,
              writeMembers quote (first :: later) ++ rest = quotationMark :: body := by
            cases later with
            | nil =>
                obtain ⟨body, same, -⟩ := law.reads first.1 (0x3A :: (write quote first.2 ++ 0x7D :: rest))
                exact ⟨body, by simpa [writeMembers] using same⟩
            | cons next later =>
                obtain ⟨body, same, -⟩ := law.reads first.1
                  (0x3A :: (write quote first.2 ++ 0x2C :: (writeMembers quote (next :: later) ++ rest)))
                exact ⟨body, by simpa [writeMembers] using same⟩
          rw [begins] at read start
          rw [write, List.cons_append, begins, parseValue, if_neg (by decide), if_pos rfl, start]
          dsimp only
          rw [if_neg (by decide), read, Option.map_some]

theorem parseMembers_member (law : Quotes quote) {depth : Nat} (below : ReadsBack quote depth) (key : Units)
    {value : Value} (free : value.numberFree = true) (enough : (write quote value).length ≤ depth)
    (sign : UInt16) (visible : isSpace sign = false) (rest : Units) :
    parseMembers (depth + 1) (quote key ++ 0x3A :: (write quote value ++ sign :: rest)) =
      if sign = 0x7D then some ([(key, value)], rest)
      else if sign = 0x2C then
        (parseMembers depth (skipSpace rest)).map fun (members, rest) => ((key, value) :: members, rest)
      else none := by
  obtain ⟨body, same, read⟩ := law.reads key (0x3A :: (write quote value ++ sign :: rest))
  rw [same, parseMembers, if_pos rfl, read, Option.bind_some]
  simp only [skipSpace_cons (show isSpace 0x3A = false by decide), if_true]
  rw [skipSpace_write law free, below.value value free enough, Option.bind_some]
  simp only [skipSpace_cons visible]

theorem parseMembers_write (law : Quotes quote) {depth : Nat} (below : ReadsBack quote depth)
    (first : Units × Value) (members : List (Units × Value))
    (free : numberFreeMembers (first :: members) = true)
    (enough : (writeMembers quote (first :: members)).length ≤ depth + 1) (rest : Units) :
    parseMembers (depth + 1) (writeMembers quote (first :: members) ++ rest) =
      some (first :: members, rest) := by
  simp only [numberFreeMembers, Bool.and_eq_true] at free
  cases members with
  | nil =>
      simp only [writeMembers, List.length_append, List.length_cons, List.length_nil] at enough
      have written : writeMembers quote [first] ++ rest =
          quote first.1 ++ 0x3A :: (write quote first.2 ++ 0x7D :: rest) := by simp [writeMembers]
      rw [written, parseMembers_member law below first.1 free.1 (by omega) 0x7D (by decide), if_pos rfl]
  | cons next later =>
      simp only [writeMembers, List.length_append, List.length_cons] at enough
      have written : writeMembers quote (first :: next :: later) ++ rest =
          quote first.1 ++ 0x3A :: (write quote first.2 ++
            0x2C :: (writeMembers quote (next :: later) ++ rest)) := by simp [writeMembers]
      rw [written, parseMembers_member law below first.1 free.1 (by omega) 0x2C (by decide),
        if_neg (by decide), if_pos rfl, skipSpace_writeMembers law,
        below.members next later free.2 (by omega), Option.map_some]

theorem parseItems_write (law : Quotes quote) {depth : Nat} (below : ReadsBack quote depth)
    (first : Value) (items : List Value) (free : numberFreeItems (first :: items) = true)
    (enough : (writeItems quote (first :: items)).length ≤ depth + 1) (rest : Units) :
    parseItems (depth + 1) (writeItems quote (first :: items) ++ rest) = some (first :: items, rest) := by
  simp only [numberFreeItems, Bool.and_eq_true] at free
  cases items with
  | nil =>
      simp only [writeItems, List.length_append, List.length_cons, List.length_nil] at enough
      have written : writeItems quote [first] ++ rest = write quote first ++ 0x5D :: rest := by
        simp [writeItems]
      rw [written, parseItems, below.value first free.1 (by omega), Option.bind_some]
      simp only [skipSpace_cons (show isSpace 0x5D = false by decide), if_true]
  | cons next later =>
      simp only [writeItems, List.length_append, List.length_cons] at enough
      have written : writeItems quote (first :: next :: later) ++ rest =
          write quote first ++ 0x2C :: (writeItems quote (next :: later) ++ rest) := by simp [writeItems]
      rw [written, parseItems, below.value first free.1 (by omega), Option.bind_some]
      simp only [skipSpace_cons (show isSpace 0x2C = false by decide)]
      rw [if_neg (by decide), if_pos trivial, skipSpace_writeItems law free.2,
        below.items next later free.2 (by omega), Option.map_some]

theorem readsBack (law : Quotes quote) (depth : Nat) : ReadsBack quote depth := by
  induction depth with
  | zero =>
      refine ⟨fun value free enough => ?_, fun first members _ enough => ?_, fun first items _ enough => ?_⟩
      · obtain ⟨c, body, begins, -⟩ := write_begins law free []
        rw [List.append_nil] at begins
        simp [begins] at enough
      · cases members <;> simp [writeMembers] at enough
      · cases items <;> simp [writeItems] at enough
  | succ depth below =>
      exact
        { value := parseValue_write law below
          members := parseMembers_write law below
          items := parseItems_write law below }

theorem parse_write_value (law : Quotes quote) {value : Value} (free : value.numberFree = true) :
    parse (write quote value) = some value := by
  have start := skipSpace_write law free []
  have read := (readsBack law (2 * (write quote value).length + 2)).value value free (by omega) []
  rw [List.append_nil] at start read
  rw [parse, start, read]
  rfl

theorem numberFree_stringMembers (members : List (Units × Units)) :
    numberFreeMembers (stringMembers members) = true := by
  induction members with
  | nil => rfl
  | cons first later ih => exact ih

theorem parse_write (law : Quotes quote) (members : List (Units × Units)) :
    parse (write quote (.object (stringMembers members))) =
      some (.object (stringMembers members)) :=
  parse_write_value law (numberFree_stringMembers members)

end Writing

example : (parse (units " \x7b\"a\" : [1.5e3, true, null], \"a\": \"\\u0041\\n\"\x7d ")).map stringify =
    some (units "\x7b\"a\":[1.5e3,true,null],\"a\":\"A\\n\"\x7d") ∧
    (parse (units "\x7b\"a\":1,\x7d")).isNone ∧ (parse (units "01")).isNone ∧
    (parse (units "\x7b\x7d x")).isNone ∧ (parse (units "\"\t\"")).isNone := by
  decide +kernel

theorem quotes_quote : Quotes quote where
  reads text rest := by
    refine ⟨escaped text ++ quotationMark :: rest, ?_, parseString_escaped text rest⟩
    rw [quote, List.append_assoc, List.cons_append, List.singleton_append]

theorem quotes_quoteRaw : Quotes quoteRaw where
  reads text rest := by
    refine ⟨text.flatMap escapeUnit ++ quotationMark :: rest, ?_, parseString_escapedRaw text rest⟩
    rw [quoteRaw, List.append_assoc, List.cons_append, List.singleton_append]

def lookup (members : List (Units × Value)) (name : Units) : Option Value :=
  members.reverse.lookup name

def stringField (members : List (Units × Value)) (field : String) : Option Units :=
  match lookup members (units field) with
  | some (.string text) => some text
  | _ => none

def keyCount (members : List (Units × Value)) : Nat := (members.map Prod.fst).dedup.length

theorem mem_of_lookup {members : List (Units × Value)} {name : Units} {value : Value}
    (found : lookup members name = some value) : (name, value) ∈ members := by
  rw [lookup] at found
  rw [← List.mem_reverse]
  generalize members.reverse = members at found
  induction members with
  | nil => cases found
  | cons first rest ih =>
      rw [List.lookup_cons] at found
      split at found
      · rename_i same
        cases found
        rw [beq_iff_eq.mp same]
        exact List.mem_cons_self
      · exact List.mem_cons_of_mem _ (ih found)

theorem lookup_of_mem {members : List (Units × Value)} (distinct : (members.map Prod.fst).Nodup)
    {name : Units} {value : Value} (member : (name, value) ∈ members) :
    lookup members name = some value := by
  have distinct : (members.reverse.map Prod.fst).Nodup := by
    rw [List.map_reverse, List.nodup_reverse]
    exact distinct
  have member := List.mem_reverse.mpr member
  rw [lookup]
  generalize members.reverse = members at distinct member
  induction members with
  | nil => cases member
  | cons first rest ih =>
      rw [List.map_cons, List.nodup_cons] at distinct
      rcases List.mem_cons.mp member with rfl | later
      · exact List.lookup_cons_self
      · have other : (name == first.1) = false := by
          rw [beq_eq_false_iff_ne]
          rintro rfl
          exact distinct.1 (List.mem_map.mpr ⟨_, later, rfl⟩)
        rw [List.lookup_cons, other]
        exact ih distinct.2 later

theorem map_fst_stringMembers (members : List (Units × Units)) :
    (stringMembers members).map Prod.fst = members.map Prod.fst := by
  rw [stringMembers, List.map_map]
  rfl

theorem write_congr {quote other : Units → Units} {members : List (Units × Units)}
    (same : ∀ member ∈ members, quote member.1 = other member.1 ∧ quote member.2 = other member.2) :
    write quote (.object (stringMembers members)) =
      write other (.object (stringMembers members)) := by
  rw [write, write, List.cons_inj_right]
  induction members with
  | nil => rfl
  | cons first rest ih =>
      obtain ⟨key, value⟩ := same first List.mem_cons_self
      have later := ih fun member inside => same member (List.mem_cons_of_mem _ inside)
      cases rest with
      | nil => simp only [stringMembers, List.map_cons, List.map_nil, writeMembers, write, key, value]
      | cons second rest =>
          simp only [stringMembers, List.map_cons, writeMembers, write, key, value] at later ⊢
          rw [later]

end ZenPass.JsonText
