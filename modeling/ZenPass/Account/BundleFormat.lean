import ZenPass.Sync.PlainTexts
import ZenPass.Wire.Decoders

set_option autoImplicit false

namespace ZenPass.Account.BundleFormat

open Wire JsonText TextEncoding
open Sync (isValidId isValidCiphertext)

def accountBundleFormat : String := "c04-account-bundle/1"

def accountBundleFields : List String :=
  ["format", "accountId", "vaultId", "itemId", "kdfParametersCbor", "wrappedAccountKey",
    "wrappedVaultKey", "wrappedItemKey", "wrappedRecoveryKey"]

def maxOuterBytes : Nat := 512 * 1024
def maxWrapperBytes : Nat := 64 * 1024
def maxKdfParamsBytes : Nat := 512

structure AccountBundleFields where
  format : Units
  accountId : Units
  vaultId : Units
  itemId : Units
  kdfParametersCbor : Units
  wrappedAccountKey : Units
  wrappedVaultKey : Units
  wrappedItemKey : Units
  wrappedRecoveryKey : Units
deriving DecidableEq

def AccountBundleFields.values (record : AccountBundleFields) : List Units :=
  [record.format, record.accountId, record.vaultId, record.itemId, record.kdfParametersCbor,
    record.wrappedAccountKey, record.wrappedVaultKey, record.wrappedItemKey,
    record.wrappedRecoveryKey]

def AccountBundleFields.members (record : AccountBundleFields) : List (Units × Units) :=
  (accountBundleFields.map units).zip record.values

def recordOf : Value → Option AccountBundleFields
  | .object members =>
      if keyCount members ≠ accountBundleFields.length then none
      else do
        let format ← stringField members "format"
        let accountId ← stringField members "accountId"
        let vaultId ← stringField members "vaultId"
        let itemId ← stringField members "itemId"
        let kdfParametersCbor ← stringField members "kdfParametersCbor"
        let wrappedAccountKey ← stringField members "wrappedAccountKey"
        let wrappedVaultKey ← stringField members "wrappedVaultKey"
        let wrappedItemKey ← stringField members "wrappedItemKey"
        let wrappedRecoveryKey ← stringField members "wrappedRecoveryKey"
        some { format, accountId, vaultId, itemId, kdfParametersCbor, wrappedAccountKey,
               wrappedVaultKey, wrappedItemKey, wrappedRecoveryKey }
  | _ => none

structure Platform where
  toText : Bytes → Option Units
  parse : Units → Option Value
  pattern : String → Bool
  decodeB64 : String → Option Bytes
  quote : Units → Units
  toBytes : Units → Bytes

namespace Platform

variable (platform : Platform)

def fieldOk (most : Nat) (value : Units) : Bool :=
  platform.pattern (asText value) &&
    (platform.decodeB64 (asText value)).any fun bytes =>
      bytes.length != 0 && decide (bytes.length ≤ most)

def recordOk (record : AccountBundleFields) : Bool :=
  record.format == units accountBundleFormat && isValidId (asText record.accountId) &&
    isValidId (asText record.vaultId) && isValidId (asText record.itemId) &&
    platform.fieldOk maxKdfParamsBytes record.kdfParametersCbor &&
    platform.fieldOk maxWrapperBytes record.wrappedAccountKey &&
    platform.fieldOk maxWrapperBytes record.wrappedVaultKey &&
    platform.fieldOk maxWrapperBytes record.wrappedItemKey &&
    platform.fieldOk maxWrapperBytes record.wrappedRecoveryKey

def canonicalBytes (record : AccountBundleFields) : Bytes :=
  platform.toBytes (write platform.quote (.object (stringMembers record.members)))

def validated (outer : Bytes) : Option AccountBundleFields :=
  if outer.length = 0 ∨ maxOuterBytes < outer.length then none
  else do
    let text ← platform.toText outer
    let parsed ← platform.parse text
    let record ← recordOf parsed
    if ¬ platform.recordOk record then none
    else if platform.canonicalBytes record ≠ outer then none
    else some record

end Platform

/-- What the libraries make of other texts than the ones written here is theirs. -/
structure Libraries where
  -- `toString('utf8')` of malformed bytes
  replaceMalformed : Bytes → Units
  -- `serde_json::from_str`
  fromStr : Units → Option Value
  -- `Json.parseToJsonElement` of kotlinx.serialization
  parseToJsonElement : Units → Option Value

def ReadsObjects (parse : Units → Option Value) : Prop :=
  ∀ members : List (Units × Units), (members.map Prod.fst).Nodup →
    (∀ member ∈ members, ∀ c ∈ member.1 ++ member.2, IsPlain c) →
    parse (stringify (.object (stringMembers members))) = some (.object (stringMembers members))

structure Libraries.Reads (libraries : Libraries) : Prop where
  fromStr : ReadsObjects libraries.fromStr
  parseToJsonElement : ReadsObjects libraries.parseToJsonElement

def b64Pattern (value : String) : Bool := isValidCiphertext value

namespace Node

def platform (libraries : Libraries) : Platform where
  toText outer := some ((decode outer).getD (libraries.replaceMalformed outer))
  parse := JsonText.parse
  pattern := b64Pattern
  decodeB64 := Wire.Node.decodeB64
  quote := JsonText.quote
  toBytes := textEncode

def validateAccountBundleBytes (libraries : Libraries) (outerBytes : Bytes) :
    Option (Units × Units × Units) :=
  ((platform libraries).validated outerBytes).map fun record =>
    (record.accountId, record.vaultId, record.itemId)

end Node

namespace Rust

def isValidB64Field (value : String) : Bool :=
  (bodyOf value).any fun body =>
    body.all (fun c => c.isAlphanum || c == '+' || c == '/' || c == '=') &&
      decide ((body.reverse.takeWhile (· == '=')).length ≤ 2)

def platform (libraries : Libraries) : Platform where
  toText := decode
  parse := libraries.fromStr
  pattern := isValidB64Field
  decodeB64 := Wire.Rust.decodeB64
  quote := quoteRaw
  toBytes := textEncode

def validateAccountBundleBytes (libraries : Libraries) (outerBytes : Bytes) : Option Units :=
  ((platform libraries).validated outerBytes).map AccountBundleFields.accountId

end Rust

namespace Sdk

def platform : Platform where
  toText outer := (decode outer).map dropMark
  parse := JsonText.parse
  pattern := b64Pattern
  decodeB64 := Wire.Sdk.decodeB64
  quote := JsonText.quote
  toBytes := textEncode

def parseAccountBundle (bundleWireValue : String) : Option AccountBundleFields :=
  if ¬ b64Pattern bundleWireValue then none
  else (Wire.Sdk.decodeB64 bundleWireValue).bind platform.validated

end Sdk

namespace Kotlin

def platform (libraries : Libraries) : Platform where
  toText := decode
  parse := libraries.parseToJsonElement
  pattern := b64Pattern
  decodeB64 := Wire.Kotlin.decodeB64
  quote text := quotationMark :: text ++ [quotationMark]
  toBytes := javaEncode

def parseAccountBundle (libraries : Libraries) (bundleWireValue : String) :
    Option AccountBundleFields :=
  if ¬ b64Pattern bundleWireValue then none
  else (Wire.Kotlin.decodeB64 bundleWireValue).bind (platform libraries).validated

end Kotlin

structure AccountBundleBytes where
  accountId : String
  vaultId : String
  itemId : String
  kdfParametersCbor : Bytes
  wrappedAccountKey : Bytes
  wrappedVaultKey : Bytes
  wrappedItemKey : Bytes
  wrappedRecoveryKey : Bytes
deriving DecidableEq

def ordered (fields : AccountBundleBytes) : AccountBundleFields where
  format := units accountBundleFormat
  accountId := units fields.accountId
  vaultId := units fields.vaultId
  itemId := units fields.itemId
  kdfParametersCbor := units (Wire.Sdk.encodeB64 fields.kdfParametersCbor)
  wrappedAccountKey := units (Wire.Sdk.encodeB64 fields.wrappedAccountKey)
  wrappedVaultKey := units (Wire.Sdk.encodeB64 fields.wrappedVaultKey)
  wrappedItemKey := units (Wire.Sdk.encodeB64 fields.wrappedItemKey)
  wrappedRecoveryKey := units (Wire.Sdk.encodeB64 fields.wrappedRecoveryKey)

def outerBytes (fields : AccountBundleBytes) : Bytes :=
  textEncode (stringify (.object (stringMembers (ordered fields).members)))

def Sdk.buildAccountBundle (fields : AccountBundleBytes) : String :=
  Wire.Sdk.encodeB64 (outerBytes fields)

/-- What the checks rely on: the patterns leave only plain texts, and on these all writers and
readers do the same. -/
structure Platform.Faithful (platform : Platform) : Prop where
  pattern : ∀ value, platform.pattern value = true → PlainText value
  quote : ∀ text, (∀ c ∈ text, IsPlain c) → platform.quote text = JsonText.quote text
  toBytes : ∀ text, IsAscii text → platform.toBytes text = textEncode text
  toText : ∀ text, IsAscii text → text.head? = some 0x7B →
    platform.toText (textEncode text) = some text
  parse : ReadsObjects platform.parse

theorem wellFormed_ascii {text : Units} (ascii : IsAscii text) : WellFormed text := by
  have single {c : UInt16} (small : c.toNat < 0x80) : ¬ IsSurrogate c := by
    simp only [IsSurrogate, IsHigh, IsLow]
    omega
  fun_induction WellFormed text with
  | case1 => trivial
  | case2 c => exact single (ascii c (by simp))
  | case3 c d rest pair ih => exact absurd (.inl pair.1) (single (ascii c (by simp)))
  | case4 c d rest apart ih =>
      exact ⟨single (ascii c (by simp)), ih fun e member => ascii e (List.mem_cons_of_mem _ member)⟩

theorem decode_ascii {text : Units} (ascii : IsAscii text) : decode (textEncode text) = some text :=
  decode_textEncode (wellFormed_ascii ascii)

theorem readsObjects_parse : ReadsObjects JsonText.parse :=
  fun members _ _ => parse_write quotes_quote members

theorem pattern_b64Pattern (value : String) (taken : b64Pattern value = true) : PlainText value :=
  Sync.plain_isValidCiphertext taken

theorem Node.faithful (libraries : Libraries) : (Node.platform libraries).Faithful where
  pattern := pattern_b64Pattern
  quote _ _ := rfl
  toBytes _ _ := rfl
  toText text ascii _ := by
    rw [Node.platform]
    simp only [decode_ascii ascii, Option.getD_some]
  parse := readsObjects_parse

theorem Sdk.faithful : Sdk.platform.Faithful where
  pattern := pattern_b64Pattern
  quote _ _ := rfl
  toBytes _ _ := rfl
  toText text ascii first := by
    cases text with
    | nil => cases first
    | cons c rest =>
        cases first
        simp only [Sdk.platform, decode_ascii ascii, Option.map_some, dropMark]
        rw [if_neg (by decide)]
  parse := readsObjects_parse

theorem flatMap_escapeUnit {text : Units} (plain : ∀ c ∈ text, IsPlain c) :
    text.flatMap escapeUnit = text := by
  have single (c : UInt16) (member : c ∈ text) : escapeUnit c = [c] := by
    have here := escapeSingle_plain (plain c member)
    have small := (plain c member).2.1
    rwa [escapeSingle, if_neg (by simp only [IsHigh, IsLow]; omega)] at here
  rw [List.flatMap_congr single, List.flatMap_singleton']

theorem quoteRaw_plain {text : Units} (plain : ∀ c ∈ text, IsPlain c) :
    quoteRaw text = quote text := by
  rw [quoteRaw, flatMap_escapeUnit plain, quote, escaped_plain plain]

theorem Rust.pattern_isValidB64Field (value : String) (taken : isValidB64Field value = true) :
    PlainText value := by
  obtain ⟨body, found, chars⟩ := (Option.any_eq_true _ _).mp taken
  simp only [Bool.and_eq_true, List.all_eq_true, Bool.or_eq_true, beq_iff_eq] at chars
  rw [bodyOf_eq_some.mp found, PlainText, String.toList_append, String.toList_ofList]
  intro c member
  rcases List.mem_append.mp member with mark | inside
  · have marks : PlainText "b64:" := by decide
    exact marks c mark
  · rw [String.toList_ofList] at inside
    rcases chars.1 c inside with ((letter | rfl) | rfl) | rfl
    · exact Sync.plain_alphanum letter
    all_goals decide

theorem Rust.faithful {libraries : Libraries} (reads : libraries.Reads) :
    (Rust.platform libraries).Faithful where
  pattern := Rust.pattern_isValidB64Field
  quote _ plain := quoteRaw_plain plain
  toBytes _ _ := rfl
  toText _ ascii _ := decode_ascii ascii
  parse := reads.fromStr

theorem Kotlin.faithful {libraries : Libraries} (reads : libraries.Reads) :
    (Kotlin.platform libraries).Faithful where
  pattern := pattern_b64Pattern
  quote text plain := by rw [JsonText.quote, escaped_plain plain]; rfl
  toBytes text ascii := by
    simp only [Kotlin.platform, javaEncode, textEncode, encode, scalars_ascii ascii]
  toText _ ascii _ := decode_ascii ascii
  parse := reads.parseToJsonElement

def AccountBundleFields.Plain (record : AccountBundleFields) : Prop :=
  ∀ value ∈ record.values, ∀ c ∈ value, IsPlain c

def canonicalText (record : AccountBundleFields) : Units :=
  stringify (.object (stringMembers record.members))

theorem members_eq (record : AccountBundleFields) :
    record.members = [(units "format", record.format),
      (units "accountId", record.accountId), (units "vaultId", record.vaultId),
      (units "itemId", record.itemId), (units "kdfParametersCbor", record.kdfParametersCbor),
      (units "wrappedAccountKey", record.wrappedAccountKey),
      (units "wrappedVaultKey", record.wrappedVaultKey),
      (units "wrappedItemKey", record.wrappedItemKey),
      (units "wrappedRecoveryKey", record.wrappedRecoveryKey)] :=
  rfl

theorem map_fst_members (record : AccountBundleFields) :
    record.members.map Prod.fst = accountBundleFields.map units :=
  List.map_fst_zip (by simp [accountBundleFields, AccountBundleFields.values])

theorem names_distinct : (accountBundleFields.map units).Nodup := by decide +kernel

theorem names_plain : ∀ name ∈ accountBundleFields.map units, ∀ c ∈ name, IsPlain c := by
  have plain : ∀ field ∈ accountBundleFields, PlainText field := by decide
  intro name member
  obtain ⟨field, inside, rfl⟩ := List.mem_map.mp member
  exact (plain field inside).isPlain

theorem AccountBundleFields.Plain.members {record : AccountBundleFields} (plain : record.Plain) :
    ∀ member ∈ record.members, ∀ c ∈ member.1 ++ member.2, IsPlain c := by
  intro member inside c found
  obtain ⟨name, value⟩ := List.of_mem_zip inside
  rcases List.mem_append.mp found with first | second
  · exact names_plain _ name c first
  · exact plain _ value c second

theorem recordOf_members (record : AccountBundleFields) :
    recordOf (.object (stringMembers record.members)) = some record := by
  have keys : keyCount (stringMembers record.members) = accountBundleFields.length := by
    rw [keyCount, map_fst_stringMembers, map_fst_members, names_distinct.dedup, List.length_map]
  have field (name : String) (value : Units) (member : (units name, value) ∈ record.members) :
      stringField (stringMembers record.members) name = some value := by
    have distinct : ((stringMembers record.members).map Prod.fst).Nodup := by
      rw [map_fst_stringMembers, map_fst_members]
      exact names_distinct
    rw [stringField, lookup_of_mem distinct (List.mem_map.mpr ⟨_, member, rfl⟩)]
  have members := members_eq record
  rw [recordOf, if_neg (by simpa using keys)]
  simp only [field "format" record.format (by simp [members]),
    field "accountId" record.accountId (by simp [members]),
    field "vaultId" record.vaultId (by simp [members]),
    field "itemId" record.itemId (by simp [members]),
    field "kdfParametersCbor" record.kdfParametersCbor (by simp [members]),
    field "wrappedAccountKey" record.wrappedAccountKey (by simp [members]),
    field "wrappedVaultKey" record.wrappedVaultKey (by simp [members]),
    field "wrappedItemKey" record.wrappedItemKey (by simp [members]),
    field "wrappedRecoveryKey" record.wrappedRecoveryKey (by simp [members]),
    Option.bind_eq_bind, Option.bind_some]

theorem record_unique {record other : AccountBundleFields} (plain : record.Plain)
    (otherPlain : other.Plain)
    (same : textEncode (canonicalText record) = textEncode (canonicalText other)) :
    record = other := by
  have text (record : AccountBundleFields) (plain : record.Plain) :
      ((decode (textEncode (canonicalText record))).bind JsonText.parse).bind recordOf =
        some record := by
    rw [canonicalText, decode_ascii (ascii_stringify plain.members), Option.bind_some, stringify,
      parse_write quotes_quote, Option.bind_some, recordOf_members]
  have read := text record plain
  rw [same, text other otherPlain, Option.some.injEq] at read
  exact read.symm

section Faithful

variable {platform : Platform} (faithful : platform.Faithful) {record : AccountBundleFields}

include faithful

theorem plain_of_fieldOk {most : Nat} {value : Units} (taken : platform.fieldOk most value = true) :
    ∀ c ∈ value, IsPlain c := by
  rw [Platform.fieldOk, Bool.and_eq_true] at taken
  exact (faithful.pattern _ taken.1).isPlain_of_asText

theorem plain_of_recordOk (taken : platform.recordOk record = true) : record.Plain := by
  simp only [Platform.recordOk, Bool.and_eq_true, beq_iff_eq] at taken
  obtain ⟨⟨⟨⟨⟨⟨⟨⟨format, account⟩, vault⟩, item⟩, kdf⟩, accountKey⟩, vaultKey⟩, itemKey⟩,
    recoveryKey⟩ := taken
  have id {value : Units} (valid : isValidId (asText value) = true) : ∀ c ∈ value, IsPlain c :=
    (Sync.plain_isValidId valid).isPlain_of_asText
  have format' : PlainText accountBundleFormat := by decide
  have fixed := format'.isPlain
  simp only [AccountBundleFields.Plain, AccountBundleFields.values, List.forall_mem_cons]
  exact ⟨format ▸ fixed, id account, id vault, id item, plain_of_fieldOk faithful kdf,
    plain_of_fieldOk faithful accountKey, plain_of_fieldOk faithful vaultKey,
    plain_of_fieldOk faithful itemKey, plain_of_fieldOk faithful recoveryKey, by simp⟩

theorem canonicalBytes_eq (plain : record.Plain) :
    platform.canonicalBytes record = textEncode (canonicalText record) := by
  have same : write platform.quote (.object (stringMembers record.members)) =
      canonicalText record := by
    refine write_congr fun member inside => ?_
    have here := plain.members member inside
    exact ⟨faithful.quote _ fun c found => here c (List.mem_append_left _ found),
      faithful.quote _ fun c found => here c (List.mem_append_right _ found)⟩
  rw [Platform.canonicalBytes, same]
  exact faithful.toBytes _ (ascii_stringify plain.members)

theorem validated_eq_some {outer : Bytes} :
    platform.validated outer = some record ↔
      platform.recordOk record = true ∧ outer = textEncode (canonicalText record) ∧
        outer.length ≤ maxOuterBytes := by
  constructor
  · intro accepted
    rw [Platform.validated] at accepted
    split at accepted
    · cases accepted
    · rename_i sized
      simp only [Option.bind_eq_bind, Option.bind_eq_some_iff] at accepted
      obtain ⟨text, -, parsed, -, found, -, checked⟩ := accepted
      split at checked
      · cases checked
      · rename_i taken
        split at checked
        · cases checked
        · rename_i same
          cases checked
          rw [Bool.not_eq_true, Bool.not_eq_false] at taken
          rw [not_not, canonicalBytes_eq faithful (plain_of_recordOk faithful taken)] at same
          exact ⟨taken, same.symm, by omega⟩
  · rintro ⟨taken, rfl, short⟩
    have plain := plain_of_recordOk faithful taken
    have ascii : IsAscii (canonicalText record) := ascii_stringify plain.members
    have begins : (canonicalText record).head? = some 0x7B := by
      rw [canonicalText, stringify, write, List.head?_cons]
    have nonempty : (textEncode (canonicalText record)).length ≠ 0 := by
      rw [textEncode, length_encode ascii]
      cases text : canonicalText record with
      | nil => rw [text] at begins; cases begins
      | cons first rest => simp
    have distinct : (record.members.map Prod.fst).Nodup := by
      rw [map_fst_members]
      exact names_distinct
    have read := faithful.parse record.members distinct plain.members
    rw [Platform.validated, if_neg (by omega), faithful.toText _ ascii begins]
    simp only [Option.bind_eq_bind, Option.bind_some]
    rw [canonicalText, read, Option.bind_some, recordOf_members, Option.bind_some,
      if_neg (by simpa using taken), if_neg]
    rw [not_not, canonicalBytes_eq faithful plain, canonicalText]

end Faithful

def Loose (most : Nat) (value : Units) : Prop :=
  ∃ body sextets bytes, bodyOf (asText value) = some body ∧ Spelled body sextets ∧
    bytesOf false sextets = some bytes ∧ bytes.length ≠ 0 ∧ bytes.length ≤ most

def Strict (most : Nat) (value : Units) : Prop :=
  ∃ bytes, asText value = encodeB64 bytes ∧ bytes.length ≠ 0 ∧ bytes.length ≤ most

theorem fieldOk_iff {platform : Platform} {most : Nat} {value : Units} :
    platform.fieldOk most value = true ↔
      platform.pattern (asText value) = true ∧ ∃ bytes,
        platform.decodeB64 (asText value) = some bytes ∧ bytes.length ≠ 0 ∧
          bytes.length ≤ most := by
  simp only [Platform.fieldOk, Bool.and_eq_true, Option.any_eq_true, bne_iff_ne,
    decide_eq_true_eq]

theorem alphabet_sextetChar (sextet : Nat) (bound : sextet < 64) :
    ((sextetChar sextet).isAlphanum || sextetChar sextet == '+' || sextetChar sextet == '/') =
      true := by
  have each : ∀ i : Fin 64, ((sextetChar i).isAlphanum || sextetChar i == '+' ||
      sextetChar i == '/') = true := by decide +kernel
  exact each ⟨sextet, bound⟩

theorem b64Pattern_of_spelled {value : String} {body : List Char} {sextets : List Nat}
    (found : bodyOf value = some body) (spelled : Spelled body sextets) (nonempty : sextets ≠ []) :
    b64Pattern value = true := by
  have chars : value.toList = 'b' :: '6' :: '4' :: ':' :: body := by
    rw [bodyOf_eq_some.mp found]
    simp
  obtain ⟨⟨bound, whole⟩, shape⟩ := spelled
  have core : body.rdropWhile (· == '=') = letters sextets ∧
      body.length - (letters sextets).length ≤ 2 := by
    have kept : (letters sextets).rdropWhile (· == '=') = letters sextets := by
      rw [List.rdropWhile_eq_self_iff]
      intro inside
      have member := List.getLast_mem inside
      simpa using (mem_letters bound member).1
    rcases shape with rfl | rfl
    · exact ⟨kept, by omega⟩
    · refine ⟨trimEnd_letters ⟨bound, whole⟩, ?_⟩
      rcases padding_cases sextets.length whole with ⟨-, same⟩ | ⟨-, same⟩ | ⟨-, same⟩ <;>
        simp [same]
  rw [b64Pattern, Sync.isValidCiphertext, chars]
  simp only [core.1, Bool.and_eq_true, Bool.not_eq_true', decide_eq_true_eq, List.all_eq_true]
  refine ⟨⟨by simpa [letters] using nonempty, core.2⟩, fun c member => ?_⟩
  obtain ⟨sextet, inside, rfl⟩ := List.mem_map.mp member
  exact alphabet_sextetChar sextet (bound sextet inside)

theorem not_whitespace_of_plain {c : Char} (known : c.isAlphanum = true) :
    Wire.Sdk.isAsciiWhitespace c = false := by
  have visible := (Sync.plain_alphanum known)
  rw [Wire.Sdk.isAsciiWhitespace]
  simp only [Bool.or_eq_false_iff, beq_eq_false_iff_ne]
  refine ⟨⟨⟨⟨?_, ?_⟩, ?_⟩, ?_⟩, ?_⟩ <;> rintro rfl <;> revert known <;> decide

theorem visible_of_b64Pattern {value : String} {body : List Char} (taken : b64Pattern value = true)
    (found : bodyOf value = some body) :
    (body.filter fun c => !Wire.Sdk.isAsciiWhitespace c) = body := by
  have chars : value.toList = 'b' :: '6' :: '4' :: ':' :: body := by
    rw [bodyOf_eq_some.mp found]
    simp
  rw [b64Pattern, Sync.isValidCiphertext, chars] at taken
  simp only [Bool.and_eq_true, List.all_eq_true, Bool.or_eq_true, beq_iff_eq] at taken
  rw [List.filter_eq_self]
  intro c member
  rw [Bool.not_eq_true']
  rw [← List.rdropWhile_append_rtakeWhile (p := (· == '=')) (l := body), List.mem_append] at member
  rcases member with core | pad
  · rcases taken.2 c core with (letter | rfl) | rfl
    · exact not_whitespace_of_plain letter
    · decide
    · decide
  · have same := List.mem_rtakeWhile_imp pad
    rw [beq_iff_eq] at same
    rw [same]
    decide

theorem sextets_ne_nil {sextets : List Nat} {bytes : Bytes}
    (read : bytesOf false sextets = some bytes) (nonempty : bytes.length ≠ 0) : sextets ≠ [] := by
  rintro rfl
  cases read
  exact nonempty rfl

theorem Kotlin.fieldOk_iff_loose (libraries : Libraries) {most : Nat} {value : Units} :
    (Kotlin.platform libraries).fieldOk most value = true ↔ Loose most value := by
  rw [fieldOk_iff]
  constructor
  · rintro ⟨-, bytes, decoded, sizes⟩
    obtain ⟨body, found, sextets, spelled, read⟩ := Wire.Kotlin.decodeB64_eq_some.mp decoded
    exact ⟨body, sextets, bytes, found, spelled, read, sizes⟩
  · rintro ⟨body, sextets, bytes, found, spelled, read, sizes⟩
    exact ⟨b64Pattern_of_spelled found spelled (sextets_ne_nil read sizes.1), bytes,
      Wire.Kotlin.decodeB64_eq_some.mpr ⟨body, found, sextets, spelled, read⟩, sizes⟩

theorem Sdk.fieldOk_iff_loose {most : Nat} {value : Units} :
    Sdk.platform.fieldOk most value = true ↔ Loose most value := by
  rw [fieldOk_iff]
  constructor
  · rintro ⟨taken, bytes, decoded, sizes⟩
    obtain ⟨body, found, sextets, spelled, read⟩ := Wire.Sdk.decodeB64_eq_some.mp decoded
    rw [visible_of_b64Pattern taken found] at spelled
    exact ⟨body, sextets, bytes, found, spelled, read, sizes⟩
  · rintro ⟨body, sextets, bytes, found, spelled, read, sizes⟩
    have taken := b64Pattern_of_spelled found spelled (sextets_ne_nil read sizes.1)
    have visible := visible_of_b64Pattern taken found
    refine ⟨taken, bytes, Wire.Sdk.decodeB64_eq_some.mpr ⟨body, found, sextets, ?_, read⟩, sizes⟩
    rw [visible]
    exact spelled

theorem Node.loose_of_fieldOk (libraries : Libraries) {most : Nat} {value : Units}
    (taken : (Node.platform libraries).fieldOk most value = true) : Loose most value := by
  rw [fieldOk_iff] at taken
  obtain ⟨-, bytes, decoded, sizes⟩ := taken
  obtain ⟨body, found, sextets, spelled, read⟩ :=
    Wire.Kotlin.decodeB64_eq_some.mp (Wire.Node.decodeB64_kotlin decoded)
  exact ⟨body, sextets, bytes, found, spelled, read, sizes⟩

theorem Rust.strict_of_fieldOk (libraries : Libraries) {most : Nat} {value : Units}
    (taken : (Rust.platform libraries).fieldOk most value = true) : Strict most value := by
  rw [fieldOk_iff] at taken
  obtain ⟨-, bytes, decoded, sizes⟩ := taken
  exact ⟨bytes, (Wire.Rust.decodeB64_node decoded).2.symm, sizes⟩

theorem bodyOf_encodeB64 (bytes : Bytes) : bodyOf (encodeB64 bytes) = some (encodeBase64 bytes) :=
  bodyOf_eq_some.mpr rfl

theorem Strict.loose {most : Nat} {value : Units} (strict : Strict most value) :
    Loose most value := by
  obtain ⟨bytes, same, sizes⟩ := strict
  have node := (Wire.Rust.decodeB64_node (canonical_decodes bytes)).1
  obtain ⟨body, found, sextets, spelled, read⟩ :=
    Wire.Kotlin.decodeB64_eq_some.mp (Wire.Node.decodeB64_kotlin node)
  rw [← same] at found
  exact ⟨body, sextets, bytes, found, spelled, read, sizes⟩

theorem Rust.isValidB64Field_encodeB64 (bytes : Bytes) :
    isValidB64Field (encodeB64 bytes) = true := by
  obtain ⟨text, spelled⟩ := encodeBase64_eq bytes
  generalize sextetsOf bytes = sextets at text spelled
  have pads : ((letters sextets ++ padding sextets.length).reverse.takeWhile (· == '=')).length ≤ 2 := by
    have trimmed := congrArg List.length (trimEnd_letters text)
    have apart := congrArg List.length (List.takeWhile_append_dropWhile (p := (· == '='))
      (l := (letters sextets ++ padding sextets.length).reverse))
    rw [Wire.Rust.trimEnd, List.length_reverse] at trimmed
    rw [List.length_append, trimmed, List.length_reverse, List.length_append] at apart
    rcases padding_cases sextets.length text.whole with ⟨-, same⟩ | ⟨-, same⟩ | ⟨-, same⟩ <;>
      simp only [same, List.length_cons, List.length_nil] at apart ⊢ <;> omega
  rw [isValidB64Field, bodyOf_encodeB64, spelled]
  simp only [Option.any_some, Bool.and_eq_true, decide_eq_true_eq, List.all_eq_true]
  refine ⟨fun c member => ?_, pads⟩
  rcases List.mem_append.mp member with letter | pad
  · obtain ⟨sextet, inside, rfl⟩ := List.mem_map.mp letter
    rw [alphabet_sextetChar sextet (text.bound sextet inside), Bool.true_or]
  · rw [mem_padding pad]
    decide

theorem Rust.fieldOk_of_strict (libraries : Libraries) {most : Nat} {value : Units}
    (strict : Strict most value) : (Rust.platform libraries).fieldOk most value = true := by
  obtain ⟨bytes, same, sizes⟩ := strict
  rw [fieldOk_iff, same]
  exact ⟨Rust.isValidB64Field_encodeB64 bytes, bytes, canonical_decodes bytes, sizes⟩

theorem Node.fieldOk_of_strict (libraries : Libraries) {most : Nat} {value : Units}
    (strict : Strict most value) : (Node.platform libraries).fieldOk most value = true := by
  obtain ⟨taken, -⟩ := fieldOk_iff.mp (Sdk.fieldOk_iff_loose.mpr strict.loose)
  obtain ⟨bytes, same, sizes⟩ := strict
  rw [same] at taken
  rw [fieldOk_iff, same]
  exact ⟨taken, bytes, (Wire.Rust.decodeB64_node (canonical_decodes bytes)).1, sizes⟩

def AccountBundleFields.base64Fields (record : AccountBundleFields) : List (Nat × Units) :=
  [(maxKdfParamsBytes, record.kdfParametersCbor), (maxWrapperBytes, record.wrappedAccountKey),
    (maxWrapperBytes, record.wrappedVaultKey), (maxWrapperBytes, record.wrappedItemKey),
    (maxWrapperBytes, record.wrappedRecoveryKey)]

structure AccountBundleFields.Named (record : AccountBundleFields) : Prop where
  format : record.format = units accountBundleFormat
  account : isValidId (asText record.accountId) = true
  vault : isValidId (asText record.vaultId) = true
  item : isValidId (asText record.itemId) = true

theorem recordOk_iff {platform : Platform} {record : AccountBundleFields} :
    platform.recordOk record = true ↔
      record.Named ∧ ∀ field ∈ record.base64Fields, platform.fieldOk field.1 field.2 = true := by
  simp only [Platform.recordOk, AccountBundleFields.base64Fields, List.forall_mem_cons,
    Bool.and_eq_true, beq_iff_eq]
  constructor
  · rintro ⟨⟨⟨⟨⟨⟨⟨⟨format, account⟩, vault⟩, item⟩, kdf⟩, accountKey⟩, vaultKey⟩, itemKey⟩,
      recoveryKey⟩
    exact ⟨⟨format, account, vault, item⟩, kdf, accountKey, vaultKey, itemKey, recoveryKey, by simp⟩
  · rintro ⟨named, kdf, accountKey, vaultKey, itemKey, recoveryKey, -⟩
    exact ⟨⟨⟨⟨⟨⟨⟨⟨named.format, named.account⟩, named.vault⟩, named.item⟩, kdf⟩, accountKey⟩,
      vaultKey⟩, itemKey⟩, recoveryKey⟩

inductive Implementation where
  | node
  | rust
  | sdk
  | kotlin
deriving DecidableEq, Repr

def platformOf (libraries : Libraries) : Implementation → Platform
  | .node => Node.platform libraries
  | .rust => Rust.platform libraries
  | .sdk => Sdk.platform
  | .kotlin => Kotlin.platform libraries

def decoded (platform : Platform) (record : AccountBundleFields) : Option AccountBundleBytes := do
  let kdfParametersCbor ← platform.decodeB64 (asText record.kdfParametersCbor)
  let wrappedAccountKey ← platform.decodeB64 (asText record.wrappedAccountKey)
  let wrappedVaultKey ← platform.decodeB64 (asText record.wrappedVaultKey)
  let wrappedItemKey ← platform.decodeB64 (asText record.wrappedItemKey)
  let wrappedRecoveryKey ← platform.decodeB64 (asText record.wrappedRecoveryKey)
  some { accountId := asText record.accountId, vaultId := asText record.vaultId,
         itemId := asText record.itemId, kdfParametersCbor, wrappedAccountKey, wrappedVaultKey,
         wrappedItemKey, wrappedRecoveryKey }

/-- All four take the bytes or none of them does, and what is taken is spelled only so. -/
structure OneBundle (libraries : Libraries) (outer : Bytes) : Prop where
  rust : (Rust.validateAccountBundleBytes libraries outer).isSome =
    (Node.validateAccountBundleBytes libraries outer).isSome
  sdk : (Sdk.parseAccountBundle (encodeB64 outer)).isSome =
    (Node.validateAccountBundleBytes libraries outer).isSome
  kotlin : (Kotlin.parseAccountBundle libraries (encodeB64 outer)).isSome =
    (Node.validateAccountBundleBytes libraries outer).isSome
  again : ∀ implementation record,
    (platformOf libraries implementation).validated outer = some record →
    ∃ fields, decoded (platformOf libraries implementation) record = some fields ∧
      outerBytes fields = outer

/-- The bytes are no text of a record whose base64 fields are spelled in another way than the
canonical one. -/
def CanonicalOrNone (outer : Bytes) : Prop :=
  ∀ record : AccountBundleFields, record.Named →
    (∀ field ∈ record.base64Fields, Loose field.1 field.2) →
    outer = textEncode (canonicalText record) → outer.length ≤ maxOuterBytes →
    ∀ field ∈ record.base64Fields, Strict field.1 field.2

structure AccountBundleBytes.Valid (fields : AccountBundleBytes) : Prop where
  account : isValidId fields.accountId = true
  vault : isValidId fields.vaultId = true
  item : isValidId fields.itemId = true
  kdf : fields.kdfParametersCbor.length ≠ 0 ∧ fields.kdfParametersCbor.length ≤ maxKdfParamsBytes
  wrappers : ∀ key ∈ [fields.wrappedAccountKey, fields.wrappedVaultKey, fields.wrappedItemKey,
    fields.wrappedRecoveryKey], key.length ≠ 0 ∧ key.length ≤ maxWrapperBytes

theorem b64Pattern_encodeB64 {outer : Bytes} (nonempty : outer.length ≠ 0) :
    b64Pattern (encodeB64 outer) = true := by
  obtain ⟨text, spelled⟩ := encodeBase64_eq outer
  refine b64Pattern_of_spelled (bodyOf_encodeB64 outer) ⟨text, .inr spelled⟩ ?_
  exact sextets_ne_nil (bytesOf_sextetsOf false outer) nonempty

theorem validated_nil (platform : Platform) : platform.validated [] = none := by
  rw [Platform.validated, if_pos (.inl rfl)]

theorem validated_of_pattern (platform : Platform) (outer : Bytes) :
    (if ¬ b64Pattern (encodeB64 outer) then none else platform.validated outer) =
      platform.validated outer := by
  split
  · rename_i refused
    by_cases empty : outer.length = 0
    · rw [List.length_eq_zero_iff.mp empty, validated_nil]
    · exact absurd (b64Pattern_encodeB64 empty) refused
  · rfl

theorem Sdk.parse_encodeB64 (outer : Bytes) :
    Sdk.parseAccountBundle (encodeB64 outer) = Sdk.platform.validated outer := by
  have read := Wire.Kotlin.decodeB64_sdk
    (Wire.Node.decodeB64_kotlin (Wire.Rust.decodeB64_node (canonical_decodes outer)).1)
  rw [Sdk.parseAccountBundle, read, Option.bind_some]
  exact validated_of_pattern Sdk.platform outer

theorem Kotlin.parse_encodeB64 (libraries : Libraries) (outer : Bytes) :
    Kotlin.parseAccountBundle libraries (encodeB64 outer) =
      (Kotlin.platform libraries).validated outer := by
  have read := Wire.Node.decodeB64_kotlin (Wire.Rust.decodeB64_node (canonical_decodes outer)).1
  rw [Kotlin.parseAccountBundle, read, Option.bind_some]
  exact validated_of_pattern (Kotlin.platform libraries) outer

section Agreement

variable {libraries : Libraries}

theorem loose_of_fieldOk {implementation : Implementation} {most : Nat} {value : Units}
    (taken : (platformOf libraries implementation).fieldOk most value = true) :
    Loose most value := by
  cases implementation with
  | node => exact Node.loose_of_fieldOk libraries taken
  | rust => exact (Rust.strict_of_fieldOk libraries taken).loose
  | sdk => exact Sdk.fieldOk_iff_loose.mp taken
  | kotlin => exact (Kotlin.fieldOk_iff_loose libraries).mp taken

theorem fieldOk_of_strict (libraries : Libraries) (implementation : Implementation) {most : Nat}
    {value : Units} (strict : Strict most value) :
    (platformOf libraries implementation).fieldOk most value = true := by
  cases implementation with
  | node => exact Node.fieldOk_of_strict libraries strict
  | rust => exact Rust.fieldOk_of_strict libraries strict
  | sdk => exact Sdk.fieldOk_iff_loose.mpr strict.loose
  | kotlin => exact (Kotlin.fieldOk_iff_loose libraries).mpr strict.loose

theorem decodes_encodeB64 (implementation : Implementation) (bytes : Bytes) :
    (platformOf libraries implementation).decodeB64 (encodeB64 bytes) = some bytes := by
  have rust := canonical_decodes bytes
  have node := (Wire.Rust.decodeB64_node rust).1
  have kotlin := Wire.Node.decodeB64_kotlin node
  cases implementation with
  | node => exact node
  | rust => exact rust
  | sdk => exact Wire.Kotlin.decodeB64_sdk kotlin
  | kotlin => exact kotlin

variable (reads : libraries.Reads)

include reads

theorem faithful (implementation : Implementation) :
    (platformOf libraries implementation).Faithful := by
  cases implementation with
  | node => exact Node.faithful libraries
  | rust => exact Rust.faithful reads
  | sdk => exact Sdk.faithful
  | kotlin => exact Kotlin.faithful reads

theorem validated_of_strict (implementation : Implementation) {record : AccountBundleFields}
    (named : record.Named) (strict : ∀ field ∈ record.base64Fields, Strict field.1 field.2)
    (short : (textEncode (canonicalText record)).length ≤ maxOuterBytes) :
    (platformOf libraries implementation).validated (textEncode (canonicalText record)) =
      some record := by
  have taken := recordOk_iff.mpr ⟨named, fun field member =>
    fieldOk_of_strict libraries implementation (strict field member)⟩
  exact (validated_eq_some (faithful reads implementation)).mpr ⟨taken, rfl, short⟩

theorem canonical_of_validated {outer : Bytes} (canonical : CanonicalOrNone outer)
    {implementation : Implementation} {record : AccountBundleFields}
    (accepted : (platformOf libraries implementation).validated outer = some record) :
    record.Named ∧ (∀ field ∈ record.base64Fields, Strict field.1 field.2) ∧
      outer = textEncode (canonicalText record) ∧ outer.length ≤ maxOuterBytes := by
  obtain ⟨taken, same, short⟩ := (validated_eq_some (faithful reads implementation)).mp accepted
  obtain ⟨named, fields⟩ := recordOk_iff.mp taken
  have loose := fun field member => loose_of_fieldOk (fields field member)
  exact ⟨named, canonical record named loose same short, same, short⟩

theorem validated_agree {outer : Bytes} (canonical : CanonicalOrNone outer)
    (first second : Implementation) :
    (platformOf libraries first).validated outer =
      (platformOf libraries second).validated outer := by
  have onward (first second : Implementation) (record : AccountBundleFields)
      (accepted : (platformOf libraries first).validated outer = some record) :
      (platformOf libraries second).validated outer = some record := by
    obtain ⟨named, strict, rfl, short⟩ := canonical_of_validated reads canonical accepted
    exact validated_of_strict reads second named strict short
  apply Option.ext
  intro record
  exact ⟨onward first second record, onward second first record⟩

end Agreement

theorem strict_units {most : Nat} {bytes : Bytes} (sizes : bytes.length ≠ 0 ∧ bytes.length ≤ most) :
    Strict most (units (Wire.Sdk.encodeB64 bytes)) := by
  refine ⟨bytes, ?_, sizes⟩
  rw [Wire.Sdk.encodeB64_eq, (Sync.plain_encodeB64 bytes).asText_units]

theorem decoded_of_strict (libraries : Libraries) (implementation : Implementation)
    {record : AccountBundleFields} (named : record.Named)
    (strict : ∀ field ∈ record.base64Fields, Strict field.1 field.2) :
    ∃ fields, decoded (platformOf libraries implementation) record = some fields ∧
      ordered fields = record := by
  have spelled {most : Nat} {value : Units} (strict : Strict most value) :
      ∃ bytes, (platformOf libraries implementation).decodeB64 (asText value) = some bytes ∧
        units (Wire.Sdk.encodeB64 bytes) = value := by
    obtain ⟨bytes, same, -⟩ := strict
    have plain : PlainText (asText value) := by
      rw [same]
      exact Sync.plain_encodeB64 bytes
    refine ⟨bytes, ?_, ?_⟩
    · rw [same, decodes_encodeB64]
    · rw [Wire.Sdk.encodeB64_eq, ← same, plain.units_asText]
  simp only [AccountBundleFields.base64Fields, List.forall_mem_cons] at strict
  obtain ⟨kdf, accountKey, vaultKey, itemKey, recoveryKey, -⟩ := strict
  obtain ⟨kdf, kdfRead, kdfText⟩ := spelled kdf
  obtain ⟨accountKey, accountRead, accountText⟩ := spelled accountKey
  obtain ⟨vaultKey, vaultRead, vaultText⟩ := spelled vaultKey
  obtain ⟨itemKey, itemRead, itemText⟩ := spelled itemKey
  obtain ⟨recoveryKey, recoveryRead, recoveryText⟩ := spelled recoveryKey
  refine ⟨⟨asText record.accountId, asText record.vaultId, asText record.itemId, kdf, accountKey,
    vaultKey, itemKey, recoveryKey⟩, ?_, ?_⟩
  · simp only [decoded, kdfRead, accountRead, vaultRead, itemRead, recoveryRead,
      Option.bind_eq_bind, Option.bind_some]
  · simp only [ordered, kdfText, accountText, vaultText, itemText, recoveryText,
      (Sync.plain_isValidId named.account).units_asText,
      (Sync.plain_isValidId named.vault).units_asText,
      (Sync.plain_isValidId named.item).units_asText, ← named.format]

theorem length_isValidId {id : String} (valid : isValidId id = true) : id.length ≤ 128 := by
  rw [isValidId] at valid
  split at valid
  · cases valid
  · rename_i start rest chars
    simp only [Bool.and_eq_true, decide_eq_true_eq] at valid
    rw [← String.length_toList, chars, List.length_cons]
    exact Nat.succ_le_succ valid.1.2

section Built

variable {fields : AccountBundleBytes} (valid : fields.Valid)

include valid

theorem ordered_named : (ordered fields).Named where
  format := rfl
  account := by
    rw [ordered, (Sync.plain_isValidId valid.account).asText_units]
    exact valid.account
  vault := by
    rw [ordered, (Sync.plain_isValidId valid.vault).asText_units]
    exact valid.vault
  item := by
    rw [ordered, (Sync.plain_isValidId valid.item).asText_units]
    exact valid.item

theorem ordered_strict : ∀ field ∈ (ordered fields).base64Fields, Strict field.1 field.2 := by
  have wrappers := valid.wrappers
  simp only [List.forall_mem_cons] at wrappers
  obtain ⟨accountKey, vaultKey, itemKey, recoveryKey, -⟩ := wrappers
  simp only [AccountBundleFields.base64Fields, ordered, List.forall_mem_cons]
  exact ⟨strict_units valid.kdf, strict_units accountKey, strict_units vaultKey,
    strict_units itemKey, strict_units recoveryKey, by simp⟩

theorem ordered_plain : (ordered fields).Plain := by
  have b64 (bytes : Bytes) : ∀ c ∈ units (Wire.Sdk.encodeB64 bytes), IsPlain c := by
    rw [Wire.Sdk.encodeB64_eq]
    exact (Sync.plain_encodeB64 bytes).isPlain
  have fixed : PlainText accountBundleFormat := by decide
  simp only [AccountBundleFields.Plain, AccountBundleFields.values, ordered, List.forall_mem_cons]
  exact ⟨fixed.isPlain, (Sync.plain_isValidId valid.account).isPlain,
    (Sync.plain_isValidId valid.vault).isPlain, (Sync.plain_isValidId valid.item).isPlain,
    b64 _, b64 _, b64 _, b64 _, b64 _, by simp⟩

theorem outerBytes_short : (outerBytes fields).length ≤ maxOuterBytes := by
  have plain := (ordered_plain valid).members
  have account := (Sync.plain_isValidId valid.account).length_units
  have vault := (Sync.plain_isValidId valid.vault).length_units
  have item := (Sync.plain_isValidId valid.item).length_units
  have b64 (bytes : Bytes) :
      (units (Wire.Sdk.encodeB64 bytes)).length = 4 + 4 * ((bytes.length + 2) / 3) := by
    rw [Wire.Sdk.encodeB64_eq, (Sync.plain_encodeB64 bytes).length_units, Sync.length_encodeB64]
  have fixed : (units accountBundleFormat).length = 20 := by decide +kernel
  have names : (accountBundleFields.map fun name => (units name).length) =
      [6, 9, 7, 6, 17, 17, 15, 14, 18] := by decide +kernel
  simp only [accountBundleFields, List.map_cons, List.map_nil, List.cons.injEq] at names
  have accountShort := length_isValidId valid.account
  have vaultShort := length_isValidId valid.vault
  have itemShort := length_isValidId valid.item
  have kdf := valid.kdf.2
  have wrappers := valid.wrappers
  simp only [List.forall_mem_cons] at wrappers
  obtain ⟨accountKey, vaultKey, itemKey, recoveryKey, -⟩ := wrappers
  rw [outerBytes, textEncode, length_encode (ascii_stringify plain)]
  rw [members_eq] at plain ⊢
  rw [length_stringify plain]
  simp only [List.map_cons, List.map_nil, List.sum_cons, List.sum_nil, ordered, account, vault, item,
    b64, fixed, names]
  simp only [maxOuterBytes, maxKdfParamsBytes, maxWrapperBytes] at *
  omega

end Built

theorem decoded_ordered {libraries : Libraries} (implementation : Implementation)
    {fields : AccountBundleBytes} (valid : fields.Valid) :
    decoded (platformOf libraries implementation) (ordered fields) = some fields := by
  have b64 (bytes : Bytes) : (platformOf libraries implementation).decodeB64
      (asText (units (Wire.Sdk.encodeB64 bytes))) = some bytes := by
    rw [Wire.Sdk.encodeB64_eq, (Sync.plain_encodeB64 bytes).asText_units, decodes_encodeB64]
  simp only [decoded, ordered, b64, Option.bind_eq_bind, Option.bind_some,
    (Sync.plain_isValidId valid.account).asText_units,
    (Sync.plain_isValidId valid.vault).asText_units,
    (Sync.plain_isValidId valid.item).asText_units]

theorem validated_outerBytes {libraries : Libraries} (reads : libraries.Reads)
    (implementation : Implementation) {fields : AccountBundleBytes} (valid : fields.Valid) :
    (platformOf libraries implementation).validated (outerBytes fields) = some (ordered fields) :=
  validated_of_strict reads implementation (ordered_named valid) (ordered_strict valid)
    (outerBytes_short valid)

/-- What the SDK builds from valid fields is read back by everyone, and a byte string is taken by
all and spelled once, or by none, exactly when it is no record with a base64 field in another
spelling. -/
theorem account_bundle_validators_agree (libraries : Libraries) (reads : libraries.Reads) :
    (∀ fields : AccountBundleBytes, fields.Valid →
      (Sdk.parseAccountBundle (Sdk.buildAccountBundle fields) = some (ordered fields) ∧
        Kotlin.parseAccountBundle libraries (Sdk.buildAccountBundle fields) =
          some (ordered fields) ∧
        Node.validateAccountBundleBytes libraries (outerBytes fields) =
          some (units fields.accountId, units fields.vaultId, units fields.itemId) ∧
        Rust.validateAccountBundleBytes libraries (outerBytes fields) =
          some (units fields.accountId)) ∧
      ∀ implementation,
        decoded (platformOf libraries implementation) (ordered fields) = some fields) ∧
    ∀ outer, OneBundle libraries outer ↔ CanonicalOrNone outer := by
  constructor
  · intro fields valid
    have taken := fun implementation => validated_outerBytes reads implementation valid
    refine ⟨⟨?_, ?_, ?_, ?_⟩, fun implementation => decoded_ordered implementation valid⟩
    · rw [Sdk.buildAccountBundle, Wire.Sdk.encodeB64_eq, Sdk.parse_encodeB64]
      exact taken .sdk
    · rw [Sdk.buildAccountBundle, Wire.Sdk.encodeB64_eq, Kotlin.parse_encodeB64]
      exact taken .kotlin
    · rw [Node.validateAccountBundleBytes, show (Node.platform libraries).validated _ = _ from
        taken .node]
      rfl
    · rw [Rust.validateAccountBundleBytes, show (Rust.platform libraries).validated _ = _ from
        taken .rust]
      rfl
  · intro outer
    constructor
    · intro one record named loose same short field member
      -- the SDK takes the record, so Rust does, and Rust takes only the canonical spelling
      have sdk : Sdk.platform.validated outer = some record :=
        (validated_eq_some Sdk.faithful).mpr ⟨recordOk_iff.mpr ⟨named, fun field member =>
          Sdk.fieldOk_iff_loose.mpr (loose field member)⟩, same, short⟩
      have taken := one.sdk
      rw [Sdk.parse_encodeB64, sdk, ← one.rust, Rust.validateAccountBundleBytes,
        Option.isSome_map] at taken
      obtain ⟨other, rust⟩ := Option.isSome_iff_exists.mp taken.symm
      obtain ⟨checked, otherSame, -⟩ := (validated_eq_some (Rust.faithful reads)).mp rust
      obtain ⟨passed, -⟩ := (validated_eq_some Sdk.faithful).mp sdk
      have unique := record_unique (plain_of_recordOk Sdk.faithful passed)
        (plain_of_recordOk (Rust.faithful reads) checked) (same.symm.trans otherSame)
      rw [unique] at member
      exact Rust.strict_of_fieldOk libraries ((recordOk_iff.mp checked).2 field member)
    · intro canonical
      have agree := validated_agree reads canonical
      constructor
      · rw [Rust.validateAccountBundleBytes, Node.validateAccountBundleBytes, Option.isSome_map,
          Option.isSome_map]
        exact congrArg Option.isSome (agree .rust .node)
      · rw [Sdk.parse_encodeB64, Node.validateAccountBundleBytes, Option.isSome_map]
        exact congrArg Option.isSome (agree .sdk .node)
      · rw [Kotlin.parse_encodeB64, Node.validateAccountBundleBytes, Option.isSome_map]
        exact congrArg Option.isSome (agree .kotlin .node)
      · intro implementation record accepted
        obtain ⟨named, strict, rfl, -⟩ := canonical_of_validated reads canonical accepted
        obtain ⟨fields, read, same⟩ := decoded_of_strict libraries implementation named strict
        refine ⟨fields, read, ?_⟩
        rw [outerBytes, same, canonicalText]

def plainLibraries : Libraries where
  replaceMalformed _ := []
  fromStr := JsonText.parse
  parseToJsonElement := JsonText.parse

theorem plainLibraries_reads : plainLibraries.Reads where
  fromStr := readsObjects_parse
  parseToJsonElement := readsObjects_parse

theorem account_bundle_validators_agree_plain :
    (∀ fields : AccountBundleBytes, fields.Valid →
      (Sdk.parseAccountBundle (Sdk.buildAccountBundle fields) = some (ordered fields) ∧
        Kotlin.parseAccountBundle plainLibraries (Sdk.buildAccountBundle fields) =
          some (ordered fields) ∧
        Node.validateAccountBundleBytes plainLibraries (outerBytes fields) =
          some (units fields.accountId, units fields.vaultId, units fields.itemId) ∧
        Rust.validateAccountBundleBytes plainLibraries (outerBytes fields) =
          some (units fields.accountId)) ∧
      ∀ implementation,
        decoded (platformOf plainLibraries implementation) (ordered fields) = some fields) ∧
    ∀ outer, OneBundle plainLibraries outer ↔ CanonicalOrNone outer :=
  account_bundle_validators_agree plainLibraries plainLibraries_reads

def looseRecord : AccountBundleFields where
  format := units accountBundleFormat
  accountId := units "account"
  vaultId := units "vault"
  itemId := units "item"
  kdfParametersCbor := units "b64:QR=="
  wrappedAccountKey := units "b64:QQ=="
  wrappedVaultKey := units "b64:QQ=="
  wrappedItemKey := units "b64:QQ=="
  wrappedRecoveryKey := units "b64:QQ=="

/-- The servers disagree about `looseRecord`. -/
theorem loose_bundle_divides :
    (Node.validateAccountBundleBytes plainLibraries
        (textEncode (canonicalText looseRecord))).isSome = true ∧
      Rust.validateAccountBundleBytes plainLibraries
        (textEncode (canonicalText looseRecord)) = none := by
  have taken : (Node.platform plainLibraries).recordOk looseRecord = true := by decide +kernel
  have plain := plain_of_recordOk (Node.faithful plainLibraries) taken
  have short : (textEncode (canonicalText looseRecord)).length ≤ maxOuterBytes := by
    rw [canonicalText, textEncode, length_encode (ascii_stringify plain.members)]
    decide +kernel
  have node := (validated_eq_some (Node.faithful plainLibraries)).mpr ⟨taken, rfl, short⟩
  constructor
  · rw [Node.validateAccountBundleBytes, node]
    rfl
  · rw [Rust.validateAccountBundleBytes, Option.map_eq_none_iff]
    cases rust : (Rust.platform plainLibraries).validated
        (textEncode (canonicalText looseRecord)) with
    | none => rfl
    | some other =>
        obtain ⟨checked, same, -⟩ :=
          (validated_eq_some (Rust.faithful plainLibraries_reads)).mp rust
        have unique := record_unique plain
          (plain_of_recordOk (Rust.faithful plainLibraries_reads) checked) same
        have refused : (Rust.platform plainLibraries).recordOk looseRecord = false := by
          decide +kernel
        rw [← unique, refused] at checked
        cases checked

end ZenPass.Account.BundleFormat
