import ZenPass.Crypto.Envelope

set_option autoImplicit false

namespace ZenPass.Crypto

open Cbor (Bytes)

def optionalItem : Option String → Cbor.Item
  | some id => .text id
  | none => .null

def canonicalAad (ctx : Context) : Bytes :=
  Cbor.encodeMap [(1, .text formatVersion), (2, .text ctx.accountId),
    (3, optionalItem ctx.vaultId), (4, optionalItem ctx.itemId),
    (5, .text ctx.recordKind.asStr), (6, .int ctx.keyVersion.toNat)]

def canonicalEnvelope (kind : RecordKind) (keyVersion : UInt64)
    (nonce ciphertext aad : Bytes) : Bytes :=
  Cbor.encodeMap [(1, .text formatVersion), (2, .text kind.asStr), (3, .int keyVersion.toNat),
    (4, .bytes nonce), (5, .bytes ciphertext), (6, .bytes aad)]

section Fields

variable (first second third fourth fifth sixth : Field)

def sixMap : StrictMap := ⟨sixEntries first second third fourth fifth sixth⟩

@[simp] theorem sixMap_field_first :
    (sixMap first second third fourth fifth sixth).field 1 = some first := rfl

@[simp] theorem sixMap_field_second :
    (sixMap first second third fourth fifth sixth).field 2 = some second := rfl

@[simp] theorem sixMap_field_third :
    (sixMap first second third fourth fifth sixth).field 3 = some third := rfl

@[simp] theorem sixMap_field_fourth :
    (sixMap first second third fourth fifth sixth).field 4 = some fourth := rfl

@[simp] theorem sixMap_field_fifth :
    (sixMap first second third fourth fifth sixth).field 5 = some fifth := rfl

@[simp] theorem sixMap_field_sixth :
    (sixMap first second third fourth fifth sixth).field 6 = some sixth := rfl

theorem items_sixEntries :
    items (sixEntries first second third fourth fifth sixth)
      = [(1, first.item), (2, second.item), (3, third.item), (4, fourth.item), (5, fifth.item),
        (6, sixth.item)] := rfl

theorem encodeMap_sixEntries {cbor : Minicbor} (conforms : cbor.Conforms) :
    encodeMap cbor (sixEntries first second third fourth fifth sixth)
      = .ok (Cbor.encodeMap (items (sixEntries first second third fourth fifth sixth))) :=
  encodeMap_eq conforms _ (by simp [sixEntries, maxMapEntries])

theorem sixEntries_fits (fits : ∀ field ∈ [first, second, third, fourth, fifth, sixth], field.Fits) :
    ∀ entry ∈ sixEntries first second third fourth fifth sixth, Entry.Fits entry := by
  intro entry member
  simp only [sixEntries, List.mem_cons, List.not_mem_nil, or_false] at member
  have small : ∀ key ∈ ([1, 2, 3, 4, 5, 6] : List UInt64), key.toNat < 2 ^ 63 := by
    simp only [List.forall_mem_cons]
    exact ⟨by decide, by decide, by decide, by decide, by decide, by decide, by simp⟩
  rcases member with rfl | rfl | rfl | rfl | rfl | rfl <;>
    exact ⟨small _ (by simp), fits _ (by simp)⟩

end Fields

-- The front half of both decoders
structure Accepts (cbor : Minicbor) (bytes : Bytes) (map : StrictMap) : Prop where
  decoded : StrictMap.decode cbor bytes = .ok map
  required : map.requireKeys [1, 2, 3, 4, 5, 6] = .ok ()
  canonical : map.assertCanonicalBytes cbor bytes = .ok ()

theorem Accepts.six {cbor : Minicbor} (conforms : cbor.Conforms) {bytes : Bytes}
    {map : StrictMap} (accepts : Accepts cbor bytes map) :
    ∃ first second third fourth fifth sixth,
      map = sixMap first second third fourth fifth sixth ∧
      bytes = Cbor.encodeMap (items (sixEntries first second third fourth fifth sixth)) := by
  rcases requireKeys_sixEntries (decode_ascending accepts.decoded) accepts.required
    with ⟨first, second, third, fourth, fifth, sixth, entries⟩
  have canonical := accepts.canonical
  simp only [StrictMap.assertCanonicalBytes, entries,
    encodeMap_sixEntries first second third fourth fifth sixth conforms, ok_bind] at canonical
  split_ifs at canonical with same
  refine ⟨first, second, third, fourth, fifth, sixth, ?_, (not_not.mp same).symm⟩
  rcases map with ⟨found⟩
  exact congrArg StrictMap.mk entries

theorem accepts_encodeMap {cbor : Minicbor} (conforms : cbor.Conforms)
    (first second third fourth fifth sixth : Field)
    (fits : ∀ field ∈ [first, second, third, fourth, fifth, sixth], field.Fits) :
    Accepts cbor (Cbor.encodeMap (items (sixEntries first second third fourth fifth sixth)))
      (sixMap first second third fourth fifth sixth) := by
  have few : (sixEntries first second third fourth fifth sixth).length ≤ maxMapEntries := by
    simp [sixEntries, maxMapEntries]
  have fitting := sixEntries_fits first second third fourth fifth sixth fits
  constructor
  · exact decode_encodeMap conforms _ few fitting rfl
  · rfl
  · simp only [StrictMap.assertCanonicalBytes, sixMap, encodeMap_eq conforms _ few, ok_bind]
    simp

theorem idField_item (id : Option String) : (idField id).item = optionalItem id := by
  cases id <;> rfl

theorem items_aadEntries (ctx : Context) (small : ctx.keyVersion.toNat < 2 ^ 63) :
    Cbor.encodeMap (items (aadEntries ctx ctx.keyVersion.toInt64)) = canonicalAad ctx := by
  rw [aadEntries, items_sixEntries, idField_item, idField_item]
  simp only [Field.item, toInt64_toInt _ small, canonicalAad]

theorem encodeAad_eq_ok {cbor : Minicbor} (conforms : cbor.Conforms) {ctx : Context}
    {aad : Bytes} :
    encodeAad cbor ctx = .ok aad ↔
      ctx.validate = .ok () ∧ ctx.keyVersion.toNat < 2 ^ 63 ∧ aad = canonicalAad ctx := by
  have written : ∀ keyVersion, encodeMap cbor (aadEntries ctx keyVersion)
      = .ok (Cbor.encodeMap (items (aadEntries ctx keyVersion))) := by
    intro keyVersion
    exact encodeMap_sixEntries _ _ _ _ _ _ conforms
  simp only [encodeAad, bind_eq_ok, orError_eq_ok, i64FromU64, written]
  constructor
  · rintro ⟨_, valid, version, converted, encoded⟩
    split_ifs at converted with small
    cases converted
    rw [items_aadEntries ctx small] at encoded
    exact ⟨valid, small, (Except.ok.inj encoded).symm⟩
  · rintro ⟨valid, small, rfl⟩
    refine ⟨(), valid, ctx.keyVersion.toInt64, if_pos small, ?_⟩
    rw [items_aadEntries ctx small]

-- Identifiers of lengths a 64-bit machine can hold.
structure Context.Fits (ctx : Context) : Prop where
  account : (Cbor.utf8 ctx.accountId).length < 2 ^ 64
  vault : ∀ id, ctx.vaultId = some id → (Cbor.utf8 id).length < 2 ^ 64
  item : ∀ id, ctx.itemId = some id → (Cbor.utf8 id).length < 2 ^ 64

theorem formatVersion_length : (Cbor.utf8 formatVersion).length = 18 := by decide

theorem asStr_length (kind : RecordKind) : (Cbor.utf8 kind.asStr).length ≤ 15 := by
  cases kind <;> decide

theorem idField_fits {id : Option String}
    (fits : ∀ value, id = some value → (Cbor.utf8 value).length < 2 ^ 64) :
    (idField id).Fits := by
  cases id with
  | none => trivial
  | some value => exact fits value rfl

theorem optionalId_idField {map : StrictMap} {key : UInt64} {id : Option String}
    (found : map.field key = some (idField id)) : optionalId map key = .ok id := by
  simp only [optionalId, StrictMap.getText, StrictMap.getNull, found]
  cases id <;> rfl

theorem decodeAad_canonicalAad {cbor : Minicbor} (conforms : cbor.Conforms) {ctx : Context}
    (valid : ctx.validate = .ok ()) (small : ctx.keyVersion.toNat < 2 ^ 63) (fits : ctx.Fits) :
    decodeAad cbor (canonicalAad ctx) = .ok ctx := by
  have accepts := accepts_encodeMap conforms (.text formatVersion) (.text ctx.accountId)
    (idField ctx.vaultId) (idField ctx.itemId) (.text ctx.recordKind.asStr)
    (.int ctx.keyVersion.toInt64) (by
      have format := formatVersion_length
      have kind := asStr_length ctx.recordKind
      simp only [List.forall_mem_cons, Field.Fits]
      exact ⟨by omega, fits.account, idField_fits fits.vault, idField_fits fits.item, by omega,
        trivial, by simp⟩)
  rw [← aadEntries, items_aadEntries ctx small] at accepts
  simp only [decodeAad, accepts.decoded, accepts.required, accepts.canonical, ok_bind,
    StrictMap.textIs, StrictMap.getText, StrictMap.getInt, sixMap_field_first,
    sixMap_field_second, sixMap_field_fifth, sixMap_field_sixth, Option.bind_some, Field.asText,
    Field.asInt, orError, RecordKind.parse_asStr, u64FromI64_toInt64 _ small,
    optionalId_idField (sixMap_field_third _ _ _ _ _ _),
    optionalId_idField (sixMap_field_fourth _ _ _ _ _ _), valid]
  simp

theorem items_envelopeEntries (kind : RecordKind) (keyVersion : UInt64)
    (small : keyVersion.toNat < 2 ^ 63) (nonce ciphertext aad : Bytes) :
    Cbor.encodeMap (items (envelopeEntries kind keyVersion.toInt64 nonce ciphertext aad))
      = canonicalEnvelope kind keyVersion nonce ciphertext aad := by
  rw [envelopeEntries, items_sixEntries]
  simp only [Field.item, toInt64_toInt _ small, canonicalEnvelope]

theorem encodeMap_envelopeEntries {cbor : Minicbor} (conforms : cbor.Conforms)
    (kind : RecordKind) (keyVersion : UInt64) (small : keyVersion.toNat < 2 ^ 63)
    (nonce ciphertext aad : Bytes) :
    encodeMap cbor (envelopeEntries kind keyVersion.toInt64 nonce ciphertext aad)
      = .ok (canonicalEnvelope kind keyVersion nonce ciphertext aad) := by
  rw [← items_envelopeEntries kind keyVersion small]
  exact encodeMap_sixEntries _ _ _ _ _ _ conforms

theorem decodeEnvelope_canonicalEnvelope {cbor : Minicbor} (conforms : cbor.Conforms)
    (kind : RecordKind) (keyVersion : UInt64) (small : keyVersion.toNat < 2 ^ 63)
    (nonce ciphertext aad : Bytes) (nonceSize : nonce.length = nonceLen)
    (tagged : tagLen ≤ ciphertext.length) (ciphertextFits : ciphertext.length < 2 ^ 64)
    (aadFits : aad.length < 2 ^ 64) :
    decodeEnvelope cbor (canonicalEnvelope kind keyVersion nonce ciphertext aad)
      = .ok { kind, keyVersion, nonce, ciphertextAndTag := ciphertext, aad } := by
  have accepts := accepts_encodeMap conforms (.text formatVersion) (.text kind.asStr)
    (.int keyVersion.toInt64) (.bytes nonce) (.bytes ciphertext) (.bytes aad) (by
      have format := formatVersion_length
      have kindLength := asStr_length kind
      simp only [nonceLen] at nonceSize
      simp only [List.forall_mem_cons, Field.Fits]
      exact ⟨by omega, by omega, trivial, by omega, ciphertextFits, aadFits, by simp⟩)
  rw [← envelopeEntries, items_envelopeEntries kind keyVersion small] at accepts
  simp only [decodeEnvelope, accepts.decoded, accepts.required, accepts.canonical, ok_bind,
    StrictMap.textIs, StrictMap.getText, StrictMap.getInt, StrictMap.getBytes,
    sixMap_field_first, sixMap_field_second, sixMap_field_third, sixMap_field_fourth,
    sixMap_field_fifth, sixMap_field_sixth, Option.bind_some, Field.asText, Field.asInt,
    Field.asBytes, orError, RecordKind.parse_asStr, u64FromI64_toInt64 _ small]
  simp [nonceSize, tagged]

theorem asText_eq_some {field : Field} {value : String} :
    field.asText = some value ↔ field = .text value := by
  cases field <;> simp [Field.asText]

theorem asBytes_eq_some {field : Field} {value : Bytes} :
    field.asBytes = some value ↔ field = .bytes value := by
  cases field <;> simp [Field.asBytes]

theorem asInt_eq_some {field : Field} {value : Int64} :
    field.asInt = some value ↔ field = .int value := by
  cases field <;> simp [Field.asInt]

theorem textIs_first {first second third fourth fifth sixth : Field} {text : String}
    (version : ((sixMap first second third fourth fifth sixth).textIs 1 text).getD false = true) :
    first = .text text := by
  simp only [StrictMap.textIs, StrictMap.getText, sixMap_field_first, Option.bind_some]
    at version
  cases first with
  | text value => simpa [Field.asText] using version
  | bytes | int | null => simp [Field.asText] at version

theorem decodeEnvelope_eq_ok {cbor : Minicbor} (conforms : cbor.Conforms) {bytes : Bytes}
    {parts : EnvelopeParts} (decoded : decodeEnvelope cbor bytes = .ok parts) :
    bytes = canonicalEnvelope parts.kind parts.keyVersion parts.nonce parts.ciphertextAndTag
        parts.aad ∧
      parts.keyVersion.toNat < 2 ^ 63 ∧
      parts.nonce.length = nonceLen ∧ tagLen ≤ parts.ciphertextAndTag.length := by
  simp only [decodeEnvelope, bind_eq_ok] at decoded
  rcases decoded with ⟨map, read, _, required, _, canonical, decoded⟩
  rcases Accepts.six conforms ⟨read, required, canonical⟩
    with ⟨first, second, third, fourth, fifth, sixth, rfl, bytes⟩
  split_ifs at decoded with version
  simp only [bind_eq_ok, orError_eq_ok, StrictMap.getText, StrictMap.getInt, StrictMap.getBytes,
    sixMap_field_second, sixMap_field_third, sixMap_field_fourth, sixMap_field_fifth,
    sixMap_field_sixth, Option.bind_some] at decoded
  rcases decoded with ⟨kind, second', kind', parsed, signed, third', keyVersion, converted,
    nonce, fourth', ciphertext, fifth', aad, sixth', decoded⟩
  split_ifs at decoded with size tagged
  cases decoded
  cases textIs_first version
  cases asText_eq_some.mp second'
  cases asInt_eq_some.mp third'
  cases asBytes_eq_some.mp fourth'
  cases asBytes_eq_some.mp fifth'
  cases asBytes_eq_some.mp sixth'
  cases RecordKind.asStr_of_parse parsed
  have small := u64FromI64_lt converted
  refine ⟨?_, small, not_not.mp size, Nat.le_of_not_lt tagged⟩
  rw [bytes, ← items_envelopeEntries kind' keyVersion small,
    toInt64_of_u64FromI64 converted]
  rfl

end ZenPass.Crypto
