import ZenPass.Crypto.Binding
import ZenPass.Crypto.CanonicalMap
import ZenPass.Crypto.Keys

set_option autoImplicit false

namespace ZenPass.Crypto

open Cbor (Bytes)

-- the arms of the `match` that become `InvalidRecoveryKit`
def Error.refusesKit : Error → Bool
  | .authenticationFailed | .invalidEncoding | .nonCanonicalCbor | .invalidNonce => true
  | _ => false

-- the other errors an envelope can be refused with
def Error.tellsWhy : Error → Bool
  | .unknownField | .unsupportedVersion | .invalidContext | .invalidKeyLength => true
  | _ => false

inductive NegativeKey (cbor : Minicbor) : Nat → Bytes → Prop
  | here {count : Nat} {input rest : Bytes} {type : CborType} {value : Int64} :
    cbor.datatype input = some type → type.isInteger = true → cbor.i64 input = some (value, rest) →
    value.toInt < 0 → NegativeKey cbor (count + 1) input
  | later {count : Nat} {input afterKey afterValue : Bytes} {key : UInt64} {value : Field} :
    readKey cbor input = .ok (key, afterKey) → readValue cbor afterKey = .ok (value, afterValue) →
    NegativeKey cbor count afterValue → NegativeKey cbor (count + 1) input

/-- More than 16 entries are announced, or a key is negative, or a map that can be read has the keys
1 to 6 and another one. -/
inductive ExtraField (cbor : Minicbor) (bytes : Bytes) : Prop
  | count {len : UInt64} {rest : Bytes} :
    cbor.map bytes = some (some len, rest) → maxMapEntries < len.toNat → ExtraField cbor bytes
  | negative {len : UInt64} {rest : Bytes} :
    cbor.map bytes = some (some len, rest) → len.toNat ≤ maxMapEntries →
    NegativeKey cbor len.toNat rest → ExtraField cbor bytes
  | another {map : StrictMap} :
    StrictMap.decode cbor bytes = .ok map →
    (∀ key ∈ ([1, 2, 3, 4, 5, 6] : List UInt64), key ∈ map.entries.map Prod.fst) →
    (∃ key ∈ map.entries.map Prod.fst, key ∉ ([1, 2, 3, 4, 5, 6] : List UInt64)) →
    ExtraField cbor bytes

section Reader

variable {cbor : Minicbor}

theorem readKey_eq_error {input : Bytes} {error : Error}
    (failed : readKey cbor input = .error error) :
    error.refusesKit = true ∨ error = .unknownField ∧ ∀ count, NegativeKey cbor (count + 1) input := by
  simp only [readKey, bind_eq_error, orError_eq_error] at failed
  rcases failed with ⟨-, rfl⟩ | ⟨type, known, failed⟩
  · exact Or.inl rfl
  split_ifs at failed with integer special
  · simp only [bind_eq_error, orError_eq_error] at failed
    rcases failed with ⟨-, rfl⟩ | ⟨⟨value, rest⟩, read, ⟨unsigned, rfl⟩ | ⟨_, _, failed⟩⟩
    · exact Or.inl rfl
    · refine Or.inr ⟨rfl, fun count => ?_⟩
      unfold u64FromI64 at unsigned
      split_ifs at unsigned with positive
      exact .here (orError_eq_ok.mp known) integer (orError_eq_ok.mp read) (not_le.mp positive)
    · cases failed
  · cases failed
    exact Or.inl rfl
  · cases failed
    exact Or.inl rfl

theorem readValue_eq_error {input : Bytes} {error : Error}
    (failed : readValue cbor input = .error error) : error.refusesKit = true := by
  simp only [readValue, bind_eq_error, orError_eq_error] at failed
  rcases failed with ⟨-, rfl⟩ | ⟨type, known, failed⟩
  · rfl
  split at failed
  case h_4 =>
    split_ifs at failed with integer
    · simp only [bind_eq_error, orError_eq_error] at failed
      rcases failed with ⟨-, rfl⟩ | ⟨_, _, failed⟩
      · rfl
      · cases failed
    all_goals
      cases failed
      rfl
  all_goals
    simp only [bind_eq_error, orError_eq_error] at failed
    rcases failed with ⟨-, rfl⟩ | ⟨_, _, failed⟩
    · rfl
    · cases failed

-- The first fault of the entries decides.
theorem readEntries_eq_error {count : Nat} {input : Bytes} {error : Error}
    (failed : readEntries cbor count input = .error error) :
    error.refusesKit = true ∨ error = .unknownField ∧ NegativeKey cbor count input := by
  induction count generalizing input with
  | zero => cases failed
  | succ count ih =>
    simp only [readEntries, bind_eq_error] at failed
    rcases failed with failed | ⟨⟨key, afterKey⟩, keyRead, failed | ⟨⟨value, afterValue⟩, valueRead, failed⟩⟩
    · rcases readKey_eq_error failed with refused | ⟨rfl, negative⟩
      · exact Or.inl refused
      · exact Or.inr ⟨rfl, negative count⟩
    · exact Or.inl (readValue_eq_error failed)
    · rcases failed with failed | ⟨_, _, failed⟩
      · rcases ih failed with refused | ⟨rfl, negative⟩
        · exact Or.inl refused
        · exact Or.inr ⟨rfl, .later keyRead valueRead negative⟩
      · cases failed

theorem NegativeKey.readEntries {count : Nat} {input : Bytes} (negative : NegativeKey cbor count input) :
    readEntries cbor count input = .error .unknownField := by
  induction negative with
  | here known integer read below =>
    have unsigned : ∀ value : Int64, value.toInt < 0 → u64FromI64 value = none := by
      intro value below
      exact if_neg (not_le.mpr below)
    simp only [Crypto.readEntries, readKey, known, integer, read, unsigned _ below, orError, if_true,
      ok_bind]
    rfl
  | later keyRead valueRead _ ih =>
    simp only [Crypto.readEntries, keyRead, valueRead, ih, ok_bind]
    rfl

theorem decode_eq_error {bytes : Bytes} {error : Error}
    (failed : StrictMap.decode cbor bytes = .error error) :
    error.refusesKit = true ∨ error = .unknownField ∧ ExtraField cbor bytes := by
  simp only [StrictMap.decode, bind_eq_error, orError_eq_error, orError_eq_ok, guard_eq_error] at failed
  rcases failed with ⟨-, rfl⟩ | ⟨⟨len, rest⟩, header, ⟨-, rfl⟩ | ⟨len, rfl, ⟨many, rfl⟩ | ⟨few, failed⟩⟩⟩
  · exact Or.inl rfl
  · exact Or.inl rfl
  · exact Or.inr ⟨rfl, .count header many⟩
  rcases failed with failed | ⟨⟨entries, after⟩, _, ⟨-, rfl⟩ | ⟨-, failed⟩⟩
  · rcases readEntries_eq_error failed with refused | ⟨rfl, negative⟩
    · exact Or.inl refused
    · exact Or.inr ⟨rfl, .negative header (Nat.not_lt.mp few) negative⟩
  · exact Or.inl rfl
  · split_ifs at failed
    cases failed
    exact Or.inl rfl

theorem requireKeys_eq_error {map : StrictMap} {expected : List UInt64} {error : Error}
    (failed : map.requireKeys expected = .error error) :
    error.refusesKit = true ∨ error = .unknownField ∧
      (∀ key ∈ expected, key ∈ map.entries.map Prod.fst) ∧
        ∃ key ∈ map.entries.map Prod.fst, key ∉ expected := by
  unfold StrictMap.requireKeys at failed
  split_ifs at failed with present known
  · cases failed
    refine Or.inr ⟨rfl, ?_, ?_⟩
    · intro key member
      obtain ⟨entry, there, same⟩ := List.any_eq_true.mp (List.all_eq_true.mp present key member)
      exact List.mem_map.mpr ⟨entry, there, by simpa using same⟩
    · simp only [List.all_eq_true, not_forall] at known
      obtain ⟨entry, there, foreign⟩ := known
      exact ⟨entry.1, List.mem_map_of_mem there, by simpa using foreign⟩
  · cases failed
    exact Or.inl rfl

end Reader

def sixBytes (first second third fourth fifth sixth : Field) : Bytes :=
  Cbor.encodeMap (items (sixEntries first second third fourth fifth sixth))

structure EnvelopeParts.Shape (parts : EnvelopeParts) (envelope : Bytes) : Prop where
  version : parts.keyVersion.toNat < 2 ^ 63
  nonce : parts.nonce.length = nonceLen
  tagged : tagLen ≤ parts.ciphertextAndTag.length
  bytes : envelope = canonicalEnvelope parts.kind parts.keyVersion parts.nonce parts.ciphertextAndTag
    parts.aad

/-- An AAD with a foreign field, with another format version, with a negative key version behind a
known kind, or of another context. -/
inductive TellingAad (cbor : Minicbor) (expected : Context) : Bytes → Prop
  | extraField {aad : Bytes} : ExtraField cbor aad → TellingAad cbor expected aad
  | format {first second third fourth fifth sixth : Field} :
    first ≠ .text formatVersion →
    TellingAad cbor expected (sixBytes first second third fourth fifth sixth)
  | negative {accountId : String} {vaultId itemId : Field} {kind : RecordKind} {version : Int64} :
    version.toInt < 0 →
    TellingAad cbor expected (sixBytes (.text formatVersion) (.text accountId) vaultId itemId
      (.text kind.asStr) (.int version))
  | context {ctx : Context} :
    ctx.keyVersion.toNat < 2 ^ 63 → ctx ≠ expected → TellingAad cbor expected (canonicalAad ctx)

/-- The envelopes whose refusal names its reason: a foreign field, another format version or a negative
key version outside, or a well-formed envelope where the version asked for does not fit an `i64`, the
AAD is such a one, its head disagrees with the AAD, or the cipher takes it and not 32 bytes are inside. -/
inductive Telling (cbor : Minicbor) (aead : Aead) (key : Bytes) (expected : Context) :
    Bytes → Prop
  | extraField {envelope : Bytes} :
    ExtraField cbor envelope → Telling cbor aead key expected envelope
  | format {first second third fourth fifth sixth : Field} :
    first ≠ .text formatVersion →
    Telling cbor aead key expected (sixBytes first second third fourth fifth sixth)
  | negative {kind : RecordKind} {version : Int64} {nonce ciphertext aad : Field} :
    version.toInt < 0 →
    Telling cbor aead key expected (sixBytes (.text formatVersion) (.text kind.asStr) (.int version)
      nonce ciphertext aad)
  | keyVersion {parts : EnvelopeParts} {envelope : Bytes} :
    parts.Shape envelope → 2 ^ 63 ≤ expected.keyVersion.toNat →
    Telling cbor aead key expected envelope
  | aad {parts : EnvelopeParts} {envelope : Bytes} :
    parts.Shape envelope → TellingAad cbor expected parts.aad → Telling cbor aead key expected envelope
  | head {parts : EnvelopeParts} {envelope : Bytes} :
    parts.Shape envelope → parts.aad = canonicalAad expected →
    parts.kind ≠ expected.recordKind ∨ parts.keyVersion ≠ expected.keyVersion →
    Telling cbor aead key expected envelope
  | length {parts : EnvelopeParts} {envelope plaintext : Bytes} :
    parts.Shape envelope → parts.aad = canonicalAad expected →
    aead.decrypt key parts.nonce parts.ciphertextAndTag parts.aad = some plaintext →
    plaintext.length ≠ keyLen → Telling cbor aead key expected envelope

section Decoders

variable {cbor : Minicbor} (conforms : cbor.Conforms)

include conforms

theorem assertCanonicalBytes_eq_error {bytes : Bytes} {map : StrictMap} {error : Error}
    (decoded : StrictMap.decode cbor bytes = .ok map)
    (failed : map.assertCanonicalBytes cbor bytes = .error error) : error = .nonCanonicalCbor := by
  have encoded := encodeMap_eq conforms map.entries (decode_canonicalEntries decoded).few
  simp only [StrictMap.assertCanonicalBytes, encoded, ok_bind] at failed
  split_ifs at failed
  cases failed
  rfl

-- The front half of both decoders
theorem front_eq_error {α : Type} {bytes : Bytes} {next : StrictMap → Except Error α} {error : Error}
    (failed : (do
      let map ← StrictMap.decode cbor bytes
      map.requireKeys [1, 2, 3, 4, 5, 6]
      map.assertCanonicalBytes cbor bytes
      next map) = .error error) :
    (error.refusesKit = true ∨ error = .unknownField ∧ ExtraField cbor bytes) ∨
      ∃ first second third fourth fifth sixth,
        bytes = sixBytes first second third fourth fifth sixth ∧
          next (sixMap first second third fourth fifth sixth) = .error error := by
  simp only [bind_eq_error] at failed
  rcases failed with failed | ⟨map, decoded, failed | ⟨_, required, failed | ⟨_, canonical, failed⟩⟩⟩
  · exact Or.inl (decode_eq_error failed)
  · rcases requireKeys_eq_error failed with refused | ⟨rfl, all, other⟩
    · exact Or.inl (Or.inl refused)
    · exact Or.inl (Or.inr ⟨rfl, .another decoded all other⟩)
  · obtain rfl := assertCanonicalBytes_eq_error conforms decoded failed
    exact Or.inl (Or.inl rfl)
  · obtain ⟨first, second, third, fourth, fifth, sixth, rfl, bytes⟩ :=
      Accepts.six conforms ⟨decoded, required, canonical⟩
    exact Or.inr ⟨first, second, third, fourth, fifth, sixth, bytes, failed⟩

theorem front_of_fits {α : Type} {first second third fourth fifth sixth : Field}
    (fits : ∀ field ∈ [first, second, third, fourth, fifth, sixth], field.Fits)
    (next : StrictMap → Except Error α) :
    (do
      let map ← StrictMap.decode cbor (sixBytes first second third fourth fifth sixth)
      map.requireKeys [1, 2, 3, 4, 5, 6]
      map.assertCanonicalBytes cbor (sixBytes first second third fourth fifth sixth)
      next map) = next (sixMap first second third fourth fifth sixth) := by
  have accepts := accepts_encodeMap conforms first second third fourth fifth sixth fits
  rw [sixBytes, accepts.decoded, ok_bind, accepts.required, ok_bind, accepts.canonical, ok_bind]

omit conforms in
theorem front_of_extraField {α : Type} {bytes : Bytes} (extra : ExtraField cbor bytes)
    (next : StrictMap → Except Error α) :
    (do
      let map ← StrictMap.decode cbor bytes
      map.requireKeys [1, 2, 3, 4, 5, 6]
      map.assertCanonicalBytes cbor bytes
      next map) = .error .unknownField := by
  cases extra with
  | count header many =>
    simp only [StrictMap.decode, header, orError, ok_bind, if_pos many]
    rfl
  | negative header few negative =>
    simp only [StrictMap.decode, header, orError, ok_bind, if_neg (Nat.not_lt.mpr few),
      negative.readEntries]
    rfl
  | another decoded all other =>
    obtain ⟨foreign, there, unknown⟩ := other
    obtain ⟨entry, member, rfl⟩ := List.mem_map.mp there
    rw [decoded, ok_bind, StrictMap.requireKeys, if_pos, if_neg]
    · rfl
    · intro known
      exact unknown (by simpa using List.all_eq_true.mp known entry member)
    · rw [List.all_eq_true]
      intro key expected
      obtain ⟨found, inside, same⟩ := List.mem_map.mp (all key expected)
      exact List.any_eq_true.mpr ⟨found, inside, by simp [same]⟩

omit conforms in
theorem sixBytes_fits {first second third fourth fifth sixth : Field}
    (slice : (sixBytes first second third fourth fifth sixth).length < 2 ^ 64) :
    ∀ field ∈ [first, second, third, fourth, fifth, sixth], field.Fits := by
  intro field member
  have inside : field ∈ (sixEntries first second third fourth fifth sixth).map Prod.snd := member
  obtain ⟨entry, there, rfl⟩ := List.mem_map.mp inside
  exact fits_of_length (Nat.lt_of_le_of_lt (encode_length_le there) slice)

omit conforms in
theorem validate_eq_error {ctx : Context} {error : Error} (failed : ctx.validate = .error error) :
    error = .invalidContext := by
  unfold Context.validate at failed
  split_ifs at failed <;> cases failed <;> rfl

omit conforms in
theorem textIs_of_ne {first second third fourth fifth sixth : Field} {text : String}
    (other : first ≠ .text text) :
    ¬((sixMap first second third fourth fifth sixth).textIs 1 text).getD false = true := by
  intro version
  exact other (textIs_first version)

omit conforms in
theorem u64FromI64_eq_none {signed : Int64} (none' : u64FromI64 signed = none) : signed.toInt < 0 := by
  unfold u64FromI64 at none'
  split_ifs at none' with positive
  exact not_le.mp positive

theorem decodeEnvelope_eq_error {aead : Aead} {key bytes : Bytes} {expected : Context} {error : Error}
    (rejected : decodeEnvelope cbor bytes = .error error) :
    error.refusesKit = true ∨ error.tellsWhy = true ∧ Telling cbor aead key expected bytes := by
  unfold decodeEnvelope at rejected
  rcases front_eq_error conforms rejected with (refused | ⟨rfl, extra⟩) |
    ⟨first, second, third, fourth, fifth, sixth, rfl, failed⟩
  · exact Or.inl refused
  · exact Or.inr ⟨rfl, .extraField extra⟩
  simp only [guard_eq_error, bind_eq_error, orError_eq_error, orError_eq_ok] at failed
  rcases failed with ⟨version, rfl⟩ | ⟨version, failed⟩
  · refine Or.inr ⟨rfl, .format ?_⟩
    rintro rfl
    exact version (by simp [StrictMap.textIs, StrictMap.getText, Field.asText])
  obtain rfl := textIs_first (not_not.mp version)
  rcases failed with ⟨-, rfl⟩ | ⟨kind, isKind, ⟨-, rfl⟩ | ⟨kind', parsed, ⟨-, rfl⟩ |
    ⟨signed, isSigned, ⟨negative, rfl⟩ | ⟨version, -, failed⟩⟩⟩⟩
  · exact Or.inl rfl
  · exact Or.inl rfl
  · exact Or.inl rfl
  · obtain rfl := asText_eq_some.mp isKind
    obtain rfl := asInt_eq_some.mp isSigned
    obtain rfl := RecordKind.asStr_of_parse parsed
    exact Or.inr ⟨rfl, .negative (u64FromI64_eq_none negative)⟩
  -- the remaining refusals do not tell
  rcases failed with ⟨-, rfl⟩ | ⟨_, -, ⟨-, rfl⟩ | ⟨_, -, ⟨-, rfl⟩ | ⟨_, -, ⟨-, rfl⟩ | ⟨-, ⟨-, rfl⟩ | ⟨-, failed⟩⟩⟩⟩⟩
  · exact Or.inl rfl
  · exact Or.inl rfl
  · exact Or.inl rfl
  · exact Or.inl rfl
  · exact Or.inl rfl
  · cases failed

omit conforms in
theorem optionalId_eq_error {map : StrictMap} {key : UInt64} {error : Error}
    (failed : optionalId map key = .error error) : error = .invalidEncoding := by
  unfold optionalId at failed
  split at failed
  · cases failed
  · split_ifs at failed
    cases failed
    rfl

omit conforms in
theorem optionalId_eq_ok {map : StrictMap} {key : UInt64} {field : Field} {id : Option String}
    (found : map.field key = some field) (read : optionalId map key = .ok id) : field = idField id := by
  simp only [optionalId, StrictMap.getText, StrictMap.getNull, found, Option.bind_some] at read
  cases field with
  | text value =>
    cases read
    rfl
  | null =>
    cases read
    rfl
  | bytes value | int value => cases read

omit conforms in
theorem sixBytes_aad {accountId : String} {vaultId itemId : Option String} {kind : RecordKind}
    {signed : Int64} {version : UInt64} (converted : u64FromI64 signed = some version) :
    sixBytes (.text formatVersion) (.text accountId) (idField vaultId) (idField itemId)
      (.text kind.asStr) (.int signed) = canonicalAad ⟨accountId, vaultId, itemId, kind, version⟩ := by
  have written := items_aadEntries ⟨accountId, vaultId, itemId, kind, version⟩
    (u64FromI64_lt converted)
  rw [← written, toInt64_of_u64FromI64 converted]
  rfl

theorem decodeAad_eq_ok {aad : Bytes} {ctx : Context} (accepted : decodeAad cbor aad = .ok ctx) :
    aad = canonicalAad ctx ∧ ctx.keyVersion.toNat < 2 ^ 63 := by
  simp only [decodeAad, bind_eq_ok, guard_eq_ok, orError_eq_ok, not_not] at accepted
  obtain ⟨map, decoded, _, required, _, canonical, version, accountId, isAccount, kind, isKind, kind',
    parsed, signed, isSigned, keyVersion, converted, vaultId, isVault, itemId, isItem, _, -, same⟩ :=
    accepted
  obtain ⟨first, second, third, fourth, fifth, sixth, rfl, bytes⟩ :=
    Accepts.six conforms ⟨decoded, required, canonical⟩
  cases same
  obtain rfl := textIs_first version
  obtain rfl := asText_eq_some.mp isAccount
  obtain rfl := asText_eq_some.mp isKind
  obtain rfl := asInt_eq_some.mp isSigned
  obtain rfl := RecordKind.asStr_of_parse parsed
  obtain rfl := optionalId_eq_ok (sixMap_field_third _ _ _ _ _ _) isVault
  obtain rfl := optionalId_eq_ok (sixMap_field_fourth _ _ _ _ _ _) isItem
  exact ⟨bytes.trans (sixBytes_aad converted), u64FromI64_lt converted⟩

theorem decodeAad_eq_error {aad : Bytes} {expected : Context} (valid : expected.validate = .ok ())
    {error : Error} (rejected : decodeAad cbor aad = .error error) :
    error.refusesKit = true ∨ error.tellsWhy = true ∧ TellingAad cbor expected aad := by
  unfold decodeAad at rejected
  rcases front_eq_error conforms rejected with (refused | ⟨rfl, extra⟩) |
    ⟨first, second, third, fourth, fifth, sixth, rfl, failed⟩
  · exact Or.inl refused
  · exact Or.inr ⟨rfl, .extraField extra⟩
  simp only [guard_eq_error, bind_eq_error, orError_eq_error, orError_eq_ok] at failed
  rcases failed with ⟨version, rfl⟩ | ⟨version, failed⟩
  · refine Or.inr ⟨rfl, .format ?_⟩
    rintro rfl
    exact version (by simp [StrictMap.textIs, StrictMap.getText, Field.asText])
  obtain rfl := textIs_first (not_not.mp version)
  rcases failed with ⟨-, rfl⟩ | ⟨accountId, isAccount, ⟨-, rfl⟩ | ⟨kind, isKind, ⟨-, rfl⟩ |
    ⟨kind', parsed, ⟨-, rfl⟩ | ⟨signed, isSigned, failed⟩⟩⟩⟩
  · exact Or.inl rfl
  · exact Or.inl rfl
  · exact Or.inl rfl
  · exact Or.inl rfl
  obtain rfl := asText_eq_some.mp isAccount
  obtain rfl := asText_eq_some.mp isKind
  obtain rfl := asInt_eq_some.mp isSigned
  obtain rfl := RecordKind.asStr_of_parse parsed
  rcases failed with ⟨negative, rfl⟩ | ⟨keyVersion, converted, failed | ⟨vaultId, isVault, failed |
    ⟨itemId, isItem, failed | ⟨_, _, failed⟩⟩⟩⟩
  · exact Or.inr ⟨rfl, .negative (u64FromI64_eq_none negative)⟩
  · obtain rfl := optionalId_eq_error failed
    exact Or.inl rfl
  · obtain rfl := optionalId_eq_error failed
    exact Or.inl rfl
  · -- a context that is not even valid is not the one asked for
    obtain rfl := optionalId_eq_ok (sixMap_field_third _ _ _ _ _ _) isVault
    obtain rfl := optionalId_eq_ok (sixMap_field_fourth _ _ _ _ _ _) isItem
    rw [sixBytes_aad converted]
    refine Or.inr ⟨?_, .context (u64FromI64_lt converted) ?_⟩
    · rw [validate_eq_error failed]
      rfl
    · rintro rfl
      rw [valid] at failed
      cases failed
  · cases failed

theorem decodeAad_canonical {ctx : Context} (small : ctx.keyVersion.toNat < 2 ^ 63)
    (slice : (canonicalAad ctx).length < 2 ^ 64) :
    decodeAad cbor (canonicalAad ctx) = ctx.validate.map fun _ => ctx := by
  have same := @sixBytes_aad ctx.accountId ctx.vaultId ctx.itemId ctx.recordKind
    ctx.keyVersion.toInt64 ctx.keyVersion (u64FromI64_toInt64 _ small)
  rw [← same] at slice
  have fits := sixBytes_fits slice
  unfold decodeAad
  rw [← same, front_of_fits conforms fits]
  simp only [StrictMap.textIs, StrictMap.getText, StrictMap.getInt, sixMap_field_first,
    sixMap_field_second, sixMap_field_fifth, sixMap_field_sixth, Option.bind_some, Field.asText,
    Field.asInt, orError, ok_bind, RecordKind.parse_asStr, u64FromI64_toInt64 _ small,
    optionalId_idField (sixMap_field_third _ _ _ _ _ _),
    optionalId_idField (sixMap_field_fourth _ _ _ _ _ _)]
  cases ctx.validate with
  | ok _ => simp [Except.map, bind, Except.bind]
  | error error => simp [Except.map, bind, Except.bind]

end Decoders

section Opening

variable {cbor : Minicbor} (conforms : cbor.Conforms) {aead : Aead} {key envelope : Bytes}
  {expected : Context} (valid : expected.validate = .ok ()) (keySize : key.length = keyLen)
  (wrapper : ∀ len, plaintextWithinLimit expected.recordKind len = decide (len = keyLen))

include conforms valid in
theorem encodeAad_eq_error {error : Error} (failed : encodeAad cbor expected = .error error) :
    error = .invalidContext ∧ 2 ^ 63 ≤ expected.keyVersion.toNat := by
  have written (version : Int64) := encodeMap_sixEntries (.text formatVersion)
    (.text expected.accountId) (idField expected.vaultId) (idField expected.itemId)
    (.text expected.recordKind.asStr) (.int version) conforms
  simp only [encodeAad, valid, ok_bind, bind_eq_error, orError_eq_error, aadEntries, written] at failed
  rcases failed with ⟨large, rfl⟩ | ⟨_, -, failed⟩
  · refine ⟨rfl, ?_⟩
    unfold i64FromU64 at large
    split_ifs at large with small
    exact Nat.not_lt.mp small
  · cases failed

omit valid keySize wrapper in
theorem aeadOpen_eq_error {nonce ciphertext aad : Bytes} {error : Error} (keySize : key.length = keyLen)
    (failed : aeadOpen aead key nonce ciphertext aad = .error error) : error.refusesKit = true := by
  simp only [aeadOpen, guard_eq_error, orError_eq_error] at failed
  rcases failed with ⟨other, -⟩ | ⟨-, ⟨-, rfl⟩ | ⟨-, ⟨-, rfl⟩ | ⟨-, -, rfl⟩⟩⟩
  · exact absurd keySize other
  · rfl
  · rfl
  · rfl

include conforms valid in
theorem encodeAad_eq :
    encodeAad cbor expected = if expected.keyVersion.toNat < 2 ^ 63 then .ok (canonicalAad expected)
      else .error .invalidContext := by
  split_ifs with small
  · exact (encodeAad_eq_ok conforms).mpr ⟨valid, small, rfl⟩
  · have large : i64FromU64 expected.keyVersion = none := if_neg small
    simp only [encodeAad, valid, ok_bind, large, orError]
    rfl

include conforms in
theorem shape_of_decodeEnvelope {parts : EnvelopeParts}
    (decoded : decodeEnvelope cbor envelope = .ok parts) : parts.Shape envelope := by
  obtain ⟨bytes, version, nonce, tagged⟩ := decodeEnvelope_eq_ok conforms decoded
  exact ⟨version, nonce, tagged, bytes⟩

include conforms valid keySize wrapper in
theorem openEnvelope_eq_error {error : Error}
    (rejected : openEnvelope cbor aead key expected envelope = .error error) :
    error.refusesKit = true ∨ error.tellsWhy = true ∧ Telling cbor aead key expected envelope := by
  simp only [openEnvelope, valid, ok_bind, guard_eq_error, bind_eq_error] at rejected
  rcases rejected with ⟨other, -⟩ | ⟨-, failed | ⟨parts, decoded, failed | ⟨aad, encoded, failed |
    ⟨embedded, read, failed⟩⟩⟩⟩
  · exact absurd keySize other
  · exact decodeEnvelope_eq_error conforms failed
  · obtain ⟨rfl, large⟩ := encodeAad_eq_error conforms valid failed
    exact Or.inr ⟨rfl, .keyVersion (shape_of_decodeEnvelope conforms decoded) large⟩
  · rcases decodeAad_eq_error conforms valid failed with refused | ⟨tells, telling⟩
    · exact Or.inl refused
    · exact Or.inr ⟨tells, .aad (shape_of_decodeEnvelope conforms decoded) telling⟩
  have shape := shape_of_decodeEnvelope conforms decoded
  obtain ⟨-, -, rfl⟩ := (encodeAad_eq_ok conforms).mp encoded
  obtain ⟨bytes, small⟩ := decodeAad_eq_ok conforms read
  by_cases same : embedded = expected
  · subst same
    rcases failed with ⟨differs, rfl⟩ | ⟨-, ⟨other, -⟩ | ⟨-, failed | ⟨plaintext, opened, failed⟩⟩⟩
    · refine Or.inr ⟨rfl, .head shape bytes ?_⟩
      rcases differs with kind | other | version
      · exact Or.inl kind
      · exact absurd rfl other
      · exact Or.inr (Ne.symm version)
    · exact absurd bytes other
    · exact Or.inl (aeadOpen_eq_error keySize failed)
    · rcases failed with ⟨outside, rfl⟩ | ⟨_, failed⟩
      · rw [wrapper, decide_eq_true_eq] at outside
        refine Or.inr ⟨rfl, .length shape bytes ?_ outside⟩
        simp only [aeadOpen, guard_eq_ok, orError_eq_ok] at opened
        rw [bytes]
        exact opened.2.2.2
      · cases failed
  · rcases failed with ⟨-, rfl⟩ | ⟨agrees, -⟩
    · refine Or.inr ⟨rfl, .aad shape ?_⟩
      rw [bytes]
      exact .context small same
    · exact absurd (Or.inr (Or.inl same)) agrees

variable (slice : envelope.length < 2 ^ 64)

include conforms slice in
theorem EnvelopeParts.Shape.decoded {parts : EnvelopeParts} (shape : parts.Shape envelope) :
    decodeEnvelope cbor envelope = .ok parts := by
  have le := canonicalEnvelope_parts_le parts.kind parts.keyVersion parts.nonce
    parts.ciphertextAndTag parts.aad
  rw [shape.bytes] at slice
  rw [shape.bytes]
  exact decodeEnvelope_canonicalEnvelope conforms parts.kind parts.keyVersion shape.version parts.nonce
    parts.ciphertextAndTag parts.aad shape.nonce shape.tagged (by omega) (by omega)

include slice in
theorem EnvelopeParts.Shape.aad_lt {parts : EnvelopeParts} (shape : parts.Shape envelope) :
    parts.aad.length < 2 ^ 64 := by
  have le := canonicalEnvelope_parts_le parts.kind parts.keyVersion parts.nonce
    parts.ciphertextAndTag parts.aad
  rw [shape.bytes] at slice
  omega

include conforms in
theorem TellingAad.refused {aad : Bytes} (telling : TellingAad cbor expected aad)
    (slice : aad.length < 2 ^ 64) :
    (∃ error, decodeAad cbor aad = .error error ∧ error.tellsWhy = true) ∨
      ∃ ctx, decodeAad cbor aad = .ok ctx ∧ ctx ≠ expected := by
  cases telling with
  | extraField extra => exact Or.inl ⟨_, front_of_extraField extra _, rfl⟩
  | format other =>
    refine Or.inl ⟨.unsupportedVersion, ?_, rfl⟩
    unfold decodeAad
    rw [front_of_fits conforms (sixBytes_fits slice), if_pos (textIs_of_ne other)]
  | @negative accountId vaultId itemId kind version below =>
    refine Or.inl ⟨.invalidContext, ?_, rfl⟩
    have unsigned : u64FromI64 version = none := if_neg (not_le.mpr below)
    unfold decodeAad
    rw [front_of_fits conforms (sixBytes_fits slice)]
    simp [StrictMap.textIs, StrictMap.getText, StrictMap.getInt, Field.asText, Field.asInt, orError,
      unsigned, bind, Except.bind]
  | @context ctx small other =>
    rw [decodeAad_canonical conforms small slice]
    cases checked : ctx.validate with
    | ok _ => exact Or.inr ⟨ctx, rfl, other⟩
    | error error =>
      rw [validate_eq_error checked]
      exact Or.inl ⟨.invalidContext, rfl, rfl⟩

include conforms valid keySize wrapper slice in
theorem Telling.refused (telling : Telling cbor aead key expected envelope) :
    ∃ error, openEnvelope cbor aead key expected envelope = .error error ∧ error.tellsWhy = true := by
  have opening : openEnvelope cbor aead key expected envelope = (do
      let parts ← decodeEnvelope cbor envelope
      let expectedAad ← encodeAad cbor expected
      let embeddedCtx ← decodeAad cbor parts.aad
      if parts.kind ≠ embeddedCtx.recordKind ∨ embeddedCtx ≠ expected ∨
          embeddedCtx.keyVersion ≠ parts.keyVersion then .error .invalidContext
      else if parts.aad ≠ expectedAad then .error .invalidContext
      else
        let plaintext ← aeadOpen aead key parts.nonce parts.ciphertextAndTag expectedAad
        if ¬plaintextWithinLimit expected.recordKind plaintext.length then
          .error .invalidKeyLength
        else .ok plaintext) := by
    rw [openEnvelope, valid, ok_bind, if_neg (not_not.mpr keySize)]
  rw [opening]
  cases telling with
  | extraField extra =>
    rw [decodeEnvelope, front_of_extraField extra]
    exact ⟨_, rfl, rfl⟩
  | format other =>
    rw [decodeEnvelope, front_of_fits conforms (sixBytes_fits slice), if_pos (textIs_of_ne other)]
    exact ⟨_, rfl, rfl⟩
  | @negative kind version nonce ciphertext aad below =>
    have unsigned : u64FromI64 version = none := if_neg (not_le.mpr below)
    refine ⟨.invalidContext, ?_, rfl⟩
    rw [decodeEnvelope, front_of_fits conforms (sixBytes_fits slice)]
    simp [StrictMap.textIs, StrictMap.getText, StrictMap.getInt, Field.asText, Field.asInt, orError,
      unsigned, bind, Except.bind]
  | keyVersion shape large =>
    rw [shape.decoded conforms slice, ok_bind, encodeAad_eq conforms valid,
      if_neg (Nat.not_lt.mpr large)]
    exact ⟨_, rfl, rfl⟩
  | aad shape telling =>
    rw [shape.decoded conforms slice, ok_bind, encodeAad_eq conforms valid]
    split_ifs
    · rcases telling.refused conforms (shape.aad_lt slice) with ⟨error, failed, tells⟩ | ⟨ctx, read, other⟩
      · rw [ok_bind, failed]
        exact ⟨error, rfl, tells⟩
      · rw [ok_bind, read, ok_bind, if_pos (Or.inr (Or.inl other))]
        exact ⟨_, rfl, rfl⟩
    · exact ⟨_, rfl, rfl⟩
  | @head parts _ shape bytes differs =>
    rw [shape.decoded conforms slice, ok_bind, encodeAad_eq conforms valid]
    split_ifs with small
    · have read := decodeAad_canonical conforms small (bytes ▸ shape.aad_lt slice)
      rw [valid] at read
      have mismatch : parts.kind ≠ expected.recordKind ∨ expected ≠ expected ∨
          expected.keyVersion ≠ parts.keyVersion := by
        rcases differs with kind | version
        · exact Or.inl kind
        · exact Or.inr (Or.inr (Ne.symm version))
      rw [ok_bind, bytes, read]
      refine ⟨.invalidContext, ?_, rfl⟩
      simp only [Except.map, ok_bind]
      rw [if_pos mismatch]
    · exact ⟨_, rfl, rfl⟩
  | @length parts _ plaintext shape bytes decrypted size =>
    rw [shape.decoded conforms slice, ok_bind, encodeAad_eq conforms valid]
    split_ifs with small
    · have read := decodeAad_canonical conforms small (bytes ▸ shape.aad_lt slice)
      rw [valid] at read
      rw [ok_bind, bytes, read]
      rw [bytes] at decrypted
      have opened : aeadOpen aead key parts.nonce parts.ciphertextAndTag (canonicalAad expected)
          = .ok plaintext := by
        simp only [aeadOpen, if_neg (not_not.mpr keySize), if_neg (not_not.mpr shape.nonce),
          if_neg (Nat.not_lt.mpr shape.tagged), decrypted, orError]
      have outside : ¬plaintextWithinLimit expected.recordKind plaintext.length = true := by
        rw [wrapper, decide_eq_true_eq]
        exact size
      simp only [Except.map, ok_bind, opened, if_pos outside]
      split_ifs
      all_goals exact ⟨_, rfl, rfl⟩
    · exact ⟨_, rfl, rfl⟩

end Opening

theorem validate_recoveryWrapCtx {accountId : String} {keyVersion : UInt64}
    (account : accountId.isEmpty = false) (version : keyVersion ≠ 0) :
    (recoveryWrapCtx accountId keyVersion).validate = .ok () := by
  simp [recoveryWrapCtx, Context.validate, account, version, RecordKind.expectsVault,
    RecordKind.expectsItem]

theorem openAccountKeyWithRecovery_eq (cbor : Minicbor) (aead : Aead) (recoveryKey : RecoveryKey)
    (envelope : Bytes) (accountId : String) (keyVersion : UInt64) :
    openAccountKeyWithRecovery cbor aead recoveryKey envelope accountId keyVersion
      = match unwrap cbor aead recoveryKey.secret envelope (recoveryWrapCtx accountId keyVersion) with
        | .ok secret => .ok ⟨secret⟩
        | .error error => .error (if error.refusesKit then .invalidRecoveryKit else error) := by
  unfold openAccountKeyWithRecovery
  cases unwrap cbor aead recoveryKey.secret envelope (recoveryWrapCtx accountId keyVersion) with
  | ok secret => exact AccountKey.fromBytes_bytes secret
  | error error => cases error <;> rfl

/-- A recovery wrapper that does not open is an invalid kit, except for the bytes that tell why. -/
theorem recovery_failures_uniform_iff (cbor : Minicbor) (conforms : cbor.Conforms) (aead : Aead)
    (envelope : Bytes) (slice : envelope.length < 2 ^ 64) (recoveryKey : RecoveryKey)
    (accountId : String) (account : accountId ≠ "") (keyVersion : UInt64)
    (version : 1 ≤ keyVersion.toNat) :
    ((∃ accountKey, openAccountKeyWithRecovery cbor aead recoveryKey envelope accountId keyVersion
        = .ok accountKey) ∨
      openAccountKeyWithRecovery cbor aead recoveryKey envelope accountId keyVersion
        = .error .invalidRecoveryKit) ↔
    ¬Telling cbor aead recoveryKey.secret.bytes (recoveryWrapCtx accountId keyVersion) envelope := by
  have named : accountId.isEmpty = false := by simpa using account
  have positive : keyVersion ≠ 0 := by
    rintro rfl
    exact absurd version (by decide)
  have valid := validate_recoveryWrapCtx named positive
  have keySize := recoveryKey.secret.size
  have wrapper : ∀ len, plaintextWithinLimit (recoveryWrapCtx accountId keyVersion).recordKind len
      = decide (len = keyLen) := fun len => rfl
  rw [openAccountKeyWithRecovery_eq]
  constructor
  · intro uniform telling
    obtain ⟨error, refused, tells⟩ := telling.refused conforms valid keySize wrapper slice
    have unwrapped : unwrap cbor aead recoveryKey.secret envelope
        (recoveryWrapCtx accountId keyVersion) = .error error := by
      rw [unwrap, refused]
      rfl
    rw [unwrapped] at uniform
    rcases uniform with ⟨accountKey, opened⟩ | failed
    · cases opened
    · cases error <;> cases tells <;> cases failed
  · intro silent
    cases result : unwrap cbor aead recoveryKey.secret envelope (recoveryWrapCtx accountId keyVersion) with
    | ok secret => exact Or.inl ⟨⟨secret⟩, rfl⟩
    | error error =>
      right
      rcases bind_eq_error.mp result with refused | ⟨plaintext, opened, failed⟩
      · rcases openEnvelope_eq_error conforms valid keySize wrapper refused with mapped | ⟨-, telling⟩
        · simp [mapped]
        · exact absurd telling silent
      · -- what opens has the length of a key
        simp only [openEnvelope, bind_eq_ok, guard_eq_ok, not_not] at opened
        obtain ⟨_, _, _, _, _, _, _, _, _, _, _, _, _, within, same⟩ := opened
        cases same
        rw [wrapper, decide_eq_true_eq] at within
        exact absurd within (Secret32.fromBytes_eq_error.mp failed).1

def sevens : RecoveryKey where
  secret := ⟨List.replicate 32 7, rfl⟩

-- an intact recovery wrapper of another account
def strangersKit : Bytes :=
  canonicalEnvelope .recoveryWrap 1 itemNonce.bytes (List.replicate 48 0)
    (canonicalAad (recoveryWrapCtx "account_02" 1))

/-- One byte that announces 17 fields, and the kit of another account. -/
theorem recovery_failures_differ :
    openAccountKeyWithRecovery Minicbor.rfc8949 (recordedCipher itemSealing) sevens [0xB1] "account_01" 1
        = .error .unknownField ∧
      openAccountKeyWithRecovery Minicbor.rfc8949 (recordedCipher itemSealing) sevens strangersKit
        "account_01" 1 = .error .invalidContext := by
  constructor
  · rfl
  · have parts := decodeEnvelope_canonicalEnvelope Minicbor.rfc8949_conforms .recoveryWrap 1 (by decide)
      itemNonce.bytes (List.replicate 48 0) (canonicalAad (recoveryWrapCtx "account_02" 1))
      itemNonce.size (by decide) (by decide) (by decide +kernel)
    have asked := encodeAad_eq Minicbor.rfc8949_conforms
      (show (recoveryWrapCtx "account_01" 1).validate = .ok () from rfl)
    rw [if_pos (by decide)] at asked
    have read := decodeAad_canonical Minicbor.rfc8949_conforms
      (show (recoveryWrapCtx "account_02" 1).keyVersion.toNat < 2 ^ 63 by decide) (by decide +kernel)
    have valid : (recoveryWrapCtx "account_02" 1).validate = .ok () := rfl
    rw [valid] at read
    have other : recoveryWrapCtx "account_02" 1 ≠ recoveryWrapCtx "account_01" 1 := by decide
    have refused : openEnvelope Minicbor.rfc8949 (recordedCipher itemSealing) sevens.secret.bytes
        (recoveryWrapCtx "account_01" 1) strangersKit = .error .invalidContext := by
      rw [openEnvelope, show (recoveryWrapCtx "account_01" 1).validate = .ok () from rfl, ok_bind,
        if_neg (not_not.mpr sevens.secret.size), strangersKit, parts, ok_bind, asked, ok_bind, read,
        Except.map, ok_bind]
      exact if_pos (Or.inr (Or.inl other))
    rw [openAccountKeyWithRecovery, unwrap, refused]
    rfl

-- the account's own wrapper with another ciphertext
def corruptKit : Bytes :=
  canonicalEnvelope .recoveryWrap 1 itemNonce.bytes (List.replicate 48 0)
    (canonicalAad (recoveryWrapCtx "account_01" 1))

set_option maxRecDepth 4000 in
theorem corruptKit_refused :
    openAccountKeyWithRecovery Minicbor.rfc8949 (recordedCipher itemSealing) sevens corruptKit
      "account_01" 1 = .error .invalidRecoveryKit := by
  rfl

theorem recovery_failures_uniform_corrupt :
    openAccountKeyWithRecovery Minicbor.rfc8949 (recordedCipher itemSealing) sevens corruptKit
        "account_01" 1 = .error .invalidRecoveryKit ∧
      ¬Telling Minicbor.rfc8949 (recordedCipher itemSealing) sevens.secret.bytes
        (recoveryWrapCtx "account_01" 1) corruptKit := by
  have slice : corruptKit.length < 2 ^ 64 := by decide +kernel
  exact ⟨corruptKit_refused, (recovery_failures_uniform_iff Minicbor.rfc8949 Minicbor.rfc8949_conforms
    (recordedCipher itemSealing) corruptKit slice sevens "account_01" (by decide) 1 (by decide)).mp
      (.inr corruptKit_refused)⟩

end ZenPass.Crypto
