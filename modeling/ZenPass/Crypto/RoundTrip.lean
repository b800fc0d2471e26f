import ZenPass.Crypto.Binding

set_option autoImplicit false

namespace ZenPass.Crypto

open Cbor (Bytes)

/-- A cipher whose `decrypt` inverts `encrypt`, for the lengths its stream and its tag allow. -/
structure Aead.Correct (aead : Aead) : Prop where
  encrypts : ∀ key nonce plaintext aad : Bytes,
    key.length = keyLen → nonce.length = nonceLen →
    plaintext.length ≤ 2 ^ 38 - 64 → aad.length < 2 ^ 64 →
    ∃ ciphertext, aead.encrypt key nonce plaintext aad = some ciphertext ∧
      ciphertext.length = plaintext.length + tagLen
  inverts : ∀ key nonce plaintext aad ciphertext : Bytes,
    aead.encrypt key nonce plaintext aad = some ciphertext →
    aead.decrypt key nonce ciphertext aad = some plaintext

def IdentifierLength (id : String) : Prop :=
  1 ≤ (Cbor.utf8 id).length ∧ (Cbor.utf8 id).length ≤ 256

structure Context.WithinContract (ctx : Context) : Prop where
  account : IdentifierLength ctx.accountId
  vault : ctx.vaultId.isSome = ctx.recordKind.expectsVault
  vaultLength : ∀ id, ctx.vaultId = some id → IdentifierLength id
  item : ctx.itemId.isSome = ctx.recordKind.expectsItem
  itemLength : ∀ id, ctx.itemId = some id → IdentifierLength id
  versionPos : 1 ≤ ctx.keyVersion.toNat
  versionMax : ctx.keyVersion.toNat ≤ 2 ^ 63 - 1

def AllowedLength : RecordKind → Nat → Prop
  | .itemPayload, len | .exportManifest, len => 1 ≤ len ∧ len ≤ 1048576
  | .accountWrap, len | .recoveryWrap, len | .vaultWrap, len | .itemWrap, len => len = 32

theorem plaintextWithinLimit_of_allowed {kind : RecordKind} {len : Nat}
    (allowed : AllowedLength kind len) : plaintextWithinLimit kind len = true := by
  cases kind <;>
    simp only [AllowedLength] at allowed <;>
    simp only [plaintextWithinLimit, Bool.and_eq_true, decide_eq_true_eq] <;>
    simp only [maxItemPlaintextLen, keyLen] <;>
    omega

theorem isEmpty_eq_false {id : String} (length : IdentifierLength id) : id.isEmpty = false := by
  have positive := length.1
  by_contra empty
  have nothing : id = "" := by simpa using empty
  rw [nothing] at positive
  exact absurd positive (by decide)

theorem any_isEmpty_eq_false {id : Option String}
    (length : ∀ value, id = some value → IdentifierLength value) :
    id.any String.isEmpty = false := by
  cases id with
  | none => rfl
  | some value => exact isEmpty_eq_false (length value rfl)

theorem Context.WithinContract.validate {ctx : Context} (contract : ctx.WithinContract) :
    ctx.validate = .ok () := by
  have version : ctx.keyVersion ≠ 0 := by
    intro zero
    have positive := contract.versionPos
    rw [zero] at positive
    exact absurd positive (by decide)
  simp only [Context.validate, isEmpty_eq_false contract.account,
    any_isEmpty_eq_false contract.vaultLength, any_isEmpty_eq_false contract.itemLength,
    contract.vault, contract.item, version]
  simp

theorem encodeText_length_le {text : String} {most : Nat}
    (short : (Cbor.utf8 text).length ≤ most) :
    (Cbor.Item.text text).encode.length ≤ Cbor.headLength most + most := by
  have head := Cbor.headLength_mono short
  simp only [Cbor.Item.encode, List.length_append, Cbor.head_length]
  omega

theorem encodeBytes_length_le {value : Bytes} {most : Nat} (short : value.length ≤ most) :
    (Cbor.Item.bytes value).encode.length ≤ Cbor.headLength most + most := by
  have head := Cbor.headLength_mono short
  simp only [Cbor.Item.encode, List.length_append, Cbor.head_length]
  omega

theorem encodeInt_length_le (value : Int) : (Cbor.Item.int value).encode.length ≤ 9 := by
  simp only [Cbor.Item.encode, Cbor.encodeInt]
  split_ifs
  · rw [Cbor.head_length]
    exact Cbor.headLength_le _
  · rw [Cbor.head_length]
    exact Cbor.headLength_le _

theorem optionalItem_length_le {id : Option String}
    (length : ∀ value, id = some value → IdentifierLength value) :
    (optionalItem id).encode.length ≤ 259 := by
  cases id with
  | none => simp [optionalItem, Cbor.Item.encode, Cbor.encodeNull]
  | some value => exact encodeText_length_le (length value rfl).2

-- one byte for the map, and one for each key
theorem encodeMap_six_length (first second third fourth fifth sixth : Cbor.Item) :
    (Cbor.encodeMap [(1, first), (2, second), (3, third), (4, fourth), (5, fifth),
      (6, sixth)]).length = 7 + first.encode.length + second.encode.length + third.encode.length
        + fourth.encode.length + fifth.encode.length + sixth.encode.length := by
  simp [Cbor.encodeMap, encodeEntry_length, Cbor.headLength]
  omega

-- 828 bytes: three identifiers of 256 bytes are most of it.
theorem canonicalAad_length_le {ctx : Context} (contract : ctx.WithinContract) :
    (canonicalAad ctx).length ≤ 828 := by
  have format : (Cbor.Item.text formatVersion).encode.length ≤ 19 :=
    encodeText_length_le formatVersion_length.le
  have account : (Cbor.Item.text ctx.accountId).encode.length ≤ 259 :=
    encodeText_length_le contract.account.2
  have vault := optionalItem_length_le contract.vaultLength
  have item := optionalItem_length_le contract.itemLength
  have kind : (Cbor.Item.text ctx.recordKind.asStr).encode.length ≤ 16 :=
    encodeText_length_le (asStr_length ctx.recordKind)
  have version := encodeInt_length_le ctx.keyVersion.toNat
  rw [canonicalAad, encodeMap_six_length]
  omega

theorem canonicalEnvelope_length_le (kind : RecordKind) (keyVersion : UInt64) (nonce : Nonce)
    (ciphertext aad : Bytes) (short : aad.length ≤ 828) :
    (canonicalEnvelope kind keyVersion nonce.bytes ciphertext aad).length
      ≤ ciphertext.length + 1024 := by
  have format : (Cbor.Item.text formatVersion).encode.length ≤ 19 :=
    encodeText_length_le formatVersion_length.le
  have kind : (Cbor.Item.text kind.asStr).encode.length ≤ 16 :=
    encodeText_length_le (asStr_length kind)
  have version := encodeInt_length_le keyVersion.toNat
  have nonceLength : (Cbor.Item.bytes nonce.bytes).encode.length ≤ 26 :=
    encodeBytes_length_le nonce.size.le
  have aadLength := encodeBytes_length_le short
  have aadHead : Cbor.headLength 828 = 3 := by decide
  have head := Cbor.headLength_le ciphertext.length
  have body : (Cbor.Item.bytes ciphertext).encode.length
      = Cbor.headLength ciphertext.length + ciphertext.length := by
    simp [Cbor.Item.encode]
  rw [canonicalEnvelope, encodeMap_six_length]
  omega

theorem envelope_fits {kind : RecordKind} {len length : Nat} (allowed : AllowedLength kind len)
    (short : length ≤ len + 16 + 1024) : length ≤ envelopeLimit kind := by
  have payload : envelopeLimit .itemPayload = 1049616 := rfl
  have wrap : envelopeLimit .itemWrap = 65536 := rfl
  cases kind with
  | itemPayload | exportManifest =>
    have most := allowed.2
    exact payload.symm ▸ (by omega)
  | accountWrap | recoveryWrap | vaultWrap | itemWrap =>
    have exactly : len = 32 := allowed
    exact wrap.symm ▸ (by omega)

theorem plaintext_short {kind : RecordKind} {len : Nat} (allowed : AllowedLength kind len) :
    len ≤ 1048576 := by
  cases kind <;> simp only [AllowedLength] at allowed <;> omega

theorem Context.WithinContract.fits {ctx : Context} (contract : ctx.WithinContract) :
    ctx.Fits := by
  have short := canonicalAad_length_le contract
  exact Context.fits_of_canonicalAad (by omega)

theorem openEnvelope_canonical {cbor : Minicbor} (conforms : cbor.Conforms) {aead : Aead}
    {nonce : Nonce} {key plaintext ciphertext : Bytes} {ctx : Context}
    (contract : ctx.WithinContract) (keySize : key.length = keyLen)
    (within : plaintextWithinLimit ctx.recordKind plaintext.length = true)
    (tagged : tagLen ≤ ciphertext.length) (fits : ciphertext.length < 2 ^ 64)
    (decrypted : aead.decrypt key nonce.bytes ciphertext (canonicalAad ctx) = some plaintext) :
    openEnvelope cbor aead key ctx (canonicalEnvelope ctx.recordKind ctx.keyVersion nonce.bytes
      ciphertext (canonicalAad ctx)) = .ok plaintext := by
  have valid := contract.validate
  have small : ctx.keyVersion.toNat < 2 ^ 63 := by
    have most := contract.versionMax
    omega
  have short := canonicalAad_length_le contract
  have aad := (encodeAad_eq_ok conforms).mpr ⟨valid, small, rfl⟩
  have embedded := decodeAad_canonicalAad conforms valid small contract.fits
  have parts := decodeEnvelope_canonicalEnvelope conforms ctx.recordKind ctx.keyVersion small
    nonce.bytes ciphertext (canonicalAad ctx) nonce.size tagged fits (by omega)
  have untagged : ¬ciphertext.length < tagLen := Nat.not_lt.mpr tagged
  simp only [openEnvelope, valid, ok_bind, keySize, parts, aad, embedded, aeadOpen, nonce.size,
    decrypted, orError, if_neg untagged]
  simp [within]

theorem seal_canonical {cbor : Minicbor} (conforms : cbor.Conforms) {aead : Aead}
    (correct : aead.Correct) {ctx : Context} (contract : ctx.WithinContract) {key : Bytes}
    (keySize : key.length = keyLen) (nonce : Nonce) {plaintext : Bytes}
    (allowed : AllowedLength ctx.recordKind plaintext.length) :
    ∃ ciphertext, aead.encrypt key nonce.bytes plaintext (canonicalAad ctx) = some ciphertext ∧
      ciphertext.length = plaintext.length + tagLen ∧
      sealEnvelope cbor aead nonce key ctx plaintext = .ok (canonicalEnvelope ctx.recordKind
        ctx.keyVersion nonce.bytes ciphertext (canonicalAad ctx)) := by
  have most := contract.versionMax
  have within := plaintextWithinLimit_of_allowed allowed
  have length := plaintext_short allowed
  have short := canonicalAad_length_le contract
  rcases correct.encrypts key nonce.bytes plaintext (canonicalAad ctx) keySize nonce.size
    (by omega) (by omega) with ⟨ciphertext, encrypted, expansion⟩
  have bytes := canonicalEnvelope_length_le ctx.recordKind ctx.keyVersion nonce ciphertext
    (canonicalAad ctx) short
  rw [expansion] at bytes
  have sealed := sealEnvelope_canonical conforms contract.validate (by omega) keySize within
    encrypted (envelope_fits allowed bytes)
  exact ⟨ciphertext, encrypted, expansion, sealed⟩

/-- Every context of the contract, key, nonce and plaintext of an allowed length seals, and
what it seals to opens to the same plaintext. -/
theorem seal_open_round_trip (cbor : Minicbor) (conforms : cbor.Conforms) (aead : Aead)
    (correct : aead.Correct) (ctx : Context) (contract : ctx.WithinContract) (key : Bytes)
    (keySize : key.length = keyLen) (nonce : Nonce) (plaintext : Bytes)
    (allowed : AllowedLength ctx.recordKind plaintext.length) :
    ∃ envelope, sealEnvelope cbor aead nonce key ctx plaintext = .ok envelope ∧
      openEnvelope cbor aead key ctx envelope = .ok plaintext := by
  have within := plaintextWithinLimit_of_allowed allowed
  have length := plaintext_short allowed
  rcases seal_canonical conforms correct contract keySize nonce allowed
    with ⟨ciphertext, encrypted, expansion, sealed⟩
  have tagged : tagLen ≤ ciphertext.length := by omega
  have bounded : ciphertext.length < 2 ^ 64 := by
    simp only [tagLen] at expansion
    omega
  have opened := openEnvelope_canonical conforms contract keySize within tagged bounded
    (correct.inverts _ _ _ _ _ encrypted)
  exact ⟨_, sealed, opened⟩

-- XChaCha20-Poly1305 where `itemSealing` records it, and a tag of zeros elsewhere
def zeroTag : Bytes := List.replicate tagLen 0

def patchedCipher : Aead where
  encrypt key nonce msg aad :=
    if key = itemSealing.key ∧ nonce = itemSealing.nonce ∧ msg = itemSealing.plaintext ∧
        aad = itemSealing.aad then some itemSealing.ciphertext
    else some (msg ++ zeroTag)
  decrypt key nonce msg aad :=
    if key = itemSealing.key ∧ nonce = itemSealing.nonce ∧ msg = itemSealing.ciphertext ∧
        aad = itemSealing.aad then some itemSealing.plaintext
    else if zeroTag <:+ msg then some (msg.take (msg.length - tagLen))
    else none

theorem patchedCipher_correct : patchedCipher.Correct where
  encrypts key nonce plaintext aad _ _ _ _ := by
    simp only [patchedCipher]
    split_ifs with recorded
    · rcases recorded with ⟨_, _, rfl, _⟩
      exact ⟨_, rfl, by decide⟩
    · exact ⟨_, rfl, by simp [zeroTag]⟩
  inverts key nonce plaintext aad ciphertext encrypted := by
    simp only [patchedCipher] at encrypted
    split_ifs at encrypted with recorded
    · rcases recorded with ⟨rfl, rfl, rfl, rfl⟩
      cases encrypted
      simp [patchedCipher]
    · cases encrypted
      have other : plaintext ++ zeroTag ≠ itemSealing.ciphertext := by
        intro same
        have tail : zeroTag <:+ itemSealing.ciphertext := ⟨plaintext, same⟩
        exact absurd tail (by decide)
      have taken : (plaintext ++ zeroTag).take ((plaintext ++ zeroTag).length - tagLen)
          = plaintext := by
        simp [zeroTag]
      simp only [patchedCipher, other, false_and, and_false, if_false, taken]
      rw [if_pos (List.suffix_append plaintext zeroTag)]

theorem itemCtx_withinContract : itemCtx.WithinContract where
  account := ⟨by decide, by decide⟩
  vault := rfl
  vaultLength := by
    rintro _ ⟨⟩
    exact ⟨by decide, by decide⟩
  item := rfl
  itemLength := by
    rintro _ ⟨⟩
    exact ⟨by decide, by decide⟩
  versionPos := by decide
  versionMax := by decide

theorem seal_open_round_trip_itemPayload :
    ∃ envelope,
      sealEnvelope Minicbor.rfc8949 patchedCipher itemNonce itemSealing.key itemCtx
        (Cbor.utf8 "secret payload") = .ok envelope ∧
      openEnvelope Minicbor.rfc8949 patchedCipher itemSealing.key itemCtx envelope
        = .ok (Cbor.utf8 "secret payload") :=
  seal_open_round_trip Minicbor.rfc8949 Minicbor.rfc8949_conforms patchedCipher
    patchedCipher_correct itemCtx itemCtx_withinContract itemSealing.key rfl itemNonce
    (Cbor.utf8 "secret payload") ⟨by decide, by decide⟩

end ZenPass.Crypto
