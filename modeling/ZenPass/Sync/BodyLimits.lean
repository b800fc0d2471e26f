import ZenPass.Auth.Login
import ZenPass.Crypto.RoundTrip
import ZenPass.Sync.PlainTexts
import Mathlib.Data.Nat.Digits.Defs

set_option autoImplicit false

namespace ZenPass.Sync

open Wire JsonText TextEncoding

/-- Fastify's default `bodyLimit`, and `MAX_BODY_BYTES` of `sync.rs`. -/
def bodyLimit : Backend → Nat
  | .node => 1048576
  | .rust => 2 * 1024 * 1024

def mutationText (mutation : Mutation) : Units :=
  stringify (.object [(units "mutationId", .string (units mutation.mutationId)),
    (units "itemId", .string (units mutation.itemId)),
    (units "vaultId", .string (units mutation.vaultId)),
    (units "baseRevision", .number (units (toString mutation.baseRevision))),
    (units "ciphertext", .string (units mutation.ciphertext)),
    (units "envelopeVersion", .string (units mutation.envelopeVersion)),
    (units "deleted", .bool mutation.deleted)])

def mutationBody (mutation : Mutation) : Bytes := textEncode (mutationText mutation)

def sealedMutation (mutationId itemId vaultId : Id) (baseRevision : Nat) (deleted : Bool)
    (envelope : Bytes) : Mutation where
  mutationId := mutationId
  itemId := itemId
  vaultId := vaultId
  baseRevision := baseRevision
  ciphertext := encodeB64 envelope
  envelopeVersion := envelopeVersionV1
  deleted := deleted

theorem plain_accountId {accountId : String} (valid : Auth.isValidAccountId accountId = true) :
    PlainText accountId := by
  simp only [Auth.isValidAccountId, Auth.accountIdChar, Bool.and_eq_true, List.all_eq_true,
    Bool.or_eq_true, beq_iff_eq] at valid
  intro c member
  rcases valid.2 c member with ((letter | rfl) | rfl) | rfl
  · exact plain_alphanum letter
  all_goals decide

theorem isValidAccountId_of_isValidId {id : Id} (valid : isValidId id = true) :
    Auth.isValidAccountId id = true := by
  simp only [isValidId] at valid
  split at valid
  · cases valid
  · rename_i first rest chars
    simp only [Bool.and_eq_true, decide_eq_true_eq, List.all_eq_true, Bool.or_eq_true,
      beq_iff_eq] at valid
    obtain ⟨⟨begins, short⟩, others⟩ := valid
    have length : id.length = rest.length + 1 := by
      rw [← String.length_toList, chars, List.length_cons]
    simp only [Auth.isValidAccountId, Bool.and_eq_true, decide_eq_true_eq, List.all_eq_true, chars,
      List.forall_mem_cons, Auth.accountIdChar, Bool.or_eq_true, beq_iff_eq]
    refine ⟨by omega, .inl (.inl (.inl begins)), fun c member => ?_⟩
    rcases others c member with (letter | underscore) | hyphen
    · exact .inl (.inl (.inl letter))
    · exact .inl (.inr underscore)
    · exact .inr hyphen

theorem plain_revision (revision : Nat) : PlainText (toString (revision : Int)) := by
  have digits : (toString (revision : Int)).toList = Nat.toDigits 10 revision := by
    simp [toString, Int.repr, Nat.repr]
  intro c member
  rw [digits] at member
  have digit := Nat.isDigit_of_mem_toDigits (by decide) (by decide) member
  exact plain_alphanum (by simp [Char.isAlphanum, digit])

def flagText (flag : Bool) : String := if flag then "true" else "false"

def frameSize (mutationId itemId vaultId : Id) (baseRevision : Nat) (deleted : Bool) : Nat :=
  128 + mutationId.length + itemId.length + vaultId.length +
    (toString (baseRevision : Int)).length + (flagText deleted).length

theorem plain_flagText (flag : Bool) : PlainText (flagText flag) := by
  cases flag <;> decide

theorem mutationText_eq (mutation : Mutation) :
    mutationText mutation =
      0x7B :: (quote (units "mutationId") ++ 0x3A :: (quote (units mutation.mutationId) ++
        0x2C :: (quote (units "itemId") ++ 0x3A :: (quote (units mutation.itemId) ++
        0x2C :: (quote (units "vaultId") ++ 0x3A :: (quote (units mutation.vaultId) ++
        0x2C :: (quote (units "baseRevision") ++
          0x3A :: (units (toString mutation.baseRevision) ++
        0x2C :: (quote (units "ciphertext") ++ 0x3A :: (quote (units mutation.ciphertext) ++
        0x2C :: (quote (units "envelopeVersion") ++
          0x3A :: (quote (units mutation.envelopeVersion) ++
        0x2C :: (quote (units "deleted") ++
          0x3A :: (units (flagText mutation.deleted) ++ [0x7D])))))))))))))) := by
  cases deleted : mutation.deleted <;>
    simp [mutationText, stringify, write, writeMembers, deleted, flagText]

theorem length_mutationBody {mutationId itemId vaultId : Id} (mutationPlain : PlainText mutationId)
    (itemPlain : PlainText itemId) (vaultPlain : PlainText vaultId) (baseRevision : Nat)
    (deleted : Bool) (envelope : Bytes) :
    (mutationBody
        (sealedMutation mutationId itemId vaultId baseRevision deleted envelope)).length =
      frameSize mutationId itemId vaultId baseRevision deleted +
        4 * ((envelope.length + 2) / 3) := by
  have name (text : String) (plain : PlainText text := by decide) := plain
  have flag := plain_flagText deleted
  have revision := plain_revision baseRevision
  have ciphertext := plain_encodeB64 envelope
  have ascii : IsAscii (mutationText
      (sealedMutation mutationId itemId vaultId baseRevision deleted envelope)) := by
    rw [mutationText_eq]
    simp only [sealedMutation, ascii_cons, ascii_append, ascii_nil, mutationPlain.ascii_quote,
      itemPlain.ascii_quote, vaultPlain.ascii_quote, revision.ascii, ciphertext.ascii_quote,
      flag.ascii, (name "mutationId").ascii_quote, (name "itemId").ascii_quote,
      (name "vaultId").ascii_quote, (name "baseRevision").ascii_quote,
      (name "ciphertext").ascii_quote, (name "envelopeVersion").ascii_quote,
      (name envelopeVersionV1).ascii_quote, (name "deleted").ascii_quote, true_and]
    simp
  rw [mutationBody, textEncode, length_encode ascii, mutationText_eq]
  simp only [sealedMutation, List.length_cons, List.length_append, List.length_nil,
    mutationPlain.length_quote, itemPlain.length_quote, vaultPlain.length_quote,
    revision.length_units, ciphertext.length_quote, flag.length_units, length_encodeB64,
    (name "mutationId").length_quote, (name "itemId").length_quote,
    (name "vaultId").length_quote, (name "baseRevision").length_quote,
    (name "ciphertext").length_quote, (name "envelopeVersion").length_quote,
    (name envelopeVersionV1).length_quote, (name "deleted").length_quote, frameSize]
  have names : "mutationId".length = 10 ∧ "itemId".length = 6 ∧ "vaultId".length = 7 ∧
      "baseRevision".length = 12 ∧ "ciphertext".length = 10 ∧ "envelopeVersion".length = 15 ∧
      envelopeVersionV1.length = 18 ∧ "deleted".length = 7 := by decide
  omega

open Crypto (Context Minicbor Aead Nonce sealEnvelope canonicalAad canonicalEnvelope)

def payloadContext (accountId : String) (vaultId itemId : Id) (keyVersion : UInt64) : Context where
  accountId := accountId
  vaultId := some vaultId
  itemId := some itemId
  recordKind := .itemPayload
  keyVersion := keyVersion

def idSize (id : String) : Nat := Cbor.headLength id.length + id.length

def aadSize (accountId : String) (vaultId itemId : Id) (keyVersion : UInt64) : Nat :=
  39 + idSize accountId + idSize vaultId + idSize itemId + Cbor.headLength keyVersion.toNat

def overhead (accountId : String) (vaultId itemId : Id) (keyVersion : UInt64) : Nat :=
  65 + Cbor.headLength keyVersion.toNat +
    Cbor.headLength (aadSize accountId vaultId itemId keyVersion) +
    aadSize accountId vaultId itemId keyVersion

theorem length_text {text : String} (plain : PlainText text) :
    (Cbor.Item.text text).encode.length = idSize text := by
  rw [Cbor.Item.encode, List.length_append, Cbor.head_length, plain.length_utf8, idSize]

theorem length_bytes (bytes : Bytes) :
    (Cbor.Item.bytes bytes).encode.length = Cbor.headLength bytes.length + bytes.length := by
  rw [Cbor.Item.encode, List.length_append, Cbor.head_length]

theorem length_version (version : Nat) :
    (Cbor.Item.int version).encode.length = Cbor.headLength version := by
  rw [Cbor.Item.encode, Cbor.encodeInt, if_pos (by omega), Cbor.head_length, Int.toNat_natCast]

theorem length_canonicalAad {accountId : String} {vaultId itemId : Id}
    (accountPlain : PlainText accountId) (vaultPlain : PlainText vaultId)
    (itemPlain : PlainText itemId) (keyVersion : UInt64) :
    (canonicalAad (payloadContext accountId vaultId itemId keyVersion)).length =
      aadSize accountId vaultId itemId keyVersion := by
  have format : idSize Crypto.formatVersion = 19 := by decide
  have kind : idSize Crypto.RecordKind.itemPayload.asStr = 13 := by decide
  rw [canonicalAad, Crypto.encodeMap_six_length]
  simp only [payloadContext, Crypto.optionalItem, length_text accountPlain,
    length_text vaultPlain, length_text itemPlain, length_version,
    length_text (show PlainText Crypto.formatVersion by decide),
    length_text (show PlainText Crypto.RecordKind.itemPayload.asStr by decide), aadSize]
  omega

theorem length_canonicalEnvelope (keyVersion : UInt64) (nonce : Nonce) (ciphertext aad : Bytes) :
    (canonicalEnvelope .itemPayload keyVersion nonce.bytes ciphertext aad).length =
      65 + Cbor.headLength keyVersion.toNat + Cbor.headLength ciphertext.length +
        ciphertext.length + Cbor.headLength aad.length + aad.length := by
  have format : idSize Crypto.formatVersion = 19 := by decide
  have kind : idSize Crypto.RecordKind.itemPayload.asStr = 13 := by decide
  have nonceHead : Cbor.headLength Crypto.nonceLen + Crypto.nonceLen = 26 := by decide
  rw [canonicalEnvelope, Crypto.encodeMap_six_length]
  simp only [length_bytes, length_version, nonce.size,
    length_text (show PlainText Crypto.formatVersion by decide),
    length_text (show PlainText Crypto.RecordKind.itemPayload.asStr by decide)]
  omega

/-- The ids that the API admits; the account's pattern is the widest one. -/
structure Admitted (accountId : String) (mutationId itemId vaultId : Id) : Prop where
  account : Auth.isValidAccountId accountId = true
  mutation : isValidId mutationId = true
  item : isValidId itemId = true
  vault : isValidId vaultId = true

theorem length_accountId {accountId : String} (valid : Auth.isValidAccountId accountId = true) :
    1 ≤ accountId.length ∧ accountId.length ≤ 128 := by
  simp only [Auth.isValidAccountId, Bool.and_eq_true, decide_eq_true_eq] at valid
  exact valid.1

theorem identifierLength {accountId : String} (valid : Auth.isValidAccountId accountId = true) :
    Crypto.IdentifierLength accountId := by
  have bounds := length_accountId valid
  rw [Crypto.IdentifierLength, (plain_accountId valid).length_utf8]
  omega

theorem Admitted.withinContract {accountId : String} {mutationId itemId vaultId : Id}
    (admitted : Admitted accountId mutationId itemId vaultId) {keyVersion : UInt64}
    (versionPos : 1 ≤ keyVersion.toNat) (versionMax : keyVersion.toNat < 2 ^ 63) :
    (payloadContext accountId vaultId itemId keyVersion).WithinContract where
  account := identifierLength admitted.account
  vault := rfl
  vaultLength id found := by
    cases found
    exact identifierLength (isValidAccountId_of_isValidId admitted.vault)
  item := rfl
  itemLength id found := by
    cases found
    exact identifierLength (isValidAccountId_of_isValidId admitted.item)
  versionPos := versionPos
  versionMax := Nat.le_sub_one_of_lt versionMax

section Sealed

variable {cbor : Minicbor} (conforms : cbor.Conforms) {aead : Aead} (correct : aead.Correct)
  {accountId : String} {mutationId itemId vaultId : Id}
  (admitted : Admitted accountId mutationId itemId vaultId) {key : Bytes}
  (keySize : key.length = Crypto.keyLen) (nonce : Nonce) {keyVersion : UInt64}
  (versionPos : 1 ≤ keyVersion.toNat) (versionMax : keyVersion.toNat < 2 ^ 63)
  {plaintext : Bytes} (nonempty : 1 ≤ plaintext.length) (most : plaintext.length ≤ 1048576)

include conforms correct admitted keySize versionPos versionMax nonempty most

theorem sealed_length :
    ∃ envelope, sealEnvelope cbor aead nonce key
        (payloadContext accountId vaultId itemId keyVersion) plaintext = .ok envelope ∧
      envelope.length = overhead accountId vaultId itemId keyVersion +
        Cbor.headLength (plaintext.length + 16) + (plaintext.length + 16) := by
  have account := plain_accountId admitted.account
  have vault := plain_isValidId admitted.vault
  have item := plain_isValidId admitted.item
  have contract := admitted.withinContract versionPos versionMax
  have allowed : Crypto.AllowedLength .itemPayload plaintext.length := ⟨nonempty, most⟩
  obtain ⟨ciphertext, -, expansion, sealed⟩ :=
    Crypto.seal_canonical conforms correct contract keySize nonce allowed
  refine ⟨_, sealed, ?_⟩
  have size := length_canonicalEnvelope keyVersion nonce ciphertext
    (canonicalAad (payloadContext accountId vaultId itemId keyVersion))
  rw [length_canonicalAad account vault item, expansion] at size
  simp only [payloadContext, overhead, Crypto.tagLen] at size ⊢
  omega

theorem body_length (baseRevision : Nat) (deleted : Bool) :
    ∃ envelope, sealEnvelope cbor aead nonce key
        (payloadContext accountId vaultId itemId keyVersion) plaintext = .ok envelope ∧
      (mutationBody
          (sealedMutation mutationId itemId vaultId baseRevision deleted envelope)).length =
        frameSize mutationId itemId vaultId baseRevision deleted +
          4 * ((overhead accountId vaultId itemId keyVersion +
            Cbor.headLength (plaintext.length + 16) + plaintext.length + 18) / 3) := by
  have mutationPlain := plain_isValidId admitted.mutation
  have item := plain_isValidId admitted.item
  have vault := plain_isValidId admitted.vault
  obtain ⟨envelope, sealed, length⟩ := sealed_length conforms correct admitted keySize nonce
    versionPos versionMax nonempty most
  refine ⟨envelope, sealed, ?_⟩
  rw [length_mutationBody mutationPlain item vault, length]
  rfl

end Sealed

theorem overhead_le {accountId : String} {mutationId itemId vaultId : Id}
    (admitted : Admitted accountId mutationId itemId vaultId) (keyVersion : UInt64) :
    overhead accountId vaultId itemId keyVersion ≤ 515 := by
  have size {id : String} (valid : Auth.isValidAccountId id = true) : idSize id ≤ 130 := by
    have bounds := length_accountId valid
    have head := Cbor.headLength_mono bounds.2
    have most : Cbor.headLength 128 = 2 := by decide
    rw [idSize]
    omega
  have account := size admitted.account
  have vault := size (isValidAccountId_of_isValidId admitted.vault)
  have item := size (isValidAccountId_of_isValidId admitted.item)
  have version := Cbor.headLength_le keyVersion.toNat
  have aad : aadSize accountId vaultId itemId keyVersion ≤ 438 := by
    rw [aadSize]
    omega
  have head := Cbor.headLength_mono aad
  have most : Cbor.headLength 438 = 3 := by decide
  rw [overhead]
  omega

theorem frameSize_le {accountId : String} {mutationId itemId vaultId : Id}
    (admitted : Admitted accountId mutationId itemId vaultId) {baseRevision : Nat}
    (small : baseRevision < 2 ^ 63) (deleted : Bool) :
    frameSize mutationId itemId vaultId baseRevision deleted ≤ 536 := by
  have mutationLength := length_accountId (isValidAccountId_of_isValidId admitted.mutation)
  have item := length_accountId (isValidAccountId_of_isValidId admitted.item)
  have vault := length_accountId (isValidAccountId_of_isValidId admitted.vault)
  have digits : (toString (baseRevision : Int)).length ≤ 19 :=
    Nat.repr_length baseRevision 19 (by decide) (by omega)
  have flag : (flagText deleted).length ≤ 5 := by cases deleted <;> decide
  rw [frameSize]
  omega

/-- The longest plaintext whose body Fastify takes; the head of a ciphertext of that length has five
bytes. -/
def largestPlaintext (accountId : String) (mutationId itemId vaultId : Id) (keyVersion : UInt64)
    (baseRevision : Nat) (deleted : Bool) : Nat :=
  3 * ((bodyLimit .node - frameSize mutationId itemId vaultId baseRevision deleted) / 4) -
    (overhead accountId vaultId itemId keyVersion + 21)

/-- Every plaintext of 1 byte to 1 MiB is sealed, and its mutation gets past the body limits of both
backends exactly when it is no longer than `largestPlaintext`. -/
theorem sealed_item_fits_iff (cbor : Minicbor) (conforms : cbor.Conforms) (aead : Aead)
    (correct : aead.Correct) (accountId : String) (mutationId itemId vaultId : Id)
    (admitted : Admitted accountId mutationId itemId vaultId) (key : Bytes)
    (keySize : key.length = Crypto.keyLen) (nonce : Nonce) (keyVersion : UInt64)
    (versionPos : 1 ≤ keyVersion.toNat) (versionMax : keyVersion.toNat < 2 ^ 63)
    (plaintext : Bytes) (nonempty : 1 ≤ plaintext.length) (most : plaintext.length ≤ 1048576)
    (baseRevision : Nat) (small : baseRevision < 2 ^ 63) (deleted : Bool) :
    ∃ envelope, sealEnvelope cbor aead nonce key
        (payloadContext accountId vaultId itemId keyVersion) plaintext = .ok envelope ∧
      ((∀ backend, (mutationBody (sealedMutation mutationId itemId vaultId baseRevision deleted
          envelope)).length ≤ bodyLimit backend) ↔
        plaintext.length ≤
          largestPlaintext accountId mutationId itemId vaultId keyVersion baseRevision deleted) := by
  obtain ⟨envelope, sealed, length⟩ := body_length conforms correct admitted keySize nonce
    versionPos versionMax nonempty most baseRevision deleted
  have around := overhead_le admitted keyVersion
  have frame := frameSize_le admitted small deleted
  have nodeLimit : bodyLimit .node = 1048576 := rfl
  have rustLimit : bodyLimit .rust = 2097152 := rfl
  have head : 65520 ≤ plaintext.length → Cbor.headLength (plaintext.length + 16) = 5 := by
    intro long
    rw [Cbor.headLength]
    split_ifs <;> omega
  have headMost := Cbor.headLength_le (plaintext.length + 16)
  refine ⟨envelope, sealed, ?_⟩
  rw [largestPlaintext, nodeLimit]
  constructor
  · intro fits
    have node := fits .node
    rw [length, nodeLimit] at node
    by_cases long : 65520 ≤ plaintext.length
    · rw [head long] at node
      omega
    · omega
  · intro short backend
    rw [length]
    cases backend with
    | node =>
        rw [nodeLimit]
        by_cases long : 65520 ≤ plaintext.length
        · rw [head long]
          omega
        · omega
    | rust =>
        rw [rustLimit]
        omega

theorem admitted_ids : Admitted "account" "mutation" "item" "vault" where
  account := by decide +kernel
  mutation := by decide +kernel
  item := by decide +kernel
  vault := by decide +kernel

theorem sealed_item_fits_iff_largest :
    let largest := largestPlaintext "account" "mutation" "item" "vault" 1 0 false
    (∃ envelope, sealEnvelope Minicbor.rfc8949 Crypto.patchedCipher Crypto.itemNonce
        Crypto.itemSealing.key (payloadContext "account" "vault" "item" 1)
        (List.replicate largest 0) = .ok envelope ∧
      ∀ backend, (mutationBody (sealedMutation "mutation" "item" "vault" 0 false
        envelope)).length ≤ bodyLimit backend) ∧
    ∃ envelope, sealEnvelope Minicbor.rfc8949 Crypto.patchedCipher Crypto.itemNonce
        Crypto.itemSealing.key (payloadContext "account" "vault" "item" 1)
        (List.replicate (largest + 1) 0) = .ok envelope ∧
      ¬ ∀ backend, (mutationBody (sealedMutation "mutation" "item" "vault" 0 false
        envelope)).length ≤ bodyLimit backend := by
  intro largest
  have range : 1 ≤ largest ∧ largest < 1048576 := by decide +kernel
  have fits (length : Nat) (nonempty : 1 ≤ length) (most : length ≤ 1048576) :=
    sealed_item_fits_iff Minicbor.rfc8949 Crypto.Minicbor.rfc8949_conforms Crypto.patchedCipher
      Crypto.patchedCipher_correct "account" "mutation" "item" "vault" admitted_ids
      Crypto.itemSealing.key rfl Crypto.itemNonce 1 (by decide) (by decide) (List.replicate length 0)
      (List.length_replicate.symm ▸ nonempty) (List.length_replicate.symm ▸ most) 0 (by decide) false
  constructor
  · obtain ⟨envelope, sealed, exact⟩ := fits largest range.1 range.2.le
    exact ⟨envelope, sealed, exact.mpr List.length_replicate.le⟩
  · obtain ⟨envelope, sealed, exact⟩ := fits (largest + 1) (by omega) range.2
    refine ⟨envelope, sealed, fun all => ?_⟩
    have short := exact.mp all
    rw [List.length_replicate] at short
    omega

/-- A plaintext of 1 MiB is sealed and Fastify refuses its body. -/
theorem largest_item_refused :
    ∃ envelope, sealEnvelope Minicbor.rfc8949 Crypto.patchedCipher Crypto.itemNonce
        Crypto.itemSealing.key (payloadContext "account" "vault" "item" 1)
        (List.replicate 1048576 0) = .ok envelope ∧
      ¬ (mutationBody (sealedMutation "mutation" "item" "vault" 0 false envelope)).length ≤
        bodyLimit .node := by
  have size : (List.replicate 1048576 (0 : UInt8)).length = 1048576 := List.length_replicate
  have keySize : Crypto.itemSealing.key.length = Crypto.keyLen := rfl
  have version : 1 ≤ (1 : UInt64).toNat ∧ (1 : UInt64).toNat < 2 ^ 63 := by decide
  obtain ⟨envelope, sealed, length⟩ := body_length Crypto.Minicbor.rfc8949_conforms
    Crypto.patchedCipher_correct admitted_ids keySize Crypto.itemNonce version.1 version.2
    (Nat.le_trans (by decide) size.ge) size.le 0 false
  refine ⟨envelope, sealed, ?_⟩
  have limit : bodyLimit .node = 1048576 := rfl
  rw [length, size, limit]
  omega

end ZenPass.Sync
