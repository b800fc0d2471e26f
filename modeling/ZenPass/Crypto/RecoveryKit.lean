import ZenPass.Crypto.ContextCodec
import ZenPass.Crypto.WorkerSessions

set_option autoImplicit false

namespace ZenPass.Crypto

open Cbor (Bytes)
open Worker (inspectEnvelope)

structure RecoveryKit where
  accountId : String
  keyVersion : UInt64
  wrappedAccountKey : Bytes

namespace RecoveryKit

variable (cbor : Minicbor) (aead : Aead)

-- over the key and the nonce that `fill_random` gives
def generate (recoveryKey : RecoveryKey) (nonce : Nonce) (accountKey : AccountKey) (accountId : String)
    (keyVersion : UInt64) : Except Error (RecoveryKey × RecoveryKit) := do
  let wrappedAccountKey ←
    wrapAccountKeyWithRecovery cbor aead nonce recoveryKey accountKey accountId keyVersion
  .ok (recoveryKey, { accountId, keyVersion, wrappedAccountKey })

def fromParts (accountId : String) (keyVersion : UInt64) (wrappedAccountKey : Bytes) :
    Except Error RecoveryKit :=
  let expected : Context :=
    { accountId, vaultId := none, itemId := none, recordKind := .recoveryWrap, keyVersion }
  match inspectEnvelope cbor wrappedAccountKey with
  | .error _ => .error .invalidRecoveryKit
  | .ok embedded =>
    if embedded ≠ expected then .error .invalidRecoveryKit
    else .ok { accountId, keyVersion, wrappedAccountKey }

def unwrapAccountKey (kit : RecoveryKit) (recoveryKey : RecoveryKey) : Except Error AccountKey :=
  openAccountKeyWithRecovery cbor aead recoveryKey kit.wrappedAccountKey kit.accountId kit.keyVersion

theorem fromParts_eq_ok {cbor : Minicbor} {accountId : String} {keyVersion : UInt64} {bytes : Bytes}
    {kit : RecoveryKit} :
    fromParts cbor accountId keyVersion bytes = .ok kit ↔
      inspectEnvelope cbor bytes = .ok (recoveryWrapCtx accountId keyVersion) ∧
        kit = ⟨accountId, keyVersion, bytes⟩ := by
  unfold fromParts
  cases inspectEnvelope cbor bytes with
  | error failed => simp
  | ok embedded =>
    simp only [guard_eq_ok, not_not, Except.ok.injEq, recoveryWrapCtx]
    constructor
    · rintro ⟨same, rfl⟩
      exact ⟨same, rfl⟩
    · rintro ⟨same, rfl⟩
      exact ⟨same, rfl⟩

end RecoveryKit

/-- The cipher does not take the key, or what it gives has a length the kind forbids. -/
inductive KeyRefused (cbor : Minicbor) (aead : Aead) (key : Bytes) (ctx : Context) (envelope : Bytes) :
    Error → Prop
  | authentication {parts : EnvelopeParts} :
    decodeEnvelope cbor envelope = .ok parts →
    aead.decrypt key parts.nonce parts.ciphertextAndTag parts.aad = none →
    KeyRefused cbor aead key ctx envelope .authenticationFailed
  | length {parts : EnvelopeParts} {plaintext : Bytes} :
    decodeEnvelope cbor envelope = .ok parts →
    aead.decrypt key parts.nonce parts.ciphertextAndTag parts.aad = some plaintext →
    plaintextWithinLimit ctx.recordKind plaintext.length = false →
    KeyRefused cbor aead key ctx envelope .invalidKeyLength

/-- A well-formed envelope around the AAD of the context and of its kind, with another key version
outside than in the AAD. -/
structure OtherVersionOutside (ctx : Context) (envelope : Bytes) : Prop where
  valid : ctx.Valid
  bytes : ∃ (version : UInt64) (nonce : Nonce) (ciphertext : Bytes),
    version.toNat < 2 ^ 63 ∧ version ≠ ctx.keyVersion ∧ tagLen ≤ ciphertext.length ∧
      envelope = canonicalEnvelope ctx.recordKind version nonce.bytes ciphertext (canonicalAad ctx)

section Inspection

variable {cbor : Minicbor} (conforms : cbor.Conforms) {aead : Aead} {envelope : Bytes}
  (slice : envelope.length < 2 ^ 64)

include conforms

structure Inspected (cbor : Minicbor) (envelope : Bytes) (ctx : Context) (parts : EnvelopeParts) :
    Prop where
  decoded : decodeEnvelope cbor envelope = .ok parts
  shape : parts.Shape envelope
  valid : ctx.Valid
  kind : parts.kind = ctx.recordKind
  aad : parts.aad = canonicalAad ctx
  embedded : decodeAad cbor (canonicalAad ctx) = .ok ctx

theorem inspectEnvelope_eq_ok {ctx : Context} (inspected : inspectEnvelope cbor envelope = .ok ctx) :
    ∃ parts, Inspected cbor envelope ctx parts := by
  simp only [inspectEnvelope, bind_eq_ok, guard_eq_ok, not_not] at inspected
  obtain ⟨parts, decoded, embedded, read, kind, same⟩ := inspected
  cases same
  obtain ⟨aad, small⟩ := decodeAad_eq_ok conforms read
  have valid := Context.valid_iff.mpr ⟨validate_of_decodeAad read, small⟩
  exact ⟨parts, decoded, shape_of_decodeEnvelope conforms decoded, valid, kind, aad, aad ▸ read⟩

include slice in
theorem OtherVersionOutside.inspected {ctx : Context} (other : OtherVersionOutside ctx envelope) :
    inspectEnvelope cbor envelope = .ok ctx ∧
      ∃ parts, Inspected cbor envelope ctx parts ∧ parts.keyVersion ≠ ctx.keyVersion := by
  obtain ⟨version, nonce, ciphertext, small, differs, tagged, bytes⟩ := other.bytes
  have shape : EnvelopeParts.Shape ⟨ctx.recordKind, version, nonce.bytes, ciphertext, canonicalAad ctx⟩
      envelope := ⟨small, nonce.size, tagged, bytes⟩
  have decoded := shape.decoded conforms slice
  obtain ⟨validated, versionSmall⟩ := Context.valid_iff.mp other.valid
  have read := decodeAad_canonical conforms versionSmall (shape.aad_lt slice)
  rw [validated] at read
  refine ⟨?_, _, ⟨decoded, shape, other.valid, rfl, rfl, read⟩, differs⟩
  rw [inspectEnvelope, decoded, ok_bind, read]
  exact if_neg (not_not.mpr rfl)

-- What is left for opening to check
theorem Inspected.openEnvelope_eq {ctx : Context} {parts : EnvelopeParts}
    (inspected : Inspected cbor envelope ctx parts) {key : Bytes} (keySize : key.length = keyLen) :
    openEnvelope cbor aead key ctx envelope
      = if parts.keyVersion ≠ ctx.keyVersion then .error .invalidContext
        else match aead.decrypt key parts.nonce parts.ciphertextAndTag parts.aad with
          | none => .error .authenticationFailed
          | some plaintext =>
            if plaintextWithinLimit ctx.recordKind plaintext.length then .ok plaintext
            else .error .invalidKeyLength := by
  obtain ⟨validated, small⟩ := Context.valid_iff.mp inspected.valid
  have encoded := encodeAad_of_valid conforms inspected.valid
  have differs : (parts.kind ≠ ctx.recordKind ∨ ctx ≠ ctx ∨ ctx.keyVersion ≠ parts.keyVersion) ↔
      parts.keyVersion ≠ ctx.keyVersion := by
    simp [inspected.kind, ne_comm]
  have tagged := Nat.not_lt.mpr inspected.shape.tagged
  simp only [openEnvelope, validated, ok_bind, if_neg (not_not.mpr keySize), inspected.decoded, encoded,
    inspected.aad, inspected.embedded, differs, aeadOpen, if_neg (not_not.mpr inspected.shape.nonce),
    if_neg tagged, if_neg (not_not.mpr (Eq.refl (canonicalAad ctx)))]
  split_ifs with version
  · rfl
  · cases aead.decrypt key parts.nonce parts.ciphertextAndTag (canonicalAad ctx) with
    | none => rfl
    | some plaintext =>
      cases within : plaintextWithinLimit ctx.recordKind plaintext.length with
      | true => simp [orError, within]
      | false => simp [orError, within]

theorem Inspected.keyRefused {ctx : Context} {parts : EnvelopeParts}
    (inspected : Inspected cbor envelope ctx parts) (agrees : parts.keyVersion = ctx.keyVersion)
    {key : Bytes} (keySize : key.length = keyLen) {error : Error}
    (refused : openEnvelope cbor aead key ctx envelope = .error error) :
    KeyRefused cbor aead key ctx envelope error := by
  rw [inspected.openEnvelope_eq conforms keySize, if_neg (not_not.mpr agrees)] at refused
  cases decrypted : aead.decrypt key parts.nonce parts.ciphertextAndTag parts.aad with
  | none =>
    rw [decrypted] at refused
    cases refused
    exact .authentication inspected.decoded decrypted
  | some plaintext =>
    simp only [decrypted] at refused
    split_ifs at refused with within
    cases refused
    exact .length inspected.decoded decrypted (Bool.eq_false_iff.mpr within)

theorem Inspected.invalidContext {ctx : Context} {parts : EnvelopeParts}
    (inspected : Inspected cbor envelope ctx parts) (differs : parts.keyVersion ≠ ctx.keyVersion)
    {key : Bytes} (keySize : key.length = keyLen) :
    openEnvelope cbor aead key ctx envelope = .error .invalidContext := by
  rw [inspected.openEnvelope_eq conforms keySize, if_pos differs]

omit conforms in
-- Agreement of the two versions is what the inspection leaves out.
theorem Inspected.agrees {ctx : Context} {parts : EnvelopeParts}
    (inspected : Inspected cbor envelope ctx parts) (none : ¬OtherVersionOutside ctx envelope) :
    parts.keyVersion = ctx.keyVersion := by
  by_contra differs
  have shape := inspected.shape
  refine none ⟨inspected.valid, parts.keyVersion, ⟨parts.nonce, shape.nonce⟩, parts.ciphertextAndTag,
    shape.version, differs, shape.tagged, ?_⟩
  have bytes := shape.bytes
  rw [inspected.kind, inspected.aad] at bytes
  exact bytes

include slice in
-- What the core writes has one key version.
theorem EnvelopeParts.Shape.versions {ctx : Context} {nonce ciphertext : Bytes}
    (shape : EnvelopeParts.Shape ⟨ctx.recordKind, ctx.keyVersion, nonce, ciphertext, canonicalAad ctx⟩
      envelope) (valid : ctx.Valid) (other : Context) : ¬OtherVersionOutside other envelope := by
  intro outside
  obtain ⟨-, parts, checked, differs⟩ := outside.inspected conforms slice
  have decoded := shape.decoded conforms slice
  rw [checked.decoded] at decoded
  obtain rfl := Except.ok.inj decoded
  obtain ⟨validated, small⟩ := Context.valid_iff.mp valid
  have read := decodeAad_canonical conforms small (shape.aad_lt slice)
  rw [validated] at read
  have embedded := checked.embedded
  rw [← checked.aad] at embedded
  exact differs (congrArg Context.keyVersion (Except.ok.inj (read.symm.trans embedded)))

end Inspection

theorem within_of_openEnvelope {cbor : Minicbor} {aead : Aead} {key envelope plaintext : Bytes}
    {ctx : Context} (opened : openEnvelope cbor aead key ctx envelope = .ok plaintext) :
    plaintextWithinLimit ctx.recordKind plaintext.length = true := by
  simp only [openEnvelope, bind_eq_ok, guard_eq_ok, not_not] at opened
  obtain ⟨_, -, -, _, -, _, -, _, -, -, -, _, -, within, same⟩ := opened
  cases same
  exact within

theorem RecoveryKit.unwrapAccountKey_error {cbor : Minicbor} {aead : Aead} {kit : RecoveryKit}
    {recoveryKey : RecoveryKey} {error : Error}
    (failed : kit.unwrapAccountKey cbor aead recoveryKey = .error error) :
    ∃ refused, openEnvelope cbor aead recoveryKey.secret.bytes
        (recoveryWrapCtx kit.accountId kit.keyVersion) kit.wrappedAccountKey = .error refused ∧
      error = if refused.refusesKit then .invalidRecoveryKit else refused := by
  rw [unwrapAccountKey, openAccountKeyWithRecovery_eq, unwrap] at failed
  cases opened : openEnvelope cbor aead recoveryKey.secret.bytes
      (recoveryWrapCtx kit.accountId kit.keyVersion) kit.wrappedAccountKey with
  | error refused =>
    simp only [opened, bind, Except.bind] at failed
    exact ⟨refused, rfl, (Except.error.inj failed).symm⟩
  | ok plaintext =>
    have size : plaintext.length = keyLen := of_decide_eq_true (within_of_openEnvelope opened)
    have read : Secret32.fromBytes plaintext = .ok ⟨plaintext, size⟩ := Secret32.fromBytes_eq_ok.mpr rfl
    simp [opened, read] at failed

theorem KeyRefused.not_invalidContext {cbor : Minicbor} {aead : Aead} {key envelope : Bytes}
    {ctx : Context} : ¬KeyRefused cbor aead key ctx envelope .invalidContext := by
  intro refused
  cases refused

-- 32 bytes
def zeroKey : RecoveryKey where
  secret := ⟨List.replicate 32 0, List.length_replicate⟩

/-- An inspected envelope is refused for its key only, and so is a kit, exactly when not merely the key
version outside is another one. -/
theorem inspection_agrees_iff (cbor : Minicbor) (conforms : cbor.Conforms) (aead : Aead)
    (envelope : Bytes) (slice : envelope.length < 2 ^ 64) :
    ((∀ ctx, inspectEnvelope cbor envelope = .ok ctx → ∀ key, key.length = keyLen →
        ∀ error, openEnvelope cbor aead key ctx envelope = .error error →
          KeyRefused cbor aead key ctx envelope error) ↔
      ∀ ctx, ¬OtherVersionOutside ctx envelope) ∧
    ((∀ accountId keyVersion kit, RecoveryKit.fromParts cbor accountId keyVersion envelope = .ok kit →
        ∀ recoveryKey error, kit.unwrapAccountKey cbor aead recoveryKey = .error error →
          ∃ refused, KeyRefused cbor aead recoveryKey.secret.bytes (recoveryWrapCtx accountId keyVersion)
              envelope refused ∧
            error = if refused.refusesKit then .invalidRecoveryKit else refused) ↔
      ∀ accountId keyVersion,
        ¬OtherVersionOutside (recoveryWrapCtx accountId keyVersion) envelope) := by
  have keySize := zeroKey.secret.size
  constructor
  · constructor
    · intro agreement ctx other
      obtain ⟨inspected, parts, checked, differs⟩ := other.inspected conforms slice
      have refused : openEnvelope cbor aead zeroKey.secret.bytes ctx envelope = .error .invalidContext :=
        checked.invalidContext conforms differs keySize
      exact KeyRefused.not_invalidContext (agreement ctx inspected _ keySize _ refused)
    · intro none ctx inspected key keySize error refused
      obtain ⟨parts, checked⟩ := inspectEnvelope_eq_ok conforms inspected
      exact checked.keyRefused conforms (checked.agrees (none ctx)) keySize refused
  · constructor
    · intro agreement accountId keyVersion other
      obtain ⟨inspected, parts, checked, differs⟩ := other.inspected conforms slice
      have refused : openEnvelope cbor aead zeroKey.secret.bytes (recoveryWrapCtx accountId keyVersion)
          envelope = .error .invalidContext := checked.invalidContext conforms differs keySize
      have kit := RecoveryKit.fromParts_eq_ok.mpr ⟨inspected, rfl⟩
      have failed : RecoveryKit.unwrapAccountKey cbor aead ⟨accountId, keyVersion, envelope⟩ zeroKey
          = .error .invalidContext := by
        rw [RecoveryKit.unwrapAccountKey, openAccountKeyWithRecovery_eq, unwrap, refused]
        rfl
      obtain ⟨error, keyRefused, same⟩ := agreement _ _ _ kit _ _ failed
      cases keyRefused with
      | authentication _ _ => cases same
      | length _ _ _ => cases same
    · intro none accountId keyVersion kit accepted recoveryKey error failed
      obtain ⟨inspected, rfl⟩ := RecoveryKit.fromParts_eq_ok.mp accepted
      obtain ⟨parts, checked⟩ := inspectEnvelope_eq_ok conforms inspected
      obtain ⟨refused, opening, same⟩ := RecoveryKit.unwrapAccountKey_error failed
      have agrees := checked.agrees (none accountId keyVersion)
      exact ⟨refused, checked.keyRefused conforms agrees recoveryKey.secret.size opening, same⟩

-- an intact recovery wrapper but for the key version outside
def otherVersionKit : Bytes :=
  canonicalEnvelope .recoveryWrap 2 itemNonce.bytes (List.replicate 48 0)
    (canonicalAad (recoveryWrapCtx "account_01" 1))

theorem otherVersionKit_outside :
    OtherVersionOutside (recoveryWrapCtx "account_01" 1) otherVersionKit where
  valid := ⟨by decide, rfl, by decide, rfl, by decide, by decide, by decide⟩
  bytes := ⟨2, itemNonce, List.replicate 48 0, by decide, by decide, by decide, rfl⟩

/-- It is inspected and makes a kit, which is then refused for its context under every key. -/
theorem inspection_disagrees :
    inspectEnvelope Minicbor.rfc8949 otherVersionKit = .ok (recoveryWrapCtx "account_01" 1) ∧
      openEnvelope Minicbor.rfc8949 (recordedCipher itemSealing) zeroKey.secret.bytes
        (recoveryWrapCtx "account_01" 1) otherVersionKit = .error .invalidContext ∧
      RecoveryKit.fromParts Minicbor.rfc8949 "account_01" 1 otherVersionKit
        = .ok ⟨"account_01", 1, otherVersionKit⟩ ∧
      RecoveryKit.unwrapAccountKey Minicbor.rfc8949 (recordedCipher itemSealing)
        ⟨"account_01", 1, otherVersionKit⟩ zeroKey = .error .invalidContext := by
  have conforms := Minicbor.rfc8949_conforms
  obtain ⟨inspected, parts, checked, differs⟩ :=
    otherVersionKit_outside.inspected conforms (by decide +kernel)
  have refused : openEnvelope Minicbor.rfc8949 (recordedCipher itemSealing) zeroKey.secret.bytes
      (recoveryWrapCtx "account_01" 1) otherVersionKit = .error .invalidContext :=
    checked.invalidContext conforms differs zeroKey.secret.size
  refine ⟨inspected, refused, RecoveryKit.fromParts_eq_ok.mpr ⟨inspected, rfl⟩, ?_⟩
  rw [RecoveryKit.unwrapAccountKey, openAccountKeyWithRecovery_eq, unwrap, refused]
  rfl

theorem strangersKit_versions (ctx : Context) : ¬OtherVersionOutside ctx strangersKit := by
  have shape : EnvelopeParts.Shape ⟨.recoveryWrap, 1, itemNonce.bytes, List.replicate 48 0,
      canonicalAad (recoveryWrapCtx "account_02" 1)⟩ strangersKit :=
    ⟨by decide, itemNonce.size, by decide, rfl⟩
  have valid : (recoveryWrapCtx "account_02" 1).Valid :=
    ⟨by decide, rfl, by decide, rfl, by decide, by decide, by decide⟩
  exact shape.versions Minicbor.rfc8949_conforms (by decide +kernel) valid ctx

/-- Inspected as the wrapper of another account, refused under a wrong key for that key only. -/
theorem inspection_agrees_strangersKit :
    inspectEnvelope Minicbor.rfc8949 strangersKit = .ok (recoveryWrapCtx "account_02" 1) ∧
      openEnvelope Minicbor.rfc8949 (recordedCipher itemSealing) zeroKey.secret.bytes
        (recoveryWrapCtx "account_02" 1) strangersKit = .error .authenticationFailed ∧
      KeyRefused Minicbor.rfc8949 (recordedCipher itemSealing) zeroKey.secret.bytes
        (recoveryWrapCtx "account_02" 1) strangersKit .authenticationFailed := by
  have inspected : inspectEnvelope Minicbor.rfc8949 strangersKit = .ok (recoveryWrapCtx "account_02" 1) := by
    decide +kernel
  have refused : openEnvelope Minicbor.rfc8949 (recordedCipher itemSealing) zeroKey.secret.bytes
      (recoveryWrapCtx "account_02" 1) strangersKit = .error .authenticationFailed := by
    decide +kernel
  have agrees := (inspection_agrees_iff Minicbor.rfc8949 Minicbor.rfc8949_conforms
    (recordedCipher itemSealing) strangersKit (by decide +kernel)).1.mpr strangersKit_versions
  exact ⟨inspected, refused, agrees _ inspected _ zeroKey.secret.size _ refused⟩

end ZenPass.Crypto
