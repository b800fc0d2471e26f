import ZenPass.Crypto.RecoveryKit

set_option autoImplicit false

namespace ZenPass.Crypto

open Cbor (Bytes)

def confirmationMarker : Bytes := Cbor.utf8 "crypto-envelope/v1 recovery-kit-confirmation"

namespace RecoveryKit

def confirmationCtx (kit : RecoveryKit) : Context where
  accountId := kit.accountId
  vaultId := none
  itemId := none
  recordKind := .exportManifest
  keyVersion := kit.keyVersion

variable (cbor : Minicbor) (aead : Aead)

def confirmation (kit : RecoveryKit) (nonce : Nonce) (recoveryKey : RecoveryKey) (challenge : Bytes) :
    Except Error Bytes :=
  sealEnvelope cbor aead nonce recoveryKey.secret.bytes kit.confirmationCtx
    (confirmationMarker ++ challenge)

def verifyConfirmation (kit : RecoveryKit) (recoveryKey : RecoveryKey) (challenge token : Bytes) :
    Except Error Unit :=
  match openEnvelope cbor aead recoveryKey.secret.bytes kit.confirmationCtx token with
  | .error _ => .error .invalidRecoveryKit
  | .ok message =>
    if message.length ≠ confirmationMarker.length + challenge.length ∨
        ¬confirmationMarker.isPrefixOf message ∨
        message.drop confirmationMarker.length ≠ challenge then .error .invalidRecoveryKit
    else .ok ()

def Confirmed (made : Sealing → Prop) (kit : RecoveryKit) (recoveryKey : RecoveryKey)
    (challenge token : Bytes) : Prop :=
  ∃ nonce ciphertext, kit.confirmation cbor aead nonce recoveryKey challenge = .ok token ∧
    made ⟨recoveryKey.secret.bytes, nonce.bytes, confirmationMarker ++ challenge,
      canonicalAad kit.confirmationCtx, ciphertext⟩

end RecoveryKit

def SealedByCore (cbor : Minicbor) (aead : Aead) (made : Sealing → Prop) (key : Bytes) : Prop :=
  ∀ sealing, made sealing → sealing.key = key →
    ∃ nonce ctx plaintext envelope,
      SealedBy cbor aead made nonce key ctx plaintext sealing.ciphertext envelope

-- The three comparisons together say what the message is.
theorem message_checks (message challenge : Bytes) :
    ¬(message.length ≠ confirmationMarker.length + challenge.length ∨
        ¬confirmationMarker.isPrefixOf message ∨
        message.drop confirmationMarker.length ≠ challenge) ↔
      message = confirmationMarker ++ challenge := by
  simp only [not_or, not_not, List.isPrefixOf_iff_prefix]
  constructor
  · rintro ⟨-, ⟨rest, rfl⟩, same⟩
    rw [List.drop_left] at same
    rw [same]
  · rintro rfl
    exact ⟨List.length_append, List.prefix_append _ _, List.drop_left⟩

namespace RecoveryKit

variable {cbor : Minicbor} {aead : Aead}

theorem verifyConfirmation_eq_ok {kit : RecoveryKit} {recoveryKey : RecoveryKey}
    {challenge token : Bytes} :
    kit.verifyConfirmation cbor aead recoveryKey challenge token = .ok () ↔
      openEnvelope cbor aead recoveryKey.secret.bytes kit.confirmationCtx token
        = .ok (confirmationMarker ++ challenge) := by
  unfold verifyConfirmation
  cases openEnvelope cbor aead recoveryKey.secret.bytes kit.confirmationCtx token with
  | error failed => simp
  | ok message => simp only [guard_eq_ok, message_checks, and_true, Except.ok.injEq]

theorem within_of_sealEnvelope {nonce : Nonce} {key plaintext envelope : Bytes} {ctx : Context}
    (returned : sealEnvelope cbor aead nonce key ctx plaintext = .ok envelope) :
    plaintextWithinLimit ctx.recordKind plaintext.length = true := by
  simp only [sealEnvelope, bind_eq_ok, guard_eq_ok, not_not] at returned
  obtain ⟨_, -, -, within, -⟩ := returned
  exact within

section Ideal

variable (conforms : cbor.Conforms) {made : Sealing → Prop} (ideal : aead.IdealBox made)
  {kit : RecoveryKit} {recoveryKey : RecoveryKey} {challenge token : Bytes}

include conforms ideal

theorem Confirmed.sealedFor (confirmed : Confirmed cbor aead made kit recoveryKey challenge token) :
    token.length < 2 ^ 64 ∧
      SealedFor made recoveryKey.secret.bytes kit.confirmationCtx (confirmationMarker ++ challenge)
        token := by
  obtain ⟨nonce, ciphertext, returned, call⟩ := confirmed
  have sealed : SealedBy cbor aead made nonce recoveryKey.secret.bytes kit.confirmationCtx
      (confirmationMarker ++ challenge) ciphertext token := ⟨returned, call⟩
  exact ⟨sealed.bound conforms, sealed.sealedFor conforms ideal.toIdeal⟩

theorem Confirmed.verified (confirmed : Confirmed cbor aead made kit recoveryKey challenge token) :
    kit.verifyConfirmation cbor aead recoveryKey challenge token = .ok () := by
  obtain ⟨slice, sealed⟩ := Confirmed.sealedFor conforms ideal confirmed
  obtain ⟨nonce, ciphertext, returned, -⟩ := confirmed
  rw [verifyConfirmation_eq_ok]
  exact (openEnvelope_iff conforms ideal slice recoveryKey.secret.size
    (within_of_sealEnvelope returned)).mpr sealed

theorem sealedFor_of_verified (slice : token.length < 2 ^ 64)
    (verified : kit.verifyConfirmation cbor aead recoveryKey challenge token = .ok ()) :
    plaintextWithinLimit .exportManifest (confirmationMarker ++ challenge).length = true ∧
      SealedFor made recoveryKey.secret.bytes kit.confirmationCtx (confirmationMarker ++ challenge)
        token := by
  have opened := verifyConfirmation_eq_ok.mp verified
  have within := within_of_openEnvelope opened
  exact ⟨within, (openEnvelope_iff conforms ideal slice recoveryKey.secret.size within).mp opened⟩

-- A sealing that came out of the core came out within the limit of the writer.
theorem length_le_of_sealedByCore
    (core : SealedByCore cbor aead made recoveryKey.secret.bytes) (slice : token.length < 2 ^ 64)
    (sealed : SealedFor made recoveryKey.secret.bytes kit.confirmationCtx
      (confirmationMarker ++ challenge) token) :
    token.length ≤ envelopeLimit .exportManifest := by
  obtain ⟨nonce, ciphertext, call, bytes⟩ := sealed.sealing
  obtain ⟨nonce', ctx', plaintext', envelope, sealed'⟩ := core _ call rfl
  -- the two calls are one
  have same := ideal.distinct _ _ call sealed'.call rfl
  simp only [Sealing.mk.injEq] at same
  obtain ⟨-, sameNonce, -, sameAad, -⟩ := same
  have le := canonicalEnvelope_parts_le kit.confirmationCtx.recordKind kit.confirmationCtx.keyVersion
    nonce.bytes ciphertext (canonicalAad kit.confirmationCtx)
  rw [bytes] at slice
  have written := sealed'.sealedFor conforms ideal.toIdeal
  have sameCtx := canonicalAad_injective conforms sealed.valid written.valid sealed.version
    written.version (by omega) sameAad
  have envelopeBytes := sealed'.canonical conforms ideal.toIdeal
  rw [← sameCtx, ← sameNonce, ← bytes] at envelopeBytes
  have limit := (sealEnvelope_eq_ok conforms sealed'.returned).2.2.1
  rw [← sameCtx, envelopeBytes] at limit
  exact limit

theorem confirmed_of_verified (slice : token.length < 2 ^ 64)
    (core : envelopeLimit .exportManifest < token.length →
      SealedByCore cbor aead made recoveryKey.secret.bytes)
    (verified : kit.verifyConfirmation cbor aead recoveryKey challenge token = .ok ()) :
    Confirmed cbor aead made kit recoveryKey challenge token := by
  obtain ⟨within, sealed⟩ := sealedFor_of_verified conforms ideal slice verified
  have limit : token.length ≤ envelopeLimit .exportManifest := by
    by_contra long
    have short := length_le_of_sealedByCore conforms ideal (core (Nat.lt_of_not_le long)) slice sealed
    exact long short
  obtain ⟨nonce, ciphertext, call, rfl⟩ := sealed.sealing
  have returned : kit.confirmation cbor aead nonce recoveryKey challenge = .ok _ :=
    sealEnvelope_canonical conforms sealed.valid sealed.version recoveryKey.secret.size within
      (ideal.produced _ call) limit
  exact ⟨nonce, ciphertext, returned, call⟩

-- One token carries one key, one context and one message.
theorem Confirmed.unique {kit' : RecoveryKit} {recoveryKey' : RecoveryKey} {challenge' : Bytes}
    (confirmed : Confirmed cbor aead made kit' recoveryKey' challenge' token)
    (verified : kit.verifyConfirmation cbor aead recoveryKey challenge token = .ok ()) :
    recoveryKey = recoveryKey' ∧ kit.accountId = kit'.accountId ∧ kit.keyVersion = kit'.keyVersion ∧
      challenge = challenge' := by
  obtain ⟨slice, sealed'⟩ := Confirmed.sealedFor conforms ideal confirmed
  obtain ⟨-, sealed⟩ := sealedFor_of_verified conforms ideal slice verified
  obtain ⟨sameKey, sameCtx, sameMessage⟩ := sealed.unique conforms ideal.toIdeal slice sealed'
  refine ⟨?_, congrArg Context.accountId sameCtx, congrArg Context.keyVersion sameCtx,
    List.append_cancel_left sameMessage⟩
  exact congrArg RecoveryKey.mk (Secret32.ext_bytes sameKey)

end Ideal

end RecoveryKit

/-- A kit takes a token exactly when the confirmation function made it under the same key, for the same
account, version and challenge. Who else seals under the key matters only for a token that is longer
than what the core writes. -/
theorem recovery_confirmation_binds (cbor : Minicbor) (conforms : cbor.Conforms) (aead : Aead)
    (made : Sealing → Prop) (ideal : aead.IdealBox made) (kit : RecoveryKit) (recoveryKey : RecoveryKey)
    (challenge token : Bytes) (slice : token.length < 2 ^ 64)
    (core : envelopeLimit .exportManifest < token.length →
      SealedByCore cbor aead made recoveryKey.secret.bytes) :
    (kit.verifyConfirmation cbor aead recoveryKey challenge token = .ok () ↔
      kit.Confirmed cbor aead made recoveryKey challenge token) ∧
    ∀ (kit' : RecoveryKit) (recoveryKey' : RecoveryKey) (challenge' : Bytes),
      kit'.Confirmed cbor aead made recoveryKey' challenge' token →
      kit.verifyConfirmation cbor aead recoveryKey challenge token = .ok () →
      recoveryKey = recoveryKey' ∧ kit.accountId = kit'.accountId ∧ kit.keyVersion = kit'.keyVersion ∧
        challenge = challenge' := by
  refine ⟨⟨?_, ?_⟩, ?_⟩
  · exact RecoveryKit.confirmed_of_verified conforms ideal slice core
  · exact RecoveryKit.Confirmed.verified conforms ideal
  · intro kit' recoveryKey' challenge' confirmed verified
    exact RecoveryKit.Confirmed.unique conforms ideal confirmed verified

def confirmingKit : RecoveryKit where
  accountId := "account_01"
  keyVersion := 1
  wrappedAccountKey := []

-- XChaCha20-Poly1305 of the marker and the challenge "ok?" under `sevens`
def confirmationSealing : Sealing where
  key := sevens.secret.bytes
  nonce := itemNonce.bytes
  plaintext := confirmationMarker ++ Cbor.utf8 "ok?"
  aad := canonicalAad confirmingKit.confirmationCtx
  ciphertext := [203, 101, 210, 245, 142, 115, 118, 192, 75, 177, 228, 43, 137, 146, 202, 131, 41, 231,
    24, 101, 113, 148, 88, 7, 150, 111, 206, 172, 241, 165, 224, 186, 96, 81, 225, 10, 156, 230, 51,
    145, 98, 136, 91, 19, 88, 199, 207, 59, 178, 125, 25, 46, 49, 148, 32, 215, 246, 72, 10, 212, 195,
    3, 28]

def confirmationToken : Bytes :=
  canonicalEnvelope .exportManifest 1 itemNonce.bytes confirmationSealing.ciphertext
    (canonicalAad confirmingKit.confirmationCtx)

theorem confirmationSealing_idealBox :
    (recordedCiphers [confirmationSealing]).IdealBox (· ∈ [confirmationSealing]) := by
  apply recordedCiphers_idealBox
  · decide +kernel
  · decide +kernel
  · decide +kernel

theorem confirmationToken_confirmed :
    confirmingKit.Confirmed Minicbor.rfc8949 (recordedCiphers [confirmationSealing])
      (· ∈ [confirmationSealing]) sevens (Cbor.utf8 "ok?") confirmationToken := by
  refine ⟨itemNonce, confirmationSealing.ciphertext, ?_, List.mem_singleton.mpr rfl⟩
  apply sealEnvelope_canonical Minicbor.rfc8949_conforms
  · rfl
  · decide
  · rfl
  · decide +kernel
  · decide +kernel
  · decide +kernel

theorem recovery_confirmation_binds_account_01 :
    confirmingKit.verifyConfirmation Minicbor.rfc8949 (recordedCiphers [confirmationSealing]) sevens
      (Cbor.utf8 "ok?") confirmationToken = .ok () :=
  (recovery_confirmation_binds Minicbor.rfc8949 Minicbor.rfc8949_conforms
    (recordedCiphers [confirmationSealing]) (· ∈ [confirmationSealing]) confirmationSealing_idealBox
    confirmingKit sevens (Cbor.utf8 "ok?") confirmationToken (by decide +kernel)
    (fun long => absurd long (by decide +kernel))).1.mpr confirmationToken_confirmed

end ZenPass.Crypto
