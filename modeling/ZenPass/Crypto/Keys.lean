import ZenPass.Crypto.Envelope

set_option autoImplicit false

namespace ZenPass.Crypto

open Cbor (Bytes)

-- `Zeroizing<[u8; 32]>`
structure Secret32 where
  bytes : Bytes
  size : bytes.length = keyLen

def Secret32.fromBytes (bytes : Bytes) : Except Error Secret32 :=
  if size : bytes.length = keyLen then .ok ⟨bytes, size⟩ else .error .invalidKeyLength

theorem Secret32.ext_bytes {first second : Secret32} (same : first.bytes = second.bytes) :
    first = second := by
  cases first
  cases second
  cases same
  rfl

theorem Secret32.fromBytes_eq_ok {bytes : Bytes} {secret : Secret32} :
    Secret32.fromBytes bytes = .ok secret ↔ bytes = secret.bytes := by
  unfold Secret32.fromBytes
  constructor
  · intro read
    split_ifs at read
    cases read
    rfl
  · intro same
    rw [dif_pos (same ▸ secret.size)]
    exact congrArg Except.ok (Secret32.ext_bytes same)

theorem Secret32.fromBytes_eq_error {bytes : Bytes} {error : Error} :
    Secret32.fromBytes bytes = .error error ↔ bytes.length ≠ keyLen ∧ error = .invalidKeyLength := by
  unfold Secret32.fromBytes
  split_ifs with size
  · simp [size]
  · simp [size, eq_comm]

structure AccountKey where
  secret : Secret32

structure VaultKey where
  secret : Secret32

structure ItemKey where
  secret : Secret32

structure RecoveryKey where
  secret : Secret32

structure UnlockKey where
  secret : Secret32

def AccountKey.fromBytes (bytes : Bytes) : Except Error AccountKey :=
  (Secret32.fromBytes bytes).map AccountKey.mk

def VaultKey.fromBytes (bytes : Bytes) : Except Error VaultKey :=
  (Secret32.fromBytes bytes).map VaultKey.mk

def ItemKey.fromBytes (bytes : Bytes) : Except Error ItemKey :=
  (Secret32.fromBytes bytes).map ItemKey.mk

def RecoveryKey.fromBytes (bytes : Bytes) : Except Error RecoveryKey :=
  (Secret32.fromBytes bytes).map RecoveryKey.mk

def UnlockKey.fromBytes (bytes : Bytes) : Except Error UnlockKey :=
  (Secret32.fromBytes bytes).map UnlockKey.mk

def accountWrapCtx (accountId : String) (keyVersion : UInt64) : Context where
  accountId := accountId
  vaultId := none
  itemId := none
  recordKind := .accountWrap
  keyVersion := keyVersion

def recoveryWrapCtx (accountId : String) (keyVersion : UInt64) : Context where
  accountId := accountId
  vaultId := none
  itemId := none
  recordKind := .recoveryWrap
  keyVersion := keyVersion

def vaultWrapCtx (accountId vaultId : String) (keyVersion : UInt64) : Context where
  accountId := accountId
  vaultId := some vaultId
  itemId := none
  recordKind := .vaultWrap
  keyVersion := keyVersion

def itemWrapCtx (accountId vaultId itemId : String) (keyVersion : UInt64) : Context where
  accountId := accountId
  vaultId := some vaultId
  itemId := some itemId
  recordKind := .itemWrap
  keyVersion := keyVersion

def itemPayloadCtx (accountId vaultId itemId : String) (keyVersion : UInt64) : Context where
  accountId := accountId
  vaultId := some vaultId
  itemId := some itemId
  recordKind := .itemPayload
  keyVersion := keyVersion

section Hierarchy

variable (cbor : Minicbor) (aead : Aead)

def wrap (nonce : Nonce) (wrappingKey wrapped : Secret32) (ctx : Context) : Except Error Bytes :=
  sealEnvelope cbor aead nonce wrappingKey.bytes ctx wrapped.bytes

def unwrap (wrappingKey : Secret32) (envelope : Bytes) (ctx : Context) : Except Error Secret32 := do
  let plaintext ← openEnvelope cbor aead wrappingKey.bytes ctx envelope
  Secret32.fromBytes plaintext

def wrapAccountKeyWithPassword (nonce : Nonce) (unlockKey : UnlockKey) (accountKey : AccountKey)
    (accountId : String) (keyVersion : UInt64) : Except Error Bytes :=
  wrap cbor aead nonce unlockKey.secret accountKey.secret (accountWrapCtx accountId keyVersion)

def wrapAccountKeyWithRecovery (nonce : Nonce) (recoveryKey : RecoveryKey)
    (accountKey : AccountKey) (accountId : String) (keyVersion : UInt64) : Except Error Bytes :=
  wrap cbor aead nonce recoveryKey.secret accountKey.secret (recoveryWrapCtx accountId keyVersion)

def wrapVaultKey (nonce : Nonce) (accountKey : AccountKey) (vaultKey : VaultKey)
    (accountId vaultId : String) (keyVersion : UInt64) : Except Error Bytes :=
  wrap cbor aead nonce accountKey.secret vaultKey.secret (vaultWrapCtx accountId vaultId keyVersion)

def wrapItemKey (nonce : Nonce) (vaultKey : VaultKey) (itemKey : ItemKey)
    (accountId vaultId itemId : String) (keyVersion : UInt64) : Except Error Bytes :=
  wrap cbor aead nonce vaultKey.secret itemKey.secret
    (itemWrapCtx accountId vaultId itemId keyVersion)

def sealItemPayload (nonce : Nonce) (itemKey : ItemKey) (accountId vaultId itemId : String)
    (keyVersion : UInt64) (plaintext : Bytes) : Except Error Bytes :=
  sealEnvelope cbor aead nonce itemKey.secret.bytes
    (itemPayloadCtx accountId vaultId itemId keyVersion) plaintext

def openAccountKeyWithPassword (unlockKey : UnlockKey) (envelope : Bytes) (accountId : String)
    (keyVersion : UInt64) : Except Error AccountKey := do
  let bytes ← unwrap cbor aead unlockKey.secret envelope (accountWrapCtx accountId keyVersion)
  AccountKey.fromBytes bytes.bytes

def openAccountKeyWithRecovery (recoveryKey : RecoveryKey) (envelope : Bytes) (accountId : String)
    (keyVersion : UInt64) : Except Error AccountKey :=
  match unwrap cbor aead recoveryKey.secret envelope (recoveryWrapCtx accountId keyVersion) with
  | .ok bytes => AccountKey.fromBytes bytes.bytes
  | .error .authenticationFailed
  | .error .invalidEncoding
  | .error .nonCanonicalCbor
  | .error .invalidNonce => .error .invalidRecoveryKit
  | .error other => .error other

def openVaultKey (accountKey : AccountKey) (envelope : Bytes) (accountId vaultId : String)
    (keyVersion : UInt64) : Except Error VaultKey := do
  let bytes ← unwrap cbor aead accountKey.secret envelope (vaultWrapCtx accountId vaultId keyVersion)
  VaultKey.fromBytes bytes.bytes

def openItemKey (vaultKey : VaultKey) (envelope : Bytes) (accountId vaultId itemId : String)
    (keyVersion : UInt64) : Except Error ItemKey := do
  let bytes ← unwrap cbor aead vaultKey.secret envelope
    (itemWrapCtx accountId vaultId itemId keyVersion)
  ItemKey.fromBytes bytes.bytes

def openItemPayload (itemKey : ItemKey) (accountId vaultId itemId : String) (keyVersion : UInt64)
    (envelope : Bytes) : Except Error Bytes :=
  openEnvelope cbor aead itemKey.secret.bytes (itemPayloadCtx accountId vaultId itemId keyVersion)
    envelope

end Hierarchy

@[simp] theorem Secret32.fromBytes_bytes (secret : Secret32) :
    Secret32.fromBytes secret.bytes = .ok secret := Secret32.fromBytes_eq_ok.mpr rfl

@[simp] theorem AccountKey.fromBytes_bytes (secret : Secret32) :
    AccountKey.fromBytes secret.bytes = .ok ⟨secret⟩ := by
  simp [AccountKey.fromBytes, Except.map]

@[simp] theorem VaultKey.fromBytes_bytes (secret : Secret32) :
    VaultKey.fromBytes secret.bytes = .ok ⟨secret⟩ := by
  simp [VaultKey.fromBytes, Except.map]

@[simp] theorem ItemKey.fromBytes_bytes (secret : Secret32) :
    ItemKey.fromBytes secret.bytes = .ok ⟨secret⟩ := by
  simp [ItemKey.fromBytes, Except.map]

section Opening

variable {cbor : Minicbor} {aead : Aead} {envelope : Bytes}

theorem unwrap_eq_ok {key secret : Secret32} {ctx : Context} :
    unwrap cbor aead key envelope ctx = .ok secret ↔
      openEnvelope cbor aead key.bytes ctx envelope = .ok secret.bytes := by
  simp only [unwrap, bind_eq_ok, Secret32.fromBytes_eq_ok]
  constructor
  · rintro ⟨plaintext, opened, rfl⟩
    exact opened
  · intro opened
    exact ⟨secret.bytes, opened, rfl⟩

theorem openAccountKeyWithPassword_eq_ok {unlockKey : UnlockKey} {accountId : String}
    {keyVersion : UInt64} {accountKey : AccountKey} :
    openAccountKeyWithPassword cbor aead unlockKey envelope accountId keyVersion = .ok accountKey ↔
      openEnvelope cbor aead unlockKey.secret.bytes (accountWrapCtx accountId keyVersion) envelope
        = .ok accountKey.secret.bytes := by
  simp only [openAccountKeyWithPassword, bind_eq_ok, unwrap_eq_ok, AccountKey.fromBytes_bytes,
    Except.ok.injEq]
  constructor
  · rintro ⟨secret, opened, rfl⟩
    exact opened
  · intro opened
    exact ⟨accountKey.secret, opened, rfl⟩

theorem openAccountKeyWithRecovery_eq_ok {recoveryKey : RecoveryKey} {accountId : String}
    {keyVersion : UInt64} {accountKey : AccountKey} :
    openAccountKeyWithRecovery cbor aead recoveryKey envelope accountId keyVersion = .ok accountKey ↔
      openEnvelope cbor aead recoveryKey.secret.bytes (recoveryWrapCtx accountId keyVersion) envelope
        = .ok accountKey.secret.bytes := by
  have unwrapped := @unwrap_eq_ok cbor aead envelope recoveryKey.secret accountKey.secret
    (recoveryWrapCtx accountId keyVersion)
  rw [← unwrapped, openAccountKeyWithRecovery]
  cases result : unwrap cbor aead recoveryKey.secret envelope
    (recoveryWrapCtx accountId keyVersion) with
  | ok secret =>
    simp only [AccountKey.fromBytes_bytes, Except.ok.injEq]
    constructor
    · rintro rfl
      rfl
    · rintro rfl
      rfl
  | error error => cases error <;> simp

theorem openVaultKey_eq_ok {accountKey : AccountKey} {accountId vaultId : String}
    {keyVersion : UInt64} {vaultKey : VaultKey} :
    openVaultKey cbor aead accountKey envelope accountId vaultId keyVersion = .ok vaultKey ↔
      openEnvelope cbor aead accountKey.secret.bytes (vaultWrapCtx accountId vaultId keyVersion)
        envelope = .ok vaultKey.secret.bytes := by
  simp only [openVaultKey, bind_eq_ok, unwrap_eq_ok, VaultKey.fromBytes_bytes, Except.ok.injEq]
  constructor
  · rintro ⟨secret, opened, rfl⟩
    exact opened
  · intro opened
    exact ⟨vaultKey.secret, opened, rfl⟩

theorem openItemKey_eq_ok {vaultKey : VaultKey} {accountId vaultId itemId : String}
    {keyVersion : UInt64} {itemKey : ItemKey} :
    openItemKey cbor aead vaultKey envelope accountId vaultId itemId keyVersion = .ok itemKey ↔
      openEnvelope cbor aead vaultKey.secret.bytes (itemWrapCtx accountId vaultId itemId keyVersion)
        envelope = .ok itemKey.secret.bytes := by
  simp only [openItemKey, bind_eq_ok, unwrap_eq_ok, ItemKey.fromBytes_bytes, Except.ok.injEq]
  constructor
  · rintro ⟨secret, opened, rfl⟩
    exact opened
  · intro opened
    exact ⟨itemKey.secret, opened, rfl⟩

end Opening

end ZenPass.Crypto
