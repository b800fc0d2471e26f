import Mathlib.Logic.Function.Basic
import ZenPass.Crypto.Kdf

set_option autoImplicit false

-- The two bindings of the core: `crypto-wasm`, which keeps item keys under session ids, and
-- `crypto-ffi`, where a session is an object that holds one.

namespace ZenPass.Crypto

open Cbor (Bytes)

-- the names of crypto-wasm's `error`
def errorText : Error → String
  | .invalidEncoding => "InvalidEncoding"
  | .unsupportedVersion => "UnsupportedVersion"
  | .nonCanonicalCbor => "NonCanonicalCbor"
  | .unknownField => "UnknownField"
  | .invalidContext => "InvalidContext"
  | .invalidNonce => "InvalidNonce"
  | .authenticationFailed => "AuthenticationFailed"
  | .invalidKdfParameters => "InvalidKdfParameters"
  | .kdfResourceLimit => "KdfResourceLimit"
  | .invalidKeyLength => "InvalidKeyLength"
  | .invalidRecoveryKit => "InvalidRecoveryKit"
  | .locked => "Locked"
  | .internal => "Internal"

inductive CryptoFfiError where
  | invalidEncoding | unsupportedVersion | nonCanonicalCbor | unknownField | invalidContext
  | invalidNonce | authenticationFailed | invalidKdfParameters | kdfResourceLimit
  | invalidKeyLength | invalidRecoveryKit | locked | internal
  deriving DecidableEq

def CryptoFfiError.ofError : Error → CryptoFfiError
  | .invalidEncoding => .invalidEncoding
  | .unsupportedVersion => .unsupportedVersion
  | .nonCanonicalCbor => .nonCanonicalCbor
  | .unknownField => .unknownField
  | .invalidContext => .invalidContext
  | .invalidNonce => .invalidNonce
  | .authenticationFailed => .authenticationFailed
  | .invalidKdfParameters => .invalidKdfParameters
  | .kdfResourceLimit => .kdfResourceLimit
  | .invalidKeyLength => .invalidKeyLength
  | .invalidRecoveryKit => .invalidRecoveryKit
  | .locked => .locked
  | .internal => .internal

def CryptoFfiError.name : CryptoFfiError → String
  | .invalidEncoding => "InvalidEncoding"
  | .unsupportedVersion => "UnsupportedVersion"
  | .nonCanonicalCbor => "NonCanonicalCbor"
  | .unknownField => "UnknownField"
  | .invalidContext => "InvalidContext"
  | .invalidNonce => "InvalidNonce"
  | .authenticationFailed => "AuthenticationFailed"
  | .invalidKdfParameters => "InvalidKdfParameters"
  | .kdfResourceLimit => "KdfResourceLimit"
  | .invalidKeyLength => "InvalidKeyLength"
  | .invalidRecoveryKit => "InvalidRecoveryKit"
  | .locked => "Locked"
  | .internal => "Internal"

@[simp] theorem CryptoFfiError.name_ofError (error : Error) :
    (CryptoFfiError.ofError error).name = errorText error := by
  cases error <;> rfl

-- The arguments of an unlock, as the FFI groups them
structure PersistedItemAccess where
  accountId : String
  vaultId : String
  itemId : String
  accountKeyVersion : UInt64
  vaultKeyVersion : UInt64
  itemKeyVersion : UInt64
  kdfParametersCbor : Bytes
  reportedPhysicalMemoryKib : UInt64
  wrappedAccountKey : Bytes
  wrappedVaultKey : Bytes
  wrappedItemKey : Bytes

structure WasmCrypto where
  sessions : UInt32 → Option ItemKey
  nextSession : UInt32

def WasmCrypto.new : WasmCrypto where
  sessions _ := none
  nextSession := 1

-- What the setup draws from the CSPRNG
structure SetupRandom where
  salt : Bytes
  account : AccountKey
  vault : VaultKey
  item : ItemKey
  recoveryKey : RecoveryKey
  accountNonce : Nonce
  vaultNonce : Nonce
  itemNonce : Nonce
  recoveryNonce : Nonce

structure AccountSetupResult where
  accountId : String
  vaultId : String
  itemId : String
  session : UInt32
  kdfParametersCbor : Bytes
  wrappedAccountKey : Bytes
  wrappedVaultKey : Bytes
  wrappedItemKey : Bytes
  wrappedRecoveryKey : Bytes
  recoveryKey : Bytes

namespace WasmCrypto

variable (cbor : Minicbor) (aead : Aead) (argon2 : Argon2)

-- the end of both unlocks
def openSession (core : WasmCrypto) (item : ItemKey) : Except String UInt32 × WasmCrypto :=
  let id := core.nextSession
  -- `checked_add`
  if id.toNat + 1 < 2 ^ 32 then
    (.ok id, { nextSession := id + 1, sessions := Function.update core.sessions id (some item) })
  else (.error "Internal", core)

def unlockItemSession (core : WasmCrypto) (password kdfParametersCbor : Bytes)
    (reportedPhysicalMemoryKib : UInt64) (accountId vaultId itemId : String)
    (accountKeyVersion vaultKeyVersion itemKeyVersion : UInt64)
    (wrappedAccountKey wrappedVaultKey wrappedItemKey : Bytes) : Except String UInt32 × WasmCrypto :=
  let opened : Except String ItemKey := do
    let params ← (KdfParams.decodeCanonicalCbor cbor kdfParametersCbor
      reportedPhysicalMemoryKib).mapError errorText
    let unlock ← (deriveUnlockKey argon2 password params reportedPhysicalMemoryKib).mapError errorText
    let account ← (openAccountKeyWithPassword cbor aead unlock wrappedAccountKey accountId
      accountKeyVersion).mapError errorText
    let vault ← (openVaultKey cbor aead account wrappedVaultKey accountId vaultId
      vaultKeyVersion).mapError errorText
    (openItemKey cbor aead vault wrappedItemKey accountId vaultId itemId
      itemKeyVersion).mapError errorText
  match opened with
  | .ok item => core.openSession item
  | .error text => (.error text, core)

def unlockItemSessionWithRecovery (core : WasmCrypto) (recoveryKey : Bytes)
    (accountId vaultId itemId : String) (accountKeyVersion vaultKeyVersion itemKeyVersion : UInt64)
    (wrappedAccountKey wrappedVaultKey wrappedItemKey : Bytes) : Except String UInt32 × WasmCrypto :=
  let opened : Except String ItemKey := do
    let recoveryKey ← (RecoveryKey.fromBytes recoveryKey).mapError errorText
    let account ← (openAccountKeyWithRecovery cbor aead recoveryKey wrappedAccountKey accountId
      accountKeyVersion).mapError errorText
    let vault ← (openVaultKey cbor aead account wrappedVaultKey accountId vaultId
      vaultKeyVersion).mapError errorText
    (openItemKey cbor aead vault wrappedItemKey accountId vaultId itemId
      itemKeyVersion).mapError errorText
  match opened with
  | .ok item => core.openSession item
  | .error text => (.error text, core)

-- what `create_account_setup` makes before there is a session
def wrapForSetup (random : SetupRandom) (password : Bytes) (reportedPhysicalMemoryKib : UInt64)
    (accountId vaultId itemId : String) : Except String (KdfParams × Bytes × Bytes × Bytes × Bytes) := do
  let params ← (KdfParams.new 65536 3 1 random.salt).mapError errorText
  let unlock ← (deriveUnlockKey argon2 password params reportedPhysicalMemoryKib).mapError errorText
  let accountWrap ← (wrapAccountKeyWithPassword cbor aead random.accountNonce unlock random.account
    accountId 1).mapError errorText
  let vaultWrap ← (wrapVaultKey cbor aead random.vaultNonce random.account random.vault accountId
    vaultId 1).mapError errorText
  let itemWrap ← (wrapItemKey cbor aead random.itemNonce random.vault random.item accountId vaultId
    itemId 1).mapError errorText
  let kit ← (wrapAccountKeyWithRecovery cbor aead random.recoveryNonce random.recoveryKey
    random.account accountId 1).mapError errorText
  .ok (params, accountWrap, vaultWrap, itemWrap, kit)

-- `+= 1` wraps in the release build the package is made of; the session is stored before the
-- parameters are encoded.
def createAccountSetup (core : WasmCrypto) (random : SetupRandom) (password : Bytes)
    (reportedPhysicalMemoryKib : UInt64) (accountId vaultId itemId : String) :
    Except String AccountSetupResult × WasmCrypto :=
  match wrapForSetup cbor aead argon2 random password reportedPhysicalMemoryKib accountId vaultId
      itemId with
  | .error text => (.error text, core)
  | .ok (params, accountWrap, vaultWrap, itemWrap, kit) =>
    let session := core.nextSession
    let core : WasmCrypto :=
      { nextSession := session + 1,
        sessions := Function.update core.sessions session (some random.item) }
    match params.encodeCanonicalCbor cbor with
    | .error failed => (.error (errorText failed), core)
    | .ok kdfParametersCbor =>
      (.ok { accountId, vaultId, itemId, session, kdfParametersCbor,
             wrappedAccountKey := accountWrap, wrappedVaultKey := vaultWrap,
             wrappedItemKey := itemWrap, wrappedRecoveryKey := kit,
             recoveryKey := random.recoveryKey.secret.bytes }, core)

def sealItemPayload (core : WasmCrypto) (nonce : Nonce) (session : UInt32)
    (accountId vaultId itemId : String) (keyVersion : UInt64) (plaintext : Bytes) :
    Except String Bytes :=
  match core.sessions session with
  | none => .error "Locked"
  | some key => (Crypto.sealItemPayload cbor aead nonce key accountId vaultId itemId keyVersion
      plaintext).mapError errorText

def openItemPayload (core : WasmCrypto) (session : UInt32) (accountId vaultId itemId : String)
    (keyVersion : UInt64) (envelope : Bytes) : Except String Bytes :=
  match core.sessions session with
  | none => .error "Locked"
  | some key => (Crypto.openItemPayload cbor aead key accountId vaultId itemId keyVersion
      envelope).mapError errorText

def closeSession (core : WasmCrypto) (session : UInt32) : WasmCrypto :=
  { core with sessions := Function.update core.sessions session none }

end WasmCrypto

-- `Mutex<Option<ItemKey>>`
structure ItemSession where
  key : Option ItemKey

def ItemSession.unlock (cbor : Minicbor) (aead : Aead) (argon2 : Argon2) (password : Bytes)
    (access : PersistedItemAccess) : Except CryptoFfiError ItemSession := do
  let params ← (KdfParams.decodeCanonicalCbor cbor access.kdfParametersCbor
    access.reportedPhysicalMemoryKib).mapError CryptoFfiError.ofError
  let unlock ← (deriveUnlockKey argon2 password params
    access.reportedPhysicalMemoryKib).mapError CryptoFfiError.ofError
  let account ← (openAccountKeyWithPassword cbor aead unlock access.wrappedAccountKey access.accountId
    access.accountKeyVersion).mapError CryptoFfiError.ofError
  let vault ← (openVaultKey cbor aead account access.wrappedVaultKey access.accountId access.vaultId
    access.vaultKeyVersion).mapError CryptoFfiError.ofError
  let item ← (openItemKey cbor aead vault access.wrappedItemKey access.accountId access.vaultId
    access.itemId access.itemKeyVersion).mapError CryptoFfiError.ofError
  .ok ⟨some item⟩

def ItemSession.sealItemPayload (cbor : Minicbor) (aead : Aead) (session : ItemSession) (nonce : Nonce)
    (accountId vaultId itemId : String) (keyVersion : UInt64) (plaintext : Bytes) :
    Except CryptoFfiError Bytes :=
  match session.key with
  | none => .error .locked
  | some key => (Crypto.sealItemPayload cbor aead nonce key accountId vaultId itemId keyVersion
      plaintext).mapError CryptoFfiError.ofError

def ItemSession.openItemPayload (cbor : Minicbor) (aead : Aead) (session : ItemSession)
    (accountId vaultId itemId : String) (keyVersion : UInt64) (envelope : Bytes) :
    Except CryptoFfiError Bytes :=
  match session.key with
  | none => .error .locked
  | some key => (Crypto.openItemPayload cbor aead key accountId vaultId itemId keyVersion
      envelope).mapError CryptoFfiError.ofError

section Chain

variable (cbor : Minicbor) (aead : Aead)

def openItemChain (access : PersistedItemAccess) (account : AccountKey) : Except Error ItemKey := do
  let vault ← openVaultKey cbor aead account access.wrappedVaultKey access.accountId access.vaultId
    access.vaultKeyVersion
  openItemKey cbor aead vault access.wrappedItemKey access.accountId access.vaultId access.itemId
    access.itemKeyVersion

def openWithPassword (argon2 : Argon2) (password : Bytes) (access : PersistedItemAccess) :
    Except Error ItemKey := do
  let params ← KdfParams.decodeCanonicalCbor cbor access.kdfParametersCbor
    access.reportedPhysicalMemoryKib
  let unlock ← deriveUnlockKey argon2 password params access.reportedPhysicalMemoryKib
  let account ← openAccountKeyWithPassword cbor aead unlock access.wrappedAccountKey access.accountId
    access.accountKeyVersion
  openItemChain cbor aead access account

def openWithRecovery (recoveryKey : Bytes) (access : PersistedItemAccess) : Except Error ItemKey := do
  let recoveryKey ← RecoveryKey.fromBytes recoveryKey
  let account ← openAccountKeyWithRecovery cbor aead recoveryKey access.wrappedAccountKey
    access.accountId access.accountKeyVersion
  openItemChain cbor aead access account

end Chain

theorem mapError_bind {ε α β : Type} (name : Error → ε) (first : Except Error α)
    (next : α → Except Error β) :
    (first >>= next).mapError name = first.mapError name >>= fun value => (next value).mapError name := by
  cases first <;> rfl

def WasmCrypto.finish (core : WasmCrypto) : Except Error ItemKey → Except String UInt32 × WasmCrypto
  | .ok item => core.openSession item
  | .error failed => (.error (errorText failed), core)

theorem WasmCrypto.finish_eq (core : WasmCrypto) (opened : Except Error ItemKey) :
    core.finish opened = match opened.mapError errorText with
      | .ok item => core.openSession item
      | .error text => (.error text, core) := by
  cases opened <;> rfl

theorem WasmCrypto.unlockItemSession_eq (cbor : Minicbor) (aead : Aead) (argon2 : Argon2)
    (core : WasmCrypto) (password : Bytes) (access : PersistedItemAccess) :
    core.unlockItemSession cbor aead argon2 password access.kdfParametersCbor
        access.reportedPhysicalMemoryKib access.accountId access.vaultId access.itemId
        access.accountKeyVersion access.vaultKeyVersion access.itemKeyVersion access.wrappedAccountKey
        access.wrappedVaultKey access.wrappedItemKey
      = core.finish (openWithPassword cbor aead argon2 password access) := by
  simp only [finish_eq, openWithPassword, openItemChain, mapError_bind, unlockItemSession]

theorem WasmCrypto.unlockItemSessionWithRecovery_eq (cbor : Minicbor) (aead : Aead)
    (core : WasmCrypto) (recoveryKey : Bytes) (access : PersistedItemAccess) :
    core.unlockItemSessionWithRecovery cbor aead recoveryKey access.accountId access.vaultId
        access.itemId access.accountKeyVersion access.vaultKeyVersion access.itemKeyVersion
        access.wrappedAccountKey access.wrappedVaultKey access.wrappedItemKey
      = core.finish (openWithRecovery cbor aead recoveryKey access) := by
  simp only [finish_eq, openWithRecovery, openItemChain, mapError_bind, unlockItemSessionWithRecovery]

theorem ItemSession.unlock_eq (cbor : Minicbor) (aead : Aead) (argon2 : Argon2) (password : Bytes)
    (access : PersistedItemAccess) :
    ItemSession.unlock cbor aead argon2 password access
      = ((openWithPassword cbor aead argon2 password access).map fun item =>
          (⟨some item⟩ : ItemSession)).mapError CryptoFfiError.ofError := by
  have mapped (opened : Except Error ItemKey) :
      (opened.map fun item => (⟨some item⟩ : ItemSession)).mapError CryptoFfiError.ofError
        = opened.mapError CryptoFfiError.ofError >>= fun item => .ok ⟨some item⟩ := by
    cases opened <;> rfl
  rw [mapped]
  simp only [openWithPassword, openItemChain, mapError_bind, ItemSession.unlock, bind_assoc]

end ZenPass.Crypto
