import ZenPass.Crypto.WorkerSessions

set_option autoImplicit false

namespace ZenPass.Crypto

open Cbor (Bytes)
open Worker (mapError_eq_ok)

def setupBuilder : ParamsBuilder where
  mCost := 65536
  tCost := 3
  pCost := 1
  outputLen := outputLen

/-- The four calls of the cipher in a setup are among those made. -/
structure SetupRecorded (aead : Aead) (argon2 : Argon2) (made : Sealing → Prop) (random : SetupRandom)
    (password : Bytes) (accountId vaultId itemId : String) : Prop where
  account : ∀ unlock ciphertext,
    argon2.hashPasswordInto setupBuilder password random.salt = some unlock →
    aead.encrypt unlock random.accountNonce.bytes random.account.secret.bytes
      (canonicalAad (accountWrapCtx accountId 1)) = some ciphertext →
    made ⟨unlock, random.accountNonce.bytes, random.account.secret.bytes,
      canonicalAad (accountWrapCtx accountId 1), ciphertext⟩
  vault : ∀ ciphertext,
    aead.encrypt random.account.secret.bytes random.vaultNonce.bytes random.vault.secret.bytes
      (canonicalAad (vaultWrapCtx accountId vaultId 1)) = some ciphertext →
    made ⟨random.account.secret.bytes, random.vaultNonce.bytes, random.vault.secret.bytes,
      canonicalAad (vaultWrapCtx accountId vaultId 1), ciphertext⟩
  item : ∀ ciphertext,
    aead.encrypt random.vault.secret.bytes random.itemNonce.bytes random.item.secret.bytes
      (canonicalAad (itemWrapCtx accountId vaultId itemId 1)) = some ciphertext →
    made ⟨random.vault.secret.bytes, random.itemNonce.bytes, random.item.secret.bytes,
      canonicalAad (itemWrapCtx accountId vaultId itemId 1), ciphertext⟩
  recovery : ∀ ciphertext,
    aead.encrypt random.recoveryKey.secret.bytes random.recoveryNonce.bytes random.account.secret.bytes
      (canonicalAad (recoveryWrapCtx accountId 1)) = some ciphertext →
    made ⟨random.recoveryKey.secret.bytes, random.recoveryNonce.bytes, random.account.secret.bytes,
      canonicalAad (recoveryWrapCtx accountId 1), ciphertext⟩

structure SetUp (made : Sealing → Prop) (argon2 : Argon2) (random : SetupRandom) (password : Bytes)
    (result : AccountSetupResult) (params : KdfParams) (unlock : UnlockKey) : Prop where
  within : params.WithinContract
  memory : params.memoryKib = 65536
  builder : params.builder = setupBuilder
  salt : params.salt = random.salt
  kdf : result.kdfParametersCbor = canonicalKdf params
  built : argon2.build setupBuilder = true
  hashed : argon2.hashPasswordInto setupBuilder password random.salt = some unlock.secret.bytes
  account : SealedFor made unlock.secret.bytes (accountWrapCtx result.accountId 1)
    random.account.secret.bytes result.wrappedAccountKey
  vault : SealedFor made random.account.secret.bytes (vaultWrapCtx result.accountId result.vaultId 1)
    random.vault.secret.bytes result.wrappedVaultKey
  item : SealedFor made random.vault.secret.bytes
    (itemWrapCtx result.accountId result.vaultId result.itemId 1) random.item.secret.bytes
    result.wrappedItemKey
  recovery : SealedFor made random.recoveryKey.secret.bytes (recoveryWrapCtx result.accountId 1)
    random.account.secret.bytes result.wrappedRecoveryKey
  recoveryKey : result.recoveryKey = random.recoveryKey.secret.bytes
  limits : ∀ wrapper ∈ [result.wrappedAccountKey, result.wrappedVaultKey, result.wrappedItemKey,
    result.wrappedRecoveryKey], wrapper.length ≤ maxWrappedKeyLen

theorem deriveUnlockKey_eq_ok {argon2 : Argon2} {password : Bytes} {params : KdfParams}
    {reported : UInt64} {unlock : UnlockKey} :
    deriveUnlockKey argon2 password params reported = .ok unlock ↔
      params.WithinContract ∧ 4 * params.memoryKib.toNat ≤ reported.toNat ∧
        argon2.build params.builder = true ∧
        argon2.hashPasswordInto params.builder password params.salt = some unlock.secret.bytes := by
  have read (out : Bytes) : UnlockKey.fromBytes out = .ok unlock ↔ out = unlock.secret.bytes := by
    rw [← Secret32.fromBytes_eq_ok, UnlockKey.fromBytes]
    cases Secret32.fromBytes out with
    | ok secret => cases unlock; simp [Except.map]
    | error error => simp [Except.map]
  by_cases built : argon2.build params.builder = true
  · simp only [deriveUnlockKey, bind_eq_ok, built, if_true, orError_eq_ok, read, true_and]
    constructor
    · rintro ⟨_, within, _, capped, out, hashed, rfl⟩
      exact ⟨KdfParams.validate_eq_ok.mp within, KdfParams.validateAgainstMemoryCap_eq_ok.mp capped,
        hashed⟩
    · rintro ⟨within, capped, hashed⟩
      exact ⟨(), KdfParams.validate_eq_ok.mpr within, (),
        KdfParams.validateAgainstMemoryCap_eq_ok.mpr capped, _, hashed, rfl⟩
  · simp [deriveUnlockKey, bind_eq_ok, built]

section Setup

variable {cbor : Minicbor} (conforms : cbor.Conforms) {aead : Aead} {made : Sealing → Prop}

include conforms

theorem wrap_sealedFor {nonce : Nonce} {key wrapped : Secret32} {ctx : Context} {envelope : Bytes}
    (returned : wrap cbor aead nonce key wrapped ctx = .ok envelope)
    (recorded : ∀ ciphertext,
      aead.encrypt key.bytes nonce.bytes wrapped.bytes (canonicalAad ctx) = some ciphertext →
      made ⟨key.bytes, nonce.bytes, wrapped.bytes, canonicalAad ctx, ciphertext⟩) :
    SealedFor made key.bytes ctx wrapped.bytes envelope ∧
      envelope.length ≤ envelopeLimit ctx.recordKind := by
  obtain ⟨valid, version, limit, ciphertext, encrypted, bytes⟩ := sealEnvelope_eq_ok conforms returned
  exact ⟨⟨valid, version, nonce, ciphertext, recorded ciphertext encrypted, bytes⟩, limit⟩

theorem createAccountSetup_setUp {argon2 : Argon2} {core core' : WasmCrypto} {random : SetupRandom}
    {password : Bytes} {reported : UInt64} {accountId vaultId itemId : String}
    {result : AccountSetupResult}
    (recorded : SetupRecorded aead argon2 made random password accountId vaultId itemId)
    (setup : core.createAccountSetup cbor aead argon2 random password reported accountId vaultId itemId
      = (.ok result, core')) :
    (result.accountId = accountId ∧ result.vaultId = vaultId ∧ result.itemId = itemId) ∧
      core'.sessions result.session = some random.item ∧
      ∃ params unlock, SetUp made argon2 random password result params unlock := by
  unfold WasmCrypto.createAccountSetup at setup
  cases wrapped : WasmCrypto.wrapForSetup cbor aead argon2 random password reported accountId vaultId
    itemId with
  | error text =>
    rw [wrapped] at setup
    cases setup
  | ok parts =>
    obtain ⟨params, accountWrap, vaultWrap, itemWrap, kit⟩ := parts
    rw [wrapped] at setup
    simp only [WasmCrypto.wrapForSetup, bind_eq_ok, mapError_eq_ok] at wrapped
    obtain ⟨params', isNew, unlock, derived, accountWrap', accountWrapped, vaultWrap', vaultWrapped,
      itemWrap', itemWrapped, kit', kitWrapped, same⟩ := wrapped
    cases same
    obtain ⟨within, memory, iterations, parallelism, salt⟩ := KdfParams.new_eq_ok.mp isNew
    have builder : params.builder = setupBuilder := by
      simp only [KdfParams.builder, memory, iterations, parallelism, setupBuilder]
    obtain ⟨-, -, built, hashed⟩ := deriveUnlockKey_eq_ok.mp derived
    rw [builder] at built hashed
    rw [salt] at hashed
    have encoded := (KdfParams.encodeCanonicalCbor_eq_ok conforms).mpr ⟨within, rfl⟩
    simp only [encoded] at setup
    cases setup
    obtain ⟨accountSealed, accountLimit⟩ := wrap_sealedFor conforms accountWrapped
      fun ciphertext => recorded.account _ ciphertext hashed
    obtain ⟨vaultSealed, vaultLimit⟩ := wrap_sealedFor conforms vaultWrapped recorded.vault
    obtain ⟨itemSealed, itemLimit⟩ := wrap_sealedFor conforms itemWrapped recorded.item
    obtain ⟨kitSealed, kitLimit⟩ := wrap_sealedFor conforms kitWrapped recorded.recovery
    refine ⟨⟨rfl, rfl, rfl⟩, Function.update_self .., params, unlock, ?_⟩
    constructor <;> try first | assumption | rfl
    simp only [List.forall_mem_cons]
    exact ⟨accountLimit, vaultLimit, itemLimit, kitLimit, by simp⟩

end Setup

def AccountSetupResult.access (result : AccountSetupResult) (reported : UInt64) :
    PersistedItemAccess where
  accountId := result.accountId
  vaultId := result.vaultId
  itemId := result.itemId
  accountKeyVersion := 1
  vaultKeyVersion := 1
  itemKeyVersion := 1
  kdfParametersCbor := result.kdfParametersCbor
  reportedPhysicalMemoryKib := reported
  wrappedAccountKey := result.wrappedAccountKey
  wrappedVaultKey := result.wrappedVaultKey
  wrappedItemKey := result.wrappedItemKey

def AccountSetupResult.recoveryAccess (result : AccountSetupResult) (reported : UInt64) :
    PersistedItemAccess :=
  { result.access reported with wrappedAccountKey := result.wrappedRecoveryKey }

section Unlocks

variable {cbor : Minicbor} (conforms : cbor.Conforms) {aead : Aead} {made : Sealing → Prop}
  (ideal : aead.IdealBox made) {argon2 : Argon2} {random : SetupRandom} {password : Bytes}
  {result : AccountSetupResult} {params : KdfParams} {unlock : UnlockKey}
  (setUp : SetUp made argon2 random password result params unlock)

include setUp

theorem SetUp.slices (reported : UInt64) : (result.access reported).Slices where
  account := by
    have limit := setUp.limits result.wrappedAccountKey (by simp)
    simp only [maxWrappedKeyLen] at limit
    simp only [AccountSetupResult.access]
    omega
  vault := by
    have limit := setUp.limits result.wrappedVaultKey (by simp)
    simp only [maxWrappedKeyLen] at limit
    simp only [AccountSetupResult.access]
    omega
  item := by
    have limit := setUp.limits result.wrappedItemKey (by simp)
    simp only [maxWrappedKeyLen] at limit
    simp only [AccountSetupResult.access]
    omega

theorem SetUp.recoverySlices (reported : UInt64) : (result.recoveryAccess reported).Slices where
  account := by
    have limit := setUp.limits result.wrappedRecoveryKey (by simp)
    simp only [maxWrappedKeyLen] at limit
    simp only [AccountSetupResult.recoveryAccess]
    omega
  vault := (setUp.slices reported).vault
  item := (setUp.slices reported).item

include conforms ideal

/-- Every chain that ends in the item wrapper of the setup ends in its item key. -/
theorem SetUp.item_eq {account : AccountKey} {vault : VaultKey} {item : ItemKey}
    {outer : Context} {unlocking : Secret32} {access : PersistedItemAccess}
    (itemWrapped : access.wrappedItemKey = result.wrappedItemKey)
    (chain : Chain made access outer unlocking account vault item) : item = random.item := by
  have slices := setUp.slices 0
  have sealed := chain.itemWrap
  rw [itemWrapped] at sealed
  obtain ⟨-, -, same⟩ := sealed.unique conforms ideal.toIdeal slices.item setUp.item
  cases item
  exact congrArg ItemKey.mk (Secret32.ext_bytes same)

theorem SetUp.openWithPassword_iff (password' : Bytes) (reported : UInt64) (item : ItemKey) :
    openWithPassword cbor aead argon2 password' (result.access reported) = .ok item ↔
      item = random.item ∧ 262144 ≤ reported.toNat ∧
        argon2.hashPasswordInto setupBuilder password' random.salt
          = argon2.hashPasswordInto setupBuilder password random.salt := by
  have memory : params.memoryKib.toNat = 65536 := by rw [setUp.memory]; rfl
  rw [Crypto.openWithPassword_iff conforms ideal (setUp.slices reported), setUp.hashed]
  constructor
  · rintro ⟨params', unlock', account, vault, decoded, derived, chain⟩
    obtain ⟨-, capped, bytes⟩ := (KdfParams.decode_eq_ok conforms).mp decoded
    have read := KdfParams.decode_canonicalKdf conforms setUp.within reported
    rw [← setUp.kdf] at read
    have same : params' = params := by
      have found := decoded
      simp only [AccountSetupResult.access] at found
      rw [read] at found
      split_ifs at found
      exact (Except.ok.inj found).symm
    subst same
    obtain ⟨-, -, -, hashed⟩ := deriveUnlockKey_eq_ok.mp derived
    rw [setUp.builder, setUp.salt] at hashed
    obtain ⟨sameKey, -, -⟩ := chain.accountWrap.unique conforms ideal.toIdeal
      (setUp.slices reported).account setUp.account
    refine ⟨setUp.item_eq conforms ideal rfl chain, ?_, ?_⟩
    · simp only [AccountSetupResult.access] at capped
      omega
    · rw [hashed, sameKey]
  · rintro ⟨rfl, capped, hashed⟩
    have read := KdfParams.decode_canonicalKdf conforms setUp.within reported
    rw [if_pos (by omega), ← setUp.kdf] at read
    refine ⟨params, unlock, random.account, random.vault, read, ?_, ?_⟩
    · rw [deriveUnlockKey_eq_ok, setUp.builder, setUp.salt]
      refine ⟨setUp.within, ?_, setUp.built, hashed⟩
      simp only [AccountSetupResult.access]
      omega
    · exact ⟨setUp.account, setUp.vault, setUp.item⟩

theorem SetUp.openWithRecovery_iff (recoveryKey : Bytes) (reported : UInt64) (item : ItemKey) :
    openWithRecovery cbor aead recoveryKey (result.recoveryAccess reported) = .ok item ↔
      item = random.item ∧ recoveryKey = result.recoveryKey := by
  rw [Crypto.openWithRecovery_iff conforms ideal (setUp.recoverySlices reported), setUp.recoveryKey]
  constructor
  · rintro ⟨key, account, vault, rfl, chain⟩
    obtain ⟨sameKey, -, -⟩ := chain.accountWrap.unique conforms ideal.toIdeal
      (setUp.recoverySlices reported).account setUp.recovery
    exact ⟨setUp.item_eq conforms ideal rfl chain, sameKey⟩
  · rintro ⟨rfl, rfl⟩
    exact ⟨random.recoveryKey, random.account, random.vault, rfl,
      ⟨setUp.recovery, setUp.vault, setUp.item⟩⟩

end Unlocks

end ZenPass.Crypto
