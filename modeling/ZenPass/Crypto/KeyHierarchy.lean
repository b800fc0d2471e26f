import ZenPass.Crypto.Bindings
import ZenPass.Crypto.RecoveryErrors

set_option autoImplicit false

namespace ZenPass.Crypto

open Cbor (Bytes)

/-- An ideal cipher that opens every ciphertext it has made, a tag longer than the plaintext. -/
structure Aead.IdealBox (aead : Aead) (made : Sealing → Prop) : Prop extends aead.Ideal made where
  opens : ∀ sealing, made sealing →
    aead.decrypt sealing.key sealing.nonce sealing.ciphertext sealing.aad = some sealing.plaintext
  tagged : ∀ sealing, made sealing → sealing.ciphertext.length = sealing.plaintext.length + tagLen

/-- The envelope is the canonical one around a sealing of the plaintext under the key, for the
context. -/
structure SealedFor (made : Sealing → Prop) (key : Bytes) (ctx : Context)
    (plaintext envelope : Bytes) : Prop where
  valid : ctx.validate = .ok ()
  version : ctx.keyVersion.toNat < 2 ^ 63
  sealing : ∃ (nonce : Nonce) (ciphertext : Bytes),
    made ⟨key, nonce.bytes, plaintext, canonicalAad ctx, ciphertext⟩ ∧
      envelope = canonicalEnvelope ctx.recordKind ctx.keyVersion nonce.bytes ciphertext
        (canonicalAad ctx)

section Sealed

variable {cbor : Minicbor} (conforms : cbor.Conforms) {aead : Aead} {made : Sealing → Prop}

include conforms

theorem SealedBy.sealedFor (ideal : aead.Ideal made) {nonce : Nonce}
    {key plaintext ciphertext envelope : Bytes} {ctx : Context}
    (sealed : SealedBy cbor aead made nonce key ctx plaintext ciphertext envelope) :
    SealedFor made key ctx plaintext envelope := by
  obtain ⟨valid, version, -⟩ := sealEnvelope_eq_ok conforms sealed.returned
  exact ⟨valid, version, nonce, ciphertext, sealed.call, sealed.canonical conforms ideal⟩

theorem sealedFor_iff_wrap (ideal : aead.Ideal made) {key wrapped : Secret32} {envelope : Bytes}
    {ctx : Context} (wrapper : ∀ len, plaintextWithinLimit ctx.recordKind len = decide (len = keyLen))
    (limit : envelope.length ≤ envelopeLimit ctx.recordKind) :
    SealedFor made key.bytes ctx wrapped.bytes envelope ↔
      ∃ (nonce : Nonce) (ciphertext : Bytes), wrap cbor aead nonce key wrapped ctx = .ok envelope ∧
        made ⟨key.bytes, nonce.bytes, wrapped.bytes, canonicalAad ctx, ciphertext⟩ := by
  constructor
  · intro sealed
    obtain ⟨nonce, ciphertext, call, rfl⟩ := sealed.sealing
    have within : plaintextWithinLimit ctx.recordKind wrapped.bytes.length = true := by
      rw [wrapper, decide_eq_true_eq]
      exact wrapped.size
    exact ⟨nonce, ciphertext, sealEnvelope_canonical conforms sealed.valid sealed.version key.size
      within (ideal.produced _ call) limit, call⟩
  · rintro ⟨nonce, ciphertext, returned, call⟩
    have sealed : SealedBy cbor aead made nonce key.bytes ctx wrapped.bytes ciphertext envelope :=
      ⟨returned, call⟩
    exact sealed.sealedFor conforms ideal

theorem canonicalAad_injective {first second : Context} (valid : first.validate = .ok ())
    (valid' : second.validate = .ok ()) (version : first.keyVersion.toNat < 2 ^ 63)
    (version' : second.keyVersion.toNat < 2 ^ 63) (slice : (canonicalAad first).length < 2 ^ 64)
    (same : canonicalAad first = canonicalAad second) : first = second := by
  have read := decodeAad_canonical conforms version slice
  have read' := decodeAad_canonical conforms version' (same ▸ slice)
  rw [valid] at read
  rw [valid', ← same, read] at read'
  exact Except.ok.inj read'

theorem SealedFor.unique (ideal : aead.Ideal made) {key key' plaintext plaintext' envelope : Bytes}
    {ctx ctx' : Context} (slice : envelope.length < 2 ^ 64)
    (sealed : SealedFor made key ctx plaintext envelope)
    (sealed' : SealedFor made key' ctx' plaintext' envelope) :
    key = key' ∧ ctx = ctx' ∧ plaintext = plaintext' := by
  obtain ⟨nonce, ciphertext, call, bytes⟩ := sealed.sealing
  obtain ⟨nonce', ciphertext', call', bytes'⟩ := sealed'.sealing
  rw [bytes] at slice
  obtain ⟨-, sameCiphertext, -⟩ := canonicalEnvelope_injective conforms sealed.version
    sealed'.version slice (bytes.symm.trans bytes')
  have same := ideal.distinct _ _ call call' sameCiphertext
  simp only [Sealing.mk.injEq] at same
  obtain ⟨sameKey, -, samePlaintext, sameAad, -⟩ := same
  have le := canonicalEnvelope_parts_le ctx.recordKind ctx.keyVersion nonce.bytes ciphertext
    (canonicalAad ctx)
  have sameCtx := canonicalAad_injective conforms sealed.valid sealed'.valid sealed.version
    sealed'.version (by omega) sameAad
  exact ⟨sameKey, sameCtx, samePlaintext⟩

theorem openEnvelope_iff (ideal : aead.IdealBox made) {key plaintext envelope : Bytes}
    (slice : envelope.length < 2 ^ 64) (keySize : key.length = keyLen) {ctx : Context}
    (within : plaintextWithinLimit ctx.recordKind plaintext.length = true) :
    openEnvelope cbor aead key ctx envelope = .ok plaintext ↔
      SealedFor made key ctx plaintext envelope := by
  constructor
  · intro result
    obtain ⟨parts, opened⟩ := openEnvelope_eq_ok conforms result
    have size := (decodeEnvelope_eq_ok conforms opened.decoded).2.2.1
    exact ⟨opened.valid, opened.small, ⟨parts.nonce, size⟩, parts.ciphertextAndTag,
      ideal.authentic _ _ _ _ _ opened.decrypted, opened.canonical conforms⟩
  · intro sealed
    obtain ⟨nonce, ciphertext, call, bytes⟩ := sealed.sealing
    have decrypted : aead.decrypt key nonce.bytes ciphertext (canonicalAad ctx) = some plaintext :=
      ideal.opens _ call
    have length := ideal.tagged _ call
    have tagged : ¬ciphertext.length < tagLen := by
      simp only at length
      omega
    have shape : EnvelopeParts.Shape ⟨ctx.recordKind, ctx.keyVersion, nonce.bytes, ciphertext,
        canonicalAad ctx⟩ envelope :=
      ⟨sealed.version, nonce.size, Nat.not_lt.mp tagged, bytes⟩
    have read := decodeAad_canonical conforms sealed.version (shape.aad_lt slice)
    rw [sealed.valid] at read
    simp only [openEnvelope, sealed.valid, ok_bind, keySize, shape.decoded conforms slice,
      encodeAad_eq conforms sealed.valid, sealed.version, if_true, read, Except.map, aeadOpen,
      nonce.size, if_neg tagged, decrypted, orError]
    simp [within]

theorem openEnvelope_iff_sealedFor (ideal : aead.IdealBox made) {key wrapped : Secret32}
    {envelope : Bytes} (slice : envelope.length < 2 ^ 64) {ctx : Context}
    (wrapper : ∀ len, plaintextWithinLimit ctx.recordKind len = decide (len = keyLen)) :
    openEnvelope cbor aead key.bytes ctx envelope = .ok wrapped.bytes ↔
      SealedFor made key.bytes ctx wrapped.bytes envelope := by
  apply openEnvelope_iff conforms ideal slice key.size
  rw [wrapper, decide_eq_true_eq]
  exact wrapped.size

end Sealed

/-- The three wrappers of one chain, from the key that opens the first one down to the item key. -/
structure Chain (made : Sealing → Prop) (access : PersistedItemAccess) (outer : Context)
    (unlocking : Secret32) (account : AccountKey) (vault : VaultKey) (item : ItemKey) : Prop where
  accountWrap : SealedFor made unlocking.bytes outer account.secret.bytes access.wrappedAccountKey
  vaultWrap : SealedFor made account.secret.bytes
    (vaultWrapCtx access.accountId access.vaultId access.vaultKeyVersion) vault.secret.bytes
    access.wrappedVaultKey
  itemWrap : SealedFor made vault.secret.bytes
    (itemWrapCtx access.accountId access.vaultId access.itemId access.itemKeyVersion)
    item.secret.bytes access.wrappedItemKey

/-- A wrapper was sealed under another key than the one before it gives, or for another context. -/
inductive Swapped (made : Sealing → Prop) (access : PersistedItemAccess) (outer : Context)
    (unlocking : Bytes) : Prop
  | account {key plaintext : Bytes} {ctx : Context} :
    SealedFor made key ctx plaintext access.wrappedAccountKey → key ≠ unlocking ∨ ctx ≠ outer →
    Swapped made access outer unlocking
  | vault {key account key' plaintext : Bytes} {ctx ctx' : Context} :
    SealedFor made key ctx account access.wrappedAccountKey →
    SealedFor made key' ctx' plaintext access.wrappedVaultKey →
    key' ≠ account ∨ ctx' ≠ vaultWrapCtx access.accountId access.vaultId access.vaultKeyVersion →
    Swapped made access outer unlocking
  | item {key vault key' plaintext : Bytes} {ctx ctx' : Context} :
    SealedFor made key ctx vault access.wrappedVaultKey →
    SealedFor made key' ctx' plaintext access.wrappedItemKey →
    key' ≠ vault ∨
      ctx' ≠ itemWrapCtx access.accountId access.vaultId access.itemId access.itemKeyVersion →
    Swapped made access outer unlocking

-- Byte strings a 64-bit machine can hold.
structure PersistedItemAccess.Slices (access : PersistedItemAccess) : Prop where
  account : access.wrappedAccountKey.length < 2 ^ 64
  vault : access.wrappedVaultKey.length < 2 ^ 64
  item : access.wrappedItemKey.length < 2 ^ 64

section Unlock

variable {cbor : Minicbor} (conforms : cbor.Conforms) {aead : Aead} {made : Sealing → Prop}
  (ideal : aead.IdealBox made) {access : PersistedItemAccess} (slices : access.Slices)

include conforms ideal slices

-- an account wrapper that has opened, and the two below it
theorem openItemChain_iff {outer : Context} {unlocking : Secret32} {account : AccountKey}
    {item : ItemKey}
    (opened : SealedFor made unlocking.bytes outer account.secret.bytes access.wrappedAccountKey) :
    openItemChain cbor aead access account = .ok item ↔
      ∃ vault, Chain made access outer unlocking account vault item := by
  have vaultIff (vault : VaultKey) := @openEnvelope_iff_sealedFor cbor conforms aead made ideal
    account.secret vault.secret access.wrappedVaultKey slices.vault
    (vaultWrapCtx access.accountId access.vaultId access.vaultKeyVersion) fun _ => rfl
  have itemIff (vault : VaultKey) := @openEnvelope_iff_sealedFor cbor conforms aead made ideal
    vault.secret item.secret access.wrappedItemKey slices.item
    (itemWrapCtx access.accountId access.vaultId access.itemId access.itemKeyVersion) fun _ => rfl
  simp only [openItemChain, bind_eq_ok, openVaultKey_eq_ok, openItemKey_eq_ok, vaultIff, itemIff]
  constructor
  · rintro ⟨vault, vaultSealed, itemSealed⟩
    exact ⟨vault, opened, vaultSealed, itemSealed⟩
  · rintro ⟨vault, chain⟩
    exact ⟨vault, chain.vaultWrap, chain.itemWrap⟩

theorem openWithPassword_iff {argon2 : Argon2} {password : Bytes} {item : ItemKey} :
    openWithPassword cbor aead argon2 password access = .ok item ↔
      ∃ params unlock account vault,
        KdfParams.decodeCanonicalCbor cbor access.kdfParametersCbor access.reportedPhysicalMemoryKib
          = .ok params ∧
        deriveUnlockKey argon2 password params access.reportedPhysicalMemoryKib = .ok unlock ∧
        Chain made access (accountWrapCtx access.accountId access.accountKeyVersion) unlock.secret
          account vault item := by
  have accountIff (unlock : UnlockKey) (account : AccountKey) :=
    @openEnvelope_iff_sealedFor cbor conforms aead made ideal unlock.secret account.secret
      access.wrappedAccountKey slices.account
      (accountWrapCtx access.accountId access.accountKeyVersion) fun _ => rfl
  simp only [openWithPassword, bind_eq_ok, openAccountKeyWithPassword_eq_ok, accountIff]
  constructor
  · rintro ⟨params, decoded, unlock, derived, account, sealed, opened⟩
    obtain ⟨vault, chain⟩ := (openItemChain_iff conforms ideal slices sealed).mp opened
    exact ⟨params, unlock, account, vault, decoded, derived, chain⟩
  · rintro ⟨params, unlock, account, vault, decoded, derived, chain⟩
    exact ⟨params, decoded, unlock, derived, account, chain.accountWrap,
      (openItemChain_iff conforms ideal slices chain.accountWrap).mpr ⟨vault, chain⟩⟩

theorem openWithRecovery_iff {recoveryKey : Bytes} {item : ItemKey} :
    openWithRecovery cbor aead recoveryKey access = .ok item ↔
      ∃ (key : RecoveryKey) (account : AccountKey) (vault : VaultKey),
        recoveryKey = key.secret.bytes ∧
        Chain made access (recoveryWrapCtx access.accountId access.accountKeyVersion) key.secret
          account vault item := by
  have keyIff (key : RecoveryKey) :
      RecoveryKey.fromBytes recoveryKey = .ok key ↔ recoveryKey = key.secret.bytes := by
    rw [← Secret32.fromBytes_eq_ok, RecoveryKey.fromBytes]
    cases Secret32.fromBytes recoveryKey with
    | ok secret => cases key; simp [Except.map]
    | error error => simp [Except.map]
  have accountIff (key : RecoveryKey) (account : AccountKey) :=
    @openEnvelope_iff_sealedFor cbor conforms aead made ideal key.secret account.secret
      access.wrappedAccountKey slices.account
      (recoveryWrapCtx access.accountId access.accountKeyVersion) fun _ => rfl
  simp only [openWithRecovery, bind_eq_ok, keyIff, openAccountKeyWithRecovery_eq_ok, accountIff]
  constructor
  · rintro ⟨key, same, account, sealed, opened⟩
    obtain ⟨vault, chain⟩ := (openItemChain_iff conforms ideal slices sealed).mp opened
    exact ⟨key, account, vault, same, chain⟩
  · rintro ⟨key, account, vault, same, chain⟩
    exact ⟨key, same, account, chain.accountWrap,
      (openItemChain_iff conforms ideal slices chain.accountWrap).mpr ⟨vault, chain⟩⟩

-- A wrapper carries one sealing, so a swapped one is on no chain.
theorem Chain.not_swapped {outer : Context} {unlocking : Secret32} {account : AccountKey}
    {vault : VaultKey} {item : ItemKey}
    (chain : Chain made access outer unlocking account vault item) :
    ¬Swapped made access outer unlocking.bytes := by
  intro swapped
  cases swapped with
  | account sealed other =>
    obtain ⟨rfl, rfl, -⟩ := sealed.unique conforms ideal.toIdeal slices.account chain.accountWrap
    rcases other with other | other <;> exact other rfl
  | vault outerSealed sealed other =>
    obtain ⟨-, -, rfl⟩ := outerSealed.unique conforms ideal.toIdeal slices.account chain.accountWrap
    obtain ⟨rfl, rfl, -⟩ := sealed.unique conforms ideal.toIdeal slices.vault chain.vaultWrap
    rcases other with other | other <;> exact other rfl
  | item outerSealed sealed other =>
    obtain ⟨-, -, rfl⟩ := outerSealed.unique conforms ideal.toIdeal slices.vault chain.vaultWrap
    obtain ⟨rfl, rfl, -⟩ := sealed.unique conforms ideal.toIdeal slices.item chain.itemWrap
    rcases other with other | other <;> exact other rfl

-- The limit and the error of `wrap` depend on the kind: keys are neither payloads nor manifests.
omit slices in
theorem sealedFor_iff_wrap_key {key wrapped : Secret32} {ctx : Context} {envelope : Bytes}
    (payload : ctx.recordKind ≠ .itemPayload) (manifest : ctx.recordKind ≠ .exportManifest)
    (limit : envelope.length ≤ maxWrappedKeyLen) :
    SealedFor made key.bytes ctx wrapped.bytes envelope ↔
      ∃ (nonce : Nonce) (ciphertext : Bytes), wrap cbor aead nonce key wrapped ctx = .ok envelope ∧
        made ⟨key.bytes, nonce.bytes, wrapped.bytes, canonicalAad ctx, ciphertext⟩ := by
  apply sealedFor_iff_wrap conforms ideal.toIdeal
  · intro len
    cases kind : ctx.recordKind <;> first | rfl | exact absurd kind payload | exact absurd kind manifest
  · cases kind : ctx.recordKind <;>
      first | exact limit | exact absurd kind payload | exact absurd kind manifest

omit conforms ideal slices in
theorem ItemSession.unlock_eq_ok {argon2 : Argon2} {password : Bytes} {session : ItemSession} :
    ItemSession.unlock cbor aead argon2 password access = .ok session ↔
      ∃ item, openWithPassword cbor aead argon2 password access = .ok item ∧ session = ⟨some item⟩ := by
  rw [ItemSession.unlock_eq]
  cases openWithPassword cbor aead argon2 password access with
  | ok item => simp [Except.map, Except.mapError, eq_comm]
  | error failed => simp [Except.map, Except.mapError]

theorem itemSession_unlock_iff {argon2 : Argon2} {password : Bytes} {session : ItemSession} :
    ItemSession.unlock cbor aead argon2 password access = .ok session ↔
      ∃ params unlock account vault item,
        KdfParams.decodeCanonicalCbor cbor access.kdfParametersCbor access.reportedPhysicalMemoryKib
          = .ok params ∧
        deriveUnlockKey argon2 password params access.reportedPhysicalMemoryKib = .ok unlock ∧
        Chain made access (accountWrapCtx access.accountId access.accountKeyVersion) unlock.secret
          account vault item ∧
        session = ⟨some item⟩ := by
  simp only [ItemSession.unlock_eq_ok, openWithPassword_iff conforms ideal slices]
  constructor
  · rintro ⟨item, ⟨params, unlock, account, vault, decoded, derived, chain⟩, rfl⟩
    exact ⟨params, unlock, account, vault, item, decoded, derived, chain, rfl⟩
  · rintro ⟨params, unlock, account, vault, item, decoded, derived, chain, rfl⟩
    exact ⟨item, ⟨params, unlock, account, vault, decoded, derived, chain⟩, rfl⟩

theorem unlockItemSessionWithRecovery_iff {core core' : WasmCrypto} {recoveryKey : Bytes}
    {id : UInt32} :
    core.unlockItemSessionWithRecovery cbor aead recoveryKey access.accountId access.vaultId
        access.itemId access.accountKeyVersion access.vaultKeyVersion access.itemKeyVersion
        access.wrappedAccountKey access.wrappedVaultKey access.wrappedItemKey = (.ok id, core') ↔
      ∃ (key : RecoveryKey) (account : AccountKey) (vault : VaultKey) (item : ItemKey),
        recoveryKey = key.secret.bytes ∧
        Chain made access (recoveryWrapCtx access.accountId access.accountKeyVersion) key.secret
          account vault item ∧
        core.nextSession.toNat + 1 < 2 ^ 32 ∧ id = core.nextSession ∧
        core' = { nextSession := core.nextSession + 1,
                  sessions := Function.update core.sessions id (some item) } := by
  have opening := @openWithRecovery_iff cbor conforms aead made ideal access slices recoveryKey
  rw [WasmCrypto.unlockItemSessionWithRecovery_eq]
  cases result : openWithRecovery cbor aead recoveryKey access with
  | ok item =>
    obtain ⟨key, account, vault, same, chain⟩ := opening.mp result
    simp only [WasmCrypto.finish, WasmCrypto.openSession]
    constructor
    · intro ended
      split_ifs at ended with free
      · cases ended
        exact ⟨key, account, vault, item, same, chain, free, rfl, rfl⟩
      · cases ended
    · rintro ⟨key', account', vault', item', same', chain', free, rfl, rfl⟩
      have other := opening.mpr ⟨key', account', vault', same', chain'⟩
      cases result.symm.trans other
      rw [if_pos free]
  | error failed =>
    simp only [WasmCrypto.finish, Prod.mk.injEq, reduceCtorEq, false_and, false_iff]
    rintro ⟨key, account, vault, item, same, chain, -⟩
    cases result.symm.trans (opening.mpr ⟨key, account, vault, same, chain⟩)

theorem Swapped.unlock_fails {argon2 : Argon2} {params : KdfParams} {unlock : UnlockKey}
    {password : Bytes}
    (decoded : KdfParams.decodeCanonicalCbor cbor access.kdfParametersCbor
      access.reportedPhysicalMemoryKib = .ok params)
    (derived : deriveUnlockKey argon2 password params access.reportedPhysicalMemoryKib = .ok unlock)
    (swapped : Swapped made access (accountWrapCtx access.accountId access.accountKeyVersion)
      unlock.secret.bytes) :
    ∃ error, ItemSession.unlock cbor aead argon2 password access = .error error := by
  cases result : ItemSession.unlock cbor aead argon2 password access with
  | error failed => exact ⟨failed, rfl⟩
  | ok session =>
    obtain ⟨params', unlock', account, vault, item, decoded', derived', chain, -⟩ :=
      (itemSession_unlock_iff conforms ideal slices).mp result
    cases decoded.symm.trans decoded'
    cases derived.symm.trans derived'
    exact absurd swapped (chain.not_swapped conforms ideal slices)

theorem Swapped.recovery_fails {core : WasmCrypto} {recoveryKey : Bytes}
    (swapped : Swapped made access (recoveryWrapCtx access.accountId access.accountKeyVersion)
      recoveryKey) :
    ∃ text, core.unlockItemSessionWithRecovery cbor aead recoveryKey access.accountId
        access.vaultId access.itemId access.accountKeyVersion access.vaultKeyVersion
        access.itemKeyVersion access.wrappedAccountKey access.wrappedVaultKey access.wrappedItemKey
      = (.error text, core) := by
  rw [WasmCrypto.unlockItemSessionWithRecovery_eq]
  cases result : openWithRecovery cbor aead recoveryKey access with
  | error failed => exact ⟨_, rfl⟩
  | ok item =>
    obtain ⟨key, account, vault, rfl, chain⟩ :=
      (openWithRecovery_iff conforms ideal slices).mp result
    exact absurd swapped (chain.not_swapped conforms ideal slices)

end Unlock

/-- On every path an item key is unlocked exactly by the wrappers of one chain, and is the one sealed in
the last of them; a swapped wrapper is refused; the two bindings end alike. -/
theorem key_hierarchy_unlocks_own_chain (cbor : Minicbor) (conforms : cbor.Conforms) (aead : Aead)
    (made : Sealing → Prop) (ideal : aead.IdealBox made) (argon2 : Argon2)
    (access : PersistedItemAccess) (slices : access.Slices) :
    (∀ (key wrapped : Secret32) (ctx : Context) (envelope : Bytes),
      ctx.recordKind ≠ .itemPayload → ctx.recordKind ≠ .exportManifest →
      envelope.length ≤ maxWrappedKeyLen →
      (SealedFor made key.bytes ctx wrapped.bytes envelope ↔
        ∃ (nonce : Nonce) (ciphertext : Bytes), wrap cbor aead nonce key wrapped ctx = .ok envelope ∧
          made ⟨key.bytes, nonce.bytes, wrapped.bytes, canonicalAad ctx, ciphertext⟩)) ∧
    (∀ password session,
      ItemSession.unlock cbor aead argon2 password access = .ok session ↔
        ∃ params unlock account vault item,
          KdfParams.decodeCanonicalCbor cbor access.kdfParametersCbor access.reportedPhysicalMemoryKib
            = .ok params ∧
          deriveUnlockKey argon2 password params access.reportedPhysicalMemoryKib = .ok unlock ∧
          Chain made access (accountWrapCtx access.accountId access.accountKeyVersion) unlock.secret
            account vault item ∧
          session = ⟨some item⟩) ∧
    (∀ (core : WasmCrypto) recoveryKey id core',
      core.unlockItemSessionWithRecovery cbor aead recoveryKey access.accountId access.vaultId
          access.itemId access.accountKeyVersion access.vaultKeyVersion access.itemKeyVersion
          access.wrappedAccountKey access.wrappedVaultKey access.wrappedItemKey = (.ok id, core') ↔
        ∃ (key : RecoveryKey) (account : AccountKey) (vault : VaultKey) (item : ItemKey),
          recoveryKey = key.secret.bytes ∧
          Chain made access (recoveryWrapCtx access.accountId access.accountKeyVersion) key.secret
            account vault item ∧
          -- an id is left
          core.nextSession.toNat + 1 < 2 ^ 32 ∧ id = core.nextSession ∧
          core' = { nextSession := core.nextSession + 1,
                    sessions := Function.update core.sessions id (some item) }) ∧
    (∀ params unlock password,
      KdfParams.decodeCanonicalCbor cbor access.kdfParametersCbor access.reportedPhysicalMemoryKib
        = .ok params →
      deriveUnlockKey argon2 password params access.reportedPhysicalMemoryKib = .ok unlock →
      Swapped made access (accountWrapCtx access.accountId access.accountKeyVersion)
        unlock.secret.bytes →
      ∃ error, ItemSession.unlock cbor aead argon2 password access = .error error) ∧
    (∀ (core : WasmCrypto) recoveryKey,
      Swapped made access (recoveryWrapCtx access.accountId access.accountKeyVersion) recoveryKey →
      ∃ text, core.unlockItemSessionWithRecovery cbor aead recoveryKey access.accountId
          access.vaultId access.itemId access.accountKeyVersion access.vaultKeyVersion
          access.itemKeyVersion access.wrappedAccountKey access.wrappedVaultKey access.wrappedItemKey
        = (.error text, core)) ∧
    (∀ (core : WasmCrypto) password,
      core.unlockItemSession cbor aead argon2 password access.kdfParametersCbor
          access.reportedPhysicalMemoryKib access.accountId access.vaultId access.itemId
          access.accountKeyVersion access.vaultKeyVersion access.itemKeyVersion
          access.wrappedAccountKey access.wrappedVaultKey access.wrappedItemKey
        = match ItemSession.unlock cbor aead argon2 password access with
          | .ok session =>
            if core.nextSession.toNat + 1 < 2 ^ 32 then
              (.ok core.nextSession,
                { nextSession := core.nextSession + 1,
                  sessions := Function.update core.sessions core.nextSession session.key })
            else (.error "Internal", core)
          | .error failed => (.error failed.name, core)) := by
  refine ⟨?_, ?_, ?_, ?_, ?_, ?_⟩
  · intro key wrapped ctx envelope payload manifest limit
    exact sealedFor_iff_wrap_key conforms ideal payload manifest limit
  · intro password session
    exact itemSession_unlock_iff conforms ideal slices
  · intro core recoveryKey id core'
    exact unlockItemSessionWithRecovery_iff conforms ideal slices
  · intro params unlock password decoded derived swapped
    exact swapped.unlock_fails conforms ideal slices decoded derived
  · intro core recoveryKey swapped
    exact swapped.recovery_fails conforms ideal slices
  · intro core password
    rw [WasmCrypto.unlockItemSession_eq, ItemSession.unlock_eq]
    cases openWithPassword cbor aead argon2 password access with
    | ok item => rfl
    | error failed =>
      simp only [WasmCrypto.finish, Except.map, Except.mapError, CryptoFfiError.name_ofError]

def recordedCiphers (calls : List Sealing) : Aead where
  encrypt key nonce msg aad :=
    (calls.find? fun call => call.key = key ∧ call.nonce = nonce ∧ call.plaintext = msg ∧
      call.aad = aad).map Sealing.ciphertext
  decrypt key nonce msg aad :=
    (calls.find? fun call => call.key = key ∧ call.nonce = nonce ∧ call.ciphertext = msg ∧
      call.aad = aad).map Sealing.plaintext

theorem recordedCiphers_idealBox (calls : List Sealing)
    (inputs : ∀ first ∈ calls, ∀ second ∈ calls, first.key = second.key → first.nonce = second.nonce →
      first.plaintext = second.plaintext → first.aad = second.aad → first = second)
    (ciphertexts : ∀ first ∈ calls, ∀ second ∈ calls, first.ciphertext = second.ciphertext →
      first = second)
    (tagged : ∀ call ∈ calls, call.ciphertext.length = call.plaintext.length + tagLen) :
    (recordedCiphers calls).IdealBox (· ∈ calls) where
  produced sealing made := by
    have found : (calls.find? fun call => call.key = sealing.key ∧ call.nonce = sealing.nonce ∧
        call.plaintext = sealing.plaintext ∧ call.aad = sealing.aad).isSome = true :=
      List.find?_isSome.mpr ⟨sealing, made, by simp⟩
    obtain ⟨call, here⟩ := Option.isSome_iff_exists.mp found
    have same := List.find?_some here
    simp only [decide_eq_true_eq] at same
    rw [inputs call (List.mem_of_find?_eq_some here) sealing made same.1 same.2.1 same.2.2.1
      same.2.2.2] at here
    simp only [recordedCiphers, here, Option.map_some]
  authentic key nonce plaintext aad ciphertext opened := by
    obtain ⟨call, here, rfl⟩ := Option.map_eq_some_iff.mp opened
    have same := List.find?_some here
    simp only [decide_eq_true_eq] at same
    obtain ⟨rfl, rfl, rfl, rfl⟩ := same
    exact List.mem_of_find?_eq_some here
  distinct first second isFirst isSecond same := ciphertexts first isFirst second isSecond same
  opens sealing made := by
    have found : (calls.find? fun call => call.key = sealing.key ∧ call.nonce = sealing.nonce ∧
        call.ciphertext = sealing.ciphertext ∧ call.aad = sealing.aad).isSome = true :=
      List.find?_isSome.mpr ⟨sealing, made, by simp⟩
    obtain ⟨call, here⟩ := Option.isSome_iff_exists.mp found
    have same := List.find?_some here
    simp only [decide_eq_true_eq] at same
    rw [ciphertexts call (List.mem_of_find?_eq_some here) sealing made same.2.2.1] at here
    simp only [recordedCiphers, here, Option.map_some]
  tagged := tagged

def keyOf (byte : UInt8) : Secret32 where
  bytes := List.replicate 32 byte
  size := List.length_replicate

-- XChaCha20-Poly1305 of keys of ones, twos and threes: a recovery wrapper under `sevens` and the chain
-- below it
def recoverySealing : Sealing where
  key := sevens.secret.bytes
  nonce := itemNonce.bytes
  plaintext := (keyOf 1).bytes
  aad := canonicalAad (recoveryWrapCtx "account_01" 1)
  ciphertext := [169, 22, 170, 132, 251, 29, 90, 164, 36, 198, 128, 70, 231, 227, 174, 173, 94, 215,
    57, 22, 21, 246, 54, 112, 242, 28, 182, 128, 155, 205, 149, 150, 115, 27, 166, 123, 218, 159, 246,
    193, 180, 101, 49, 54, 197, 229, 166, 102]

def vaultSealing : Sealing where
  key := (keyOf 1).bytes
  nonce := itemNonce.bytes
  plaintext := (keyOf 2).bytes
  aad := canonicalAad (vaultWrapCtx "account_01" "vault_01" 1)
  ciphertext := [122, 210, 217, 135, 159, 147, 213, 138, 225, 68, 104, 74, 22, 48, 116, 178, 247, 180,
    158, 204, 250, 73, 130, 208, 34, 14, 249, 179, 237, 126, 17, 97, 120, 37, 235, 250, 154, 49, 123,
    233, 57, 111, 194, 178, 164, 158, 226, 81]

def itemKeySealing : Sealing where
  key := (keyOf 2).bytes
  nonce := itemNonce.bytes
  plaintext := (keyOf 3).bytes
  aad := canonicalAad (itemWrapCtx "account_01" "vault_01" "item_01" 1)
  ciphertext := [112, 185, 1, 3, 142, 109, 87, 160, 213, 69, 20, 201, 209, 232, 141, 79, 2, 8, 89, 91,
    120, 131, 2, 35, 208, 167, 95, 12, 32, 115, 118, 199, 245, 36, 200, 0, 111, 187, 202, 250, 152, 90,
    82, 18, 244, 144, 227, 19]

def chainSealings : List Sealing := [recoverySealing, vaultSealing, itemKeySealing]

theorem chainSealings_idealBox : (recordedCiphers chainSealings).IdealBox (· ∈ chainSealings) := by
  apply recordedCiphers_idealBox
  · decide +kernel
  · decide +kernel
  · decide +kernel

def recoveryAccess : PersistedItemAccess where
  accountId := "account_01"
  vaultId := "vault_01"
  itemId := "item_01"
  accountKeyVersion := 1
  vaultKeyVersion := 1
  itemKeyVersion := 1
  kdfParametersCbor := canonicalKdf crowdedParams
  reportedPhysicalMemoryKib := 262144
  wrappedAccountKey := canonicalEnvelope .recoveryWrap 1 itemNonce.bytes recoverySealing.ciphertext
    (canonicalAad (recoveryWrapCtx "account_01" 1))
  wrappedVaultKey := canonicalEnvelope .vaultWrap 1 itemNonce.bytes vaultSealing.ciphertext
    (canonicalAad (vaultWrapCtx "account_01" "vault_01" 1))
  wrappedItemKey := canonicalEnvelope .itemWrap 1 itemNonce.bytes itemKeySealing.ciphertext
    (canonicalAad (itemWrapCtx "account_01" "vault_01" "item_01" 1))

theorem recoveryAccess_slices : recoveryAccess.Slices where
  account := by decide +kernel
  vault := by decide +kernel
  item := by decide +kernel

theorem recoveryAccess_chain :
    Chain (· ∈ chainSealings) recoveryAccess (recoveryWrapCtx "account_01" 1) sevens.secret
      ⟨keyOf 1⟩ ⟨keyOf 2⟩ ⟨keyOf 3⟩ where
  accountWrap := ⟨rfl, by decide, itemNonce, recoverySealing.ciphertext, List.mem_cons_self, rfl⟩
  vaultWrap := ⟨rfl, by decide, itemNonce, vaultSealing.ciphertext,
    List.mem_cons_of_mem _ List.mem_cons_self, rfl⟩
  itemWrap := ⟨rfl, by decide, itemNonce, itemKeySealing.ciphertext,
    List.mem_cons_of_mem _ (List.mem_cons_of_mem _ List.mem_cons_self), rfl⟩

theorem key_hierarchy_unlocks_recovery :
    WasmCrypto.new.unlockItemSessionWithRecovery Minicbor.rfc8949 (recordedCiphers chainSealings)
        sevens.secret.bytes recoveryAccess.accountId recoveryAccess.vaultId recoveryAccess.itemId
        recoveryAccess.accountKeyVersion recoveryAccess.vaultKeyVersion recoveryAccess.itemKeyVersion
        recoveryAccess.wrappedAccountKey recoveryAccess.wrappedVaultKey recoveryAccess.wrappedItemKey
      = (.ok 1, { nextSession := WasmCrypto.new.nextSession + 1,
                  sessions := Function.update WasmCrypto.new.sessions 1 (some ⟨keyOf 3⟩) }) :=
  ((key_hierarchy_unlocks_own_chain Minicbor.rfc8949 Minicbor.rfc8949_conforms
    (recordedCiphers chainSealings) (· ∈ chainSealings) chainSealings_idealBox argon2Checks
    recoveryAccess recoveryAccess_slices).2.2.1 WasmCrypto.new sevens.secret.bytes 1 _).mpr
    ⟨sevens, ⟨keyOf 1⟩, ⟨keyOf 2⟩, ⟨keyOf 3⟩, rfl, recoveryAccess_chain, by decide, rfl, rfl⟩

end ZenPass.Crypto
