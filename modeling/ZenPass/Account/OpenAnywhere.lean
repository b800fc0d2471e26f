import ZenPass.Account.BundleFormat
import ZenPass.Crypto.AccountSetup
import ZenPass.Crypto.RoundTrip

set_option autoImplicit false

namespace ZenPass.Account.OpenAnywhere

open BundleFormat Crypto JsonText TextEncoding
open Crypto.Worker (CryptoRequest CryptoResponse CryptoWorkerHost maxItemBytes)
open Wire (Bytes)

def bundleOf (setup : AccountSetupResult) : AccountBundleBytes where
  accountId := setup.accountId
  vaultId := setup.vaultId
  itemId := setup.itemId
  kdfParametersCbor := setup.kdfParametersCbor
  wrappedAccountKey := setup.wrappedAccountKey
  wrappedVaultKey := setup.wrappedVaultKey
  wrappedItemKey := setup.wrappedItemKey
  wrappedRecoveryKey := setup.wrappedRecoveryKey

abbrev Storage := Units → Option Units

def key (accountId : Units) : Units := units "zkpm.bundle." ++ accountId

def storedBundle (bundle : AccountBundleBytes) : List (Units × Units) :=
  [(units "accountId", units bundle.accountId), (units "vaultId", units bundle.vaultId),
    (units "itemId", units bundle.itemId),
    (units "kdfParametersCbor", units (Wire.Sdk.encodeB64 bundle.kdfParametersCbor)),
    (units "wrappedAccountKey", units (Wire.Sdk.encodeB64 bundle.wrappedAccountKey)),
    (units "wrappedVaultKey", units (Wire.Sdk.encodeB64 bundle.wrappedVaultKey)),
    (units "wrappedItemKey", units (Wire.Sdk.encodeB64 bundle.wrappedItemKey)),
    (units "wrappedRecoveryKey", units (Wire.Sdk.encodeB64 bundle.wrappedRecoveryKey))]

def saveAccountBundle (bundle : AccountBundleBytes) (storage : Storage) : Storage :=
  Function.update storage (key (units bundle.accountId))
    (some (stringify (.object (stringMembers (storedBundle bundle)))))

/-- A bundle from the storage, whose ids are whatever the members were: `none` is undefined. -/
structure LoadedBundle where
  accountId : Option Value
  vaultId : Option Value
  itemId : Option Value
  kdfParametersCbor : Bytes
  wrappedAccountKey : Bytes
  wrappedVaultKey : Bytes
  wrappedItemKey : Bytes
  wrappedRecoveryKey : Bytes

def member : Value → String → Option (Option Value)
  | .null, _ => none
  | .object members, name => some (lookup members (units name))
  | _, _ => some none

def decodeMember (stored : Value) (name : String) : Option Bytes := do
  let value ← member stored name
  match value with
  | some (.string text) => Wire.Sdk.decodeB64 (asText text)
  | _ => none

def loadAccountBundle (accountId : Units) (storage : Storage) : Option (Option LoadedBundle) :=
  match storage (key accountId) with
  | none | some [] => some none
  | some raw => do
      let stored ← JsonText.parse raw
      let accountId ← member stored "accountId"
      let vaultId ← member stored "vaultId"
      let itemId ← member stored "itemId"
      let kdfParametersCbor ← decodeMember stored "kdfParametersCbor"
      let wrappedAccountKey ← decodeMember stored "wrappedAccountKey"
      let wrappedVaultKey ← decodeMember stored "wrappedVaultKey"
      let wrappedItemKey ← decodeMember stored "wrappedItemKey"
      let wrappedRecoveryKey ← decodeMember stored "wrappedRecoveryKey"
      some (some { accountId, vaultId, itemId, kdfParametersCbor, wrappedAccountKey, wrappedVaultKey,
                   wrappedItemKey, wrappedRecoveryKey })

def passString (text : Units) : String := String.ofList (scalars '\ufffd' text)

/-- The ids of a message; one that is no string makes it no request. -/
def LoadedBundle.ids (bundle : LoadedBundle) : Option (String × String × String) :=
  match bundle.accountId, bundle.vaultId, bundle.itemId with
  | some (.string accountId), some (.string vaultId), some (.string itemId) =>
      some (passString accountId, passString vaultId, passString itemId)
  | _, _, _ => none

def LoadedBundle.unlockWithPassword (bundle : LoadedBundle) (id : String) (password : Bytes)
    (reportedPhysicalMemoryKiB : Int) : Option CryptoRequest :=
  bundle.ids.map fun (accountId, vaultId, itemId) =>
    .unlockItemSession id password bundle.kdfParametersCbor reportedPhysicalMemoryKiB accountId vaultId
      itemId 1 1 1 bundle.wrappedAccountKey bundle.wrappedVaultKey bundle.wrappedItemKey

def LoadedBundle.unlockWithRecovery (bundle : LoadedBundle) (id : String) (recoveryKey : Bytes) :
    Option CryptoRequest :=
  bundle.ids.map fun (accountId, vaultId, itemId) =>
    .unlockItemSessionWithRecovery id recoveryKey accountId vaultId itemId 1 1 1
      bundle.wrappedRecoveryKey bundle.wrappedVaultKey bundle.wrappedItemKey

section Clients

variable (cbor : Minicbor) (aead : Aead) (argon2 : Argon2)

/-- `ExtensionVaultManager.unlock` from the bundle that the server has sent to the session; `none` is
"unlock-failed" before there is a host. -/
def Extension.unlock (random : SetupRandom) (nonce : Nonce) (id : String) (accountId : Units)
    (password : Bytes) (reportedPhysicalMemoryKiB : Int) (bundle : String) :
    Option (CryptoResponse × CryptoWorkerHost) := do
  let parsed ← Sdk.parseAccountBundle bundle
  if parsed.accountId ≠ accountId then none
  else do
    let kdfParametersCbor ← Wire.Sdk.decodeB64 (asText parsed.kdfParametersCbor)
    let wrappedAccountKey ← Wire.Sdk.decodeB64 (asText parsed.wrappedAccountKey)
    let wrappedVaultKey ← Wire.Sdk.decodeB64 (asText parsed.wrappedVaultKey)
    let wrappedItemKey ← Wire.Sdk.decodeB64 (asText parsed.wrappedItemKey)
    some (CryptoWorkerHost.new.handle cbor aead argon2 random nonce
      (some (.unlockItemSession id password kdfParametersCbor reportedPhysicalMemoryKiB
        (asText parsed.accountId) (asText parsed.vaultId) (asText parsed.itemId) 1 1 1
        wrappedAccountKey wrappedVaultKey wrappedItemKey)))

def Android.unlock (libraries : Libraries) (accountId : Units) (password : Bytes)
    (reportedPhysicalMemoryKib : UInt64) (bundle : String) : Option ItemSession := do
  let parsed ← Kotlin.parseAccountBundle libraries bundle
  if parsed.accountId ≠ accountId then none
  else do
    let kdfParametersCbor ← Wire.Kotlin.decodeB64 (asText parsed.kdfParametersCbor)
    let wrappedAccountKey ← Wire.Kotlin.decodeB64 (asText parsed.wrappedAccountKey)
    let wrappedVaultKey ← Wire.Kotlin.decodeB64 (asText parsed.wrappedVaultKey)
    let wrappedItemKey ← Wire.Kotlin.decodeB64 (asText parsed.wrappedItemKey)
    let access : PersistedItemAccess :=
      { accountId := asText parsed.accountId, vaultId := asText parsed.vaultId,
        itemId := asText parsed.itemId, accountKeyVersion := 1, vaultKeyVersion := 1,
        itemKeyVersion := 1, kdfParametersCbor, reportedPhysicalMemoryKib, wrappedAccountKey,
        wrappedVaultKey, wrappedItemKey }
    (ItemSession.unlock cbor aead argon2 password access).toOption

end Clients

theorem canonicalKdf_length (params : KdfParams) :
    (canonicalKdf params).length ≠ 0 ∧ (canonicalKdf params).length ≤ maxKdfParamsBytes := by
  have algorithm : (Cbor.Item.text "argon2id").encode.length ≤ Cbor.headLength 8 + 8 :=
    encodeText_length_le (by decide)
  have salt : (Cbor.Item.bytes params.salt).encode.length ≤ Cbor.headLength 16 + 16 :=
    encodeBytes_length_le params.saltSize.le
  have version := encodeInt_length_le 19
  have memory := encodeInt_length_le params.memoryKib.toNat
  have iterations := encodeInt_length_le params.iterations.toNat
  have parallelism := encodeInt_length_le params.parallelism.toNat
  have output := encodeInt_length_le 32
  have heads : Cbor.headLength 8 = 1 ∧ Cbor.headLength 16 = 1 := by decide
  simp only [canonicalKdf, Cbor.encodeMap, List.flatMap_cons, List.flatMap_nil, List.length_append,
    encodeEntry_length, List.length_cons, List.length_nil, Cbor.head_length, maxKdfParamsBytes]
  have keys : Cbor.headLength 1 = 1 ∧ Cbor.headLength 2 = 1 ∧ Cbor.headLength 3 = 1 ∧
      Cbor.headLength 4 = 1 ∧ Cbor.headLength 5 = 1 ∧ Cbor.headLength 6 = 1 ∧
      Cbor.headLength 7 = 1 := by decide
  have head := Cbor.headLength_le (0 + 1 + 1 + 1 + 1 + 1 + 1 + 1)
  omega

theorem sealed_nonempty {made : Sealing → Prop} {key plaintext envelope : Bytes} {ctx : Context}
    (sealed : SealedFor made key ctx plaintext envelope) : envelope.length ≠ 0 := by
  obtain ⟨nonce, ciphertext, -, rfl⟩ := sealed.sealing
  have parts := canonicalEnvelope_parts_le ctx.recordKind ctx.keyVersion nonce.bytes ciphertext
    (canonicalAad ctx)
  have size := nonce.size
  simp only [nonceLen] at size
  omega

section Bundle

variable {made : Sealing → Prop} {argon2 : Argon2} {random : SetupRandom} {password : Bytes}
  {result : AccountSetupResult} {params : KdfParams} {unlock : UnlockKey}

theorem bundleOf_valid (setUp : SetUp made argon2 random password result params unlock)
    (account : Sync.isValidId result.accountId = true) (vault : Sync.isValidId result.vaultId = true)
    (item : Sync.isValidId result.itemId = true) : (bundleOf result).Valid where
  account := account
  vault := vault
  item := item
  kdf := by
    rw [bundleOf, setUp.kdf]
    exact canonicalKdf_length params
  wrappers := by
    have limits := setUp.limits
    simp only [List.forall_mem_cons] at limits ⊢
    obtain ⟨accountLimit, vaultLimit, itemLimit, recoveryLimit, -⟩ := limits
    exact ⟨⟨sealed_nonempty setUp.account, accountLimit⟩, ⟨sealed_nonempty setUp.vault, vaultLimit⟩,
      ⟨sealed_nonempty setUp.item, itemLimit⟩, ⟨sealed_nonempty setUp.recovery, recoveryLimit⟩,
      by simp⟩

end Bundle

def loaded (bundle : AccountBundleBytes) : LoadedBundle where
  accountId := some (.string (units bundle.accountId))
  vaultId := some (.string (units bundle.vaultId))
  itemId := some (.string (units bundle.itemId))
  kdfParametersCbor := bundle.kdfParametersCbor
  wrappedAccountKey := bundle.wrappedAccountKey
  wrappedVaultKey := bundle.wrappedVaultKey
  wrappedItemKey := bundle.wrappedItemKey
  wrappedRecoveryKey := bundle.wrappedRecoveryKey

theorem sdk_decodeB64 (bytes : Bytes) :
    Wire.Sdk.decodeB64 (Wire.Sdk.encodeB64 bytes) = some bytes := by
  rw [Wire.Sdk.encodeB64_eq]
  exact @decodes_encodeB64 plainLibraries .sdk bytes

theorem kotlin_decodeB64 (bytes : Bytes) :
    Wire.Kotlin.decodeB64 (Wire.Sdk.encodeB64 bytes) = some bytes := by
  rw [Wire.Sdk.encodeB64_eq]
  exact @decodes_encodeB64 plainLibraries .kotlin bytes

theorem asText_encodeB64 (bytes : Bytes) :
    asText (units (Wire.Sdk.encodeB64 bytes)) = Wire.Sdk.encodeB64 bytes := by
  rw [Wire.Sdk.encodeB64_eq, (Sync.plain_encodeB64 bytes).asText_units]

theorem storedBundle_distinct (bundle : AccountBundleBytes) :
    ((stringMembers (storedBundle bundle)).map Prod.fst).Nodup := by
  rw [map_fst_stringMembers]
  exact (List.sublist_cons_self _ _).nodup names_distinct

theorem load_save (bundle : AccountBundleBytes) (storage : Storage) :
    loadAccountBundle (units bundle.accountId) (saveAccountBundle bundle storage)
      = some (some (loaded bundle)) := by
  have found (name : String) (value : Units) (inside : (units name, value) ∈ storedBundle bundle) :
      member (.object (stringMembers (storedBundle bundle))) name = some (some (.string value)) := by
    rw [member, lookup_of_mem (storedBundle_distinct bundle) (List.mem_map.mpr ⟨_, inside, rfl⟩)]
  have read (name : String) (bytes : Bytes)
      (inside : (units name, units (Wire.Sdk.encodeB64 bytes)) ∈ storedBundle bundle) :
      decodeMember (.object (stringMembers (storedBundle bundle))) name = some bytes := by
    simp only [decodeMember, found name _ inside, Option.bind_eq_bind, Option.bind_some,
      asText_encodeB64, sdk_decodeB64]
  have stored : saveAccountBundle bundle storage (key (units bundle.accountId))
      = some (stringify (.object (stringMembers (storedBundle bundle)))) := Function.update_self ..
  have text : ∃ first rest, stringify (.object (stringMembers (storedBundle bundle))) = first :: rest :=
    ⟨_, _, rfl⟩
  have parsed : JsonText.parse (stringify (.object (stringMembers (storedBundle bundle))))
      = some (.object (stringMembers (storedBundle bundle))) := parse_write quotes_quote _
  obtain ⟨first, rest, spelled⟩ := text
  rw [spelled] at stored parsed
  rw [loadAccountBundle, stored]
  simp only [parsed, Option.bind_eq_bind, Option.bind_some,
    found "accountId" (units bundle.accountId) (by simp [storedBundle]),
    found "vaultId" (units bundle.vaultId) (by simp [storedBundle]),
    found "itemId" (units bundle.itemId) (by simp [storedBundle]),
    read "kdfParametersCbor" bundle.kdfParametersCbor (by simp [storedBundle]),
    read "wrappedAccountKey" bundle.wrappedAccountKey (by simp [storedBundle]),
    read "wrappedVaultKey" bundle.wrappedVaultKey (by simp [storedBundle]),
    read "wrappedItemKey" bundle.wrappedItemKey (by simp [storedBundle]),
    read "wrappedRecoveryKey" bundle.wrappedRecoveryKey (by simp [storedBundle])]
  rfl

theorem passString_units {text : String} (valid : Sync.isValidId text = true) :
    passString (units text) = text := by
  have plain := Sync.plain_isValidId valid
  rw [passString, scalars_ascii plain.ascii]
  exact plain.asText_units

/-- Argon2 makes of the password the key it has made of the first one, and as much memory is reported
as it takes. -/
def Accepted (argon2 : Argon2) (random : SetupRandom) (password password' : Bytes)
    (reported : UInt64) : Prop :=
  262144 ≤ reported.toNat ∧
    argon2.hashPasswordInto setupBuilder password' random.salt
      = argon2.hashPasswordInto setupBuilder password random.salt

structure Answers (host : CryptoWorkerHost) (item : ItemKey) (accepted : Prop)
    (outcome : CryptoResponse × CryptoWorkerHost) : Prop where
  opens : accepted → ∃ id session, outcome.1 = .session id session ∧
    outcome.2.wasm.sessions session = some item
  refuses : ¬accepted → ∃ id error, outcome = (.failed id error, host)

theorem answers_opening {host : CryptoWorkerHost} {id : String} {item : ItemKey} {accepted : Prop}
    {opened : Except Error ItemKey} (free : host.wasm.nextSession.toNat + 1 < 2 ^ 32)
    (same : ∀ key, opened = .ok key ↔ key = item ∧ accepted) :
    Answers host item accepted (host.opening id (host.wasm.finish opened)) where
  opens yes := by
    rw [(same item).mpr ⟨rfl, yes⟩]
    simp only [WasmCrypto.finish, WasmCrypto.openSession, free, if_true, CryptoWorkerHost.opening,
      CryptoWorkerHost.addSession]
    exact ⟨id, _, rfl, Function.update_self ..⟩
  refuses no := by
    cases opened with
    | ok key => exact absurd ((same key).mp rfl).2 no
    | error failed => exact ⟨_, _, rfl⟩

theorem answers_refused {host : CryptoWorkerHost} {item : ItemKey} {accepted : Prop} {id error : String}
    (no : ¬accepted) : Answers host item accepted (.failed id error, host) where
  opens yes := absurd yes no
  refuses _ := ⟨id, error, rfl⟩

section Opens

variable {cbor : Minicbor} (conforms : cbor.Conforms) {aead : Aead} {made : Sealing → Prop}
  (ideal : aead.IdealBox made) {argon2 : Argon2} {random : SetupRandom} {password : Bytes}
  {result : AccountSetupResult} {params : KdfParams} {unlock : UnlockKey}
  (setUp : SetUp made argon2 random password result params unlock)

include conforms ideal setUp

theorem answers_unlock {host : CryptoWorkerHost} (free : host.wasm.nextSession.toNat + 1 < 2 ^ 32)
    (drawn : SetupRandom) (nonce : Nonce) (id : String) (password' : Bytes) (reported : Int) :
    Answers host random.item
      (password'.length ≤ maxItemBytes ∧
        Accepted argon2 random password password' (Crypto.Worker.asU64 reported))
      (host.handle cbor aead argon2 drawn nonce (some (.unlockItemSession id password'
        result.kdfParametersCbor reported result.accountId result.vaultId result.itemId 1 1 1
        result.wrappedAccountKey result.wrappedVaultKey result.wrappedItemKey))) := by
  have limits := setUp.limits
  simp only [List.forall_mem_cons, maxWrappedKeyLen] at limits
  obtain ⟨accountLimit, vaultLimit, itemLimit, -⟩ := limits
  have kdf := (canonicalKdf_length params).2
  rw [← setUp.kdf] at kdf
  simp only [maxKdfParamsBytes] at kdf
  by_cases request : password'.length ≤ maxItemBytes ∧ 0 < reported
  · have taken : Crypto.Worker.isRequest (.unlockItemSession id password' result.kdfParametersCbor
        reported result.accountId result.vaultId result.itemId 1 1 1 result.wrappedAccountKey
        result.wrappedVaultKey result.wrappedItemKey) = true := by
      simp only [Crypto.Worker.isRequest, decide_eq_true_eq]
      omega
    simp only [CryptoWorkerHost.handle, taken, if_true, CryptoWorkerHost.answer]
    have opening := WasmCrypto.unlockItemSession_eq cbor aead argon2 host.wasm password'
      (result.access (Crypto.Worker.asU64 reported))
    simp only [AccountSetupResult.access] at opening
    rw [show Crypto.Worker.asU64 1 = 1 from rfl, opening]
    apply answers_opening free
    intro key
    have opened := setUp.openWithPassword_iff conforms ideal password'
      (Crypto.Worker.asU64 reported) key
    simp only [AccountSetupResult.access] at opened
    rw [opened, Accepted]
    simp only [request.1, true_and]
  · have refused : Crypto.Worker.isRequest (.unlockItemSession id password' result.kdfParametersCbor
        reported result.accountId result.vaultId result.itemId 1 1 1 result.wrappedAccountKey
        result.wrappedVaultKey result.wrappedItemKey) = false := by
      simp only [Crypto.Worker.isRequest, decide_eq_false_iff_not]
      omega
    simp only [CryptoWorkerHost.handle, refused]
    apply answers_refused
    rintro ⟨short, enough, -⟩
    have positive : 0 < reported := by
      by_contra low
      rw [Crypto.Worker.asU64, Int.toNat_of_nonpos (by omega)] at enough
      exact absurd enough (by decide)
    exact request ⟨short, positive⟩

theorem answers_recovery {host : CryptoWorkerHost} (free : host.wasm.nextSession.toNat + 1 < 2 ^ 32)
    (drawn : SetupRandom) (nonce : Nonce) (id : String) (recoveryKey : Bytes) :
    Answers host random.item (recoveryKey = result.recoveryKey)
      (host.handle cbor aead argon2 drawn nonce (some (.unlockItemSessionWithRecovery id recoveryKey
        result.accountId result.vaultId result.itemId 1 1 1 result.wrappedRecoveryKey
        result.wrappedVaultKey result.wrappedItemKey))) := by
  have limits := setUp.limits
  simp only [List.forall_mem_cons, maxWrappedKeyLen] at limits
  obtain ⟨-, vaultLimit, itemLimit, recoveryLimit, -⟩ := limits
  by_cases request : recoveryKey.length ≤ 64
  · have taken : Crypto.Worker.isRequest (.unlockItemSessionWithRecovery id recoveryKey
        result.accountId result.vaultId result.itemId 1 1 1 result.wrappedRecoveryKey
        result.wrappedVaultKey result.wrappedItemKey) = true := by
      simp only [Crypto.Worker.isRequest, decide_eq_true_eq]
      omega
    simp only [CryptoWorkerHost.handle, taken, if_true, CryptoWorkerHost.answer]
    have opening := WasmCrypto.unlockItemSessionWithRecovery_eq cbor aead host.wasm recoveryKey
      (result.recoveryAccess 0)
    simp only [AccountSetupResult.recoveryAccess, AccountSetupResult.access] at opening
    rw [show Crypto.Worker.asU64 1 = 1 from rfl, opening]
    apply answers_opening free
    intro key
    exact setUp.openWithRecovery_iff conforms ideal recoveryKey 0 key
  · have refused : Crypto.Worker.isRequest (.unlockItemSessionWithRecovery id recoveryKey
        result.accountId result.vaultId result.itemId 1 1 1 result.wrappedRecoveryKey
        result.wrappedVaultKey result.wrappedItemKey) = false := by
      simp only [Crypto.Worker.isRequest, decide_eq_false_iff_not]
      omega
    simp only [CryptoWorkerHost.handle, refused]
    apply answers_refused
    rintro rfl
    have size := random.recoveryKey.secret.size
    rw [setUp.recoveryKey, size] at request
    exact request (by decide)

theorem itemSession_unlock (reported : UInt64) (password' : Bytes) :
    (Accepted argon2 random password password' reported →
      (ItemSession.unlock cbor aead argon2 password' (result.access reported)).toOption
        = some ⟨some random.item⟩) ∧
    (¬Accepted argon2 random password password' reported →
      (ItemSession.unlock cbor aead argon2 password' (result.access reported)).toOption = none) := by
  have opened := setUp.openWithPassword_iff conforms ideal password' reported
  rw [ItemSession.unlock_eq]
  constructor
  · intro yes
    rw [(opened random.item).mpr ⟨rfl, yes⟩]
    rfl
  · intro no
    cases result : openWithPassword cbor aead argon2 password' _ with
    | ok key => exact absurd ((opened key).mp result).2 no
    | error failed => rfl

end Opens

theorem handle_accountSetup {cbor : Minicbor} {aead : Aead} {argon2 : Argon2}
    {host host' : CryptoWorkerHost} {random : SetupRandom} {nonce : Nonce} {id id' : String}
    {password : Bytes} {reported : Int} {accountId vaultId itemId : String}
    {result : AccountSetupResult}
    (answered : host.handle cbor aead argon2 random nonce
      (some (.createAccountSetup id password reported accountId vaultId itemId))
        = (.accountSetup id' result, host')) :
    ∃ wasm, host.wasm.createAccountSetup cbor aead argon2 random password
        (Crypto.Worker.asU64 reported) accountId vaultId itemId = (.ok result, wasm) ∧
      host'.wasm = wasm := by
  simp only [CryptoWorkerHost.handle, CryptoWorkerHost.answer] at answered
  split at answered
  · split at answered
    · rename_i made
      cases answered
      exact ⟨_, made, rfl⟩
    · cases answered
  · cases answered

-- What Argon2id makes of the password and a salt of sevens, with the parameters of a setup
def phraseKey : Secret32 where
  bytes := [106, 209, 10, 249, 127, 23, 68, 17, 155, 215, 19, 92, 133, 18, 29, 197, 137, 121, 79, 156, 93,
    100, 98, 0, 184, 173, 77, 107, 236, 241, 80, 132]
  size := rfl

def phrase : Bytes := Cbor.utf8 "correct horse battery staple"

def phraseArgon2 : Argon2 where
  build := argon2Checks.build
  hashPasswordInto builder password salt :=
    if password = phrase ∧ salt = Worker.setupRandom.salt then some phraseKey.bytes
    else argon2Checks.hashPasswordInto builder password salt

def accountSealing : Sealing where
  key := phraseKey.bytes
  nonce := itemNonce.bytes
  plaintext := (keyOf 1).bytes
  aad := canonicalAad (accountWrapCtx "account_01" 1)
  ciphertext := [46, 178, 150, 217, 1, 39, 207, 66, 151, 62, 244, 227, 108, 207, 120, 169, 129, 35, 219,
    122, 86, 233, 163, 48, 100, 248, 124, 223, 155, 207, 112, 48, 7, 80, 205, 45, 25, 31, 82, 110, 22,
    145, 58, 218, 229, 228, 167, 212]

def setupSealings : List Sealing := accountSealing :: chainSealings

theorem setupSealings_idealBox : (recordedCiphers setupSealings).IdealBox (· ∈ setupSealings) := by
  apply recordedCiphers_idealBox
  · decide +kernel
  · decide +kernel
  · decide +kernel

def setupRequest : CryptoRequest :=
  .createAccountSetup "s" phrase 262144 "account_01" "vault_01" "item_01"

def setupOutcome : CryptoResponse × CryptoWorkerHost :=
  CryptoWorkerHost.new.handle Minicbor.rfc8949 (recordedCiphers setupSealings) phraseArgon2
    Worker.setupRandom itemNonce (some setupRequest)

def phraseResult : AccountSetupResult where
  accountId := "account_01"
  vaultId := "vault_01"
  itemId := "item_01"
  session := 1
  kdfParametersCbor := canonicalKdf ⟨65536, 3, 1, Worker.setupRandom.salt, rfl⟩
  wrappedAccountKey := canonicalEnvelope .accountWrap 1 itemNonce.bytes accountSealing.ciphertext
    (canonicalAad (accountWrapCtx "account_01" 1))
  wrappedVaultKey := recoveryAccess.wrappedVaultKey
  wrappedItemKey := recoveryAccess.wrappedItemKey
  wrappedRecoveryKey := recoveryAccess.wrappedAccountKey
  recoveryKey := sevens.secret.bytes

set_option maxRecDepth 4000 in
theorem setupOutcome_eq : setupOutcome.1 = .accountSetup "s" phraseResult := by
  rfl

theorem setupOutcome_pair : setupOutcome = (.accountSetup "s" phraseResult, setupOutcome.2) := by
  rw [← setupOutcome_eq]

theorem encrypt_recorded {calls : List Sealing} {key nonce plaintext aad ciphertext : Bytes}
    (encrypted : (recordedCiphers calls).encrypt key nonce plaintext aad = some ciphertext) :
    ⟨key, nonce, plaintext, aad, ciphertext⟩ ∈ calls := by
  obtain ⟨call, found, rfl⟩ := Option.map_eq_some_iff.mp encrypted
  have same := List.find?_some found
  simp only [decide_eq_true_eq] at same
  obtain ⟨rfl, rfl, rfl, rfl⟩ := same
  exact List.mem_of_find?_eq_some found

theorem setup_recorded : SetupRecorded (recordedCiphers setupSealings) phraseArgon2 (· ∈ setupSealings)
    Worker.setupRandom phrase "account_01" "vault_01" "item_01" where
  account _ _ _ encrypted := encrypt_recorded encrypted
  vault _ encrypted := encrypt_recorded encrypted
  item _ encrypted := encrypt_recorded encrypted
  recovery _ encrypted := encrypt_recorded encrypted

end ZenPass.Account.OpenAnywhere
