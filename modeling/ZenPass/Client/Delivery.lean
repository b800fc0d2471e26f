import ZenPass.Client.ItemCodec
import ZenPass.Crypto.WorkerSessions
import ZenPass.Sync.BodyLimits
import ZenPass.Sync.Provenance
import ZenPass.Wire.Decoders

set_option autoImplicit false

namespace ZenPass.Client.Delivery

open Crypto ItemCodec Sync
open Crypto.Worker (CryptoRequest CryptoResponse CryptoWorkerHost)
open Cbor (Bytes)

/-- The page and the extension hold a session of their host, the Android app one of the core. -/
inductive Unlocked where
  | web (host : CryptoWorkerHost) (session : UInt32)
  | extension (host : CryptoWorkerHost) (session : UInt32)
  | android (session : ItemSession)

def Unlocked.app : Unlocked → App
  | .web _ _ => .web
  | .extension _ _ => .extension
  | .android _ => .android

def Unlocked.Holds (item : ItemKey) : Unlocked → Prop
  | .web host session | .extension host session =>
      host.has session.toNat = true ∧ host.wasm.sessions session = some item
  | .android session => session.key = some item

def keyVersion : UInt64 := 1

/-- What a client gives its crypto with a call: the id of the request, and what the core draws. -/
structure Drawn where
  id : String
  random : SetupRandom
  nonce : Nonce

def responseBytes : CryptoResponse → Option Bytes
  | .bytes _ bytes => some bytes
  | _ => none

section Clients

variable (cbor : Minicbor) (aead : Aead) (argon2 : Argon2)

def hostBytes (host : CryptoWorkerHost) (drawn : Drawn) (request : CryptoRequest) : Option Bytes :=
  responseBytes (host.handle cbor aead argon2 drawn.random drawn.nonce (some request)).1

def Unlocked.sealItemPayload (client : Unlocked) (drawn : Drawn) (accountId vaultId itemId : String)
    (plaintext : Bytes) : Option Bytes :=
  match client with
  | .web host session | .extension host session =>
      hostBytes cbor aead argon2 host drawn
        (.sealItemPayload drawn.id session.toNat accountId vaultId itemId keyVersion.toNat plaintext)
  | .android session =>
      (session.sealItemPayload cbor aead drawn.nonce accountId vaultId itemId keyVersion
        plaintext).toOption

def Unlocked.mutation (client : Unlocked) (drawn : Drawn) (accountId : String)
    (mutationId itemId vaultId : Id) (baseRevision : Nat) (deleted : Bool) (plaintext : Bytes) :
    Option Mutation :=
  (client.sealItemPayload cbor aead argon2 drawn accountId vaultId itemId plaintext).map
    (sealedMutation mutationId itemId vaultId baseRevision deleted)

def decodeB64 : App → String → Option Bytes
  | .web, text | .extension, text => Wire.Sdk.decodeB64 text
  | .android, text => Wire.Kotlin.decodeB64 text

def Unlocked.openRecord (client : Unlocked) (drawn : Drawn) (accountId vaultId : String)
    (record : ItemRecord) : Option Bytes := do
  let envelope ← decodeB64 client.app record.ciphertext
  match client with
  | .web host session | .extension host session =>
      hostBytes cbor aead argon2 host drawn
        (.openItemPayload drawn.id session.toNat accountId vaultId record.itemId keyVersion.toNat
          envelope)
  | .android session =>
      (session.openItemPayload cbor aead accountId vaultId record.itemId keyVersion
        envelope).toOption

structure Saved (libraries : Libraries) (item : ItemKey) (accountId : Id) (mutation : Mutation)
    (data : ItemCodec.VaultItemData) : Prop where
  whole : data.WellFormed
  made : ∃ client drawn plaintext baseRevision, Unlocked.Holds item client ∧
    (mutation.deleted = false → validateItemData client.app data = []) ∧
    Encodes libraries data plaintext client.app ∧
    client.mutation cbor aead argon2 drawn accountId mutation.mutationId mutation.itemId
      mutation.vaultId baseRevision mutation.deleted plaintext = some mutation

def ReadsAs (libraries : Libraries) (item : ItemKey) (accountId : Id) (record : ItemRecord)
    (data : ItemCodec.VaultItemData) : Prop :=
  ∀ client drawn, Unlocked.Holds item client →
    ∃ plaintext, client.openRecord cbor aead argon2 drawn accountId record.vaultId record =
        some plaintext ∧
      (record.deleted = false → Decodes libraries plaintext data client.app)

end Clients

section Crypto

variable {cbor : Minicbor} {aead : Aead} {argon2 : Argon2}

theorem sealEnvelope_checked {nonce : Nonce} {key plaintext envelope : Bytes} {ctx : Context}
    (returned : sealEnvelope cbor aead nonce key ctx plaintext = .ok envelope) :
    key.length = keyLen ∧ plaintextWithinLimit ctx.recordKind plaintext.length = true := by
  simp only [sealEnvelope, bind_eq_ok] at returned
  rcases returned with ⟨_, -, returned⟩
  split_ifs at returned with keySize limit
  exact ⟨not_not.mp keySize, limit⟩

theorem length_of_within {kind : RecordKind} {length : Nat}
    (within : plaintextWithinLimit kind length = true) : length ≤ 1048576 := by
  cases kind <;>
    simp only [plaintextWithinLimit, Bool.and_eq_true, decide_eq_true_eq] at within <;>
    simp only [maxItemPlaintextLen, keyLen] at within <;>
    omega

theorem open_of_seal (conforms : cbor.Conforms) (correct : aead.Correct) {nonce : Nonce}
    {key plaintext envelope : Bytes} {ctx : Context} (contract : ctx.WithinContract)
    (returned : sealEnvelope cbor aead nonce key ctx plaintext = .ok envelope) :
    openEnvelope cbor aead key ctx envelope = .ok plaintext ∧
      envelope.length ≤ envelopeLimit ctx.recordKind := by
  obtain ⟨keySize, within⟩ := sealEnvelope_checked returned
  obtain ⟨-, -, limit, ciphertext, encrypted, rfl⟩ := sealEnvelope_eq_ok conforms returned
  have short := canonicalAad_length_le contract
  have length := length_of_within within
  obtain ⟨other, again, expansion⟩ := correct.encrypts key nonce.bytes plaintext (canonicalAad ctx)
    keySize nonce.size (by omega) (by omega)
  obtain rfl : other = ciphertext := Option.some.inj (again.symm.trans encrypted)
  have tag : tagLen = 16 := rfl
  refine ⟨openEnvelope_canonical conforms contract keySize within (by omega) (by omega) ?_, limit⟩
  exact correct.inverts _ _ _ _ _ encrypted

theorem asU64_keyVersion : Crypto.Worker.asU64 (keyVersion.toNat : Int) = keyVersion := by
  decide

theorem ofNat_session (session : UInt32) : UInt32.ofNat (session.toNat : Int).toNat = session := by
  rw [Int.toNat_natCast, UInt32.ofNat_toNat]

theorem hostBytes_seal {host : CryptoWorkerHost} {session : UInt32} {item : ItemKey}
    (holds : host.has session.toNat = true ∧ host.wasm.sessions session = some item) {drawn : Drawn}
    {accountId vaultId itemId : String} {plaintext envelope : Bytes}
    (given : hostBytes cbor aead argon2 host drawn (.sealItemPayload drawn.id session.toNat accountId
      vaultId itemId keyVersion.toNat plaintext) = some envelope) :
    sealEnvelope cbor aead drawn.nonce item.secret.bytes
      (payloadContext accountId vaultId itemId keyVersion) plaintext = .ok envelope := by
  simp only [hostBytes, CryptoWorkerHost.handle, CryptoWorkerHost.answer, holds.1, if_true,
    ofNat_session, asU64_keyVersion, WasmCrypto.sealItemPayload, holds.2] at given
  split at given
  · cases made : Crypto.sealItemPayload cbor aead drawn.nonce item accountId vaultId itemId
        keyVersion plaintext with
    | error failed =>
        rw [made] at given
        cases given
    | ok bytes =>
        rw [made] at given
        cases given
        exact made
  · cases given

theorem hostBytes_open {host : CryptoWorkerHost} {session : UInt32} {item : ItemKey}
    (holds : host.has session.toNat = true ∧ host.wasm.sessions session = some item) (drawn : Drawn)
    {accountId vaultId itemId : String} {plaintext envelope : Bytes}
    (limit : envelope.length ≤ envelopeLimit .itemPayload)
    (opened : openEnvelope cbor aead item.secret.bytes
      (payloadContext accountId vaultId itemId keyVersion) envelope = .ok plaintext) :
    hostBytes cbor aead argon2 host drawn (.openItemPayload drawn.id session.toNat accountId vaultId
      itemId keyVersion.toNat envelope) = some plaintext := by
  have taken : Crypto.Worker.isRequest (.openItemPayload drawn.id session.toNat accountId vaultId
      itemId keyVersion.toNat envelope) = true := by
    have small := session.toNat_lt
    have most : envelope.length ≤ Crypto.Worker.maxEnvelopeBytes := limit.trans (by decide)
    have version : (0 : Int) < keyVersion.toNat := by decide
    rw [Crypto.Worker.isRequest, Crypto.Worker.contextOk, Bool.and_eq_true, decide_eq_true_eq,
      decide_eq_true_eq]
    exact ⟨⟨by omega, by omega, version⟩, most⟩
  have payload : Crypto.openItemPayload cbor aead item accountId vaultId itemId keyVersion envelope
      = .ok plaintext := opened
  simp only [hostBytes, CryptoWorkerHost.handle, taken, if_true, CryptoWorkerHost.answer, holds.1,
    ofNat_session, asU64_keyVersion, WasmCrypto.openItemPayload, holds.2, payload]
  rfl

theorem Unlocked.sealed {client : Unlocked} {item : ItemKey} (holds : client.Holds item)
    {drawn : Drawn} {accountId vaultId itemId : String} {plaintext envelope : Bytes}
    (given : client.sealItemPayload cbor aead argon2 drawn accountId vaultId itemId plaintext =
      some envelope) :
    sealEnvelope cbor aead drawn.nonce item.secret.bytes
      (payloadContext accountId vaultId itemId keyVersion) plaintext = .ok envelope := by
  cases client with
  | web host session => exact hostBytes_seal holds given
  | extension host session => exact hostBytes_seal holds given
  | android session =>
      simp only [Unlocked.Holds] at holds
      simp only [Unlocked.sealItemPayload, ItemSession.sealItemPayload, holds] at given
      cases made : Crypto.sealItemPayload cbor aead drawn.nonce item accountId vaultId itemId
          keyVersion plaintext with
      | error failed =>
          rw [made] at given
          cases given
      | ok bytes =>
          rw [made] at given
          cases given
          exact made

theorem decodeB64_encodeB64 (app : App) (bytes : Bytes) :
    decodeB64 app (Wire.encodeB64 bytes) = some bytes := by
  have kotlin := Wire.Node.decodeB64_kotlin
    (Wire.Rust.decodeB64_node (Wire.canonical_decodes bytes)).1
  cases app with
  | web => exact Wire.Kotlin.decodeB64_sdk kotlin
  | extension => exact Wire.Kotlin.decodeB64_sdk kotlin
  | android => exact kotlin

theorem Unlocked.opened {client : Unlocked} {item : ItemKey} (holds : client.Holds item)
    (drawn : Drawn) {accountId vaultId : String} {record : ItemRecord} {plaintext envelope : Bytes}
    (carried : record.ciphertext = Wire.encodeB64 envelope)
    (limit : envelope.length ≤ envelopeLimit .itemPayload)
    (opened : openEnvelope cbor aead item.secret.bytes
      (payloadContext accountId vaultId record.itemId keyVersion) envelope = .ok plaintext) :
    client.openRecord cbor aead argon2 drawn accountId vaultId record = some plaintext := by
  rw [Unlocked.openRecord, carried, decodeB64_encodeB64]
  cases client with
  | web host session => exact hostBytes_open holds drawn limit opened
  | extension host session => exact hostBytes_open holds drawn limit opened
  | android session =>
      have payload : Crypto.openItemPayload cbor aead item accountId vaultId record.itemId keyVersion
          envelope = .ok plaintext := opened
      simp only [Unlocked.Holds] at holds
      simp only [Option.bind_eq_bind, Option.bind_some, ItemSession.openItemPayload, holds, payload]
      rfl

end Crypto

theorem titled_of_accepted {app : App} {data : ItemCodec.VaultItemData}
    (accepted : validateItemData app data = []) : data.title ≠ [] := by
  intro empty
  cases app <;>
    simp only [validateItemData, List.append_eq_nil_iff, problem_eq_nil, empty] at accepted <;>
    exact absurd accepted.1 (by decide)

theorem Unlocked.mutation_eq_some {cbor : Minicbor} {aead : Aead} {argon2 : Argon2}
    {client : Unlocked} {drawn : Drawn} {accountId : String} {mutation : Mutation}
    {baseRevision : Nat} {plaintext : Bytes}
    (made : client.mutation cbor aead argon2 drawn accountId mutation.mutationId mutation.itemId
      mutation.vaultId baseRevision mutation.deleted plaintext = some mutation) :
    ∃ envelope, client.sealItemPayload cbor aead argon2 drawn accountId mutation.vaultId
        mutation.itemId plaintext = some envelope ∧
      mutation.ciphertext = Wire.encodeB64 envelope := by
  rw [Unlocked.mutation, Option.map_eq_some_iff] at made
  obtain ⟨envelope, sealed, same⟩ := made
  exact ⟨envelope, sealed, (congrArg Mutation.ciphertext same).symm⟩

theorem Saved.reads {cbor : Minicbor} (conforms : cbor.Conforms) {aead : Aead}
    (correct : aead.Correct) {argon2 : Argon2} {libraries : Libraries}
    (serializes : libraries.Serializes) {item : ItemKey} {accountId : Id}
    (valid : Auth.isValidAccountId accountId = true) {mutation : Mutation}
    {data : ItemCodec.VaultItemData}
    (saved : Saved cbor aead argon2 libraries item accountId mutation data) {backend : Backend}
    (checked : isValidMutation backend mutation = true) {row : ItemRow}
    (key : row.key = (mutation.vaultId, mutation.itemId))
    (ciphertext : Wire.decodeB64 (backend == .rust) mutation.ciphertext = some row.ciphertext)
    (deleted : row.deleted = mutation.deleted) (shownBy : Backend) :
    ReadsAs cbor aead argon2 libraries item accountId (toItemRecord shownBy row) data := by
  obtain ⟨writer, drawn, plaintext, baseRevision, holds, accepted, encoded, made⟩ := saved.made
  obtain ⟨envelope, sealed, carried⟩ := Unlocked.mutation_eq_some made
  obtain ⟨vault, itemId⟩ := Prod.mk.inj key
  rw [carried, Wire.decodeB64_encodeB64, Option.some.injEq] at ciphertext
  simp only [isValidMutation, Bool.and_eq_true] at checked
  have admitted : Admitted accountId mutation.mutationId mutation.itemId mutation.vaultId :=
    ⟨valid, checked.1.1.1.1.1.1, checked.1.1.1.1.1.2, checked.1.1.1.1.2⟩
  have contract :
      (payloadContext accountId mutation.vaultId mutation.itemId keyVersion).WithinContract :=
    admitted.withinContract (by decide) (by decide)
  obtain ⟨opens, limit⟩ := open_of_seal conforms correct contract (Unlocked.sealed holds sealed)
  rw [← vault, ← itemId] at opens
  intro reader drawn' holds'
  refine ⟨plaintext, Unlocked.opened holds' drawn' ?_ limit opens, fun live => ?_⟩
  · change Wire.encodeB64 row.ciphertext = _
    rw [← ciphertext]
  · have whole := saved.whole
    have titled := titled_of_accepted (accepted (deleted.symm.trans live))
    obtain ⟨text, object, read, noMark, parsed, order⟩ := encodes_text serializes whole encoded
    exact decodes_of_text serializes whole titled read noMark parsed order reader.app

/-- Where every request of an account carries what one of its clients saved, whatever other accounts
send, each record that the account is ever given opens on every client of the account, to the item of
the request that was answered with that revision. -/
theorem saved_items_read_everywhere (cbor : Minicbor) (conforms : cbor.Conforms) (aead : Aead)
    (correct : aead.Correct) (argon2 : Argon2) (libraries : Libraries)
    (serializes : libraries.Serializes) (hashtext : String → Int) (accountId : Id)
    (valid : Auth.isValidAccountId accountId = true) (item : ItemKey)
    (actions : List TrafficAction) (final : Traffic)
    (saves : ∀ action ∈ actions, action.Posts fun poster mutation => poster = accountId →
      ∃ data, Saved cbor aead argon2 libraries item accountId mutation data)
    (ran : Transition.run (trafficStep hashtext) Traffic.initial actions = some final)
    (record : ItemRecord) (gave : final.Gave accountId record) :
    ∃ entry ∈ final.server.settled, entry.accountId = accountId ∧ entry.fresh = true ∧
      (∃ answer, entry.outcome = .response 201 (.record answer) ∧
        answer.vaultId = record.vaultId ∧ answer.itemId = record.itemId ∧
        answer.revision = record.revision) ∧
      ∃ data, Saved cbor aead argon2 libraries item accountId entry.mutation data ∧
        ReadsAs cbor aead argon2 libraries item accountId record data := by
  have sourced := Traffic.sourced_initial.run saves ran
  obtain ⟨entry, member, own, row, backend, shownBy, origin, rfl⟩ := sourced.gave gave
  obtain ⟨data, saved⟩ := origin.request own
  have reads := saved.reads conforms correct serializes valid origin.valid origin.key
    origin.ciphertext origin.deleted shownBy
  exact ⟨entry, member, own, origin.fresh, ⟨_, origin.outcome, rfl, rfl, rfl⟩, data, saved, reads⟩

-- XChaCha20-Poly1305 where `sealing` records it, and a tag of zeros elsewhere
def patchedAt (sealing : Sealing) : Aead where
  encrypt key nonce msg aad :=
    if key = sealing.key ∧ nonce = sealing.nonce ∧ msg = sealing.plaintext ∧ aad = sealing.aad then
      some sealing.ciphertext
    else some (msg ++ zeroTag)
  decrypt key nonce msg aad :=
    if key = sealing.key ∧ nonce = sealing.nonce ∧ msg = sealing.ciphertext ∧ aad = sealing.aad then
      some sealing.plaintext
    else if zeroTag <:+ msg then some (msg.take (msg.length - tagLen))
    else none

theorem patchedAt_correct {sealing : Sealing}
    (length : sealing.ciphertext.length = sealing.plaintext.length + tagLen)
    (tagged : ¬ zeroTag <:+ sealing.ciphertext) : (patchedAt sealing).Correct where
  encrypts key nonce plaintext aad _ _ _ _ := by
    simp only [patchedAt]
    split_ifs with recorded
    · rcases recorded with ⟨-, -, rfl, -⟩
      exact ⟨_, rfl, length⟩
    · exact ⟨_, rfl, by simp [zeroTag]⟩
  inverts key nonce plaintext aad ciphertext encrypted := by
    simp only [patchedAt] at encrypted ⊢
    split_ifs at encrypted with recorded
    · rcases recorded with ⟨rfl, rfl, rfl, rfl⟩
      cases encrypted
      simp
    · cases encrypted
      have other : plaintext ++ zeroTag ≠ sealing.ciphertext :=
        fun same => tagged ⟨plaintext, same⟩
      have taken : (plaintext ++ zeroTag).take ((plaintext ++ zeroTag).length - tagLen) =
          plaintext := by
        simp [zeroTag]
      simp only [other, false_and, and_false, if_false, taken]
      rw [if_pos (List.suffix_append plaintext zeroTag)]

def noteText : Bytes := Cbor.utf8 "\x7b\"type\":\"note\",\"title\":\"Site\"\x7d"

def noteSealing : Sealing where
  key := itemSealing.key
  nonce := itemNonce.bytes
  plaintext := noteText
  aad := canonicalAad itemCtx
  ciphertext := [211, 53, 223, 252, 138, 121, 121, 159, 7, 169, 238, 51, 131, 192, 131, 142, 43, 191,
    76, 123, 113, 213, 13, 83, 160, 116, 195, 228, 184, 177, 190, 30, 99, 46, 113, 203, 128, 232, 209,
    199, 165, 192, 144, 137, 111, 161]

def noteKey : ItemKey := ⟨⟨itemSealing.key, rfl⟩⟩

def noteEnvelope : Bytes :=
  canonicalEnvelope .itemPayload 1 itemNonce.bytes noteSealing.ciphertext (canonicalAad itemCtx)

def noteMutation : Mutation := sealedMutation "m1" "item_01" "vault_01" 0 false noteEnvelope

theorem note_saved : Saved Minicbor.rfc8949 (patchedAt noteSealing) argon2Checks plainLibraries
    noteKey "account_01" noteMutation plainNote where
  whole := plainNote_wellFormed
  made := by
    have sealed : Crypto.sealItemPayload Minicbor.rfc8949 (patchedAt noteSealing) itemNonce noteKey
        "account_01" "vault_01" "item_01" keyVersion noteText = .ok noteEnvelope :=
      sealEnvelope_canonical Minicbor.rfc8949_conforms (by rfl) (by decide) (by rfl) (by rfl) (by rfl)
        (by decide +kernel)
    have encoded : noteText = kotlinEncodeItemData plainLibraries plainNote := by decide +kernel
    refine ⟨.android ⟨some noteKey⟩, ⟨"1", Crypto.Worker.setupRandom, itemNonce⟩, noteText, 0, rfl,
      fun _ => by decide +kernel, encoded, ?_⟩
    simp only [Unlocked.mutation, Unlocked.sealItemPayload, ItemSession.sealItemPayload, noteMutation,
      sealedMutation, sealed]
    rfl

def noteActions : List TrafficAction :=
  .server (.postItem 0 .node "account_01" "vault_01" noteMutation 1000) ::
    (List.replicate 10 (.server (.statement 0)) ++
      [.vaultOwnedBy ⟨.rust, "account_01", "vault_01", 0, 100⟩,
        .listChanges ⟨.rust, "account_01", "vault_01", 0, 100⟩])

theorem note_posts : ∀ action ∈ noteActions, action.Posts fun poster mutation =>
    poster = "account_01" → ∃ data, Saved Minicbor.rfc8949 (patchedAt noteSealing) argon2Checks
      plainLibraries noteKey "account_01" mutation data := by
  intro action member
  rcases List.mem_cons.mp member with rfl | member
  · exact fun _ => ⟨plainNote, note_saved⟩
  · rcases List.mem_append.mp member with statement | read
    · rw [List.eq_of_mem_replicate statement]
      trivial
    · simp only [List.mem_cons, List.not_mem_nil, or_false] at read
      rcases read with rfl | rfl <;> trivial

theorem saved_items_read_everywhere_note :
    ∃ final, Transition.run (trafficStep lengthHash) .initial noteActions = some final ∧
      (final.pages.map fun page => (page.1, page.2.length)) = [("account_01", 1)] ∧
      ∀ page ∈ final.pages, ∀ record ∈ page.2,
        ∃ entry ∈ final.server.settled, ∃ data, ReadsAs Minicbor.rfc8949 (patchedAt noteSealing)
          argon2Checks plainLibraries noteKey entry.accountId record data := by
  have shown : (Transition.run (trafficStep lengthHash) .initial noteActions).map
      (fun traffic => traffic.pages.map fun page => (page.1, page.2.length)) =
        some [("account_01", 1)] := by decide +kernel
  obtain ⟨final, ran, pages⟩ := Option.map_eq_some_iff.mp shown
  refine ⟨final, ran, pages, fun page member record listed => ?_⟩
  have reader : page.1 = "account_01" := by
    have there : (page.1, page.2.length) ∈ final.pages.map fun page => (page.1, page.2.length) :=
      List.mem_map_of_mem member
    rw [pages, List.mem_singleton] at there
    exact (Prod.mk.inj there).1
  obtain ⟨entry, settled, own, -, -, data, -, reads⟩ := saved_items_read_everywhere Minicbor.rfc8949
    Minicbor.rfc8949_conforms (patchedAt noteSealing) (patchedAt_correct rfl (by decide)) argon2Checks
    plainLibraries plainLibraries_serializes lengthHash "account_01" (by decide +kernel) noteKey
    noteActions final note_posts ran record (.inl ⟨page, member, reader, listed⟩)
  exact ⟨entry, settled, data, own ▸ reads⟩

end ZenPass.Client.Delivery
